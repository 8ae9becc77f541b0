import PipelineServer.Path
import PipelineServer.SortedMap

/-!
The file system as a value.

A tree maps locations to entries. A location is the list of names on the way down from the top,
without links and without steps up; the top itself is a directory that is always there. Looking up
a path walks down from the top, follows links, and needs every directory on the way to be open.
-/

namespace PipelineServer

/-- Where an entry is: the names on the way down from the top. -/
abbrev Location := List FileName

/-- What a location holds. A locked file cannot be read; a locked directory can neither be listed
nor entered. -/
inductive Entry
  | file (content : List UInt8) (locked : Bool)
  | directory (locked : Bool)
  | link (target : Path)
deriving DecidableEq, Repr

/-- Why an operation on the file system failed. -/
inductive DiskError
  | notFound
  | denied
  | alreadyExists
  | notDirectory
  | isDirectory
  | tooManyLinks
  | nameTooLong
  | zeroByte
deriving DecidableEq, Repr

/-- The operating system's words for a failure, with its number. A zero byte never gets that
far. -/
def DiskError.message : DiskError → String
  | .notFound => "No such file or directory (os error 2)"
  | .denied => "Permission denied (os error 13)"
  | .alreadyExists => "File exists (os error 17)"
  | .notDirectory => "Not a directory (os error 20)"
  | .isDirectory => "Is a directory (os error 21)"
  | .tooManyLinks => "Too many levels of symbolic links (os error 40)"
  | .nameTooLong => "File name too long (os error 36)"
  | .zeroByte => "file name contained an unexpected NUL byte"

/-- A file system, and the directory in which relative paths start. -/
@[ext]
structure FileTree where
  entries : SortedMap Location Entry
  working : Location := []
deriving DecidableEq

namespace FileTree

/-- The file system with nothing but its top directory. -/
def bare : FileTree := { entries := ∅ }

instance : Inhabited FileTree := ⟨bare⟩

/-- The entry at a location. -/
def entry? (tree : FileTree) (loc : Location) : Option Entry :=
  if loc = [] then some (.directory false) else tree.entries.get? loc

/-- The number of bytes a name may have. -/
def nameLimit : Nat := 255

/-- The number of bytes a path may have. -/
def pathLimit : Nat := 4095

/-- What keeps a path from being looked up at all. -/
def refusal? (p : Path) : Option DiskError :=
  if p.bytes.contains 0 then some .zeroByte
  else if pathLimit < p.bytes.length then some .nameTooLong
  else none

/-- How to go on after a link: from a directory, along further steps. -/
abbrev Jump := Location → List Component → Except DiskError Location

/-- What keeps a walk from going on at a location: only an open directory can be left. -/
def barrier? (tree : FileTree) (loc : Location) : Option DiskError :=
  match tree.entry? loc with
  | none => some .notFound
  | some (.file _ _) | some (.link _) => some .notDirectory
  | some (.directory true) => some .denied
  | some (.directory false) => none

/-- Walks down from the directory `loc`. The last step may name something that does not exist
yet. A link on the way is followed by `jump`; a link at the very end only if `follow` says so. -/
def walk (tree : FileTree) (follow : Bool) (jump : Jump) (loc : Location) :
    List Component → Except DiskError Location
  | [] => .ok loc
  | .root :: rest => walk tree follow jump [] rest
  | .here :: rest =>
      match tree.barrier? loc with
      | some e => .error e
      | none => walk tree follow jump loc rest
  | .up :: rest =>
      match tree.barrier? loc with
      | some e => .error e
      | none => walk tree follow jump loc.dropLast rest
  | .name name :: rest =>
      match tree.barrier? loc with
      | some e => .error e
      | none =>
          let next := loc ++ [name]
          if nameLimit < name.length then .error .nameTooLong
          else
            match tree.entry? next with
            | none => if rest.isEmpty then .ok next else .error .notFound
            | some (.link target) =>
                if rest.isEmpty && !follow then .ok next
                else jump loc (target.steps ++ rest)
            | some _ => walk tree follow jump next rest

/-- Walks along at most `links` links. -/
def resolveFrom (tree : FileTree) (follow : Bool) : Nat → Jump
  | 0 => walk tree follow fun _ _ => .error .tooManyLinks
  | links + 1 => walk tree follow (resolveFrom tree follow links)

/-- The number of links a lookup may pass. -/
def linkLimit : Nat := 40

/-- The location a path leads to. With `follow` unset, a link at the end of the path is meant
itself. An empty path leads nowhere. -/
def resolve (tree : FileTree) (follow : Bool) (p : Path) : Except DiskError Location :=
  match refusal? p with
  | some e => .error e
  | none =>
      if p.bytes = [] then .error .notFound
      else resolveFrom tree follow linkLimit tree.working p.steps

/-- The entry a path leads to. -/
def lookup? (tree : FileTree) (follow : Bool) (p : Path) : Option Entry :=
  match tree.resolve follow p with
  | .ok loc => tree.entry? loc
  | .error _ => none

/-- Whether the path leads to anything, through links. -/
def pathExists (tree : FileTree) (p : Path) : Bool := (tree.lookup? true p).isSome

/-- Whether the path leads to a directory, through links. -/
def isDirectory (tree : FileTree) (p : Path) : Bool :=
  match tree.lookup? true p with
  | some (.directory _) => true
  | _ => false

/-- Whether the path leads to a regular file, through links. -/
def isFile (tree : FileTree) (p : Path) : Bool :=
  match tree.lookup? true p with
  | some (.file _ _) => true
  | _ => false

/-- The bytes of the file a path leads to. -/
def read (tree : FileTree) (p : Path) : Except DiskError (List UInt8) :=
  match tree.resolve true p with
  | .error e => .error e
  | .ok loc =>
      match tree.entry? loc with
      | none => .error .notFound
      | some (.file _ true) => .error .denied
      | some (.file content false) => .ok content
      | some (.directory true) => .error .denied
      | some (.directory false) => .error .isDirectory
      | some (.link _) => .error .tooManyLinks

/-- The name under which `loc` sits directly inside `dir`. -/
def childName? (dir loc : Location) : Option FileName :=
  match loc.getLast? with
  | some name => if loc = dir ++ [name] then some name else none
  | none => none

/-- What lies directly inside a directory, by name. -/
def children (tree : FileTree) (dir : Location) : List (FileName × Entry) :=
  tree.entries.entries.filterMap fun e => (childName? dir e.1).map fun name => (name, e.2)

end FileTree

end PipelineServer
