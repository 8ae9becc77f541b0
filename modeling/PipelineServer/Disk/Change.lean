import PipelineServer.Disk.Tree

/-!
Changing the file system: making directories, deleting trees, writing files.
-/

namespace PipelineServer.FileTree

/-- The tree with `entry` at a location. -/
def put (tree : FileTree) (loc : Location) (entry : Entry) : FileTree :=
  { tree with entries := tree.entries.insert loc entry }

/-- The tree without what is at or below a location. -/
def prune (tree : FileTree) (loc : Location) : FileTree :=
  { tree with entries := tree.entries.filter fun other _ => !loc.isPrefixOf other }

/-- Makes one directory. Its parent must be there, and nothing may have its name. -/
def makeDirectory (tree : FileTree) (p : List Component) : Except DiskError FileTree :=
  match resolveFrom tree false linkLimit tree.working p with
  | .error e => .error e
  | .ok loc =>
      match tree.entry? loc with
      | some _ => .error .alreadyExists
      | none => .ok (tree.put loc (.directory false))

/-- Whether the steps lead to a directory. -/
def leadsToDirectory (tree : FileTree) (p : List Component) : Bool :=
  match resolveFrom tree true linkLimit tree.working p with
  | .ok loc =>
      match tree.entry? loc with
      | some (.directory _) => true
      | _ => false
  | .error _ => false

/-- Makes a directory and those above it that are missing; one that is already there is fine. The
steps are given in reverse. -/
def makeDirectoriesFrom : List Component → FileTree → FileTree × Option DiskError
  | [], tree => (tree, none)
  | step :: above, tree =>
      let p := (step :: above).reverse
      let settle := fun (tree : FileTree) (e : DiskError) =>
        if tree.leadsToDirectory p then (tree, none) else (tree, some e)
      match tree.makeDirectory p with
      | .ok made => (made, none)
      | .error .notFound =>
          match makeDirectoriesFrom above tree with
          | (tree, some e) => (tree, some e)
          | (tree, none) =>
              match tree.makeDirectory p with
              | .ok made => (made, none)
              | .error e => settle tree e
      | .error e => settle tree e

/-- Makes a directory with all that are missing above it. Directories made before a failure
stay. -/
def makeDirectories (tree : FileTree) (p : Path) : FileTree × Option DiskError :=
  match refusal? p with
  | some e => (tree, some e)
  | none => makeDirectoriesFrom p.components.reverse tree

/-- The first locked directory at or below a location, in the order of names. -/
def firstLocked? (tree : FileTree) (loc : Location) : Option Location :=
  (tree.entries.entries.find? fun e => loc.isPrefixOf e.1 && e.2 == .directory true).map Prod.fst

/-- What is left when the deletion of `loc` stops at `stop`. Entries are deleted in the order of
their names, a directory after all it holds: those on the way down to `stop` are still there. -/
def pruneUntil (tree : FileTree) (loc stop : Location) : FileTree :=
  { tree with entries := tree.entries.filter fun other _ =>
      !loc.isPrefixOf other || other.isPrefixOf stop || (compare other stop).isGE }

/-- Deletes a directory with all it holds. Of a link only the link is deleted. A locked directory
inside stops the deletion; what was deleted before stays deleted. -/
def removeTree (tree : FileTree) (p : Path) : FileTree × Option DiskError :=
  match tree.resolve false p with
  | .error e => (tree, some e)
  | .ok loc =>
      match tree.entry? loc with
      | none => (tree, some .notFound)
      | some (.link _) => (tree.prune loc, none)
      | some (.file _ _) => (tree, some .notDirectory)
      | some (.directory _) =>
          match tree.firstLocked? loc with
          | some stop => (tree.pruneUntil loc stop, some .denied)
          | none => (tree.prune loc, none)

/-- The directory a path lies in. -/
def parentSteps (p : Path) : List Component := p.components.dropLast

/-- Makes the directories above a path. -/
def makeParents (tree : FileTree) (p : Path) : FileTree :=
  (makeDirectoriesFrom (parentSteps p).reverse tree).1

/-- Writes a file with the directories above it, through links; an existing file keeps its
lock. What cannot be written is left as it is. -/
def writeFile (tree : FileTree) (p : Path) (content : List UInt8) : FileTree :=
  let tree := tree.makeParents p
  match tree.resolve true p with
  | .error _ => tree
  | .ok loc =>
      match tree.entry? loc with
      | none | some (.file _ false) => tree.put loc (.file content false)
      | some _ => tree

/-- Makes a link with the directories above it, unless something has its name or no path has the
form of the target. -/
def makeLink (tree : FileTree) (p target : Path) : FileTree :=
  let tree := tree.makeParents p
  match tree.resolve false p with
  | .error _ => tree
  | .ok loc =>
      match tree.entry? loc with
      | none =>
          if target.bytes = [] || (refusal? target).isSome then tree
          else tree.put loc (.link target)
      | some _ => tree

/-- Deletes whatever a path names, if it is there. -/
def remove (tree : FileTree) (p : Path) : FileTree :=
  match tree.resolve false p with
  | .error _ => tree
  | .ok loc => if loc = [] then tree else tree.prune loc

/-- Locks or opens the file or directory a path leads to. -/
def setLock (tree : FileTree) (p : Path) (locked : Bool) : FileTree :=
  match tree.resolve true p with
  | .error _ => tree
  | .ok loc =>
      match tree.entry? loc with
      | some (.file content _) => tree.put loc (.file content locked)
      | some (.directory _) => if loc = [] then tree else tree.put loc (.directory locked)
      | _ => tree

end PipelineServer.FileTree
