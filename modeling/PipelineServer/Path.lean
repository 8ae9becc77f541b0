import PipelineServer.Text.Utf8

/-!
File paths.

A path is a sequence of bytes, kept as it was written; logs and messages show it as text. What it
names is decided by its components: repeated and closing slashes and inner `.` do not count.
-/

namespace PipelineServer

/-- A name inside a directory. Any bytes will do, apart from the slash and the zero byte. -/
abbrev FileName := List UInt8

/-- One step of a path. -/
inductive Component
  | root
  | here
  | up
  | name (bytes : FileName)
deriving DecidableEq, Repr

/-- A path as it was written. -/
structure Path where
  bytes : List UInt8
deriving DecidableEq, Repr, Inhabited

namespace Path

/-- The path a text spells. -/
def ofText (text : String) : Path := ⟨Text.encodeUtf8 text⟩

/-- The path as it is shown, with replacements for bytes that are no character. -/
def text (p : Path) : String := Text.decodeLossy p.bytes

def slash : UInt8 := 0x2F

def dot : UInt8 := 0x2E

/-- Cuts a byte sequence at every slash. -/
def splitSlash : List UInt8 → List (List UInt8)
  | [] => [[]]
  | b :: rest =>
      match splitSlash rest with
      | [] => [[b]]
      | piece :: pieces => if b = slash then [] :: piece :: pieces else (b :: piece) :: pieces

/-- The step a piece between slashes stands for, if any. -/
def component? (piece : List UInt8) : Option Component :=
  if piece = [] || piece = [dot] then none
  else if piece = [dot, dot] then some .up
  else some (.name piece)

def isAbsolute (p : Path) : Bool := p.bytes.head? == some slash

/-- The steps of a path. A `.` counts only as the first step of a relative path. -/
def components (p : Path) : List Component :=
  let pieces := splitSlash p.bytes
  let steps := pieces.filterMap component?
  if p.isAbsolute then .root :: steps
  else if pieces.head? = some [dot] then .here :: steps
  else steps

/-- Whether the path ends in a slash, so that it can only name a directory. -/
def asksDirectory (p : Path) : Bool :=
  let pieces := splitSlash p.bytes
  2 ≤ pieces.length && (pieces.getLast? = some [] || pieces.getLast? = some [dot])

/-- The steps of a lookup. A slash at the end is a step into the directory it stands behind. -/
def steps (p : Path) : List Component :=
  if p.asksDirectory then p.components ++ [.here] else p.components

/-- Paths are the same when their components are. -/
def same (p q : Path) : Bool := p.components == q.components

/-- Whether `base` leads to `p` by going down only. -/
def startsWith (p base : Path) : Bool := base.components.isPrefixOf p.components

/-- The path of `name` inside the directory `dir`. An absolute `name` stands for itself. -/
def join (dir : Path) (name : FileName) : Path :=
  if name.head? = some slash || dir.bytes = [] then ⟨name⟩
  else if dir.bytes.getLast? = some slash then ⟨dir.bytes ++ name⟩
  else ⟨dir.bytes ++ slash :: name⟩

/-- The name of what the path leads to, unless it ends by going up. -/
def fileName? (p : Path) : Option FileName :=
  match p.components.getLast? with
  | some (.name bytes) => some bytes
  | _ => none

/-- What follows the last dot of a file name. A name whose only dot is its first character has no
extension. -/
def extensionOf? (name : FileName) : Option (List UInt8) :=
  let tail := name.reverse.takeWhile (· != dot)
  if tail.length + 1 < name.length then some tail.reverse else none

def extension? (p : Path) : Option (List UInt8) := p.fileName?.bind extensionOf?

/-- Extensions of the files that are compiled. -/
def sourceExtensions : List String := ["nf", "groovy", "config"]

/-- Whether the path names a file to compile, by its extension. -/
def isSource (p : Path) : Bool :=
  match p.extension? with
  | some ext => (sourceExtensions.map Text.encodeUtf8).contains ext
  | none => false

end Path

end PipelineServer
