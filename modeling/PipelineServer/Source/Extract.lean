import PipelineServer.Source.Brace
import PipelineServer.Source.Recognise
import PipelineServer.Text.Lines

/-!
The declarations of a source text.

The text is read line by line. A declaration whose line opens a brace owns the block up to the
closing brace: it stretches to that brace, and what is declared inside has it as its parent.
-/

namespace PipelineServer.Source

/-- A block that is still open: which declaration owns it, and the brace depth inside. -/
structure Block where
  owner : Nat
  depth : Nat
deriving DecidableEq, Repr

/-- What has been read so far: the declarations, the open blocks with the innermost first, and the
number of open braces. -/
structure Reading where
  declarations : List Declaration
  blocks : List Block
  depth : Nat
deriving DecidableEq, Repr

namespace Reading

/-- Before the first line. -/
def start : Reading := ⟨[], [], 0⟩

/-- The declaration that owns the innermost open block. -/
def enclosing? (r : Reading) : Option Declaration :=
  r.blocks.head?.bind fun block => r.declarations[block.owner]?

/-- Whether the next line stands directly in the body of a type. -/
def inTypeBody (r : Reading) : Bool :=
  match r.blocks.head?, r.enclosing? with
  | some block, some d => block.depth == r.depth && d.kind.isType
  | _, _ => false

/-- Ends a declaration at a place. -/
def close (stop : Spot) (declarations : List Declaration) (block : Block) : List Declaration :=
  declarations.modify block.owner fun d => { d with span := ⟨d.span.start, stop⟩ }

/-- Takes an opening brace of a line that began at depth `base`. The first one that opens the
level right above `base` opens the block of the line's declaration `owner?`. -/
def openBrace (base : Nat) (r : Reading) (owner? : Option Nat) : Reading × Option Nat :=
  let depth := r.depth + 1
  match owner? with
  | some owner =>
      if depth = base + 1 then
        ({ r with depth := depth, blocks := ⟨owner, depth⟩ :: r.blocks }, none)
      else ({ r with depth := depth }, some owner)
  | none => ({ r with depth := depth }, none)

/-- Takes a closing brace that ends at `stop`: it ends every block whose inside it leaves. A brace
without a partner leaves the depth at zero. -/
def closeBrace (stop : Spot) (r : Reading) : Reading :=
  let depth := r.depth - 1
  let left := fun block : Block => decide (depth < block.depth)
  { declarations := (r.blocks.takeWhile left).foldl (close stop) r.declarations
    blocks := r.blocks.dropWhile left
    depth := depth }

/-- Takes one brace of the line `line`. -/
def takeBrace (line base : Nat) (state : Reading × Option Nat) (brace : Brace) :
    Reading × Option Nat :=
  if brace.opens then openBrace base state.1 state.2
  else (closeBrace ⟨line, brace.column + 1⟩ state.1, state.2)

/-- The declaration a line makes. -/
def declare? (r : Reading) (line : Nat) (text : List Char) : Option Declaration :=
  (recognise r.inTypeBody text).map fun found =>
    { name := String.ofList found.name
      kind := found.kind
      span := .onLine line found.column found.name.length
      parent := r.enclosing?.map Declaration.name
      detail := found.detail.map String.ofList }

/-- Takes one line: its declaration first, then its braces. -/
def takeLine (r : Reading) (line : Nat) (text : List Char) : Reading :=
  let state :=
    match r.declare? line text with
    | some d => ({ r with declarations := r.declarations ++ [d] }, some r.declarations.length)
    | none => (r, none)
  ((braces text).foldl (takeBrace line r.depth) state).1

/-- Takes lines in order; `line` is the number of the first. -/
def takeLines (r : Reading) (line : Nat) : List (List Char) → Reading
  | [] => r
  | text :: rest => takeLines (r.takeLine line text) (line + 1) rest

end Reading

/-- The declarations of a text, in the order of their lines. -/
def declarations (text : List Char) : List Declaration :=
  (Reading.start.takeLines 1 (Text.lines text)).declarations

end PipelineServer.Source
