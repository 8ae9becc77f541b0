import PipelineServer.Symbols.Index

/-!
The outline of a file: its symbols as a forest.

A symbol belongs under the last symbol before it that has the name of its parent and encloses it.
-/

namespace PipelineServer

/-- A symbol with those inside it. -/
inductive OutlineNode
  | node (symbol : Symbol) (selection : Range) (children : List OutlineNode)

namespace Outline

/-- The part of a symbol's range that is selected when one jumps to it: its name, or all of it if
the name does not fit. -/
def selection (s : Symbol) : Range :=
  let start := s.range.start
  let stop : Position := ⟨start.line, start.character + Text.utf16Width s.name.toList⟩
  if stop ≤ s.range.stop then ⟨start, stop⟩ else s.range

/-- Whether `outer` can hold `inner`. -/
def holds (outer inner : Symbol) : Bool :=
  inner.parent == some outer.name && outer.range.encloses inner.range

/-- The index of the last symbol that can hold `s`; `earlier` are the symbols before it, the last
one first. -/
def parentOf? (earlier : List Symbol) (s : Symbol) : Option Nat :=
  (earlier.findIdx? fun outer => holds outer s).map fun back => earlier.length - 1 - back

/-- Trees with the index of the symbol that each of them belongs under. -/
abbrev Pending := List (Option Nat × OutlineNode)

/-- Makes the tree of the symbol with the index `i` from the trees that wait for it. -/
def attach (i : Nat) (s : Symbol) (parent : Option Nat) (pending : Pending) : Pending :=
  let mine := (pending.filter fun p => p.1 == some i).map Prod.snd
  (parent, .node s (selection s) mine) :: pending.filter fun p => p.1 != some i

/-- The trees of the symbols behind `earlier`, which are given in reverse. A symbol belongs under
an earlier one, so what belongs under the first symbol is known once all that follow are done. -/
def gather (earlier : List Symbol) : List Symbol → Pending
  | [] => []
  | s :: rest => attach earlier.length s (parentOf? earlier s) (gather (s :: earlier) rest)

end Outline

/-- The outline of a list of symbols. -/
def outline (symbols : List Symbol) : List OutlineNode :=
  (Outline.gather [] symbols).map Prod.snd

end PipelineServer
