/-!
Editor coordinates: zero-based lines and UTF-16 columns, and ranges between two positions.
-/

namespace PipelineServer

/-- A place between two characters, as an editor counts: lines from zero, and columns from zero
in UTF-16 code units. -/
@[ext]
structure Position where
  line : Nat
  character : Nat
deriving DecidableEq, Repr, Inhabited

namespace Position

/-- Line first, then column. -/
def le (p q : Position) : Prop :=
  p.line < q.line ∨ (p.line = q.line ∧ p.character ≤ q.character)

instance : LE Position := ⟨le⟩

instance (p q : Position) : Decidable (p ≤ q) :=
  inferInstanceAs (Decidable (p.line < q.line ∨ (p.line = q.line ∧ p.character ≤ q.character)))

theorem le_iff {p q : Position} :
    p ≤ q ↔ p.line < q.line ∨ (p.line = q.line ∧ p.character ≤ q.character) := Iff.rfl

theorem le_refl (p : Position) : p ≤ p := .inr ⟨rfl, Nat.le_refl _⟩

theorem le_trans {p q r : Position} (h₁ : p ≤ q) (h₂ : q ≤ r) : p ≤ r := by
  rw [le_iff] at *
  omega

theorem le_total (p q : Position) : p ≤ q ∨ q ≤ p := by
  rw [le_iff, le_iff]
  omega

theorem line_le_of_le {p q : Position} (h : p ≤ q) : p.line ≤ q.line :=
  h.elim Nat.le_of_lt fun hsame => Nat.le_of_eq hsame.1

theorem character_le_of_le {p q : Position} (h : p ≤ q) (hline : p.line = q.line) :
    p.character ≤ q.character :=
  h.elim (fun habove => absurd hline (Nat.ne_of_lt habove)) And.right

end Position

/-- A stretch of text from `start` to `stop`. -/
@[ext]
structure Range where
  start : Position
  stop : Position
deriving DecidableEq, Repr, Inhabited

namespace Range

/-- Both ends belong to the range. -/
def contains (r : Range) (p : Position) : Bool := r.start ≤ p && p ≤ r.stop

/-- `outer` covers `inner` from end to end. -/
def encloses (outer inner : Range) : Bool := outer.start ≤ inner.start && inner.stop ≤ outer.stop

theorem contains_iff {r : Range} {p : Position} : r.contains p ↔ r.start ≤ p ∧ p ≤ r.stop := by
  rw [contains, Bool.and_eq_true, decide_eq_true_iff, decide_eq_true_iff]

theorem encloses_iff {outer inner : Range} :
    outer.encloses inner ↔ outer.start ≤ inner.start ∧ inner.stop ≤ outer.stop := by
  rw [encloses, Bool.and_eq_true, decide_eq_true_iff, decide_eq_true_iff]

/-- How many lines the range spans and how many columns lie between its end columns; shorter
ranges compare smaller, lines first. -/
def extent (r : Range) : Position :=
  ⟨r.stop.line - r.start.line, r.stop.character - r.start.character⟩

end Range

end PipelineServer
