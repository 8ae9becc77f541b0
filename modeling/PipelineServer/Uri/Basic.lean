import PipelineServer.SortedMap

/-!
Uris in their normal form.
-/

namespace PipelineServer

/-- A uri, held as its normalised text. Equality and order are those of the text. -/
structure Uri where
  text : String
deriving DecidableEq, Repr, Inhabited

namespace Uri

instance : Ord Uri := ⟨fun a b => compare a.text b.text⟩

theorem compare_eq (a b : Uri) : compare a b = compare a.text b.text := rfl

instance : Std.OrientedOrd Uri where
  eq_swap {a b} := by
    rw [compare_eq, compare_eq]
    exact Std.OrientedCmp.eq_swap

instance : Std.TransOrd Uri where
  isLE_trans {a b c} h₁ h₂ := by
    rw [compare_eq] at *
    exact Std.TransCmp.isLE_trans h₁ h₂

instance : Std.LawfulEqOrd Uri where
  eq_of_compare {a b} h := by
    rw [compare_eq] at h
    cases a
    cases b
    exact congrArg Uri.mk (Std.LawfulEqCmp.eq_of_compare h)

end Uri

/-- A finite set of uris. -/
abbrev UriSet := SortedSet Uri

end PipelineServer
