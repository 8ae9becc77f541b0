import PipelineServer.Proofs.Source.Ownership
import PipelineServer.Proofs.Symbols.Outline

/-!
The innermost symbol around a position.

Symbols are compared by the lines and the columns between the ends of their ranges. For a range and
one inside it this is the order of the ranges, with one exception: a range that ends on a later line
and not to the right of its start counts as having no columns, and so does every range inside it on
the same lines. Of those the first in the list is found, and that may be an outer one.
-/

namespace PipelineServer

namespace Range

/-- The range ends on a later line, and not to the right of where it starts. -/
def Slanted (r : Range) : Prop := r.start.line < r.stop.line ∧ r.stop.character ≤ r.start.character

instance (r : Range) : Decidable r.Slanted :=
  inferInstanceAs
    (Decidable (r.start.line < r.stop.line ∧ r.stop.character ≤ r.start.character))

/-- Both ranges start on one line and end on one line. -/
def SameLines (r q : Range) : Prop := r.start.line = q.start.line ∧ r.stop.line = q.stop.line

instance (r q : Range) : Decidable (r.SameLines q) :=
  inferInstanceAs (Decidable (r.start.line = q.start.line ∧ r.stop.line = q.stop.line))

/-- A range inside another one is smaller, unless it is the same or the outer one is slanted. -/
theorem eq_or_slanted_of_encloses {outer inner : Range} {p : Position} (haround : inner.contains p)
    (hwithin : outer.encloses inner) (hsmall : outer.extent ≤ inner.extent) :
    inner = outer ∨ outer.Slanted ∧ inner.SameLines outer := by
  obtain ⟨hbefore, hbehind⟩ := contains_iff.mp haround
  have hupright := Position.le_trans hbefore hbehind
  obtain ⟨hstarts, hstops⟩ := encloses_iff.mp hwithin
  have hfirst := Position.line_le_of_le hstarts
  have hlast := Position.line_le_of_le hstops
  have horder := Position.line_le_of_le hupright
  have hfewest := Position.line_le_of_le hsmall
  simp only [extent] at hfewest
  have hfirstLine : inner.start.line = outer.start.line := by omega
  have hlastLine : inner.stop.line = outer.stop.line := by omega
  have hleft := Position.character_le_of_le hstarts hfirstLine.symm
  have hright := Position.character_le_of_le hstops hlastLine
  have hnarrow := Position.character_le_of_le hsmall (by simp only [extent]; omega)
  simp only [extent] at hnarrow
  rw [or_iff_not_imp_right]
  intro hstraight
  have hforward : outer.start.character ≤ outer.stop.character ∧
      inner.start.character ≤ inner.stop.character := by
    by_cases hone : inner.start.line = inner.stop.line
    · have := Position.character_le_of_le hupright hone
      omega
    · have : ¬ outer.stop.character ≤ outer.start.character := fun hturned =>
        hstraight ⟨⟨by omega, hturned⟩, hfirstLine, hlastLine⟩
      omega
  have hcolumn : inner.start.character = outer.start.character := by omega
  have hcolumn' : inner.stop.character = outer.stop.character := by omega
  exact Range.ext (Position.ext hfirstLine hcolumn) (Position.ext hlastLine hcolumn')

end Range

/-- A symbol of a text is known by the line it starts on. -/
theorem Source.symbols_eq_of_line {uri : Uri} {text : List Char} {s t : Symbol}
    (hs : s ∈ Source.symbols uri text) (ht : t ∈ Source.symbols uri text)
    (hline : s.range.start.line = t.range.start.line) : s = t := by
  obtain ⟨d, hd, rfl⟩ := List.mem_map.mp hs
  obtain ⟨e, he, rfl⟩ := List.mem_map.mp ht
  have hsound := Source.declarations_sound text
  have hpositive := (hsound.reach d hd).1
  have hpositive' := (hsound.reach e he).1
  simp only [Symbol.ofDeclaration, Span.toRange, Spot.toPosition] at hline
  obtain ⟨i, hget⟩ := List.getElem?_of_mem hd
  obtain ⟨j, hget'⟩ := List.getElem?_of_mem he
  obtain rfl : i = j := Source.index_eq_of_line hget hget' (by omega)
  rw [Option.some.inj (hget.symm.trans hget')]

namespace Index

/-- The symbol is around the position, and any other around it that lies inside the symbol has the
same range. -/
structure Innermost (symbols : List Symbol) (p : Position) (s : Symbol) : Prop where
  mem : s ∈ symbols
  around : s.range.contains p
  inside : ∀ t ∈ symbols, t.range.contains p → s.range.encloses t.range → t.range = s.range

theorem smallest?_eq_none_iff {symbols : List Symbol} :
    smallest? symbols = none ↔ symbols = [] := by
  cases symbols with
  | nil => simp [smallest?]
  | cons s rest =>
    rw [smallest?]
    split
    · simp
    · split <;> simp

/-- The smallest symbol is one of the list, and no other has a smaller extent. -/
theorem smallest?_spec {symbols : List Symbol} {s : Symbol} (h : smallest? symbols = some s) :
    s ∈ symbols ∧ ∀ t ∈ symbols, s.range.extent ≤ t.range.extent := by
  induction symbols generalizing s with
  | nil => cases h
  | cons first rest ih =>
    rw [smallest?] at h
    cases hfound : smallest? rest with
    | none =>
      rw [hfound] at h
      cases h
      rw [smallest?_eq_none_iff.mp hfound]
      exact ⟨List.mem_singleton_self _, fun t ht => List.mem_singleton.mp ht ▸ Position.le_refl _⟩
    | some t =>
      obtain ⟨hmem, hleast⟩ := ih hfound
      simp only [hfound, noLarger, decide_eq_true_eq] at h
      split at h
      · next hsmaller =>
        cases h
        refine ⟨List.mem_cons_self, ?_⟩
        rintro other (_ | ⟨_, hlater⟩)
        · exact Position.le_refl _
        · exact Position.le_trans hsmaller (hleast other hlater)
      · next hlarger =>
        cases h
        refine ⟨List.mem_cons_of_mem _ hmem, ?_⟩
        rintro other (_ | ⟨_, hlater⟩)
        · exact (Position.le_total _ _).resolve_left hlarger
        · exact hleast other hlater

/-- What is found is around the position and of the smallest extent there. -/
theorem symbolAt?_spec {index : Index} {uri : Uri} {p : Position} {s : Symbol}
    (hfound : index.symbolAt? uri p = some s) :
    s ∈ index.symbols uri ∧ s.range.contains p ∧
      ∀ t ∈ index.symbols uri, t.range.contains p → s.range.extent ≤ t.range.extent := by
  obtain ⟨hmem, hleast⟩ := smallest?_spec hfound
  obtain ⟨hmem, haround⟩ := List.mem_filter.mp hmem
  exact ⟨hmem, haround, fun t ht hinside => hleast t (List.mem_filter.mpr ⟨ht, hinside⟩)⟩

/-- A symbol is found if there is one around the position. -/
theorem symbolAt?_isSome_iff {index : Index} {uri : Uri} {p : Position} :
    (index.symbolAt? uri p).isSome ↔ ∃ s ∈ index.symbols uri, s.range.contains p := by
  rw [Option.isSome_iff_ne_none, symbolAt?, Ne, smallest?_eq_none_iff, List.filter_eq_nil_iff]
  simp only [not_forall, not_not, exists_prop]

/-- What is found is innermost, or slanted with another symbol around the position inside it that
starts and ends on its lines. -/
theorem innermost_or_slanted {index : Index} {uri : Uri} {p : Position} {s : Symbol}
    (hfound : index.symbolAt? uri p = some s) :
    Innermost (index.symbols uri) p s ∨ s.range.Slanted ∧
      ∃ t ∈ index.symbols uri, t.range.contains p ∧ s.range.encloses t.range ∧
        t.range.SameLines s.range ∧ t.range ≠ s.range := by
  obtain ⟨hmem, haround, hleast⟩ := symbolAt?_spec hfound
  rw [or_iff_not_imp_right]
  refine fun hrare => ⟨hmem, haround, fun t ht hinside hwithin => ?_⟩
  by_contra hother
  obtain hsame | ⟨hslanted, hlines⟩ :=
    Range.eq_or_slanted_of_encloses hinside hwithin (hleast t ht hinside)
  · exact hother hsame
  · exact hrare ⟨hslanted, t, ht, hinside, hwithin, hlines, hother⟩

/-- A symbol is found at a position exactly if one is around it, and the found one is around it. It
is innermost unless it ends on a later line and not to the right of its start, and there is another
symbol around the position that lies inside it and has its first and its last line. -/
theorem symbolAt?_innermost (index : Index) (uri : Uri) (p : Position) :
    ((index.symbolAt? uri p).isSome ↔ ∃ s ∈ index.symbols uri, s.range.contains p) ∧
      ∀ s, index.symbolAt? uri p = some s →
        s ∈ index.symbols uri ∧ s.range.contains p ∧
          (Innermost (index.symbols uri) p s ↔
            ¬ (s.range.Slanted ∧
              ∃ t ∈ index.symbols uri, t.range.contains p ∧ s.range.encloses t.range ∧
                t.range.SameLines s.range ∧ t.range ≠ s.range)) := by
  refine ⟨symbolAt?_isSome_iff, fun s hfound => ?_⟩
  obtain ⟨hmem, haround, -⟩ := symbolAt?_spec hfound
  refine ⟨hmem, haround, ?_, (innermost_or_slanted hfound).resolve_right⟩
  rintro hinnermost ⟨-, t, ht, hinside, hwithin, -, hother⟩
  exact hother (hinnermost.inside t ht hinside hwithin)

/-- Among the declarations of a text the innermost one is found: no two of them start on one
line. -/
theorem innermost_of_text {index : Index} {uri : Uri} {text : List Char} {p : Position} {s : Symbol}
    (hread : index.symbols uri = Source.symbols uri text)
    (hfound : index.symbolAt? uri p = some s) : Innermost (index.symbols uri) p s := by
  refine (innermost_or_slanted hfound).resolve_right ?_
  rintro ⟨-, t, ht, -, -, ⟨hline, -⟩, hother⟩
  have hmem := (symbolAt?_spec hfound).1
  rw [hread] at hmem ht
  exact hother (congrArg Symbol.range (Source.symbols_eq_of_line ht hmem hline))

namespace InnermostWitness

def uri : Uri := ⟨"file:///work/a.nf"⟩

/-- The index of one file. -/
def indexOf (declarations : List Declaration) : Index :=
  .rebuild ⟨[uri], fun other => if other = uri then some declarations else none⟩

/-- A class and its method, which start on one line and end on one line. -/
def nested : List Declaration :=
  [{ name := "A", kind := .classType, span := ⟨⟨1, 6⟩, ⟨2, 3⟩⟩ },
    { name := "B", kind := .method, span := ⟨⟨1, 9⟩, ⟨2, 2⟩⟩, parent := some "A" }]

def outer : Symbol := ⟨uri, "A", .classType, ⟨⟨0, 5⟩, ⟨1, 2⟩⟩, none, none⟩

def inner : Symbol := ⟨uri, "B", .method, ⟨⟨0, 8⟩, ⟨1, 1⟩⟩, some "A", none⟩

/-- The class is found inside its method, because it comes first. -/
theorem outer_found :
    (indexOf nested).symbolAt? uri ⟨1, 0⟩ = some outer ∧ inner ∈ (indexOf nested).symbols uri ∧
      inner.range.contains ⟨1, 0⟩ ∧ outer.range.encloses inner.range ∧
      inner.range ≠ outer.range := by
  decide +kernel

/-- A class of several lines with a method of several lines, and a variable in that. -/
def sample : List Declaration :=
  [{ name := "Sample", kind := .classType, span := ⟨⟨1, 7⟩, ⟨8, 2⟩⟩ },
    { name := "describe", kind := .method, span := ⟨⟨4, 12⟩, ⟨7, 6⟩⟩, parent := some "Sample" },
    { name := "label", kind := .var, span := .onLine 5 13 5, parent := some "describe" }]

def method : Symbol := ⟨uri, "describe", .method, ⟨⟨3, 11⟩, ⟨6, 5⟩⟩, some "Sample", none⟩

/-- Both the class and its method end left of their starts, but not on the same lines. -/
theorem symbolAt?_innermost_method :
    (indexOf sample).symbolAt? uri ⟨4, 2⟩ = some method ∧ method.range.Slanted ∧
      Innermost ((indexOf sample).symbols uri) ⟨4, 2⟩ method := by
  have hfound : (indexOf sample).symbolAt? uri ⟨4, 2⟩ = some method := by decide +kernel
  refine ⟨hfound, by decide, ?_⟩
  exact ((symbolAt?_innermost (indexOf sample) uri ⟨4, 2⟩).2 method hfound).2.2.mpr
    (by decide +kernel)

end InnermostWitness

end Index

end PipelineServer
