import Mathlib.Data.List.TakeWhile
import PipelineServer.Proofs.Source.Blocks
import PipelineServer.Proofs.Source.Places

/-!
Where the declarations of a text stand.

A line is read from the left, so what is left to read is always a tail of the line, and the name
that is found begins such a tail. A declaration keeps the line and the column it was made with.
-/

namespace PipelineServer.Source

/-- The name that was found begins a tail of the line, at its column. -/
def Found.In (line : List Char) (found : Found) : Prop :=
  ∃ front text rest, line = front ++ text ∧ name? text = some (found.name, rest) ∧
    found.column = front.length + 1

theorem modifiersFrom_suffix {allowed : List String} {word start text : List Char}
    (hwithin : text <:+ start) : (modifiersFrom allowed word start text).2 <:+ start := by
  fun_induction modifiersFrom allowed word start text with
  | case1 word start => exact List.suffix_refl start
  | case2 word start c rest hblank hempty ih =>
    exact (ih (List.suffix_refl rest)).trans ((List.suffix_cons c rest).trans hwithin)
  | case3 word start c rest hblank hmore hknown next ih =>
    exact (ih (List.suffix_refl rest)).trans ((List.suffix_cons c rest).trans hwithin)
  | case4 word start c rest hblank hmore hunknown => exact List.suffix_refl start
  | case5 word start c rest hletter ih => exact ih ((List.suffix_cons c rest).trans hwithin)

theorem modifiers_suffix (allowed : List String) (line : List Char) :
    (modifiers allowed line).2 <:+ line :=
  modifiersFrom_suffix (List.suffix_refl line)

theorem blanks?_append {text rest : List Char} (h : blanks? text = some rest) :
    ∃ gap, text = gap ++ rest ∧ gap ≠ [] ∧ ∀ c ∈ gap, Text.isBlank c = true := by
  cases text with
  | nil => cases h
  | cons c text =>
    rw [blanks?] at h
    split at h
    · next hblank =>
      refine ⟨c :: text.takeWhile Text.isBlank, ?_, List.cons_ne_nil _ _, ?_⟩
      · rw [← Option.some.inj h, List.cons_append, List.takeWhile_append_dropWhile]
      · exact List.forall_mem_cons.mpr ⟨hblank, fun x hx => List.mem_takeWhile_imp hx⟩
    · cases h

theorem blanks?_suffix {text rest : List Char} (h : blanks? text = some rest) : rest <:+ text := by
  obtain ⟨gap, rfl, -⟩ := blanks?_append h
  exact List.suffix_append ..

theorem word?_suffix {text rest : List Char} {word : String} (h : word? text = some (word, rest)) :
    rest <:+ text := by
  obtain ⟨tail, hblank, hsame⟩ := Option.map_eq_some_iff.mp h
  obtain ⟨-, rfl⟩ := Prod.mk.inj hsame
  exact (blanks?_suffix hblank).trans (List.dropWhile_suffix _)

theorem type?_suffix {primitives : List String} {text type rest : List Char}
    (h : type? primitives text = some (type, rest)) : rest <:+ text := by
  obtain ⟨length, -, h⟩ := Option.bind_eq_some_iff.mp h
  obtain ⟨tail, hblank, hsame⟩ := Option.map_eq_some_iff.mp h
  obtain ⟨-, rfl⟩ := Prod.mk.inj hsame
  exact (blanks?_suffix hblank).trans (List.drop_suffix ..)

theorem name?_append {text name rest : List Char} (h : name? text = some (name, rest)) :
    text = name ++ rest := by
  cases text with
  | nil => cases h
  | cons c text =>
    rw [name?] at h
    split at h
    · obtain ⟨rfl, rfl⟩ := Prod.mk.inj (Option.some.inj h)
      rw [List.cons_append, List.takeWhile_append_dropWhile]
    · cases h

/-- What was found at the start of `text`, which stands behind `front` in its line. -/
theorem named?_eq_some {front text : List Char} {kind : Kind} {detail : Option (List Char)}
    {after : List Char → Bool} {found : Found}
    (h : named? (front ++ text) text kind detail after = some found) :
    (∃ rest, name? text = some (found.name, rest)) ∧ found.column = front.length + 1 ∧
      found.detail = detail := by
  unfold named? at h
  split at h
  · next name rest hnamed =>
    split at h
    · rw [← Option.some.inj h]
      refine ⟨⟨rest, hnamed⟩, ?_, rfl⟩
      rw [List.length_append, Nat.add_sub_cancel]
    · cases h
  · cases h

theorem named?_in {line text : List Char} {kind : Kind} {detail : Option (List Char)}
    {after : List Char → Bool} {found : Found} (htail : text <:+ line)
    (h : named? line text kind detail after = some found) : found.In line := by
  obtain ⟨front, rfl⟩ := htail
  obtain ⟨⟨rest, hnamed⟩, hcolumn, -⟩ := named?_eq_some h
  exact ⟨front, text, rest, rfl, hnamed, hcolumn⟩

/-! ### The readings of a line -/

/-- How a line is read up to the name: behind a keyword, or behind a type, which is kept. -/
inductive Found.Read (line : List Char) (found : Found) : Prop
  | plain {text : List Char} {kind : Kind} {after : List Char → Bool} (htail : text <:+ line)
      (hnamed : named? line text kind none after = some found)
  | typed {primitives : List String} {start type text : List Char} {kind : Kind}
      {after : List Char → Bool} (hknown : primitives ⊆ returnTypes) (htail : start <:+ line)
      (htyped : type? primitives start = some (type, text))
      (hnamed : named? line text kind (some type) after = some found)

theorem typeDeclaration?_read {line : List Char} {found : Found}
    (h : typeDeclaration? line = some found) : found.Read line := by
  obtain ⟨⟨word, text⟩, hread, h⟩ := Option.bind_eq_some_iff.mp h
  obtain ⟨kind, -, h⟩ := Option.bind_eq_some_iff.mp h
  exact .plain ((word?_suffix hread).trans (modifiers_suffix ..)) h

theorem block?_read {keyword : String} {kind : Kind} {line : List Char} {found : Found}
    (h : block? keyword kind line = some found) : found.Read line := by
  obtain ⟨⟨word, text⟩, hread, h⟩ := Option.bind_eq_some_iff.mp h
  dsimp only at h
  split at h
  · exact .plain ((word?_suffix hread).trans (modifiers_suffix ..)) h
  · cases h

theorem untyped?_read {allowed : List String} {kind : Kind} {after : List Char → Bool}
    {line : List Char} {found : Found} (h : untyped? allowed kind after line = some found) :
    found.Read line := by
  obtain ⟨⟨word, text⟩, hread, h⟩ := Option.bind_eq_some_iff.mp h
  dsimp only at h
  split at h
  · exact .plain ((word?_suffix hread).trans (modifiers_suffix ..)) h
  · cases h

theorem typedMethod?_read {line : List Char} {found : Found} (h : typedMethod? line = some found) :
    found.Read line := by
  obtain ⟨⟨type, text⟩, hread, h⟩ := Option.bind_eq_some_iff.mp h
  exact .typed (List.Subset.refl _) (modifiers_suffix ..) hread h

theorem typedVariable?_read {inBody : Bool} {line : List Char} {found : Found}
    (h : typedVariable? inBody line = some found) : found.Read line := by
  obtain ⟨⟨type, text⟩, hread, h⟩ := Option.bind_eq_some_iff.mp h
  exact .typed (List.subset_cons_self ..) (modifiers_suffix ..) hread h

theorem recognise_read {inBody : Bool} {line : List Char} {found : Found}
    (h : recognise inBody line = some found) : found.Read line := by
  simp only [recognise, Option.orElse_eq_orElse, Option.orElse_eq_or, Option.or_eq_some_iff] at h
  rcases h with h | ⟨-, h | ⟨-, h | ⟨-, h | ⟨-, h | ⟨-, h | ⟨-, h⟩⟩⟩⟩⟩⟩
  · exact typeDeclaration?_read h
  · exact block?_read h
  · exact block?_read h
  · exact untyped?_read h
  · exact typedMethod?_read h
  · exact untyped?_read h
  · exact typedVariable?_read h

theorem Found.Read.in {line : List Char} {found : Found} (hread : found.Read line) :
    found.In line := by
  cases hread with
  | plain htail hnamed => exact named?_in htail hnamed
  | typed hknown htail htyped hnamed => exact named?_in ((type?_suffix htyped).trans htail) hnamed

/-! ### The declarations of a text -/

/-- A declaration was made of a name in a line, and still has its place. -/
theorem exists_found_of_mem {text : List Char} {d : Declaration} (h : d ∈ declarations text) :
    ∃ before line after, ∃ found : Found, Text.lines text = before ++ line :: after ∧
      found.Read line ∧ d.name = String.ofList found.name ∧
      d.span.start = ⟨before.length + 1, found.column⟩ ∧
      d.detail = found.detail.map String.ofList := by
  obtain ⟨before, line, after, made, hsplit, hdeclared, hsame⟩ := exists_declare?_of_mem h
  obtain ⟨found, hrecognised, rfl⟩ := Option.map_eq_some_iff.mp hdeclared
  refine ⟨before, line, after, found, hsplit, recognise_read hrecognised, ?_, ?_, ?_⟩
  · exact congrArg Declaration.name hsame
  · exact congrArg (fun d => d.span.start) hsame
  · exact congrArg Declaration.detail hsame

/-- A declaration's name stands where its span starts. -/
theorem declaration_stands {text : List Char} {d : Declaration} (h : d ∈ declarations text) :
    ∃ front rest, text = front ++ d.name.toList ++ rest ∧ d.span.start = behind .first front := by
  obtain ⟨before, line, after, found, hsplit, hread, hname, hstart, -⟩ := exists_found_of_mem h
  obtain ⟨front, tail, rest, rfl, hnamed, hcolumn⟩ := hread.in
  obtain ⟨above, below, rfl, hwhole, hcount, hplain⟩ := Text.exists_above_of_lines hsplit
  refine ⟨above ++ front, rest ++ below, ?_, ?_⟩
  · rw [hname, String.toList_ofList, name?_append hnamed]
    simp
  · have hplain : '\n' ∉ front := fun hinside => hplain (List.mem_append_left _ hinside)
    rw [hstart, hcolumn, behind_append, behind_whole hwhole, behind_of_plain _ hplain, hcount]
    ext
    · rfl
    · exact Nat.add_comm ..

end PipelineServer.Source
