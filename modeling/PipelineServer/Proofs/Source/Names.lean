import PipelineServer.Proofs.Source.Anchors

/-!
The names and the types of the declarations of a text.

Main statement: `declarations_named_in_lines`. A line is read from the left and every reader takes
as much as it can, so the name that is found is a whole word, and the type that is kept stands right
before it.
-/

namespace PipelineServer.Source

open PipelineServer.Text

/-- A name: a letter or an underscore, then word characters. -/
def IsName (name : List Char) : Prop :=
  ∃ first rest, name = first :: rest ∧
    ('A' ≤ first ∧ first ≤ 'Z' ∨ 'a' ≤ first ∧ first ≤ 'z' ∨ first = '_') ∧
    ∀ c ∈ rest, isWord c = true

/-- A type: one of the `primitives`, or a name with a capital, with type arguments and brackets or
without. -/
inductive IsType (primitives : List String) : List Char → Prop
  | primitive {word : String} (hknown : word ∈ primitives) : IsType primitives word.toList
  | named {capital : Char} {rest arguments brackets : List Char}
      (hupper : 'A' ≤ capital ∧ capital ≤ 'Z') (hword : ∀ c ∈ rest, isWord c = true)
      (harguments : arguments = [] ∨
        ∃ inside, '>' ∉ inside ∧ arguments = '<' :: inside ++ ['>'])
      (hbrackets : brackets = [] ∨ brackets = ['[', ']']) :
      IsType primitives (capital :: rest ++ arguments ++ brackets)

/-- The type ends a part of a line, with nothing but blanks behind it. -/
def EndsWithType (front type : List Char) : Prop :=
  ∃ before gap, front = before ++ type ++ gap ∧ gap ≠ [] ∧ (∀ c ∈ gap, isBlank c = true) ∧
    IsType returnTypes type

/-! ### Names -/

theorem isUpper_iff {c : Char} : c.isUpper = true ↔ 'A' ≤ c ∧ c ≤ 'Z' := decide_eq_true_iff

theorem isLower_iff {c : Char} : c.isLower = true ↔ 'a' ≤ c ∧ c ≤ 'z' :=
  Bool.and_eq_true_iff.trans (and_congr decide_eq_true_iff decide_eq_true_iff)

theorem isNameStart_iff {c : Char} :
    isNameStart c = true ↔ 'A' ≤ c ∧ c ≤ 'Z' ∨ 'a' ≤ c ∧ c ≤ 'z' ∨ c = '_' := by
  have hletter : c.isAlpha = true ↔ c.isUpper = true ∨ c.isLower = true := Bool.or_eq_true_iff
  rw [isNameStart, Bool.or_eq_true, hletter, isUpper_iff, isLower_iff, beq_iff_eq, or_assoc]

theorem head?_dropWhile_word {text : List Char} {c : Char}
    (hfirst : (text.dropWhile isWord).head? = some c) : isWord c = false := by
  have := List.head?_dropWhile_not isWord text
  rw [hfirst] at this
  simpa using this

/-- A name is taken as far as it goes. -/
theorem name?_eq_some {text name rest : List Char} (h : name? text = some (name, rest)) :
    IsName name ∧ ∀ c, rest.head? = some c → isWord c = false := by
  cases text with
  | nil => cases h
  | cons c text =>
    rw [name?] at h
    split at h
    · next hstart =>
      obtain ⟨rfl, rfl⟩ := Prod.mk.inj (Option.some.inj h)
      refine ⟨⟨c, _, rfl, isNameStart_iff.mp hstart, ?_⟩, fun x => head?_dropWhile_word⟩
      exact fun x hx => List.mem_takeWhile_imp hx
    · cases h

/-! ### Types -/

theorem isWord_of_isUpper {c : Char} (hupper : c.isUpper = true) : isWord c = true := by
  have hsmall : c.toNat < 0x80 := by
    have : c.toNat ≤ 'Z'.toNat := UInt32.le_iff_toNat_le.mp (isUpper_iff.mp hupper).2
    exact Nat.lt_of_le_of_lt this (by decide)
  have hletter : c.isAlphanum = true := by
    change (c.isUpper || c.isLower || c.isDigit) = true
    rw [hupper]
    rfl
  rw [isWord, if_pos hsmall, hletter]
  rfl

/-- Type arguments go to the first `>`. -/
theorem typeArguments_cases (text : List Char) :
    typeArguments text = [] ∨ ∃ inside rest, '>' ∉ inside ∧
      typeArguments text = '<' :: inside ++ ['>'] ∧ text = '<' :: inside ++ '>' :: rest := by
  unfold typeArguments
  split
  case h_1 rest =>
    split
    · next hclosed =>
      obtain ⟨inside, behind, rfl, hplain⟩ :=
        List.eq_append_cons_of_mem (List.contains_iff_mem.mp hclosed)
      have htaken : (inside ++ '>' :: behind).takeWhile (· != '>') = inside := by
        rw [List.takeWhile_append_of_pos, List.takeWhile_cons_of_neg (by simp), List.append_nil]
        intro x hx
        rw [bne_iff_ne]
        exact ne_of_mem_of_not_mem hx hplain
      rw [htaken]
      exact .inr ⟨inside, behind, hplain, rfl, rfl⟩
    · exact .inl rfl
  case h_2 => exact .inl rfl

theorem isPrefix_typeArguments (text : List Char) : typeArguments text <+: text := by
  rcases typeArguments_cases text with hnone | ⟨inside, rest, -, hfilled, hsplit⟩
  · rw [hnone]
    exact List.nil_prefix
  · rw [hfilled, hsplit]
    exact ⟨rest, by simp⟩

theorem arrayMark_cases (text : List Char) :
    arrayMark text = [] ∨ arrayMark text = ['[', ']'] ∧ ['[', ']'] <+: text := by
  unfold arrayMark
  split
  · exact .inr ⟨rfl, List.prefix_append ['[', ']'] _⟩
  · exact .inl rfl

theorem isPrefix_arrayMark (text : List Char) : arrayMark text <+: text := by
  rcases arrayMark_cases text with hnone | ⟨hfilled, hfront⟩
  · rw [hnone]
    exact List.nil_prefix
  · rwa [hfilled]

theorem typeLength?_eq_some {primitives : List String} {text : List Char} {length : Nat}
    (h : typeLength? primitives text = some length) : IsType primitives (text.take length) := by
  unfold typeLength? at h
  split at h
  case h_1 => cases h
  case h_2 c rest =>
    split at h
    · next hupper =>
      obtain rfl := Option.some.inj h
      have hword : (c :: rest).takeWhile isWord = c :: rest.takeWhile isWord :=
        List.takeWhile_cons_of_pos (isWord_of_isUpper hupper)
      rw [List.take_add, List.take_add, ← List.prefix_iff_eq_take.mp <| List.takeWhile_prefix _,
        ← List.prefix_iff_eq_take.mp (isPrefix_typeArguments _),
        ← List.prefix_iff_eq_take.mp (isPrefix_arrayMark _), hword]
      refine .named (isUpper_iff.mp hupper) (fun x hx => List.mem_takeWhile_imp hx) ?_ ?_
      · exact (typeArguments_cases _).imp_right fun ⟨inside, _, hplain, hfilled, _⟩ =>
          ⟨inside, hplain, hfilled⟩
      · exact (arrayMark_cases _).imp_right And.left
    · dsimp only at h
      split at h
      · next hknown =>
        obtain rfl := Option.some.inj h
        have hprimitive := IsType.primitive (List.contains_iff_mem.mp hknown)
        rw [String.toList_ofList] at hprimitive
        rwa [← List.prefix_iff_eq_take.mp <| List.takeWhile_prefix _]
      · cases h

theorem IsType.mono {primitives more : List String} {type : List Char} (hknown : primitives ⊆ more)
    (h : IsType primitives type) : IsType more type := by
  cases h with
  | primitive htype => exact .primitive (hknown htype)
  | named hupper hword harguments hbrackets => exact .named hupper hword harguments hbrackets

/-- Behind a type there are blanks, and it is taken off together with them. -/
theorem type?_eq_some {primitives : List String} {start type text : List Char}
    (h : type? primitives start = some (type, text)) :
    IsType primitives type ∧
      ∃ gap, start = type ++ gap ++ text ∧ gap ≠ [] ∧ ∀ c ∈ gap, isBlank c = true := by
  obtain ⟨length, hmeasured, h⟩ := Option.bind_eq_some_iff.mp h
  obtain ⟨rest, hblank, hsame⟩ := Option.map_eq_some_iff.mp h
  obtain ⟨rfl, rfl⟩ := Prod.mk.inj hsame
  obtain ⟨gap, hbehind, hfilled, hblanks⟩ := blanks?_append hblank
  refine ⟨typeLength?_eq_some hmeasured, gap, ?_, hfilled, hblanks⟩
  rw [List.append_assoc, ← hbehind, List.take_append_drop]

/-! ### The declarations of a text -/

/-- What is found in a line is a whole word, behind the type that is kept. -/
theorem Found.Read.stands {line : List Char} {found : Found} (hread : found.Read line) :
    ∃ front rest, line = front ++ found.name ++ rest ∧ found.column = front.length + 1 ∧
      IsName found.name ∧ (∀ c, rest.head? = some c → isWord c = false) ∧
      ∀ type, found.detail = some type → EndsWithType front type := by
  cases hread with
  | plain htail hnamed =>
    obtain ⟨front, rfl⟩ := htail
    obtain ⟨⟨rest, hnamed⟩, hcolumn, hdetail⟩ := named?_eq_some hnamed
    obtain ⟨hisName, hwhole⟩ := name?_eq_some hnamed
    refine ⟨front, rest, ?_, hcolumn, hisName, hwhole, ?_⟩
    · rw [name?_append hnamed, List.append_assoc]
    · simp [hdetail]
  | @typed primitives start type text kind after hknown htail htyped hnamed =>
    obtain ⟨before, rfl⟩ := htail
    obtain ⟨hisType, gap, rfl, hfilled, hblanks⟩ := type?_eq_some htyped
    rw [← List.append_assoc, ← List.append_assoc] at hnamed
    obtain ⟨⟨rest, hnamed⟩, hcolumn, hdetail⟩ := named?_eq_some hnamed
    obtain ⟨hisName, hwhole⟩ := name?_eq_some hnamed
    refine ⟨before ++ type ++ gap, rest, ?_, hcolumn, hisName, hwhole, ?_⟩
    · simp [name?_append hnamed]
    · rintro other htype
      obtain rfl := Option.some.inj (hdetail.symm.trans htype)
      exact ⟨before, gap, rfl, hfilled, hblanks, hisType.mono hknown⟩

/-- Every declaration has a line of the text for itself, which its name stands in at its column as
a whole word. Its detail is a type, with nothing but blanks between it and the name. -/
theorem declarations_named_in_lines (text : List Char) :
    ((declarations text).Pairwise fun d e => d.span.start.line < e.span.start.line) ∧
      ∀ d ∈ declarations text, ∃ n line front rest,
        d.span.start = ⟨n + 1, front.length + 1⟩ ∧ (lines text)[n]? = some line ∧
        line = front ++ d.name.toList ++ rest ∧ IsName d.name.toList ∧
        (∀ c, rest.head? = some c → isWord c = false) ∧
        ∀ type, d.detail = some type → EndsWithType front type.toList := by
  refine ⟨(declarations_sound text).ordered, fun d hd => ?_⟩
  obtain ⟨before, line, after, found, hsplit, hread, hname, hstart, hdetail⟩ :=
    exists_found_of_mem hd
  obtain ⟨front, rest, hparts, hcolumn, hisName, hwhole, htyped⟩ := hread.stands
  have hsame : d.name.toList = found.name := by rw [hname, String.toList_ofList]
  refine ⟨before.length, line, front, rest, ?_, ?_, ?_, ?_, hwhole, ?_⟩
  · rw [hstart, hcolumn]
  · rw [hsplit, List.getElem?_append_right (Nat.le_refl _), Nat.sub_self]
    rfl
  · rw [hsame, hparts]
  · rwa [hsame]
  · intro type htype
    rw [hdetail] at htype
    obtain ⟨kept, hkept, rfl⟩ := Option.map_eq_some_iff.mp htype
    rw [String.toList_ofList]
    exact htyped kept hkept

namespace NamesWitness

/-- A method with a long type, behind a wide blank, on a line that ends in a carriage return. -/
def text : List Char := "// x\n  final Map<K, V>[]\u2003fü (a)\r\nlong n".toList

def typed : Declaration := ⟨"fü", .method, ⟨⟨2, 21⟩, ⟨2, 23⟩⟩, none, some "Map<K, V>[]"⟩

theorem declarations_named_in_lines_typed :
    typed ∈ declarations text ∧ ∃ n line front rest,
      typed.span.start = ⟨n + 1, front.length + 1⟩ ∧ (lines text)[n]? = some line ∧
        line = front ++ "fü".toList ++ rest ∧ IsName "fü".toList ∧
        EndsWithType front "Map<K, V>[]".toList := by
  have hdeclared : typed ∈ declarations text := by decide +kernel
  obtain ⟨n, line, front, rest, hstart, hline, hparts, hisName, -, hdetail⟩ :=
    (declarations_named_in_lines text).2 typed hdeclared
  exact ⟨hdeclared, n, line, front, rest, hstart, hline, hparts, hisName, hdetail _ rfl⟩

end NamesWitness

end PipelineServer.Source
