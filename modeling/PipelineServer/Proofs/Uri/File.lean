import PipelineServer.Proofs.Path
import PipelineServer.Uri.File

/-!
The way from a path to its file uri and back.

The file uri of a source file leads back to the same components. The path one gets has a slash in
front of every step and nothing else.
-/

namespace PipelineServer.Uri

theorem decodeBytes_cons_of_ne {c : Char} (h : c ≠ '%') (rest : List Char) :
    decodeBytes (c :: rest) = Text.encodeUtf8 c.toString ++ decodeBytes rest := by
  rw [decodeBytes]
  intro high low rest' heq
  exact absurd heq (by simp [h])

theorem hexValue?_upperHexDigit : ∀ n < 16, Text.hexValue? (upperHexDigit n) = some n := by
  decide

theorem encodeUtf8_ascii :
    ∀ n < 0x80, Text.encodeUtf8 (Char.ofNat n).toString = [UInt8.ofNat n] := by
  decide +kernel

/-- An ASCII character other than the percent sign stands for its byte. -/
theorem decodeBytes_cons_of_ascii {b : UInt8} (hb : b < 0x80) (hne : Char.ofNat b.toNat ≠ '%')
    (rest : List Char) : decodeBytes (Char.ofNat b.toNat :: rest) = b :: decodeBytes rest := by
  have hascii := encodeUtf8_ascii b.toNat (UInt8.lt_iff_toNat_lt.1 hb)
  rw [decodeBytes_cons_of_ne hne, hascii, UInt8.ofNat_toNat]
  rfl

theorem decodeBytes_escapeByte (b : UInt8) (rest : List Char) :
    decodeBytes (escapeByte b ++ rest) = b :: decodeBytes rest := by
  have hhigh := hexValue?_upperHexDigit (b.toNat / 16) (by have := b.toNat_lt; omega)
  have hlow := hexValue?_upperHexDigit (b.toNat % 16) (by omega)
  have hbyte : b.toNat / 16 * 16 + b.toNat % 16 = b.toNat := by omega
  simp only [escapeByte, List.cons_append, List.nil_append, decodeBytes, hhigh, hlow, hbyte,
    UInt8.ofNat_toNat]

theorem decodeBytes_encodeByte {escaped : Char → Bool} (hpercent : escaped '%' = true) (b : UInt8)
    (rest : List Char) : decodeBytes (encodeByte escaped b ++ rest) = b :: decodeBytes rest := by
  rw [encodeByte]
  by_cases hplain : (decide (b < 0x80) && !escaped (Char.ofNat b.toNat)) = true
  · rw [if_pos hplain]
    simp only [Bool.and_eq_true, decide_eq_true_eq, Bool.not_eq_true'] at hplain
    have hne : Char.ofNat b.toNat ≠ '%' := by
      intro heq
      rw [heq, hpercent] at hplain
      cases hplain.2
    exact decodeBytes_cons_of_ascii hplain.1 hne rest
  · rw [if_neg hplain]
    exact decodeBytes_escapeByte b rest

theorem decodeBytes_encodeBytes {escaped : Char → Bool} (hpercent : escaped '%' = true)
    (bytes : List UInt8) (rest : List Char) :
    decodeBytes (encodeBytes escaped bytes ++ rest) = bytes ++ decodeBytes rest := by
  induction bytes with
  | nil => rfl
  | cons b bytes ih =>
      have hcons : encodeBytes escaped (b :: bytes) =
          encodeByte escaped b ++ encodeBytes escaped bytes := List.flatMap_cons
      rw [hcons, List.append_assoc, decodeBytes_encodeByte hpercent, ih]
      rfl

theorem decodeBytes_stepText (step : Component) (rest : List Char) :
    decodeBytes (stepText step ++ rest) = step.spelling ++ decodeBytes rest := by
  have hdot : ∀ rest, decodeBytes ('.' :: rest) = Path.dot :: decodeBytes rest :=
    decodeBytes_cons_of_ascii (b := Path.dot) (by decide) (by decide)
  cases step with
  | name bytes => exact decodeBytes_encodeBytes rfl bytes rest
  | up => simp [stepText, hdot, Component.spelling]
  | here => simp [stepText, hdot, Component.spelling]
  | root => simp [stepText, hdot, Component.spelling]

/-- The path part of a file uri. -/
def stepsText (steps : List Component) : List Char := steps.flatMap fun step => '/' :: stepText step

theorem decodeBytes_stepsText (steps : List Component) :
    decodeBytes (stepsText steps) = (Path.written steps).bytes := by
  induction steps with
  | nil => rfl
  | cons step rest ih =>
      have hcons : stepsText (step :: rest) = '/' :: (stepText step ++ stepsText rest) := rfl
      have hslash := decodeBytes_cons_of_ascii (b := Path.slash) (by decide) (by decide)
        (stepText step ++ stepsText rest)
      rw [hcons]
      refine hslash.trans ?_
      rw [decodeBytes_stepText, ih]
      rfl

/-- A mark that is escaped, and that no escape is written with, does not occur. -/
theorem not_mem_encodeByte {escaped : Char → Bool} {mark : Char} (hmark : escaped mark = true)
    (hpercent : mark ≠ '%') (hdigit : ∀ n < 16, mark ≠ upperHexDigit n) (b : UInt8) :
    mark ∉ encodeByte escaped b := by
  intro hmem
  rw [encodeByte] at hmem
  split at hmem
  · rename_i hplain
    rw [← List.mem_singleton.1 hmem, hmark, Bool.not_true, Bool.and_false] at hplain
    cases hplain
  · have hhigh := hdigit (b.toNat / 16) (by have := b.toNat_lt; omega)
    have hlow := hdigit (b.toNat % 16) (by omega)
    simp [escapeByte, hpercent, hhigh, hlow] at hmem

/-- No character of a file uri's path ends the path. -/
theorem not_ends_of_mem_stepText {step : Component} {c : Char} (hc : c ∈ stepText step) :
    c ≠ '?' ∧ c ≠ '#' := by
  cases step with
  | name bytes =>
      obtain ⟨b, -, hb⟩ := List.mem_flatMap.1 hc
      constructor
      · rintro rfl
        exact not_mem_encodeByte (by decide) (by decide) (by decide) b hb
      · rintro rfl
        exact not_mem_encodeByte (by decide) (by decide) (by decide) b hb
  | up =>
      obtain rfl : c = '.' := by simpa [stepText] using hc
      decide
  | here =>
      obtain rfl : c = '.' := by simpa [stepText] using hc
      decide
  | root =>
      obtain rfl : c = '.' := by simpa [stepText] using hc
      decide

theorem hostAndPath?_file {steps : List Component} {path : List Char}
    (h : stepsText steps = '/' :: path) :
    hostAndPath? ⟨String.ofList ("file://".toList ++ stepsText steps)⟩ = some ([], path) := by
  have hends : ∀ c ∈ path, (!c == '?' && !c == '#') = true := by
    intro c hc
    have hmem : c ∈ stepsText steps := h ▸ List.mem_cons_of_mem '/' hc
    obtain ⟨step, -, hstep⟩ := List.mem_flatMap.1 hmem
    rcases List.mem_cons.1 hstep with rfl | hstep
    · rfl
    · simp [not_ends_of_mem_stepText hstep]
  have hwhole : path.takeWhile (fun c => !c == '?' && !c == '#') = path := by
    have happend : (path ++ []).takeWhile (fun c => !c == '?' && !c == '#') = path ++ [] :=
      List.takeWhile_append_of_pos hends
    rwa [List.append_nil] at happend
  rw [hostAndPath?, String.toList_ofList, h]
  simp [hwhole]

theorem closeDrive_of_getLast? {path : List UInt8} {last : UInt8} (h : path.getLast? = some last)
    (hmark : last ≠ 0x3A ∧ last ≠ 0x7C) : closeDrive path = path := by
  unfold closeDrive
  split
  · rename_i mark letter _ _ hreverse
    have hlast : mark = last := by
      rw [← List.head?_reverse, hreverse, List.head?_cons] at h
      exact Option.some.inj h
    simp [hlast, hmark]
  · rfl

theorem toPath?_file {steps : List Component} (hne : steps ≠ []) :
    toPath? ⟨String.ofList ("file://".toList ++ stepsText steps)⟩ =
      some ⟨closeDrive (Path.written steps).bytes⟩ := by
  cases steps with
  | nil => exact absurd rfl hne
  | cons first rest =>
      have hpath : stepsText (first :: rest) = '/' :: (stepText first ++ stepsText rest) := rfl
      rw [toPath?, hostAndPath?_file hpath]
      simp [← hpath, decodeBytes_stepsText]

theorem exists_steps_of_ofPath? {p : Path} {uri : Uri} (h : ofPath? p = some uri) :
    ∃ steps, p.components = .root :: steps ∧
      (steps ≠ [] → uri = ⟨String.ofList ("file://".toList ++ stepsText steps)⟩) := by
  unfold ofPath? at h
  split at h
  · rename_i hcomponents
    exact ⟨[], hcomponents, fun hne => absurd rfl hne⟩
  · rename_i steps _ hcomponents
    exact ⟨steps, hcomponents, fun _ => (Option.some.inj h).symm⟩
  · cases h

theorem ofPath?_congr {p q : Path} (h : p.components = q.components) : ofPath? p = ofPath? q := by
  rw [ofPath?, ofPath?, h]

/-- The file uri of a source path leads back to its components. -/
theorem exists_toPath?_of_ofPath? {p : Path} {uri : Uri} (h : ofPath? p = some uri)
    (hsource : p.isSource = true) :
    ∃ path, uri.toPath? = some path ∧ path.components = p.components ∧
      path.steps = p.components ∧ path.bytes.Sublist p.bytes ∧ path.bytes ≠ [] := by
  obtain ⟨name, last, hname, hlast, hmark⟩ := Path.exists_last_of_isSource hsource
  obtain ⟨steps, hcomponents, huri⟩ := exists_steps_of_ofPath? h
  cases steps with
  | nil =>
      rw [hcomponents] at hname
      cases hname
  | cons first rest =>
      have hne : first :: rest ≠ [] := List.cons_ne_nil _ _
      have hreadable : ∀ c ∈ first :: rest, c.Readable := fun c hc =>
        Path.readable_of_mem hcomponents hc
      rw [hcomponents, List.getLast?_cons_cons] at hname
      refine ⟨.written (first :: rest), ?_, ?_, ?_, Path.written_sublist hcomponents,
        List.cons_ne_nil _ _⟩
      · rw [huri hne, toPath?_file hne,
          closeDrive_of_getLast? (Path.getLast?_written hname hlast) hmark]
      · rw [hcomponents, Path.components_written hreadable hne]
      · rw [hcomponents, Path.steps_written hreadable hname]

end PipelineServer.Uri
