import PipelineServer.Text.Cursor

/-!
Texts as editors hold them: as UTF-16 code units, with places named by line and column in these
units.

A position that is in the buffer and does not cut a character in two is the same place in the code
units and in the characters (`Buffer.exists_front`). So splicing characters between two such
positions is splicing code units (`Buffer.encodeUtf16_splice`).
-/

namespace PipelineServer

namespace Text

/-- The UTF-16 code units of a character: one, or a high and a low surrogate. -/
def utf16Units (c : Char) : List UInt16 :=
  if c.toNat < 0x10000 then [UInt16.ofNat c.toNat]
  else
    [UInt16.ofNat (0xD800 + (c.toNat - 0x10000) / 0x400),
      UInt16.ofNat (0xDC00 + (c.toNat - 0x10000) % 0x400)]

/-- The UTF-16 encoding of a text. -/
def encodeUtf16 (text : List Char) : List UInt16 := text.flatMap utf16Units

@[simp] theorem encodeUtf16_nil : encodeUtf16 [] = [] := rfl

@[simp] theorem encodeUtf16_cons (c : Char) (rest : List Char) :
    encodeUtf16 (c :: rest) = utf16Units c ++ encodeUtf16 rest := List.flatMap_cons

@[simp] theorem encodeUtf16_append (a b : List Char) :
    encodeUtf16 (a ++ b) = encodeUtf16 a ++ encodeUtf16 b := List.flatMap_append

@[simp] theorem utf16Units_length (c : Char) : (utf16Units c).length = utf16Length c := by
  unfold utf16Units utf16Length
  split <;> rfl

theorem utf16Length_pos (c : Char) : 0 < utf16Length c := by
  unfold utf16Length
  split <;> decide

/-- A text without code units has no characters. -/
theorem length_encodeUtf16_eq_zero {text : List Char} (h : (encodeUtf16 text).length = 0) :
    text = [] := by
  cases text with
  | nil => rfl
  | cons c rest =>
      have hpos := utf16Length_pos c
      rw [encodeUtf16_cons, List.length_append, utf16Units_length] at h
      omega

@[simp] theorem before_append (front rest : List Char) : before (front ++ rest) rest = front := by
  simp [before]

end Text

open Text (encodeUtf16 utf16Units)

/-- The text of an editor, in UTF-16 code units. -/
abbrev Buffer := List UInt16

namespace Buffer

/-- The code unit that ends a line. -/
def newline : UInt16 := 0x0A

/-- The lines of a buffer, without the newlines between them. -/
def lines (b : Buffer) : List Buffer := b.splitOn newline

/-- Where line `n` starts: behind the lines above it and their newlines. -/
def lineStart (b : Buffer) (n : Nat) : Nat :=
  ((b.lines.take n).flatMap fun line => line ++ [newline]).length

/-- The number of code units in front of a position. -/
def index (b : Buffer) (p : Position) : Nat := b.lineStart p.line + p.character

def isHighSurrogate (u : UInt16) : Bool := 0xD800 ≤ u && u < 0xDC00

def isLowSurrogate (u : UInt16) : Bool := 0xDC00 ≤ u && u < 0xE000

/-- Whether a place lies between the two halves of one character. -/
def insidePair (b : Buffer) (i : Nat) : Bool :=
  0 < i && (b[i - 1]?).any isHighSurrogate && (b[i]?).any isLowSurrogate

/-- A position the buffer has: its line exists, its column is at most the length of the line, and it
cuts no character in two. -/
structure Has (b : Buffer) (p : Position) : Prop where
  column : ∃ line ∈ b.lines[p.line]?, p.character ≤ line.length
  whole : b.insidePair (b.index p) = false

instance (b : Buffer) (p : Position) : Decidable (b.Has p) :=
  decidable_of_iff
    ((∃ line ∈ b.lines[p.line]?, p.character ≤ line.length) ∧ b.insidePair (b.index p) = false)
    ⟨fun h => ⟨h.1, h.2⟩, fun h => ⟨h.column, h.whole⟩⟩

/-- A character beyond the first plane is a high surrogate followed by a low one. -/
theorem utf16Units_pair {c : Char} (h : 0x10000 ≤ c.toNat) :
    ∃ high low, utf16Units c = [high, low] ∧ isHighSurrogate high = true ∧
      isLowSurrogate low = true := by
  have hvalid : c.toNat < 0x110000 := by
    have hscalar := c.valid
    simp only [UInt32.isValidChar, Nat.isValidChar, Char.toNat_val] at hscalar
    omega
  have hhigh : (c.toNat - 0x10000) / 0x400 < 0x400 := by omega
  have hlow : (c.toNat - 0x10000) % 0x400 < 0x400 := Nat.mod_lt _ (by decide)
  refine ⟨_, _, if_neg (Nat.not_lt.2 h), ?_, ?_⟩
  · simp only [isHighSurrogate, Bool.and_eq_true, decide_eq_true_eq, UInt16.le_iff_toNat_le,
      UInt16.lt_iff_toNat_lt, UInt16.toNat_ofNat', UInt16.reduceToNat]
    omega
  · simp only [isLowSurrogate, Bool.and_eq_true, decide_eq_true_eq, UInt16.le_iff_toNat_le,
      UInt16.lt_iff_toNat_lt, UInt16.toNat_ofNat', UInt16.reduceToNat]
    omega

theorem newline_not_mem_utf16Units {c : Char} (hc : c ≠ '\n') : newline ∉ utf16Units c := by
  by_cases hsmall : c.toNat < 0x10000
  · rw [utf16Units, if_pos hsmall, List.mem_singleton]
    intro heq
    apply hc
    have hnat := congrArg UInt16.toNat heq
    rw [UInt16.toNat_ofNat_of_lt' hsmall] at hnat
    exact Char.toNat_inj.1 hnat.symm
  · obtain ⟨high, low, hunits, hhigh, hlow⟩ := utf16Units_pair (Nat.le_of_not_lt hsmall)
    rw [hunits]
    intro hmem
    simp only [List.mem_cons, List.not_mem_nil, or_false] at hmem
    rcases hmem with rfl | rfl
    · exact absurd hhigh (by decide)
    · exact absurd hlow (by decide)

theorem lines_newline (b : Buffer) : lines (utf16Units '\n' ++ b) = [] :: lines b := by
  have hunits : utf16Units '\n' ++ b = newline :: b := rfl
  rw [hunits, lines, List.splitOn_cons_eq_if_modifyHead, if_pos (beq_self_eq_true newline), lines]

/-- Units that are no newlines make the first line longer. -/
theorem lines_append {a : Buffer} (h : newline ∉ a) (b : Buffer) :
    lines (a ++ b) = (lines b).modifyHead (a ++ ·) := by
  induction a with
  | nil => cases hb : lines b <;> simp [hb]
  | cons u rest ih =>
      rw [List.mem_cons, not_or] at h
      have hne : (u == newline) = false := beq_eq_false_iff_ne.2 (Ne.symm h.1)
      have hrest : List.splitOn newline (rest ++ b) = (lines b).modifyHead (rest ++ ·) := ih h.2
      rw [lines, List.cons_append, List.splitOn_cons_eq_if_modifyHead, hne, hrest]
      cases lines b <;> rfl

@[simp] theorem lineStart_zero (b : Buffer) : b.lineStart 0 = 0 := rfl

theorem lineStart_newline (b : Buffer) (n : Nat) :
    lineStart (utf16Units '\n' ++ b) (n + 1) = (utf16Units '\n').length + b.lineStart n := by
  rw [lineStart, lines_newline, List.take_succ_cons, List.flatMap_cons, List.length_append,
    lineStart]
  rfl

theorem lineStart_append {a : Buffer} (h : newline ∉ a) (b : Buffer) (n : Nat) :
    lineStart (a ++ b) (n + 1) = a.length + b.lineStart (n + 1) := by
  obtain ⟨line, rest, hlines⟩ := List.exists_cons_of_ne_nil (List.splitOn_ne_nil newline b)
  rw [lineStart, lines_append h, lineStart, lines, hlines, List.modifyHead_cons,
    List.take_succ_cons, List.take_succ_cons, List.flatMap_cons, List.flatMap_cons]
  simp only [List.length_append, Nat.add_assoc]

theorem lineStart_succ {b : Buffer} {n : Nat} {line : Buffer} (h : b.lines[n]? = some line) :
    b.lineStart (n + 1) = b.lineStart n + line.length + 1 := by
  simp [lineStart, List.take_add_one, h, Nat.add_assoc]

theorem lineStart_le_lineStart (b : Buffer) {m n : Nat} (h : m ≤ n) :
    b.lineStart m ≤ b.lineStart n := by
  induction h with
  | refl => exact Nat.le_refl _
  | step _ ih =>
      refine Nat.le_trans ih ?_
      simp [lineStart, List.take_add_one]

/-- Positions in order are places in order. -/
theorem index_le_index {b : Buffer} {p q : Position} (hp : b.Has p) (h : p ≤ q) :
    b.index p ≤ b.index q := by
  obtain ⟨line, hline, hcolumn⟩ := hp.column
  unfold index
  rcases h with hlt | ⟨heq, hle⟩
  · have hnext := lineStart_succ hline
    have hmono : b.lineStart (p.line + 1) ≤ b.lineStart q.line := b.lineStart_le_lineStart hlt
    omega
  · rw [heq]
    omega

theorem insidePair_of_append {a b : Buffer} {i : Nat}
    (h : insidePair (a ++ b) (a.length + i) = false) : insidePair b i = false := by
  cases i with
  | zero => rfl
  | succ i =>
      have hplace : ∀ k, (a ++ b)[a.length + k]? = b[k]? := by
        intro k
        rw [List.getElem?_append_right (Nat.le_add_right _ k), Nat.add_sub_cancel_left]
      rw [insidePair, hplace, ← Nat.add_assoc, Nat.add_sub_cancel, hplace] at h
      simpa [insidePair] using h

theorem Has.of_newline {b : Buffer} {n character : Nat}
    (h : Has (utf16Units '\n' ++ b) ⟨n + 1, character⟩) : b.Has ⟨n, character⟩ := by
  obtain ⟨hcolumn, hwhole⟩ := h
  rw [index, lineStart_newline, Nat.add_assoc] at hwhole
  rw [lines_newline] at hcolumn
  exact ⟨hcolumn, insidePair_of_append hwhole⟩

theorem Has.of_append {a b : Buffer} (ha : newline ∉ a) {n character : Nat}
    (h : Has (a ++ b) ⟨n + 1, character⟩) : b.Has ⟨n + 1, character⟩ := by
  obtain ⟨hcolumn, hwhole⟩ := h
  rw [index, lineStart_append ha, Nat.add_assoc] at hwhole
  rw [lines_append ha] at hcolumn
  refine ⟨?_, insidePair_of_append hwhole⟩
  simpa using hcolumn

/-- A place behind the start of a character that does not cut it in two lies behind all of it. -/
theorem utf16Length_le_of_whole {c : Char} {b : Buffer} {n : Nat}
    (h : insidePair (utf16Units c ++ b) (n + 1) = false) : Text.utf16Length c ≤ n + 1 := by
  by_cases hsmall : c.toNat < 0x10000
  · rw [Text.utf16Length, if_pos hsmall]
    exact Nat.succ_le_succ (Nat.zero_le n)
  · rw [Text.utf16Length, if_neg hsmall]
    cases n with
    | zero =>
        obtain ⟨high, low, hunits, hhigh, hlow⟩ := utf16Units_pair (Nat.le_of_not_lt hsmall)
        rw [hunits] at h
        simp [insidePair, hhigh, hlow] at h
    | succ n => exact Nat.succ_le_succ (Nat.succ_le_succ (Nat.zero_le n))

/-- A column that cuts no character in two is the end of a stretch of characters. -/
theorem exists_front_of_column {text : List Char} {n : Nat} {line : Buffer}
    (hline : (lines (encodeUtf16 text))[0]? = some line) (hn : n ≤ line.length)
    (hwhole : insidePair (encodeUtf16 text) n = false) :
    ∃ front, text = front ++ Text.skipUnits n text ∧ (encodeUtf16 front).length = n := by
  induction text generalizing n line with
  | nil =>
      obtain rfl : [] = line := by simpa [lines] using hline
      obtain rfl : n = 0 := Nat.le_zero.1 hn
      exact ⟨[], rfl, rfl⟩
  | cons c rest ih =>
      cases n with
      | zero => exact ⟨[], rfl, rfl⟩
      | succ n =>
          by_cases hc : c = '\n'
          · subst hc
            rw [Text.encodeUtf16_cons, lines_newline] at hline
            obtain rfl : [] = line := by simpa using hline
            exact absurd hn (Nat.not_succ_le_zero n)
          · rw [Text.encodeUtf16_cons] at hline hwhole
            rw [lines_append (newline_not_mem_utf16Units hc), List.getElem?_modifyHead_zero,
              Option.map_eq_some_iff] at hline
            obtain ⟨line, hline, rfl⟩ := hline
            have hfits := utf16Length_le_of_whole hwhole
            rw [List.length_append, Text.utf16Units_length] at hn
            have hsplit : n + 1 = (utf16Units c).length + (n + 1 - Text.utf16Length c) := by
              rw [Text.utf16Units_length]
              omega
            rw [hsplit] at hwhole
            obtain ⟨front, htext, hlength⟩ :=
              ih hline (by omega) (insidePair_of_append hwhole)
            refine ⟨c :: front, ?_, ?_⟩
            · simp only [Text.skipUnits, hc, if_false, List.cons_append]
              rw [← htext]
            · rw [Text.encodeUtf16_cons, List.length_append, Text.utf16Units_length, hlength]
              omega

theorem exists_front_of_first_line {text : List Char} {character : Nat}
    (h : Has (encodeUtf16 text) ⟨0, character⟩) :
    ∃ front rest, Text.after? text ⟨0, character⟩ = some rest ∧ text = front ++ rest ∧
      (encodeUtf16 front).length = index (encodeUtf16 text) ⟨0, character⟩ := by
  have hindex : index (encodeUtf16 text) ⟨0, character⟩ = character := Nat.zero_add character
  obtain ⟨⟨line, hline, hcolumn⟩, hwhole⟩ := h
  rw [hindex] at hwhole ⊢
  obtain ⟨front, htext, hlength⟩ := exists_front_of_column hline hcolumn hwhole
  have hafter : Text.after? text ⟨0, character⟩ = some (Text.skipUnits character text) := by
    rw [Text.after?, Text.skipLines?, Option.map_some]
  exact ⟨front, _, hafter, htext, hlength⟩

/-- The place a position names, in characters and in code units. -/
theorem exists_front {text : List Char} {p : Position} (h : Has (encodeUtf16 text) p) :
    ∃ front rest, Text.after? text p = some rest ∧ text = front ++ rest ∧
      (encodeUtf16 front).length = index (encodeUtf16 text) p := by
  obtain ⟨line, character⟩ := p
  induction text generalizing line with
  | nil =>
      cases line with
      | zero => exact exists_front_of_first_line h
      | succ n =>
          obtain ⟨line, hline, -⟩ := h.column
          simp [lines] at hline
  | cons c rest ih =>
      cases line with
      | zero => exact exists_front_of_first_line h
      | succ n =>
          rw [Text.encodeUtf16_cons] at h ⊢
          by_cases hc : c = '\n'
          · subst hc
            obtain ⟨front, behind, hafter, htext, hlength⟩ := ih n h.of_newline
            refine ⟨'\n' :: front, behind, hafter, congrArg ('\n' :: ·) htext, ?_⟩
            rw [Text.encodeUtf16_cons, List.length_append, hlength, index, index,
              lineStart_newline, Nat.add_assoc]
          · have hunits := newline_not_mem_utf16Units hc
            obtain ⟨front, behind, hafter, htext, hlength⟩ := ih (n + 1) (h.of_append hunits)
            have hskip : Text.after? (c :: rest) ⟨n + 1, character⟩ =
                Text.after? rest ⟨n + 1, character⟩ := by
              simp only [Text.after?, Text.skipLines?, hc, if_false]
            refine ⟨c :: front, behind, hskip.trans hafter, congrArg (c :: ·) htext, ?_⟩
            rw [Text.encodeUtf16_cons, List.length_append, hlength, index, index,
              lineStart_append hunits, Nat.add_assoc]

/-- Of two ways to cut a text, the one with fewer code units in front has more characters behind. -/
theorem exists_between {front rest front' rest' : List Char}
    (h : front ++ rest = front' ++ rest')
    (hle : (encodeUtf16 front).length ≤ (encodeUtf16 front').length) :
    ∃ between, rest = between ++ rest' := by
  rcases List.append_eq_append_iff.1 h with ⟨between, -, hrest⟩ | ⟨between, hfront, hrest⟩
  · exact ⟨between, hrest⟩
  · -- the cuts can only be the other way round if they are the same
    rw [hfront, Text.encodeUtf16_append, List.length_append] at hle
    have hnil : between = [] := Text.length_encodeUtf16_eq_zero (by omega)
    subst hnil
    exact ⟨[], hrest.symm⟩

/-- Splicing characters is splicing code units. -/
theorem encodeUtf16_splice {text : List Char} {r : Range} (new : List Char)
    (hstart : Has (encodeUtf16 text) r.start) (hstop : Has (encodeUtf16 text) r.stop)
    (horder : r.start ≤ r.stop) :
    encodeUtf16 (Text.splice text r new) =
      (encodeUtf16 text).take (index (encodeUtf16 text) r.start) ++ encodeUtf16 new ++
        (encodeUtf16 text).drop (index (encodeUtf16 text) r.stop) := by
  have hle := index_le_index hstart horder
  obtain ⟨front, rest, hafter, htext, hlength⟩ := exists_front hstart
  obtain ⟨front', rest', hafter', htext', hlength'⟩ := exists_front hstop
  rw [← hlength, ← hlength'] at hle ⊢
  obtain ⟨between, rfl⟩ := exists_between (htext.symm.trans htext') hle
  have hsplice : Text.splice text r new = front ++ new ++ rest' := by
    have hlonger : ¬(between ++ rest').length < rest'.length := by simp
    simp only [Text.splice, hafter, hafter', Option.getD_some, hlonger, if_false]
    rw [htext, Text.before_append]
  have htake : (encodeUtf16 text).take (encodeUtf16 front).length = encodeUtf16 front := by
    rw [htext, Text.encodeUtf16_append, List.take_left]
  have hdrop : (encodeUtf16 text).drop (encodeUtf16 front').length = encodeUtf16 rest' := by
    rw [htext', Text.encodeUtf16_append, List.drop_left]
  rw [hsplice, htake, hdrop, Text.encodeUtf16_append, Text.encodeUtf16_append]

end Buffer

end PipelineServer
