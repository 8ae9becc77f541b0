import PipelineServer.Text.Utf8

/-!
The bytes of a text are those of its characters, one after the other, and they keep the order of
the texts.
-/

namespace PipelineServer.Text

theorem toList_loop_eq (bytes : ByteArray) (i : Nat) (read : List UInt8) :
    ByteArray.toList.loop bytes i read = read.reverse ++ bytes.data.toList.drop i := by
  induction i, read using ByteArray.toList.loop.induct bytes with
  | case1 i read hlt ih =>
      have hsize : i < bytes.data.toList.length := hlt
      have hget : bytes.get! i = bytes.data.toList[i] := getElem!_pos bytes.data i hlt
      rw [ByteArray.toList.loop, if_pos hlt, ih, List.reverse_cons, List.append_assoc, hget,
        List.drop_eq_getElem_cons hsize]
      rfl
  | case2 i read hge =>
      have hsize : bytes.data.toList.length ≤ i := Nat.not_lt.1 hge
      rw [ByteArray.toList.loop, if_neg hge, List.drop_eq_nil_of_le hsize, List.append_nil]

theorem encodeUtf8_eq_data (text : String) : encodeUtf8 text = text.toByteArray.data.toList := by
  rw [encodeUtf8, String.toUTF8, ByteArray.toList, toList_loop_eq, List.drop_zero]
  rfl

theorem encodeUtf8_injective {text other : String} (h : encodeUtf8 text = encodeUtf8 other) :
    text = other := by
  rw [encodeUtf8_eq_data, encodeUtf8_eq_data, Array.toList_inj] at h
  exact String.toByteArray_inj.1 (ByteArray.ext h)

theorem encodeUtf8_ofList (chars : List Char) :
    encodeUtf8 (String.ofList chars) = chars.flatMap String.utf8EncodeChar := by
  rw [encodeUtf8_eq_data, String.toByteArray_ofList, List.utf8Encode, List.data_toByteArray]

theorem encodeUtf8_append (text other : String) :
    encodeUtf8 (text ++ other) = encodeUtf8 text ++ encodeUtf8 other := by
  rw [encodeUtf8_eq_data, encodeUtf8_eq_data, encodeUtf8_eq_data, String.toByteArray_append,
    ByteArray.data_append, Array.toList_append]

/-- The first byte that differs decides. -/
theorem byte_cons_lt {m n : Nat} (hn : n < 256) (hle : m ≤ n) {s t : List UInt8}
    (h : m = n → s < t) : UInt8.ofNat m :: s < UInt8.ofNat n :: t := by
  have hm : m < 256 := Nat.lt_of_le_of_lt hle hn
  rcases Nat.lt_or_eq_of_le hle with hlt | rfl
  · apply List.cons_lt_cons_iff.2
    left
    rwa [UInt8.lt_iff_toNat_lt, UInt8.toNat_ofNat_of_lt' hm, UInt8.toNat_ofNat_of_lt' hn]
  · exact List.cons_lt_cons_self.2 (h rfl)

/-- The bytes of a character are in front of those of any later one, whatever follows. -/
theorem encodeChar_append_lt {c d : Char} (h : c < d) (s t : List UInt8) :
    String.utf8EncodeChar c ++ s < String.utf8EncodeChar d ++ t := by
  have hlt : c.val.toNat < d.val.toNat := h
  have hlast : d.val.toNat < 0x110000 := by
    rcases d.valid with hd | hd
    · exact Nat.lt_trans hd (by decide)
    · exact hd.2
  rw [String.utf8EncodeChar, String.utf8EncodeChar]
  generalize c.val.toNat = v at hlt
  generalize d.val.toNat = w at hlt hlast
  repeat' split
  -- the first byte is larger the more bytes follow it, so only equal lengths are left
  all_goals refine byte_cons_lt (by omega) (by omega) fun hlead => ?_
  any_goals omega
  · exact byte_cons_lt (by omega) (by omega) fun hsecond => by omega
  · refine byte_cons_lt (by omega) (by omega) fun hsecond => ?_
    exact byte_cons_lt (by omega) (by omega) fun hthird => by omega
  · refine byte_cons_lt (by omega) (by omega) fun hsecond => ?_
    refine byte_cons_lt (by omega) (by omega) fun hthird => ?_
    exact byte_cons_lt (by omega) (by omega) fun hfourth => by omega

theorem flatMap_encodeChar_lt {chars others : List Char} (h : chars < others) :
    chars.flatMap String.utf8EncodeChar < others.flatMap String.utf8EncodeChar := by
  induction h with
  | @nil c rest =>
      obtain ⟨b, bytes, hbytes⟩ :=
        List.exists_cons_of_ne_nil (String.utf8EncodeChar_ne_nil (c := c))
      rw [List.flatMap_cons, hbytes]
      exact List.nil_lt_cons _ _
  | cons h ih =>
      rw [List.flatMap_cons, List.flatMap_cons]
      exact List.append_left_lt ih
  | rel h =>
      rw [List.flatMap_cons, List.flatMap_cons]
      exact encodeChar_append_lt h _ _

/-- Texts in order have their bytes in order. -/
theorem encodeUtf8_lt {text other : String} (h : text < other) :
    encodeUtf8 text < encodeUtf8 other := by
  have hbytes := flatMap_encodeChar_lt (String.lt_iff.1 h)
  rwa [← encodeUtf8_ofList, ← encodeUtf8_ofList, String.ofList_toList, String.ofList_toList]
    at hbytes

end PipelineServer.Text
