import SuiteAudit.Disk.Access
import Mathlib.Data.List.Basic
import Mathlib.Tactic.SplitIfs
/-!
# Text — characters and their bytes

A character is spelled by one byte if it is an ASCII character, and else by a byte
that announces how many more there are and by these. So a byte below `0x80` in the
bytes of a text always stands for a character of the text (`mem_of_mem_utf8Bytes`),
and bytes that spell a text are shown as this text (`showBytes_utf8Bytes`): a name on
a disk that is text is shown letter by letter. The bytes of texts that are put together
are those of each of them, one after the other (`utf8Bytes_append`, `utf8Bytes_join`).
-/

namespace SuiteAudit.Text

variable {c : Char} {byte next : UInt8} {bytes rest : List UInt8} {text : String}
variable {following least greatest bits : Nat}

/-! ## Texts that are put together -/

theorem toList_loop_byteArray (bytes : ByteArray) (i : Nat) (taken : List UInt8) :
    ByteArray.toList.loop bytes i taken = taken.reverse ++ bytes.data.toList.drop i := by
  fun_induction ByteArray.toList.loop bytes i taken with
  | case1 i taken hlt ih =>
    have hlen : i < bytes.data.toList.length := by simpa using hlt
    have hget : bytes.get! i = bytes.data.toList[i] := by
      have hget! : bytes.get! i = bytes.data[i]! := by
        cases bytes
        rfl
      rw [hget!, getElem!_pos bytes.data i hlt, Array.getElem_toList]
    rw [ih, List.drop_eq_getElem_cons hlen, hget, List.reverse_cons, List.append_assoc,
      List.singleton_append]
  | case2 i taken hlt =>
    rw [List.drop_eq_nil_of_le (by simpa using hlt), List.append_nil]

/-- The bytes of an array as they are listed and as they are stored. -/
theorem toList_byteArray (bytes : ByteArray) : bytes.toList = bytes.data.toList := by
  rw [ByteArray.toList, toList_loop_byteArray, List.reverse_nil, List.nil_append, List.drop_zero]

@[simp] theorem utf8Bytes_empty : utf8Bytes "" = [] := by
  simp [utf8Bytes]

theorem utf8Bytes_append (a b : String) : utf8Bytes (a ++ b) = utf8Bytes a ++ utf8Bytes b := by
  simp only [utf8Bytes, toList_byteArray, String.toUTF8_eq_toByteArray, String.toByteArray_append,
    ByteArray.toList_data_append]

/-- Texts of the same bytes are the same text. -/
theorem utf8Bytes_inj {a b : String} : utf8Bytes a = utf8Bytes b ↔ a = b := by
  simp only [utf8Bytes, toList_byteArray, String.toUTF8_eq_toByteArray]
  constructor
  · intro h
    exact String.toByteArray_inj.1 (ByteArray.ext (Array.toList_inj.1 h))
  · rintro rfl
    rfl

/-- **The bytes of texts put together are the bytes of each of them.** -/
theorem utf8Bytes_join (texts : List String) :
    utf8Bytes (String.join texts) = (texts.map utf8Bytes).flatten := by
  induction texts with
  | nil => simp
  | cons text texts ih =>
    rw [String.join_cons, utf8Bytes_append, ih, List.map_cons, List.flatten_cons]

/-! ## Characters one by one -/

theorem utf8Bytes_eq_flatMap (text : String) :
    utf8Bytes text = text.toList.flatMap String.utf8EncodeChar := by
  have hbytes : text.toUTF8 = (text.toList.flatMap String.utf8EncodeChar).toByteArray := by
    conv_lhs => rw [← String.ofList_toList (s := text)]
    exact String.toByteArray_ofList
  rw [utf8Bytes, hbytes, toList_byteArray, List.data_toByteArray, List.toList_toArray]

/-! ## ASCII bytes -/

/-- The bytes of a character beyond ASCII are bytes beyond ASCII. -/
theorem eq_of_mem_utf8EncodeChar (h : byte ∈ String.utf8EncodeChar c) (hbyte : byte.toNat < 0x80) :
    c.toNat = byte.toNat := by
  have hval : c.val.toNat = c.toNat := rfl
  rw [String.utf8EncodeChar, hval] at h
  split_ifs at h with h₁ h₂ h₃
  · obtain rfl := List.mem_singleton.1 h
    rw [UInt8.toNat_ofNat', Nat.mod_eq_of_lt (by omega)]
  all_goals
    simp only [List.mem_cons, List.not_mem_nil, or_false] at h
    rcases h with rfl | rfl | rfl | rfl <;> simp only [UInt8.toNat_ofNat'] at hbyte <;> omega

/-- **An ASCII byte stands for a character of the text.** -/
theorem mem_of_mem_utf8Bytes (h : byte ∈ utf8Bytes text) (hbyte : byte.toNat < 0x80) :
    Char.ofNat byte.toNat ∈ text.toList := by
  rw [utf8Bytes_eq_flatMap, List.mem_flatMap] at h
  obtain ⟨c, hc, hmem⟩ := h
  rw [← eq_of_mem_utf8EncodeChar hmem hbyte, Char.ofNat_toNat]
  exact hc

/-! ## Bytes that spell a text -/

theorem showBytes_cons_of_lt (h : byte.toNat < 0x80) :
    showBytes (byte :: rest) = Char.ofNat byte.toNat :: showBytes rest := by
  rw [showBytes, if_pos h]

/-- A byte that announces others is shown together with them. -/
theorem showBytes_cons_of_announced {n code : Nat} (hlow : 0x80 ≤ n) (hhigh : n < 0x100)
    (hann : announced? n = some ⟨following, least, greatest, bits⟩)
    (hread : readFollowing following least greatest bits bytes = (some code, rest)) :
    showBytes (UInt8.ofNat n :: bytes) = Char.ofNat code :: showBytes rest := by
  have hbyte : (UInt8.ofNat n).toNat = n := UInt8.toNat_ofNat_of_lt' hhigh
  rw [showBytes, hbyte, if_neg (by omega), hann]
  simp only [hread, Option.elim_some]

/-- A following byte holds the six lower bits of what was announced. -/
theorem readFollowing_lowerBits {v : Nat} (h : least ≤ v % 64 + 128)
    (h' : v % 64 + 128 ≤ greatest) :
    readFollowing (following + 1) least greatest (v / 64) (UInt8.ofNat (v % 64 + 128) :: rest) =
      readFollowing following 0x80 0xBF v rest := by
  have hbyte : (UInt8.ofNat (v % 64 + 128)).toNat = v % 64 + 128 :=
    UInt8.toNat_ofNat_of_lt' (show v % 64 + 128 < 256 by omega)
  have hbits : 64 * (v / 64) + (v % 64 + 128 - 0x80) = v := by omega
  rw [readFollowing, hbyte, if_pos (by simp [h, h']), hbits]

@[simp] theorem readFollowing_zero :
    readFollowing 0 least greatest bits bytes = (some bits, bytes) := by
  rw [readFollowing]

/-! The first byte of a character announces the others, holds the upper bits of the character and
admits the second byte. -/

theorem announced?_two {v : Nat} (h : 0x7F < v) (h' : v ≤ 0x7FF) :
    announced? (v / 64 % 32 + 192) = some ⟨1, 0x80, 0xBF, v / 64⟩ := by
  have hlow : 0xC2 ≤ v / 64 % 32 + 192 := by omega
  have hhigh : v / 64 % 32 + 192 ≤ 0xDF := by omega
  have hbits : v / 64 % 32 + 192 - 0xC0 = v / 64 := by omega
  rw [announced?, if_pos (by simp [hlow, hhigh]), hbits]

theorem exists_announced?_three {v : Nat} (h : 0x7FF < v) (h' : v ≤ 0xFFFF)
    (hvalid : v < 0xD800 ∨ 0xDFFF < v) :
    ∃ least greatest, announced? (v / 4096 % 16 + 224) = some ⟨2, least, greatest, v / 4096⟩ ∧
      least ≤ v / 64 % 64 + 128 ∧ v / 64 % 64 + 128 ≤ greatest := by
  have hupper : v / 4096 % 16 = v / 4096 := by omega
  rw [hupper]
  -- `E0` leaves out what fits into two bytes, and `ED` the surrogates
  by_cases h0 : v / 4096 = 0
  · exact ⟨0xA0, 0xBF, by rw [h0]; rfl, by omega, by omega⟩
  by_cases h13 : v / 4096 = 13
  · exact ⟨0x80, 0x9F, by rw [h13]; rfl, by omega, by omega⟩
  have hbits : v / 4096 + 224 - 0xE0 = v / 4096 := by omega
  refine ⟨0x80, 0xBF, ?_, by omega, by omega⟩
  simp only [announced?, Bool.and_eq_true, decide_eq_true_eq, beq_iff_eq]
  rw [if_neg (by omega), if_neg (by omega), if_neg (by omega), if_pos (by omega), hbits]

theorem exists_announced?_four {v : Nat} (h : 0xFFFF < v) (h' : v < 0x110000) :
    ∃ least greatest, announced? (v / 262144 % 8 + 240) = some ⟨3, least, greatest, v / 262144⟩ ∧
      least ≤ v / 4096 % 64 + 128 ∧ v / 4096 % 64 + 128 ≤ greatest := by
  have hupper : v / 262144 % 8 = v / 262144 := by omega
  rw [hupper]
  -- `F0` leaves out what fits into three bytes, and `F4` what lies beyond the last character
  by_cases h0 : v / 262144 = 0
  · exact ⟨0x90, 0xBF, by rw [h0]; rfl, by omega, by omega⟩
  by_cases h4 : v / 262144 = 4
  · exact ⟨0x80, 0x8F, by rw [h4]; rfl, by omega, by omega⟩
  have hbits : v / 262144 + 240 - 0xF0 = v / 262144 := by omega
  refine ⟨0x80, 0xBF, ?_, by omega, by omega⟩
  simp only [announced?, Bool.and_eq_true, decide_eq_true_eq, beq_iff_eq]
  rw [if_neg (by omega), if_neg (by omega), if_neg (by omega), if_neg (by omega),
    if_neg (by omega), if_neg (by omega), if_pos (by omega), hbits]

/-- **The bytes of a character are shown as the character.** -/
theorem showBytes_utf8EncodeChar_append (c : Char) (rest : List UInt8) :
    showBytes (String.utf8EncodeChar c ++ rest) = c :: showBytes rest := by
  have hval : c.val.toNat = c.toNat := rfl
  have hvalid : c.toNat < 0xD800 ∨ 0xDFFF < c.toNat ∧ c.toNat < 0x110000 := c.valid
  rw [String.utf8EncodeChar, hval]
  generalize hv : c.toNat = v at hvalid
  have hc : Char.ofNat v = c := by rw [← hv, Char.ofNat_toNat]
  have hdiv : v / 4096 = v / 64 / 64 := by omega
  have hdiv' : v / 262144 = v / 4096 / 64 := by omega
  -- how many bytes there are
  split_ifs with h₁ h₂ h₃
  · have hbyte : (UInt8.ofNat v).toNat = v :=
      UInt8.toNat_ofNat_of_lt' (show v < 256 by omega)
    rw [List.singleton_append, showBytes_cons_of_lt (by omega), hbyte, hc]
  · rw [List.cons_append, List.singleton_append,
      showBytes_cons_of_announced (by omega) (by omega) (announced?_two (by omega) h₂)
        (readFollowing_lowerBits (by omega) (by omega)), hc]
  · obtain ⟨least, greatest, hann, hleast, hgreatest⟩ :=
      exists_announced?_three (v := v) (by omega) h₃ (by omega)
    have hread : readFollowing 2 least greatest (v / 4096) (UInt8.ofNat (v / 64 % 64 + 128) ::
        UInt8.ofNat (v % 64 + 128) :: rest) = (some v, rest) := by
      rw [hdiv, readFollowing_lowerBits hleast hgreatest,
        readFollowing_lowerBits (by omega) (by omega), readFollowing_zero]
    rw [← hc]
    exact showBytes_cons_of_announced (by omega) (by omega) hann hread
  · obtain ⟨least, greatest, hann, hleast, hgreatest⟩ :=
      exists_announced?_four (v := v) (by omega) (by omega)
    have hread : readFollowing 3 least greatest (v / 262144) (UInt8.ofNat (v / 4096 % 64 + 128) ::
        UInt8.ofNat (v / 64 % 64 + 128) :: UInt8.ofNat (v % 64 + 128) :: rest) =
          (some v, rest) := by
      rw [hdiv', readFollowing_lowerBits hleast hgreatest, hdiv,
        readFollowing_lowerBits (by omega) (by omega),
        readFollowing_lowerBits (by omega) (by omega), readFollowing_zero]
    rw [← hc]
    exact showBytes_cons_of_announced (by omega) (by omega) hann hread

theorem showBytes_utf8Bytes (text : String) : showBytes (utf8Bytes text) = text.toList := by
  rw [utf8Bytes_eq_flatMap]
  induction text.toList with
  | nil => rw [List.flatMap_nil, showBytes]
  | cons c cs ih => rw [List.flatMap_cons, showBytes_utf8EncodeChar_append, ih]

end SuiteAudit.Text

namespace SuiteAudit.Path

/-- **A name that is text is shown as this text.** -/
@[simp] theorem shown_ofText (text : String) : shown (ofText text) = text := by
  rw [shown, ofText, Text.showBytes_utf8Bytes, String.ofList_toList]

end SuiteAudit.Path
