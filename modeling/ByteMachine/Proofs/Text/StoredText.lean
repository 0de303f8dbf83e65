import ByteMachine.Proofs.Text.Cutting
import ByteMachine.Text.Utf8
import Mathlib.Tactic.SplitIfs

/-!
# Texts stored and read

A text that is encoded is read back as it is.  Reading a file as a text turns carriage returns into
line feeds, which changes no line: a pair of both ends one line, before and afterwards.
-/

namespace ByteMachine
namespace Text

/-! ## Encoding -/

/-- The bytes of an array that are still to be listed come behind those listed so far. -/
theorem toList_loop (bytes : ByteArray) (index : Nat) (read : List UInt8) :
    ByteArray.toList.loop bytes index read = read.reverse ++ bytes.data.toList.drop index := by
  fun_induction ByteArray.toList.loop bytes index read with
  | case1 index read small induction =>
      have inside : index < bytes.data.toList.length := by simpa using small
      have byte : bytes.get! index = bytes.data.toList[index] := getElem!_pos bytes.data index small
      rw [induction, List.drop_eq_getElem_cons inside, byte, List.reverse_cons, List.append_assoc,
        List.singleton_append]
  | case2 index read large =>
      rw [List.drop_eq_nil_of_le, List.append_nil]
      simpa using large

/-- The bytes of a character. -/
def encodeChar (c : Char) : List Byte :=
  (String.utf8EncodeChar c).map UInt8.toBitVec

theorem encodeUtf8_eq_flatMap (text : Text) : encodeUtf8 text = text.flatMap encodeChar := by
  rw [encodeUtf8, ByteArray.toList, toList_loop]
  simp only [String.toUTF8, String.toByteArray_ofList, List.utf8Encode, List.toList_data_toByteArray,
    List.reverse_nil, List.nil_append, List.drop_zero, List.map_flatMap]
  rfl

/-- The bytes of a character by its code point. -/
theorem encodeChar_eq (c : Char) :
    encodeChar c =
      if c.toNat ≤ 0x7F then [BitVec.ofNat 8 c.toNat]
      else if c.toNat ≤ 0x7FF then
        [BitVec.ofNat 8 (c.toNat / 64 % 32 + 0xC0), BitVec.ofNat 8 (c.toNat % 64 + 0x80)]
      else if c.toNat ≤ 0xFFFF then
        [BitVec.ofNat 8 (c.toNat / 4096 % 16 + 0xE0), BitVec.ofNat 8 (c.toNat / 64 % 64 + 0x80),
          BitVec.ofNat 8 (c.toNat % 64 + 0x80)]
      else
        [BitVec.ofNat 8 (c.toNat / 262144 % 8 + 0xF0), BitVec.ofNat 8 (c.toNat / 4096 % 64 + 0x80),
          BitVec.ofNat 8 (c.toNat / 64 % 64 + 0x80), BitVec.ofNat 8 (c.toNat % 64 + 0x80)] := by
  unfold encodeChar String.utf8EncodeChar
  simp only [apply_ite (List.map UInt8.toBitVec)]
  rfl

theorem toNat_byte {value : Nat} (small : value < 0x100) : (BitVec.ofNat 8 value).toNat = value := by
  rw [BitVec.toNat_ofNat]
  exact Nat.mod_eq_of_lt small

section FirstBytes

variable {high : Nat} (position : Nat) (rest : List Byte)

theorem decodeFrom_of_start? {byte : Byte} {char : PartialChar}
    (start : PartialChar.start? byte = some char) :
    decodeFrom position none (byte :: rest) = decodeFrom (position + 1) (some char) rest := by
  have large : ¬byte.toNat < 0x80 := by
    intro small
    rw [PartialChar.start?, if_pos (by omega)] at start
    cases start
  rw [decodeFrom, if_neg large, start]

theorem decodeFrom_two (least : 0x02 ≤ high) (greatest : high < 0x20) :
    decodeFrom position none (BitVec.ofNat 8 (high + 0xC0) :: rest) =
      decodeFrom (position + 1)
        (some ⟨[BitVec.ofNat 8 (high + 0xC0)], 1, 0x80, 0xBF, high⟩) rest := by
  have code : (BitVec.ofNat 8 (high + 0xC0)).toNat = high + 0xC0 := toNat_byte (by omega)
  refine decodeFrom_of_start? position rest ?_
  simp only [PartialChar.start?, code]
  rw [if_neg (by omega), if_pos (by omega), Nat.add_sub_cancel]

theorem decodeFrom_three (small : high < 0x10) :
    decodeFrom position none (BitVec.ofNat 8 (high + 0xE0) :: rest) =
      decodeFrom (position + 1)
        (some ⟨[BitVec.ofNat 8 (high + 0xE0)], 2, if high + 0xE0 = 0xE0 then 0xA0 else 0x80,
          if high + 0xE0 = 0xED then 0x9F else 0xBF, high⟩) rest := by
  have code : (BitVec.ofNat 8 (high + 0xE0)).toNat = high + 0xE0 := toNat_byte (by omega)
  refine decodeFrom_of_start? position rest ?_
  simp only [PartialChar.start?, code]
  rw [if_neg (by omega), if_neg (by omega), if_pos (by omega), Nat.add_sub_cancel]

theorem decodeFrom_four (small : high < 0x05) :
    decodeFrom position none (BitVec.ofNat 8 (high + 0xF0) :: rest) =
      decodeFrom (position + 1)
        (some ⟨[BitVec.ofNat 8 (high + 0xF0)], 3, if high + 0xF0 = 0xF0 then 0x90 else 0x80,
          if high + 0xF0 = 0xF4 then 0x8F else 0xBF, high⟩) rest := by
  have code : (BitVec.ofNat 8 (high + 0xF0)).toNat = high + 0xF0 := toNat_byte (by omega)
  refine decodeFrom_of_start? position rest ?_
  simp only [PartialChar.start?, code]
  rw [if_neg (by omega), if_neg (by omega), if_neg (by omega), if_pos (by omega),
    Nat.add_sub_cancel]

end FirstBytes

section LaterBytes

variable {bytes : List Byte} {owed least greatest bits low : Nat} (position : Nat)
  (rest : List Byte)

theorem decodeFrom_more (small : low < 0x40) (above : least ≤ low + 0x80)
    (below : low + 0x80 ≤ greatest) :
    decodeFrom position (some ⟨bytes, owed + 2, least, greatest, bits⟩)
        (BitVec.ofNat 8 (low + 0x80) :: rest) =
      decodeFrom (position + 1) (some ⟨bytes ++ [BitVec.ofNat 8 (low + 0x80)], owed + 1, 0x80, 0xBF,
        bits * 0x40 + low⟩) rest := by
  rw [decodeFrom, toNat_byte (by omega), if_pos (by simp [above, below])]
  simp

theorem decodeFrom_last (small : low < 0x40) (above : least ≤ low + 0x80)
    (below : low + 0x80 ≤ greatest) :
    decodeFrom position (some ⟨bytes, 1, least, greatest, bits⟩)
        (BitVec.ofNat 8 (low + 0x80) :: rest) =
      (decodeFrom (position + 1) none rest).map (Char.ofNat (bits * 0x40 + low) :: ·) := by
  rw [decodeFrom, toNat_byte (by omega), if_pos (by simp [above, below])]
  simp

end LaterBytes

/-- The bytes of a character are read as the character. -/
theorem decodeFrom_encodeChar (c : Char) (position : Nat) (rest : List Byte) :
    decodeFrom position none (encodeChar c ++ rest) =
      (decodeFrom (position + (encodeChar c).length) none rest).map (c :: ·) := by
  have same : Char.ofNat c.toNat = c := Char.ofNat_toNat c
  have valid : c.toNat < 0xD800 ∨ 0xDFFF < c.toNat ∧ c.toNat < 0x110000 := c.valid
  rw [encodeChar_eq]
  generalize c.toNat = code at same valid
  -- A character takes one, two, three or four bytes.
  split_ifs
  · rw [List.singleton_append, decodeFrom, toNat_byte (by omega), if_pos (by omega), same]
    rfl
  · have bits : code / 64 % 32 * 0x40 + code % 64 = code := by omega
    rw [List.cons_append, List.singleton_append, decodeFrom_two _ _ (by omega) (by omega),
      decodeFrom_last _ _ (by omega) (by omega) (by omega), bits, same]
    rfl
  · have bits : (code / 4096 % 16 * 0x40 + code / 64 % 64) * 0x40 + code % 64 = code := by omega
    rw [List.cons_append, List.cons_append, List.singleton_append, decodeFrom_three _ _ (by omega),
      decodeFrom_more _ _ (by omega) (by split <;> omega) (by split <;> omega),
      decodeFrom_last _ _ (by omega) (by omega) (by omega), bits, same]
    rfl
  · have bits : ((code / 262144 % 8 * 0x40 + code / 4096 % 64) * 0x40 + code / 64 % 64) * 0x40 +
        code % 64 = code := by omega
    rw [List.cons_append, List.cons_append, List.cons_append, List.singleton_append,
      decodeFrom_four _ _ (by omega),
      decodeFrom_more _ _ (by omega) (by split <;> omega) (by split <;> omega),
      decodeFrom_more _ _ (by omega) (by omega) (by omega),
      decodeFrom_last _ _ (by omega) (by omega) (by omega), bits, same]
    rfl

/-- Reading undoes encoding. -/
theorem decodeUtf8_encodeUtf8 (text : Text) : decodeUtf8 (encodeUtf8 text) = .ok text := by
  have all (position : Nat) : decodeFrom position none (text.flatMap encodeChar) = .ok text := by
    induction text generalizing position with
    | nil => rfl
    | cons c rest induction =>
        rw [List.flatMap_cons, decodeFrom_encodeChar, induction]
        rfl
  rw [decodeUtf8, encodeUtf8_eq_flatMap]
  exact all 0

/-! ## Breaks -/

theorem lines_cons {c : Char} {rest : Text} (apart : c = '\r' → ∀ more, rest ≠ '\n' :: more) :
    lines (c :: rest) =
      if isLineBreak c then [] :: lines rest
      else
        match lines rest with
        | [] => [[c]]
        | line :: more => (c :: line) :: more := by
  have noPair : ∀ more, c = '\r' → rest = '\n' :: more → False :=
    fun more isReturn isFeed => apart isReturn more isFeed
  refine (lines.eq_3 c rest noPair).trans ?_
  rfl

/-- Making the breaks alike changes no line. -/
theorem lines_unifyBreaks (text : Text) : lines text.unifyBreaks = lines text := by
  fun_induction unifyBreaks text with
  | case1 => rfl
  | case2 rest induction =>
      rw [lines_cons (by simp), induction]
      rfl
  | case3 c rest apart induction =>
      rw [lines_cons fun isReturn more isFeed => apart more isReturn isFeed]
      split
      next isReturn =>
        rw [lines_cons (by simp), induction, isReturn]
        rfl
      next noReturn => rw [lines_cons fun isReturn => absurd isReturn noReturn, induction]

end Text
end ByteMachine
