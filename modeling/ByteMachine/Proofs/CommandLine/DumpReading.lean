import ByteMachine.Proofs.Assembly.NumeralGrammar
import ByteMachine.Proofs.CommandLine.Printing
import ByteMachine.Proofs.Outcome
import Mathlib.Order.Lattice

/-!
# Reading a dump

A line of a dump is an offset before a colon and a blank, and words behind.  Reading the words of all
lines, each as a text of two digits for a byte, gives the bytes that were dumped.  The bytes are cut
into lines of sixteen and the lines into words of two; as sixteen is a multiple of two, the words are
those into which all the bytes are cut, and only the last one can be shorter.
-/

namespace ByteMachine

/-! ## Rows -/

section Rows

variable {α : Type} {width : Nat}

/-- A row is there as long as there are items for it, and takes as many of them as it can. -/
theorem getElem?_rows_eq_some_iff {items row : List α} {place : Nat} :
    (rows width items)[place]? = some row ↔
      (width + 1) * place < items.length ∧
        row = (items.drop ((width + 1) * place)).take (width + 1) := by
  induction items using rows.induct width generalizing place with
  | case1 => simp [rows]
  | case2 item rest induction =>
      rw [rows]
      cases place with
      | zero => simp [eq_comm]
      | succ place =>
          have start : (width + 1) * (place + 1) = (width + (width + 1) * place) + 1 := by
            rw [Nat.mul_succ]
            omega
          rw [List.getElem?_cons_succ, induction, start, List.drop_succ_cons, List.drop_drop,
            List.length_drop, List.length_cons]
          refine and_congr_left fun _ => ?_
          omega

theorem lt_length_rows_iff {items : List α} {place : Nat} :
    place < (rows width items).length ↔ (width + 1) * place < items.length := by
  constructor
  · intro inside
    exact (getElem?_rows_eq_some_iff.mp (List.getElem?_eq_getElem inside)).1
  · intro more
    exact (List.getElem?_eq_some_iff.mp (getElem?_rows_eq_some_iff.mpr ⟨more, rfl⟩)).1

theorem length_rows (items : List α) :
    (rows width items).length = (items.length + width) / (width + 1) := by
  refine eq_of_forall_lt_iff fun place => ?_
  rw [lt_length_rows_iff, Nat.lt_div_iff_mul_lt (by omega), Nat.mul_comm]
  omega

theorem ne_nil_of_mem_rows {items row : List α} (isRow : row ∈ rows width items) : row ≠ [] := by
  obtain ⟨place, found⟩ := List.mem_iff_getElem?.mp isRow
  obtain ⟨more, rfl⟩ := getElem?_rows_eq_some_iff.mp found
  rw [ne_eq, List.take_eq_nil_iff, List.drop_eq_nil_iff]
  omega

/-- Full rows are not changed by the items behind them. -/
theorem rows_append {items : List α} (full : width + 1 ∣ items.length) (more : List α) :
    rows width (items ++ more) = rows width items ++ rows width more := by
  induction items using rows.induct width with
  | case1 => rw [rows, List.nil_append, List.nil_append]
  | case2 item rest induction =>
      have enough : width ≤ rest.length := Nat.le_of_succ_le_succ (Nat.le_of_dvd (Nat.succ_pos _) full)
      have fullRest : width + 1 ∣ (rest.drop width).length := by
        obtain ⟨count, length⟩ := full
        refine ⟨count - 1, ?_⟩
        rw [List.length_cons] at length
        rw [List.length_drop, Nat.mul_sub_one]
        omega
      rw [List.cons_append, rows, rows, List.take_append_of_le_length enough,
        List.drop_append_of_le_length enough, induction fullRest, List.cons_append]

/-- Rows cut into rows whose width divides theirs are the rows of that width. -/
theorem flatMap_rows {wide : Nat} (divides : width + 1 ∣ wide + 1) (items : List α) :
    (rows wide items).flatMap (rows width) = rows width items := by
  induction items using rows.induct wide with
  | case1 => rw [rows, rows, List.flatMap_nil]
  | case2 item rest induction =>
      rw [rows, List.flatMap_cons, induction]
      by_cases more : wide ≤ rest.length
      · have full : width + 1 ∣ (item :: rest.take wide).length := by
          rwa [List.length_cons, List.length_take_of_le more]
        rw [← rows_append full, List.cons_append, List.take_append_drop]
      · have short : rest.length ≤ wide := by omega
        rw [List.take_of_length_le short, List.drop_of_length_le short, rows.eq_def width [],
          List.append_nil]

end Rows

/-! ## Words -/

/-- The bytes that a text of hexadecimal digits stands for, two digits each. -/
def bytesOfHex? : Text → Option (List Byte)
  | [] => some []
  | [_] => none
  | high :: low :: rest => do
      let high ← Numeral.hexValue? high
      let low ← Numeral.hexValue? low
      let bytes ← bytesOfHex? rest
      return BitVec.ofNat 8 (16 * high + low) :: bytes

theorem Byte.hex_eq (byte : Byte) :
    byte.hex = [Text.hexDigit (byte.toNat / 16), Text.hexDigit (byte.toNat % 16)] :=
  Text.hexNat_two byte.isLt

theorem length_pairHex (pair : List Byte) : (pairHex pair).length = 2 * pair.length := by
  induction pair with
  | nil => rfl
  | cons byte rest induction =>
      rw [pairHex] at induction ⊢
      rw [List.flatMap_cons, List.length_append, induction, Byte.hex_eq]
      simp only [List.length_cons, List.length_nil]
      omega

theorem isPlain_pairHex (pair : List Byte) : (pairHex pair).IsPlain := by
  intro c member
  obtain ⟨byte, -, inside⟩ := List.mem_flatMap.mp member
  exact Text.isPlain_hexNat 2 byte.toNat c inside

theorem bytesOfHex?_pairHex (pair : List Byte) : bytesOfHex? (pairHex pair) = some pair := by
  induction pair with
  | nil => rfl
  | cons byte rest induction =>
      have high : byte.toNat / 16 < 16 := by omega
      have low : byte.toNat % 16 < 16 := Nat.mod_lt _ (by decide)
      have whole : 16 * (byte.toNat / 16) + byte.toNat % 16 = byte.toNat := Nat.div_add_mod _ _
      rw [pairHex, List.flatMap_cons, Byte.hex_eq, List.cons_append, List.singleton_append,
        bytesOfHex?, Numeral.hexValue?_hexDigit high, Numeral.hexValue?_hexDigit low, ← pairHex,
        induction]
      change some (BitVec.ofNat 8 (16 * (byte.toNat / 16) + byte.toNat % 16) :: rest) = _
      rw [whole, BitVec.ofNat_toNat, BitVec.setWidth_eq]

/-- The words into which bytes are cut spell two bytes each, the last one perhaps only one. -/
theorem spells_of_getElem? {bytes : List Byte} {place : Nat} {word : Text}
    (found : ((rows 1 bytes).map pairHex)[place]? = some word) :
    bytesOfHex? word = some ((bytes.drop (2 * place)).take 2) ∧
      word.length = if 2 * place + 1 < bytes.length then 4 else 2 := by
  rw [List.getElem?_map, Option.map_eq_some_iff] at found
  obtain ⟨pair, isPair, rfl⟩ := found
  obtain ⟨inside, rfl⟩ := getElem?_rows_eq_some_iff.mp isPair
  refine ⟨bytesOfHex?_pairHex _, ?_⟩
  rw [length_pairHex, List.length_take, List.length_drop]
  split <;> omega

theorem mapM_bytesOfHex? (pairs : List (List Byte)) :
    (pairs.map pairHex).mapM bytesOfHex? = some pairs := by
  refine mapM_eq_some_of_forall₂ (List.forall₂_map_left_iff.mpr (List.forall₂_same.mpr ?_))
  exact fun pair _ => bytesOfHex?_pairHex pair

/-! ## Offsets -/

/-- The digits of a number denote it. -/
theorem Numeral.denotes_hexDigits (number : Nat) :
    Numeral.Denotes 16 (Text.hexDigits number) number := by
  have isDigit {value : Nat} (small : value < 16) :
      Numeral.IsDigit 16 (Text.hexDigit value) value :=
    Numeral.hexValue?_eq_some_iff.mp (Numeral.hexValue?_hexDigit small)
  induction number using Nat.strongRecOn with
  | ind number induction =>
      rw [Text.hexDigits]
      split
      next small => exact .digit (isDigit small)
      next large =>
        have all := Numeral.Denotes.behind (induction (number / 16) (by omega))
          (isDigit (Nat.mod_lt number (by decide)))
        rwa [Nat.div_add_mod'] at all

theorem Numeral.denotes_hexNat (width number : Nat) :
    Numeral.Denotes 16 (Text.hexNat width number) number :=
  (Numeral.denotes_hexDigits number).zeros _

/-! ## Lines -/

/-- A line of a dump as it is read. -/
structure DumpLine where
  /-- What stands before the colon and the blank. -/
  offset : Text
  /-- The words behind them. -/
  words : List Text

/-- The parts of a line. -/
def DumpLine.ofText (line : Text) : DumpLine :=
  let (offset, words) := Text.cutAt ": ".toList line
  ⟨offset, Text.pieces ' ' (words.getD [])⟩

/-- The lines of a dump. -/
def dumpLines (dump : Text) : List DumpLine :=
  (Text.lines dump).map .ofText

/-- The words of all lines of a dump. -/
def dumpWords (dump : Text) : List Text :=
  (dumpLines dump).flatMap DumpLine.words

/-- The bytes that the words of a dump stand for. -/
def readDump? (dump : Text) : Option (List Byte) :=
  ((dumpWords dump).mapM bytesOfHex?).map List.flatten

theorem DumpLine.ofText_dumpRow (offset : Nat) {bytes : List Byte} (present : bytes ≠ []) :
    DumpLine.ofText (dumpRow offset bytes) =
      ⟨Text.hexNat 2 offset, (rows 1 bytes).map pairHex⟩ := by
  have noColon : ':' ∉ Text.hexNat 2 offset := (Text.isPlain_hexNat 2 offset).not_mem rfl
  have noBlank : ∀ word ∈ (rows 1 bytes).map pairHex, ' ' ∉ word := by
    intro word isWord
    obtain ⟨pair, -, rfl⟩ := List.mem_map.mp isWord
    exact (isPlain_pairHex pair).not_mem rfl
  have someWord : (rows 1 bytes).map pairHex ≠ [] := by
    rw [ne_eq, List.map_eq_nil_iff, ← List.length_eq_zero_iff, length_rows]
    have some := List.length_pos_iff.mpr present
    omega
  have parts : Text.cutAt ": ".toList (dumpRow offset bytes) = (Text.hexNat 2 offset, some _) :=
    Text.cutAt_append [' '] _ noColon
  rw [ofText, parts]
  exact congrArg (DumpLine.mk _) (Text.pieces_join someWord noBlank)

theorem isLineBreak_dumpRow (offset : Nat) (bytes : List Byte) :
    ∀ c ∈ dumpRow offset bytes, Text.isLineBreak c = false := by
  intro c member
  simp only [dumpRow, List.mem_append] at member
  obtain (inOffset | between) | inWords := member
  · exact Text.isLineBreak_of_isAlphanum (Text.isPlain_hexNat 2 offset c inOffset)
  · have parts : c = ':' ∨ c = ' ' := by simpa using between
    obtain rfl | rfl := parts <;> rfl
  · obtain between | ⟨word, isWord, inside⟩ := Text.mem_join inWords
    · obtain rfl := List.mem_singleton.mp between
      rfl
    · obtain ⟨pair, -, rfl⟩ := List.mem_map.mp isWord
      exact Text.isLineBreak_of_isAlphanum (isPlain_pairHex pair c inside)

/-- The lines of a dump are read as they were written. -/
theorem dumpLines_hexDump (bytes : List Byte) :
    dumpLines (hexDump bytes) = (rows 15 bytes).zipIdx.map fun row =>
      ⟨Text.hexNat 2 (16 * row.2), (rows 1 row.1).map pairHex⟩ := by
  rw [dumpLines, hexDump, Text.lines_joinLines_of_ne_nil, List.map_map]
  · refine List.map_congr_left fun row isRow => DumpLine.ofText_dumpRow _ ?_
    exact ne_nil_of_mem_rows (List.fst_mem_of_mem_zipIdx isRow)
  · intro text isText
    obtain ⟨row, -, rfl⟩ := List.mem_map.mp isText
    simp [dumpRow]
  · intro text isText
    obtain ⟨row, -, rfl⟩ := List.mem_map.mp isText
    exact isLineBreak_dumpRow _ _

theorem getElem?_dumpLines_hexDump_iff {bytes : List Byte} {place : Nat} {line : DumpLine} :
    (dumpLines (hexDump bytes))[place]? = some line ↔
      16 * place < bytes.length ∧
        line = ⟨Text.hexNat 2 (16 * place),
          (rows 1 ((bytes.drop (16 * place)).take 16)).map pairHex⟩ := by
  rw [dumpLines_hexDump, List.getElem?_map, List.getElem?_zipIdx, Option.map_map,
    Option.map_eq_some_iff]
  simp only [getElem?_rows_eq_some_iff, and_assoc, exists_and_left, exists_eq_left,
    Function.comp_apply, Nat.zero_add]
  exact and_congr_right fun _ => eq_comm

theorem dumpWords_hexDump (bytes : List Byte) :
    dumpWords (hexDump bytes) = (rows 1 bytes).map pairHex := by
  rw [dumpWords, dumpLines_hexDump, List.flatMap_map, ← flatMap_rows (by decide : 1 + 1 ∣ 15 + 1),
    List.map_flatMap]
  conv_rhs => rw [← List.zipIdx_map_fst 0 (rows 15 bytes), List.flatMap_map]

/-- The bytes that were dumped are read in the dump, and no others.  Its lines start at the multiples
of sixteen, and all but the last have eight words of four digits; its words spell the bytes two by
two, and an odd last one in two digits. -/
theorem hexDump_determines_bytes (bytes : List Byte) :
    let lines := dumpLines (hexDump bytes)
    let words := dumpWords (hexDump bytes)
    readDump? (hexDump bytes) = some bytes ∧
      (∀ place line, lines[place]? = some line →
        Numeral.Denotes 16 line.offset (16 * place) ∧
          (place + 1 < lines.length →
            line.words.length = 8 ∧ ∀ word ∈ line.words, word.length = 4)) ∧
      words.length = (bytes.length + 1) / 2 ∧
      ∀ place word, words[place]? = some word →
        bytesOfHex? word = some ((bytes.drop (2 * place)).take 2) ∧
          word.length = if 2 * place + 1 < bytes.length then 4 else 2 := by
  intro lines words
  have spelt : words = (rows 1 bytes).map pairHex := dumpWords_hexDump bytes
  refine ⟨?_, ?_, ?_, ?_⟩
  · rw [readDump?, dumpWords_hexDump, mapM_bytesOfHex?, Option.map_some, flatten_rows]
  · intro place line found
    obtain ⟨-, rfl⟩ := getElem?_dumpLines_hexDump_iff.mp found
    refine ⟨Numeral.denotes_hexNat 2 _, fun more => ?_⟩
    obtain ⟨full, -⟩ := getElem?_dumpLines_hexDump_iff.mp (List.getElem?_eq_getElem more)
    have sixteen : ((bytes.drop (16 * place)).take 16).length = 16 := by
      rw [List.length_take, List.length_drop]
      omega
    have eight : ((rows 1 ((bytes.drop (16 * place)).take 16)).map pairHex).length = 8 := by
      rw [List.length_map, length_rows, sixteen]
    refine ⟨eight, fun word isWord => ?_⟩
    obtain ⟨index, isWord⟩ := List.mem_iff_getElem?.mp isWord
    obtain ⟨inside, -⟩ := List.getElem?_eq_some_iff.mp isWord
    have below : index < 8 := inside.trans_eq eight
    rw [(spells_of_getElem? isWord).2, if_pos (by omega)]
  · rw [spelt, List.length_map, length_rows]
  · intro place word found
    exact spells_of_getElem? (spelt ▸ found)

/-- Nineteen bytes make a full line, and a second one that ends in a single byte. -/
theorem hexDump_determines_nineteen_bytes :
    let bytes : List Byte := List.replicate 18 0xA5 ++ [0x0F]
    let dump := "00: A5A5 A5A5 A5A5 A5A5 A5A5 A5A5 A5A5 A5A5\n10: A5A5 0F".toList
    hexDump bytes = dump ∧ readDump? dump = some bytes ∧ (dumpWords dump).length = 10 := by
  intro bytes dump
  have shown : hexDump bytes = dump := by
    simp [bytes, dump, hexDump, rows, dumpRow, pairHex, Byte.hex_eq, Text.joinLines, Text.join,
      Text.hexNat_two, Text.hexDigit]
  obtain ⟨read, -, count, -⟩ := hexDump_determines_bytes bytes
  rw [shown] at read count
  exact ⟨shown, read, by simp [count, bytes]⟩

end ByteMachine
