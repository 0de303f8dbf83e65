import ByteMachine.Text.Lines

/-!
# Cutting what was joined

The cuts of a text undo the corresponding joins, as long as the parts do not contain the mark that
stands between them.  A text that neither starts nor ends with a blank is its own trimming.
-/

namespace ByteMachine
namespace Text

/-! ## One mark -/

theorem cut_of_not_mem {mark : Char} {text : Text} (absent : mark ∉ text) :
    cut mark text = (text, none) := by
  induction text with
  | nil => rfl
  | cons c rest induction =>
      rw [List.mem_cons, not_or] at absent
      rw [cut, if_neg (Ne.symm absent.1), induction absent.2]

theorem cut_append {mark : Char} {left : Text} (right : Text) (absent : mark ∉ left) :
    cut mark (left ++ mark :: right) = (left, some right) := by
  induction left with
  | nil => simp [cut]
  | cons c rest induction =>
      rw [List.mem_cons, not_or] at absent
      rw [List.cons_append, cut, if_neg (Ne.symm absent.1), induction absent.2]

theorem cut_append_of_not_mem {mark : Char} {left : Text} (right : Text) (absent : mark ∉ left) :
    cut mark (left ++ right) = (left ++ (cut mark right).1, (cut mark right).2) := by
  induction left with
  | nil => rfl
  | cons c rest induction =>
      rw [List.mem_cons, not_or] at absent
      rw [List.cons_append, cut, if_neg (Ne.symm absent.1), induction absent.2]
      rfl

theorem cut_append_of_mem {mark : Char} {left : Text} (right : Text) (present : mark ∈ left) :
    cut mark (left ++ right) = ((cut mark left).1, (cut mark left).2.map (· ++ right)) := by
  induction left with
  | nil => cases present
  | cons c rest induction =>
      rw [List.cons_append, cut, cut]
      split
      next => rfl
      next other =>
        rw [induction ((List.mem_cons.mp present).resolve_left fun same => other same.symm)]

theorem not_mem_fst_cut (mark : Char) (text : Text) : mark ∉ (cut mark text).1 := by
  induction text with
  | nil => exact List.not_mem_nil
  | cons c rest induction =>
      rw [cut]
      split
      next => exact List.not_mem_nil
      next other => exact List.not_mem_cons_of_ne_of_not_mem (Ne.symm other) induction

theorem not_mem_of_snd_cut {mark : Char} {text : Text} (none : (cut mark text).2 = none) :
    mark ∉ text := by
  induction text with
  | nil => exact List.not_mem_nil
  | cons c rest induction =>
      rw [cut] at none
      split at none
      next => cases none
      next other => exact List.not_mem_cons_of_ne_of_not_mem (Ne.symm other) (induction none)

/-- What comes after the first mark, put behind what comes before it. -/
theorem fst_cut_append (mark : Char) (text : Text) :
    (cut mark text).1 ++ ((cut mark text).2.map (mark :: ·)).getD [] = text := by
  induction text with
  | nil => rfl
  | cons c rest induction =>
      rw [cut]
      split
      next same => rw [same]; rfl
      next => exact congrArg (c :: ·) induction

theorem cut_eq_none_iff {mark : Char} {text front : Text} :
    cut mark text = (front, none) ↔ text = front ∧ mark ∉ front := by
  constructor
  · intro same
    have parts := fst_cut_append mark text
    have absent := not_mem_fst_cut mark text
    rw [same] at parts absent
    exact ⟨parts.symm.trans (List.append_nil front), absent⟩
  · rintro ⟨rfl, absent⟩
    exact cut_of_not_mem absent

theorem cut_eq_some_iff {mark : Char} {text front rest : Text} :
    cut mark text = (front, some rest) ↔ text = front ++ mark :: rest ∧ mark ∉ front := by
  constructor
  · intro same
    have parts := fst_cut_append mark text
    have absent := not_mem_fst_cut mark text
    rw [same] at parts absent
    exact ⟨parts.symm, absent⟩
  · rintro ⟨rfl, absent⟩
    exact cut_append rest absent

theorem cutAt_of_not_mem {first : Char} (more : Text) {text : Text}
    (absent : first ∉ text) : cutAt (first :: more) text = (text, none) := by
  induction text with
  | nil => rfl
  | cons c rest induction =>
      rw [List.mem_cons, not_or] at absent
      have apart : (first :: more).isPrefixOf (c :: rest) = false := by
        rw [List.isPrefixOf_cons_cons, beq_eq_false_iff_ne.mpr absent.1, Bool.false_and]
      rw [cutAt, apart, induction absent.2]
      rfl

theorem cutAt_append {first : Char} (more right : Text) {left : Text} (absent : first ∉ left) :
    cutAt (first :: more) (left ++ (first :: more) ++ right) = (left, some right) := by
  induction left with
  | nil =>
      have found : (first :: more).isPrefixOf (first :: (more ++ right)) = true := by simp
      rw [List.nil_append, List.cons_append, cutAt, if_pos found, ← List.cons_append, List.drop_left]
  | cons c rest induction =>
      rw [List.mem_cons, not_or] at absent
      have apart : (first :: more).isPrefixOf (c :: (rest ++ (first :: more) ++ right)) = false := by
        rw [List.isPrefixOf_cons_cons, beq_eq_false_iff_ne.mpr absent.1, Bool.false_and]
      rw [List.cons_append, List.cons_append, cutAt, apart, induction absent.2]
      rfl

/-! ## Every mark -/

theorem pieces_of_not_mem {mark : Char} {text : Text} (absent : mark ∉ text) :
    pieces mark text = [text] := by
  induction text with
  | nil => rfl
  | cons c rest induction =>
      rw [List.mem_cons, not_or] at absent
      rw [pieces, if_neg (Ne.symm absent.1), induction absent.2]

theorem pieces_append {mark : Char} {left : Text} (right : Text) (absent : mark ∉ left) :
    pieces mark (left ++ mark :: right) = left :: pieces mark right := by
  induction left with
  | nil => simp [pieces]
  | cons c rest induction =>
      rw [List.mem_cons, not_or] at absent
      rw [List.cons_append, pieces, if_neg (Ne.symm absent.1), induction absent.2]

/-- Texts that were joined with a mark none of them contains are found again. -/
theorem pieces_join {mark : Char} {texts : List Text} (present : texts ≠ [])
    (absent : ∀ text ∈ texts, mark ∉ text) : pieces mark (join [mark] texts) = texts := by
  induction texts with
  | nil => exact absurd rfl present
  | cons text rest induction =>
      cases rest with
      | nil => exact pieces_of_not_mem (absent text (by simp))
      | cons next more =>
          rw [join, List.append_assoc, List.singleton_append,
            pieces_append _ (absent text (by simp)),
            induction (by simp) fun other member => absent other (by simp [member])]

/-- A margin without marks becomes the beginning of the first piece. -/
theorem pieces_margin_append {mark : Char} {margin : Text} (text : Text) (absent : mark ∉ margin) :
    ∃ first more, pieces mark text = first :: more ∧
      pieces mark (margin ++ text) = (margin ++ first) :: more := by
  induction margin with
  | nil =>
      obtain ⟨first, more, same⟩ : ∃ first more, pieces mark text = first :: more := by
        cases text with
        | nil => exact ⟨[], [], rfl⟩
        | cons c rest =>
            rw [pieces]
            split
            next => exact ⟨[], _, rfl⟩
            next =>
              split
              next => exact ⟨[c], [], rfl⟩
              next piece more _ => exact ⟨c :: piece, more, rfl⟩
      exact ⟨first, more, same, same⟩
  | cons c rest induction =>
      rw [List.mem_cons, not_or] at absent
      obtain ⟨first, more, same, behind⟩ := induction absent.2
      refine ⟨first, more, same, ?_⟩
      rw [List.cons_append, pieces, if_neg (Ne.symm absent.1), behind]
      rfl

/-- A margin without marks becomes the end of the last piece. -/
theorem pieces_append_margin {mark : Char} {margin : Text} (text : Text) (absent : mark ∉ margin) :
    ∃ before last, pieces mark text = before ++ [last] ∧
      pieces mark (text ++ margin) = before ++ [last ++ margin] := by
  induction text with
  | nil => exact ⟨[], [], rfl, pieces_of_not_mem absent⟩
  | cons c rest induction =>
      obtain ⟨before, last, same, behind⟩ := induction
      rw [List.cons_append, pieces, pieces, same, behind]
      split
      next => exact ⟨[] :: before, last, rfl, rfl⟩
      next =>
        cases before with
        | nil => exact ⟨[], c :: last, rfl, rfl⟩
        | cons first more => exact ⟨(c :: first) :: more, last, rfl, rfl⟩

theorem mem_join {c : Char} {separator : Text} {texts : List Text}
    (member : c ∈ join separator texts) : c ∈ separator ∨ ∃ text ∈ texts, c ∈ text := by
  induction texts with
  | nil => simp [join] at member
  | cons text rest induction =>
      cases rest with
      | nil => exact .inr ⟨text, by simp, member⟩
      | cons next more =>
          rw [join, List.mem_append, List.mem_append] at member
          rcases member with (inside | between) | later
          · exact .inr ⟨text, by simp, inside⟩
          · exact .inl between
          · rcases induction later with between | ⟨other, otherMem, inside⟩
            · exact .inl between
            · exact .inr ⟨other, by simp [otherMem], inside⟩

/-! ## Lines -/

theorem lines_append {line rest : Text} {more : List Text}
    (clean : ∀ c ∈ line, isLineBreak c = false) (opens : lines rest = [] :: more) :
    lines (line ++ rest) = line :: more := by
  induction line with
  | nil => exact opens
  | cons c others induction =>
      have plain : isLineBreak c = false := clean c (by simp)
      have noReturn : c ≠ '\r' := by
        rintro rfl
        simp [isLineBreak] at plain
      rw [List.cons_append, lines]
      · rw [plain, induction fun other member => clean other (by simp [member])]
        rfl
      · intro _ isReturn
        exact absurd isReturn noReturn

theorem lines_append_break {line : Text} (rest : Text)
    (clean : ∀ c ∈ line, isLineBreak c = false) :
    lines (line ++ '\n' :: rest) = line :: lines rest :=
  lines_append clean rfl

/-- Lines that were put one below another, with a break at the end, are found again. -/
theorem lines_joinLines {texts : List Text} (present : texts ≠ [])
    (clean : ∀ text ∈ texts, ∀ c ∈ text, isLineBreak c = false) :
    lines (joinLines texts ++ ['\n']) = texts := by
  induction texts with
  | nil => exact absurd rfl present
  | cons text rest induction =>
      cases rest with
      | nil => exact lines_append_break [] (clean text (by simp))
      | cons next more =>
          rw [joinLines, join, List.append_assoc, List.append_assoc, List.singleton_append,
            lines_append_break _ (clean text (by simp))]
          exact congrArg (text :: ·)
            (induction (by simp) fun other member => clean other (by simp [member]))

/-- No line contains a break. -/
theorem isLineBreak_of_mem_lines {text line : Text} (member : line ∈ lines text) :
    ∀ c ∈ line, isLineBreak c = false := by
  fun_induction lines text generalizing line with
  | case1 => cases member
  | case2 rest induction =>
      rcases List.mem_cons.mp member with rfl | later
      · simp
      · exact induction later
  | case3 c rest _ isBreak induction =>
      rcases List.mem_cons.mp member with rfl | later
      · simp
      · exact induction later
  | case4 c rest _ noBreak last induction =>
      obtain rfl := List.mem_singleton.mp member
      simpa using noBreak
  | case5 c rest _ noBreak first more others induction =>
      rw [others] at induction
      rcases List.mem_cons.mp member with rfl | later
      · refine List.forall_mem_cons.mpr ⟨by simpa using noBreak, ?_⟩
        exact induction List.mem_cons_self
      · exact induction (List.mem_cons_of_mem _ later)

/-- A text without breaks is its own single line. -/
theorem lines_of_forall {line : Text} (present : line ≠ [])
    (clean : ∀ c ∈ line, isLineBreak c = false) : lines line = [line] := by
  induction line with
  | nil => exact absurd rfl present
  | cons c rest induction =>
      have noReturn : c ≠ '\r' := by
        rintro rfl
        simpa [isLineBreak] using clean '\r' (by simp)
      have plain : isLineBreak c = false := clean c (by simp)
      rw [lines]
      · rw [plain]
        cases rest with
        | nil => rfl
        | cons next more =>
            rw [induction (by simp) fun other member => clean other (by simp [member])]
            rfl
      · intro _ isReturn
        exact absurd isReturn noReturn

/-- Lines that were put one below another are found again, if none of them is empty. -/
theorem lines_joinLines_of_ne_nil {texts : List Text} (present : ∀ text ∈ texts, text ≠ [])
    (clean : ∀ text ∈ texts, ∀ c ∈ text, isLineBreak c = false) :
    lines (joinLines texts) = texts := by
  induction texts with
  | nil => rfl
  | cons text rest induction =>
      rw [List.forall_mem_cons] at present clean
      cases rest with
      | nil => exact lines_of_forall present.1 clean.1
      | cons next more =>
          rw [joinLines, join, List.append_assoc, List.singleton_append,
            lines_append_break _ clean.1]
          exact congrArg (text :: ·) (induction present.2 clean.2)

/-! ## Blanks -/

/-- The text neither starts nor ends with a blank. -/
def IsTrimmed (text : Text) : Prop :=
  (∀ c ∈ text.head?, isBlank c = false) ∧ ∀ c ∈ text.getLast?, isBlank c = false

theorem dropWhile_of_head {holds : Char → Bool} {text : Text}
    (stops : ∀ c ∈ text.head?, holds c = false) : text.dropWhile holds = text := by
  cases text with
  | nil => rfl
  | cons c rest => simp [stops c (by simp)]

theorem IsTrimmed.trim {text : Text} (trimmed : IsTrimmed text) : text.trim = text := by
  obtain ⟨starts, ends⟩ := trimmed
  have endsReversed : ∀ c ∈ text.reverse.head?, isBlank c = false := by
    simpa using ends
  rw [Text.trim, trimStart, dropWhile_of_head starts, trimEnd, dropEndWhile,
    dropWhile_of_head endsReversed, List.reverse_reverse]

theorem isTrimmed_of_forall {text : Text} (solid : ∀ c ∈ text, isBlank c = false) :
    IsTrimmed text :=
  ⟨fun c first => solid c (List.mem_of_mem_head? first),
    fun c last => solid c (List.mem_of_mem_getLast? last)⟩

theorem isTrimmed_append_append {first last : Text} (middle : Text) (starts : IsTrimmed first)
    (ends : IsTrimmed last) (firstPresent : first ≠ []) (lastPresent : last ≠ []) :
    IsTrimmed (first ++ (middle ++ last)) := by
  constructor
  · obtain ⟨c, rest, rfl⟩ := List.exists_cons_of_ne_nil firstPresent
    exact starts.1
  · intro c final
    rw [List.getLast?_append, List.getLast?_append, List.getLast?_eq_some_getLast lastPresent,
      Option.some_or, Option.some_or] at final
    exact ends.2 c (by rw [List.getLast?_eq_some_getLast lastPresent]; exact final)

theorem trimStart_append {margin : Text} (text : Text) (blank : ∀ c ∈ margin, isBlank c = true) :
    trimStart (margin ++ text) = trimStart text := by
  induction margin with
  | nil => rfl
  | cons c rest induction =>
      rw [trimStart, List.cons_append, List.dropWhile_cons, if_pos (blank c (by simp))]
      exact induction fun other member => blank other (by simp [member])

theorem trimEnd_append {margin : Text} (text : Text) (blank : ∀ c ∈ margin, isBlank c = true) :
    trimEnd (text ++ margin) = trimEnd text := by
  rw [trimEnd, dropEndWhile, List.reverse_append, List.dropWhile_append_of_pos]
  · rfl
  · exact fun c member => blank c (List.mem_reverse.mp member)

theorem trim_append {margin : Text} (text : Text) (blank : ∀ c ∈ margin, isBlank c = true) :
    trim (text ++ margin) = trim text := by
  rw [trim, trimStart, List.dropWhile_append]
  split
  next empty =>
    have none : trimStart margin = [] := by simpa [trimStart] using trimStart_append [] blank
    rw [trim, trimStart, List.isEmpty_iff.mp empty]
    exact congrArg trimEnd none
  next => exact trimEnd_append _ blank

/-- Blanks at the end of a text do not reach into a word before it. -/
theorem trimEnd_word_append {word : Text} (rest : Text) (solid : ∀ c ∈ word, isBlank c = false) :
    trimEnd (word ++ rest) = word ++ trimEnd rest := by
  have stays : word.reverse.dropWhile isBlank = word.reverse :=
    dropWhile_of_head fun c first => solid c (List.mem_reverse.mp (List.mem_of_mem_head? first))
  rw [trimEnd, dropEndWhile, List.reverse_append, List.dropWhile_append, stays]
  split
  next empty =>
    rw [List.reverse_reverse, trimEnd, dropEndWhile, List.isEmpty_iff.mp empty]
    exact (List.append_nil word).symm
  next => rw [List.reverse_append, List.reverse_reverse, trimEnd, dropEndWhile]

/-- A character that is no blank is left by trimming. -/
theorem trim_ne_nil {text : Text} {c : Char} (member : c ∈ text) (solid : isBlank c = false) :
    text.trim ≠ [] := by
  have kept {text : Text} (member : c ∈ text) : c ∈ text.dropWhile isBlank := by
    induction text with
    | nil => exact member
    | cons first rest induction =>
        rw [List.dropWhile_cons]
        split
        next blank =>
          rcases List.mem_cons.mp member with rfl | later
          · rw [blank] at solid
            contradiction
          · exact induction later
        next => exact member
  have left : c ∈ text.trimStart.reverse.dropWhile isBlank :=
    kept (List.mem_reverse.mpr (kept member))
  exact List.ne_nil_of_mem (List.mem_reverse.mpr left)

theorem firstWord_append {word rest : Text} (solid : ∀ c ∈ word, isBlank c = false)
    (apart : ∀ c ∈ rest.head?, isBlank c = true) :
    firstWord (word ++ rest) = (word, trimStart rest) := by
  have whole : ∀ c ∈ word, (!isBlank c) = true := by simpa using solid
  have stays : rest.dropWhile (!isBlank ·) = rest :=
    dropWhile_of_head fun c first => by rw [apart c first, Bool.not_true]
  have none : rest.takeWhile (!isBlank ·) = [] := by
    cases rest with
    | nil => rfl
    | cons c more => rw [List.takeWhile_cons, apart c rfl, Bool.not_true, if_neg Bool.false_ne_true]
  rw [firstWord, List.takeWhile_append_of_pos whole, List.dropWhile_append_of_pos whole, stays, none,
    List.append_nil]

/-! ## Letters and digits -/

/-- A text of letters and digits. -/
def IsPlain (text : Text) : Prop :=
  ∀ c ∈ text, c.isAlphanum = true

theorem toNat_of_isAlphanum {c : Char} (plain : c.isAlphanum = true) :
    (0x30 ≤ c.toNat ∧ c.toNat ≤ 0x39) ∨ (0x41 ≤ c.toNat ∧ c.toNat ≤ 0x5A) ∨
      (0x61 ≤ c.toNat ∧ c.toNat ≤ 0x7A) := by
  delta Char.isAlphanum Char.isAlpha Char.isUpper Char.isLower Char.isDigit at plain
  simp only [Bool.or_eq_true, Bool.and_eq_true, decide_eq_true_iff, UInt32.le_iff_toNat_le] at plain
  rcases plain with (capital | small) | digit
  · exact .inr (.inl capital)
  · exact .inr (.inr small)
  · exact .inl digit

theorem isBlank_of_isAlphanum {c : Char} (plain : c.isAlphanum = true) : isBlank c = false := by
  have range := toNat_of_isAlphanum plain
  rw [Bool.eq_false_iff, isBlank]
  simp only [ne_eq, Bool.or_eq_true, Bool.and_eq_true, decide_eq_true_iff, beq_iff_eq]
  omega

theorem isLineBreak_of_isAlphanum {c : Char} (plain : c.isAlphanum = true) :
    isLineBreak c = false := by
  have range := toNat_of_isAlphanum plain
  rw [Bool.eq_false_iff, isLineBreak]
  simp only [ne_eq, Bool.or_eq_true, Bool.and_eq_true, decide_eq_true_iff, beq_iff_eq]
  omega

theorem IsPlain.isTrimmed {text : Text} (plain : IsPlain text) : IsTrimmed text :=
  isTrimmed_of_forall fun c member => isBlank_of_isAlphanum (plain c member)

theorem IsPlain.not_mem {text : Text} {mark : Char} (plain : IsPlain text)
    (foreign : mark.isAlphanum = false) : mark ∉ text := by
  intro member
  rw [plain mark member] at foreign
  contradiction

end Text
end ByteMachine
