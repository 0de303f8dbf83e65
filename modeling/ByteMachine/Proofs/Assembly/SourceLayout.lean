import ByteMachine.Proofs.Assembly.LineContents
import ByteMachine.Proofs.Assembly.Statements
import ByteMachine.Proofs.Assembly.StatementReading
import Mathlib.Data.List.DropRight
import Mathlib.Logic.Relation

/-!
# The layout of a source

A source may be written in many ways: with blank lines and comments, indented or not, with its
mnemonics in capital letters.  A line says the same after each such edit, and a line that says nothing
may stand anywhere, so that the words and labels of a program do not depend on how its source is
laid out.
-/

namespace ByteMachine

/-! ## Letter case -/

namespace Text

/-- A character that has no other lower-case form is still there in the lower-case form of a text. -/
theorem mem_lower {c : Char} {text : Text} (fixed : lowerChar c = c) (noDot : c ≠ '\u0130')
    (member : c ∈ text) : c ∈ lower text := by
  have noSigma : c ≠ '\u03a3' := by
    rintro rfl
    revert fixed
    decide
  have all (afterCased : Bool) : c ∈ lowerFrom afterCased text := by
    induction text generalizing afterCased with
    | nil => cases member
    | cons first rest induction =>
        rw [lowerFrom]
        rcases List.mem_cons.mp member with rfl | later
        · rw [if_neg noSigma, if_neg noDot, fixed]
          split
          · exact List.mem_cons_self
          · exact List.mem_cons_self
        · split
          · exact List.mem_cons_of_mem _ (induction later _)
          · exact List.mem_append_right _ (induction later _)
  exact all false

theorem lowerChar_of_isBlank {c : Char} (blank : isBlank c = true) : lowerChar c = c := by
  have same : Char.ofNat c.toNat = c := Char.ofNat_toNat c
  rw [isBlank] at blank
  simp only [Bool.or_eq_true, Bool.and_eq_true, decide_eq_true_iff, beq_iff_eq] at blank
  by_cases ascii : c.toNat < 0x80
  · rw [lowerChar, if_pos ascii, if_neg]
    simp only [Bool.and_eq_true, decide_eq_true_iff]
    omega
  · have codes : c.toNat ∈ [0x85, 0xA0, 0x1680, 0x2000, 0x2001, 0x2002, 0x2003, 0x2004, 0x2005,
        0x2006, 0x2007, 0x2008, 0x2009, 0x200A, 0x2028, 0x2029, 0x202F, 0x205F, 0x3000] := by
      simp only [List.mem_cons, List.not_mem_nil]
      omega
    have each : ∀ code ∈ [0x85, 0xA0, 0x1680, 0x2000, 0x2001, 0x2002, 0x2003, 0x2004, 0x2005,
        0x2006, 0x2007, 0x2008, 0x2009, 0x200A, 0x2028, 0x2029, 0x202F, 0x205F, 0x3000],
        lowerChar (Char.ofNat code) = Char.ofNat code := by decide +kernel
    rw [← same]
    exact each c.toNat codes

end Text

namespace Mnemonic

variable {word : Text} {mnemonic : Mnemonic}

theorem not_mem_of_ofText? (found : ofText? word = some mnemonic) {c : Char}
    (fixed : Text.lowerChar c = c) (noDot : c ≠ '\u0130') (foreign : c.isAlphanum = false) :
    c ∉ word := by
  intro member
  have inside := Text.mem_lower fixed noDot member
  rw [← name_of_ofText? found] at inside
  exact mnemonic.isPlain_name.not_mem foreign inside

theorem isBlank_of_ofText? (found : ofText? word = some mnemonic) :
    ∀ c ∈ word, Text.isBlank c = false := by
  intro c member
  by_contra blank
  rw [Bool.not_eq_false] at blank
  refine not_mem_of_ofText? found (Text.lowerChar_of_isBlank blank) ?_ ?_ member
  · rintro rfl
    contradiction
  · rw [Bool.eq_false_iff]
    intro plain
    rw [Text.isBlank_of_isAlphanum plain] at blank
    contradiction

end Mnemonic

/-! ## What a line says -/

namespace SourceLine

/-- What a line says of which the label and the comment were cut off. -/
def bodyContents? (label : Option Text) (body : Text) :
    Except (Fault Cause) (Option Text × Option Statement) := do
  let statement ← (ofBody label body []).statement
  return (label, statement)

theorem label_ofBody (label : Option Text) (body comment : Text) :
    (ofBody label body comment).label = label := by
  rw [ofBody]
  split <;> rfl

theorem statement_ofBody (label : Option Text) (body comment : Text) :
    (ofBody label body comment).statement = (ofBody label body []).statement := by
  rw [ofBody, ofBody]
  split <;> rfl

/-- What a line says is told by the code in front of its comment, of which the label is cut off. -/
theorem contents?_eq (text : Text) :
    contents? text =
      match (Text.cut ':' (Text.cut ';' text).1).2 with
      | none => bodyContents? none (Text.cut ';' text).1
      | some body =>
          let name := Text.trimStart (Text.cut ':' (Text.cut ';' text).1).1
          if Operand.isLabelName name then bodyContents? (some name) body
          else .error (.reported (.label (name ++ [':']))) := by
  have said (label : Option Text) (body comment : Text) :
      (do
        let statement ← (ofBody label body comment).statement
        return ((ofBody label body comment).label, statement)) = bodyContents? label body := by
    rw [bodyContents?, statement_ofBody, label_ofBody]
  rw [contents?, ofText]
  cases (Text.cut ':' (Text.cut ';' text).1).2 with
  | none => exact said _ _ _
  | some body =>
      simp only
      split
      next => exact said _ _ _
      next => rfl

theorem bodyContents?_of_trim {body other : Text} (label : Option Text)
    (same : Text.trim body = Text.trim other) :
    bodyContents? label body = bodyContents? label other := by
  rw [bodyContents?, bodyContents?, ofBody, ofBody, same]

theorem contents?_of_code {text other : Text}
    (same : (Text.cut ';' text).1 = (Text.cut ';' other).1) : contents? text = contents? other := by
  rw [contents?_eq, contents?_eq, same]

/-! ## Edits of a line -/

theorem not_mem_of_isBlank {margin : Text} {mark : Char}
    (blank : ∀ c ∈ margin, Text.isBlank c = true) (solid : Text.isBlank mark = false) :
    mark ∉ margin := by
  intro member
  rw [blank mark member] at solid
  contradiction

theorem contents?_indented {margin : Text} (line : Text)
    (blank : ∀ c ∈ margin, Text.isBlank c = true) :
    contents? (margin ++ line) = contents? line := by
  rw [contents?_eq, contents?_eq, Text.cut_append_of_not_mem line (not_mem_of_isBlank blank rfl),
    Text.cut_append_of_not_mem _ (not_mem_of_isBlank blank rfl)]
  cases (Text.cut ':' (Text.cut ';' line).1).2 with
  | none =>
      refine bodyContents?_of_trim none ?_
      rw [Text.trim, Text.trimStart_append _ blank, ← Text.trim]
  | some body => simp only [Text.trimStart_append _ blank]

theorem contents?_commented (line comment : Text) :
    contents? (line ++ ';' :: comment) = contents? line := by
  refine contents?_of_code ?_
  by_cases present : ';' ∈ line
  · rw [Text.cut_append_of_mem _ present]
  · rw [Text.cut_append _ present, Text.cut_of_not_mem present]

theorem contents?_extended {margin : Text} (line : Text)
    (blank : ∀ c ∈ margin, Text.isBlank c = true) :
    contents? (line ++ margin) = contents? line := by
  by_cases commented : ';' ∈ line
  · exact contents?_of_code (by rw [Text.cut_append_of_mem _ commented])
  · have whole : ';' ∉ line ++ margin :=
      List.not_mem_append commented (not_mem_of_isBlank blank rfl)
    rw [contents?_eq, contents?_eq, Text.cut_of_not_mem whole, Text.cut_of_not_mem commented]
    by_cases labelled : ':' ∈ line
    · rw [Text.cut_append_of_mem _ labelled]
      cases (Text.cut ':' line).2 with
      | none => exact bodyContents?_of_trim none (Text.trim_append line blank)
      | some body =>
          simp only [Option.map_some, bodyContents?_of_trim _ (Text.trim_append body blank)]
    · have noLabel : ':' ∉ line ++ margin :=
        List.not_mem_append labelled (not_mem_of_isBlank blank rfl)
      rw [Text.cut_of_not_mem noLabel, Text.cut_of_not_mem labelled]
      exact bodyContents?_of_trim none (Text.trim_append line blank)

theorem ofBody_word_rest (label : Option Text) (comment : Text) {word rest : Text}
    (solid : ∀ c ∈ word, Text.isBlank c = false) (present : word ≠ [])
    (apart : ∀ c ∈ rest.head?, Text.isBlank c = true) :
    ofBody label (word ++ rest) comment =
      let operands := Text.trimStart (Text.trimEnd rest)
      ⟨label, some word, if operands = [] then [] else (Text.pieces ',' operands).map Text.trim,
        comment⟩ := by
  have trimmed : Text.trim (word ++ rest) = word ++ Text.trimEnd rest := by
    rw [Text.trim, Text.trimStart, Text.dropWhile_of_head, Text.trimEnd_word_append rest solid]
    obtain ⟨c, more, rfl⟩ := List.exists_cons_of_ne_nil present
    exact fun first same => solid first (List.mem_of_mem_head? same)
  have apartEnd : ∀ c ∈ (Text.trimEnd rest).head?, Text.isBlank c = true := by
    obtain ⟨cutOff, whole⟩ : Text.trimEnd rest <+: rest := List.rdropWhile_prefix ..
    intro c first
    refine apart c ?_
    rw [← whole, List.head?_append, Option.mem_def.mp first]
    rfl
  exact ofBody_of_trim label comment trimmed solid present apartEnd

theorem bodyContents?_respelled (label : Option Text) {word other rest : Text}
    {mnemonic : Mnemonic} (spelled : Mnemonic.ofText? word = some mnemonic)
    (respelled : Mnemonic.ofText? other = some mnemonic)
    (apart : ∀ c ∈ rest.head?, Text.isBlank c = true) :
    bodyContents? label (word ++ rest) = bodyContents? label (other ++ rest) := by
  have present {text : Text} (found : Mnemonic.ofText? text = some mnemonic) : text ≠ [] := by
    rintro rfl
    exact mnemonic.name_ne_nil (Mnemonic.name_of_ofText? found)
  rw [bodyContents?, bodyContents?,
    ofBody_word_rest label [] (Mnemonic.isBlank_of_ofText? spelled) (present spelled) apart,
    ofBody_word_rest label [] (Mnemonic.isBlank_of_ofText? respelled) (present respelled) apart]
  simp only [statement, Statement.ofParts, spelled, respelled]

/-- A line that says nothing: blanks, behind which there may be a comment. -/
def IsIdle (line : Text) : Prop :=
  ∀ c ∈ (Text.cut ';' line).1, Text.isBlank c = true

theorem isIdle_of_blank {line : Text} (blank : ∀ c ∈ line, Text.isBlank c = true) :
    IsIdle line := by
  rw [IsIdle, Text.cut_of_not_mem (not_mem_of_isBlank blank rfl)]
  exact blank

theorem contents?_idle {line : Text} (idle : IsIdle line) : contents? line = .ok (none, none) := by
  have noBody : Text.trim (Text.cut ';' line).1 = [] := Text.trim_append [] idle
  rw [contents?_eq, Text.cut_of_not_mem (not_mem_of_isBlank idle rfl)]
  simp only [bodyContents?, ofBody, noBody]
  rfl

/-- The texts before and behind the mnemonic of a line. -/
inductive IsAround : Text → Text → Prop
  /-- The mnemonic of a line without a label. -/
  | unlabelled {margin rest : Text} (blank : ∀ c ∈ margin, Text.isBlank c = true)
      (apart : ∀ c ∈ (Text.cut ';' rest).1.head?, Text.isBlank c = true)
      (noLabel : ':' ∉ (Text.cut ';' rest).1) : IsAround margin rest
  /-- The mnemonic of a line with a label. -/
  | labelled {name margin rest : Text} (noComment : ';' ∉ name) (noColon : ':' ∉ name)
      (blank : ∀ c ∈ margin, Text.isBlank c = true)
      (apart : ∀ c ∈ (Text.cut ';' rest).1.head?, Text.isBlank c = true) :
      IsAround (name ++ ':' :: margin) rest

theorem exists_of_ofBody {label : Option Text} {body comment word : Text}
    (opens : (ofBody label body comment).mnemonic = some word) :
    ∃ margin rest, body = margin ++ (word ++ rest) ∧ (∀ c ∈ margin, Text.isBlank c = true) ∧
      ∀ c ∈ rest.head?, Text.isBlank c = true := by
  let trimmed := Text.trim body
  let behind := (Text.trimStart body).rtakeWhile Text.isBlank
  have isWord : trimmed.takeWhile (!Text.isBlank ·) = word := by
    rw [ofBody] at opens
    split at opens
    next => cases opens
    next => exact Option.some.inj opens
  have parts : trimmed ++ behind = Text.trimStart body := List.rdropWhile_append_rtakeWhile ..
  refine ⟨body.takeWhile Text.isBlank, trimmed.dropWhile (!Text.isBlank ·) ++ behind, ?_, ?_, ?_⟩
  · rw [← isWord, ← List.append_assoc (trimmed.takeWhile _), List.takeWhile_append_dropWhile, parts]
    exact List.takeWhile_append_dropWhile.symm
  · exact fun c member => List.mem_takeWhile_imp member
  · intro c first
    rw [List.head?_append] at first
    cases inside : (trimmed.dropWhile (!Text.isBlank ·)).head? with
    | none =>
        rw [inside, Option.none_or] at first
        exact List.mem_rtakeWhile_imp (List.mem_of_mem_head? first)
    | some other =>
        rw [inside] at first
        cases first
        have stops := List.head?_dropWhile_not (!Text.isBlank ·) trimmed
        rw [inside] at stops
        simpa using stops

/-- The mnemonic of every line that can be taken apart stands between two such texts. -/
theorem exists_isAround {text word : Text} {line : SourceLine} (read : ofText text = .ok line)
    (opens : line.mnemonic = some word) :
    ∃ front rest, text = front ++ (word ++ rest) ∧ IsAround front rest := by
  let code := (Text.cut ';' text).1
  let tail := ((Text.cut ';' text).2.map (';' :: ·)).getD []
  have whole : code ++ tail = text := Text.fst_cut_append ';' text
  have noComment : ';' ∉ code := Text.not_mem_fst_cut ';' text
  have behind {rest : Text} (noMark : ';' ∉ rest) : (Text.cut ';' (rest ++ tail)).1 = rest := by
    cases comment : (Text.cut ';' text).2 with
    | none => simp only [tail, comment, Option.map_none, Option.getD_none, List.append_nil,
        Text.cut_of_not_mem noMark]
    | some comment => simp only [tail, comment, Option.map_some, Option.getD_some,
        Text.cut_append _ noMark]
  rw [ofText] at read
  simp only at read
  split at read
  next noLabel =>
    cases read
    obtain ⟨margin, rest, isCode, blank, apart⟩ := exists_of_ofBody opens
    have noColon : ':' ∉ code := Text.not_mem_of_snd_cut noLabel
    change code = _ at isCode
    rw [isCode, List.mem_append, List.mem_append, not_or, not_or] at noColon noComment
    refine ⟨margin, rest ++ tail, ?_, .unlabelled blank ?_ ?_⟩
    · rw [← whole, isCode, List.append_assoc, List.append_assoc]
    · rwa [behind noComment.2.2]
    · rw [behind noComment.2.2]
      exact noColon.2.2
  next body isBody =>
    have isCode : (Text.cut ':' code).1 ++ ':' :: body = code := by
      have parts := Text.fst_cut_append ':' code
      rwa [isBody] at parts
    have noColon := Text.not_mem_fst_cut ':' code
    split at read
    next =>
      cases read
      obtain ⟨margin, rest, rfl, blank, apart⟩ := exists_of_ofBody opens
      rw [← isCode, List.mem_append, List.mem_cons, List.mem_append, List.mem_append, not_or, not_or,
        not_or, not_or] at noComment
      obtain ⟨noMark, -, -, -, noMarkRest⟩ := noComment
      refine ⟨_, rest ++ tail, ?_, .labelled noMark noColon blank ?_⟩
      · calc
          text = code ++ tail := whole.symm
          _ = (Text.cut ':' code).1 ++ ':' :: (margin ++ (word ++ rest)) ++ tail := by rw [isCode]
          _ = _ := by simp only [List.append_assoc, List.cons_append]
      · rwa [behind noMarkRest]
    next => cases read

/-- An edit of a line that leaves what the line says. -/
inductive Edit : Text → Text → Prop
  /-- Blanks are put before the line. -/
  | indent {margin : Text} (line : Text) (blank : ∀ c ∈ margin, Text.isBlank c = true) :
      Edit line (margin ++ line)
  /-- Blanks are put behind the line. -/
  | extend {margin : Text} (line : Text) (blank : ∀ c ∈ margin, Text.isBlank c = true) :
      Edit line (line ++ margin)
  /-- A comment is put behind the line. -/
  | comment (line comment : Text) : Edit line (line ++ ';' :: comment)
  /-- The mnemonic of the line is written in another letter case. -/
  | respell {front word other rest : Text} {mnemonic : Mnemonic} (around : IsAround front rest)
      (spelled : Mnemonic.ofText? word = some mnemonic)
      (respelled : Mnemonic.ofText? other = some mnemonic) :
      Edit (front ++ (word ++ rest)) (front ++ (other ++ rest))

theorem contents?_respelled {front word other rest : Text} {mnemonic : Mnemonic}
    (around : IsAround front rest) (spelled : Mnemonic.ofText? word = some mnemonic)
    (respelled : Mnemonic.ofText? other = some mnemonic) :
    contents? (front ++ (word ++ rest)) = contents? (front ++ (other ++ rest)) := by
  have noMark {text : Text} (found : Mnemonic.ofText? text = some mnemonic) :
      ';' ∉ text ∧ ':' ∉ text :=
    ⟨Mnemonic.not_mem_of_ofText? found rfl (by simp) rfl,
      Mnemonic.not_mem_of_ofText? found rfl (by simp) rfl⟩
  have code {text : Text} (found : Mnemonic.ofText? text = some mnemonic) :
      (Text.cut ';' (text ++ rest)).1 = text ++ (Text.cut ';' rest).1 := by
    rw [Text.cut_append_of_not_mem rest (noMark found).1]
  cases around with
  | unlabelled blank apart noLabel =>
      have unlabelled {text : Text} (found : Mnemonic.ofText? text = some mnemonic) :
          contents? (front ++ (text ++ rest)) =
            bodyContents? none (text ++ (Text.cut ';' rest).1) := by
        rw [contents?_indented _ blank, contents?_eq, code found,
          Text.cut_of_not_mem (List.not_mem_append (noMark found).2 noLabel)]
      rw [unlabelled spelled, unlabelled respelled,
        bodyContents?_respelled none spelled respelled apart]
  | @labelled name margin rest noComment noColon blank apart =>
      have labelled {text : Text} (found : Mnemonic.ofText? text = some mnemonic) :
          contents? ((name ++ ':' :: margin) ++ (text ++ rest)) =
            if Operand.isLabelName (Text.trimStart name) then
              bodyContents? (some (Text.trimStart name)) (text ++ (Text.cut ';' rest).1)
            else .error (.reported (.label (Text.trimStart name ++ [':']))) := by
        have noMarks : ';' ∉ name ++ ':' :: margin :=
          List.not_mem_append noComment
            (List.not_mem_cons_of_ne_of_not_mem (by simp) (not_mem_of_isBlank blank rfl))
        rw [contents?_eq, Text.cut_append_of_not_mem _ noMarks, code found, List.append_assoc,
          List.cons_append, Text.cut_append _ noColon]
        have body : Text.trim (margin ++ (text ++ (Text.cut ';' rest).1)) =
            Text.trim (text ++ (Text.cut ';' rest).1) := by
          rw [Text.trim, Text.trimStart_append _ blank, ← Text.trim]
        simp only [bodyContents?_of_trim _ body]
      rw [labelled spelled, labelled respelled, bodyContents?_respelled _ spelled respelled apart]

/-- A line says the same after an edit. -/
theorem Edit.contents?_eq {line other : Text} (edit : Edit line other) :
    contents? line = contents? other := by
  cases edit with
  | indent _ blank => exact (contents?_indented line blank).symm
  | extend _ blank => exact (contents?_extended line blank).symm
  | comment _ comment => exact (contents?_commented line comment).symm
  | respell around spelled respelled => exact contents?_respelled around spelled respelled

end SourceLine

/-! ## What a source says -/

/-- What lines say, one after another, where lines that say nothing are left out. -/
def said? (lines : List Text) : Except (Fault Cause) (List (Option Text × Option Statement)) :=
  List.filter (· ≠ (none, none)) <$> lines.mapM SourceLine.contents?

theorem said?_append (lines more : List Text) :
    said? (lines ++ more) = do
      let first ← said? lines
      let second ← said? more
      return first ++ second := by
  rw [said?, said?, said?, List.mapM_append]
  cases lines.mapM SourceLine.contents? with
  | error fault => rfl
  | ok first =>
      cases more.mapM SourceLine.contents? with
      | error fault => rfl
      | ok second => exact congrArg Except.ok (List.filter_append _ _)

theorem said?_append_eq_ok_iff {lines more : List Text}
    {said : List (Option Text × Option Statement)} :
    said? (lines ++ more) = .ok said ↔
      ∃ first second, said? lines = .ok first ∧ said? more = .ok second ∧ said = first ++ second := by
  rw [said?_append, bind_eq_ok_iff]
  constructor
  · rintro ⟨first, isFirst, rest⟩
    obtain ⟨second, isSecond, same⟩ := bind_eq_ok_iff.mp rest
    exact ⟨first, second, isFirst, isSecond, (Except.ok.inj same).symm⟩
  · rintro ⟨first, second, isFirst, isSecond, rfl⟩
    exact ⟨first, isFirst, bind_eq_ok_iff.mpr ⟨second, isSecond, rfl⟩⟩

theorem said?_singleton (line : Text) :
    said? [line] = List.filter (· ≠ (none, none)) <$> (fun contents => [contents]) <$>
      SourceLine.contents? line := by
  rw [said?, List.mapM_cons]
  cases SourceLine.contents? line with
  | error fault => rfl
  | ok contents => rfl

theorem said?_idle_cons {line : Text} (rest : List Text) (idle : SourceLine.IsIdle line) :
    said? (line :: rest) = said? rest := by
  rw [← List.singleton_append, said?_append, said?_singleton, SourceLine.contents?_idle idle]
  cases said? rest with
  | error fault => rfl
  | ok said => rfl

/-- An edit of the lines of a source that leaves what they say. -/
inductive SourceEdit : List Text → List Text → Prop
  /-- One of the lines is edited. -/
  | line (before after : List Text) {line other : Text} (edit : SourceLine.Edit line other) :
      SourceEdit (before ++ line :: after) (before ++ other :: after)
  /-- A line is inserted that says nothing. -/
  | insert (before after : List Text) {line : Text} (idle : SourceLine.IsIdle line) :
      SourceEdit (before ++ after) (before ++ line :: after)

theorem SourceEdit.said?_eq {lines more : List Text} (edit : SourceEdit lines more) :
    said? lines = said? more := by
  cases edit with
  | @line before after line other edit =>
      have same : said? [line] = said? [other] := by
        rw [said?_singleton, said?_singleton, edit.contents?_eq]
      rw [said?_append, said?_append, ← List.singleton_append, said?_append, same, ← said?_append,
        List.singleton_append]
  | insert before after idle =>
      rw [said?_append, said?_append, said?_idle_cons after idle]

/-- Lines say the same after any number of edits, each of them made or undone. -/
theorem said?_eq_of_edits {lines more : List Text}
    (edits : Relation.EqvGen SourceEdit lines more) : said? lines = said? more := by
  induction edits with
  | rel lines more edit => exact edit.said?_eq
  | refl lines => rfl
  | symm lines more _ induction => exact induction.symm
  | trans lines between more _ _ first second => exact first.trans second

theorem said?_solidLines (source : Text) :
    said? (Text.solidLines source) = said? (Text.lines source) := by
  rw [Text.solidLines]
  induction Text.lines source with
  | nil => rfl
  | cons line rest induction =>
      rw [List.filter_cons]
      split
      next =>
        rw [← List.singleton_append, said?_append, induction, ← said?_append, List.singleton_append]
      next blank =>
        have isBlank : Text.trim line = [] := by simpa using blank
        have blankLine : ∀ c ∈ line, Text.isBlank c = true := fun c member => by
          by_contra solid
          exact Text.trim_ne_nil member (Bool.eq_false_iff.mpr solid) isBlank
        rw [induction, said?_idle_cons rest (SourceLine.isIdle_of_blank blankLine)]

/-- Anything that lines can say is said by some lines. -/
theorem PlacedLine.exists_map_contents_eq (said : List (Option Text × Option Statement)) :
    ∃ lines : List PlacedLine, lines.map contents = said :=
  ⟨said.map fun said => ⟨⟨[], 0, 0⟩, [], said.1, said.2⟩, by
    rw [List.map_map]
    exact List.map_id said⟩

/-! ## Layouts -/

namespace Layout

open PlacedLine

theorem add_of_contents {line : PlacedLine} (layout : Layout)
    (nothing : line.contents = (none, none)) : layout.add line = layout := by
  obtain ⟨noLabel, noStatement⟩ := Prod.mk.inj nothing
  rw [add, perform, noStatement, noLabel]
  rfl

/-- Lines that say nothing leave no trace in a layout. -/
theorem ofLines_filter (lines : List PlacedLine) :
    ofLines (lines.filter fun line => line.contents ≠ (none, none)) = ofLines lines := by
  have all (layout : Layout) :
      (lines.filter fun line => line.contents ≠ (none, none)).foldl add layout =
        lines.foldl add layout := by
    induction lines generalizing layout with
    | nil => rfl
    | cons line rest induction =>
        rw [List.filter_cons, List.foldl_cons]
        split
        next => exact induction _
        next nothing => rw [induction, add_of_contents layout (by simpa using nothing)]
  exact all empty

end Layout

namespace Program

open PlacedLine

/-- Whether a source is assembled, and to which words and labels, is told by what its lines say that
say anything. -/
theorem exists_assemble_iff_said {file source : Text} {words : List Word} {symbols : SymbolTable} :
    (∃ program, assemble file source = .ok program ∧ program.words = words ∧
        program.layout.symbols = symbols) ↔
      ∃ lines : List PlacedLine,
        said? (Text.lines source) = .ok (lines.map contents) ∧
          (Layout.ofLines lines).symbols = symbols ∧
            (Layout.ofLines lines).image.words symbols = .ok words := by
  rw [exists_assemble_iff, ← said?_solidLines]
  constructor
  · rintro ⟨lines, said, same, found⟩
    refine ⟨lines.filter fun line => line.contents ≠ (none, none), ?_, ?_⟩
    · rw [said?, said]
      exact congrArg Except.ok List.filter_map
    · rw [Layout.ofLines_filter]
      exact ⟨same, found⟩
  · rintro ⟨lines, said, rfl, found⟩
    obtain ⟨all, solid, filtered⟩ := map_eq_ok_iff.mp said
    obtain ⟨placed, contentsPlaced⟩ := exists_map_contents_eq all
    have same : (placed.filter fun line => line.contents ≠ (none, none)).map contents =
        lines.map contents := by
      rw [← filtered, ← contentsPlaced]
      exact (List.filter_map (f := contents) (p := (· ≠ (none, none)))).symm
    refine ⟨placed, by rw [contentsPlaced, solid], ?_, ?_⟩
    · rw [← Layout.ofLines_filter]
      exact (Layout.ofLines_matches same).symbols
    · rw [← Layout.ofLines_filter, ← (Layout.ofLines_matches same).symbols]
      exact (Layout.words_eq_ok_iff_of_contents same).mpr found

/-- The layout of a source does not matter.  A source is assembled if and only if it is assembled
after edits that leave what its lines say, each of them made or undone, and then to the same words
and the same labels. -/
theorem assemble_of_edits {source other : Text}
    (edits : Relation.EqvGen SourceEdit (Text.lines source) (Text.lines other)) (file : Text) :
    ((∃ program, assemble file source = .ok program) ↔
        ∃ edited, assemble file other = .ok edited) ∧
      ∀ program edited, assemble file source = .ok program → assemble file other = .ok edited →
        edited.words = program.words ∧ edited.layout.symbols = program.layout.symbols := by
  have carried {source other : Text} (same : said? (Text.lines source) = said? (Text.lines other))
      {program : Program} (assembled : assemble file source = .ok program) :
      ∃ edited, assemble file other = .ok edited ∧ edited.words = program.words ∧
        edited.layout.symbols = program.layout.symbols := by
    have lines := exists_assemble_iff_said.mp ⟨program, assembled, rfl, rfl⟩
    rw [same] at lines
    exact exists_assemble_iff_said.mpr lines
  have same := said?_eq_of_edits edits
  refine ⟨⟨?_, ?_⟩, fun program edited assembled assembledOther => ?_⟩
  · rintro ⟨program, assembled⟩
    obtain ⟨edited, assembledOther, -⟩ := carried same assembled
    exact ⟨edited, assembledOther⟩
  · rintro ⟨edited, assembledOther⟩
    obtain ⟨program, assembled, -⟩ := carried same.symm assembledOther
    exact ⟨program, assembled⟩
  · obtain ⟨found, foundOther, agree⟩ := carried same assembled
    obtain rfl := Except.ok.inj (foundOther.symm.trans assembledOther)
    exact agree

/-- A comment with other marks in it, a mnemonic in capital letters and an indented line. -/
theorem assemble_of_rewritten :
    let source := "start: load R1,[2]\nhalt".toList
    let other := ";-\nstart: LOAD R1,[2];\"x:\n\thalt".toList
    Relation.EqvGen SourceEdit (Text.lines source) (Text.lines other) ∧
      ∃ program edited, assemble inputName source = .ok program ∧
        assemble inputName other = .ok edited ∧ edited.words = [⟨0x11, 0x02⟩, ⟨0xC0, 0x00⟩] ∧
          edited.layout.symbols = program.layout.symbols := by
  intro source other
  let load := "start: load R1,[2]".toList
  let capital := "start: LOAD R1,[2]".toList
  let commented := capital ++ ';' :: "\"x:".toList
  have respelled : SourceEdit [load, "halt".toList] [capital, "halt".toList] :=
    .line [] _ <| @SourceLine.Edit.respell "start: ".toList "load".toList "LOAD".toList
      " R1,[2]".toList .load
      (@SourceLine.IsAround.labelled "start".toList " ".toList " R1,[2]".toList (by simp) (by simp)
        (by simp [Text.isBlank]) (by simp [Text.cut, Text.isBlank]))
      rfl rfl
  have comment : SourceEdit [capital, "halt".toList] [commented, "halt".toList] :=
    .line [] _ (.comment _ _)
  have indented : SourceEdit [commented, "halt".toList] [commented, "\thalt".toList] :=
    .line [commented] [] (@SourceLine.Edit.indent "\t".toList _ (by simp [Text.isBlank]))
  have inserted : SourceEdit [commented, "\thalt".toList]
      [";-".toList, commented, "\thalt".toList] :=
    .insert [] _ (by simp [SourceLine.IsIdle, Text.cut])
  have edits : Relation.EqvGen SourceEdit (Text.lines source) (Text.lines other) :=
    .trans _ _ _ (.rel _ _ respelled) <| .trans _ _ _ (.rel _ _ comment) <|
      .trans _ _ _ (.rel _ _ indented) (.rel _ _ inserted)
  have either := assemble_of_edits edits inputName
  have succeeds : ∃ program, assemble inputName source = .ok program := ⟨_, rfl⟩
  obtain ⟨program, assembled⟩ := succeeds
  obtain ⟨edited, assembledOther⟩ := either.1.mp ⟨program, assembled⟩
  obtain ⟨words, symbols⟩ := either.2 program edited assembled assembledOther
  refine ⟨edits, program, edited, assembled, assembledOther, ?_, symbols⟩
  rw [words]
  cases assembled
  rfl

end Program
end ByteMachine
