import ByteMachine.Proofs.Assembly.SourceLayout

/-!
# Lines rendered and read back

A line is rendered as its label with a colon, its mnemonic, its operands with commas between them and
its comment behind a semicolon, with blanks where blanks may stand.  Of every rendering the parts are
read back, whatever marks the later parts contain: the comment may contain all marks, and once there
is a label the mnemonic and the operands may contain colons.  The only lines that cannot be taken
apart are those with a colon before which no label name stands.
-/

namespace ByteMachine

/-! ## Blanks around a text -/

namespace Text

/-- A text with blanks around it. -/
def IsPadded (text padded : Text) : Prop :=
  ∃ before after, (∀ c ∈ before, isBlank c = true) ∧ (∀ c ∈ after, isBlank c = true) ∧
    padded = before ++ (text ++ after)

theorem IsPadded.trim_eq {text padded : Text} (around : IsPadded text padded) :
    trim padded = trim text := by
  obtain ⟨before, after, blankBefore, blankAfter, rfl⟩ := around
  rw [trim, trimStart_append _ blankBefore, ← trim, trim_append text blankAfter]

theorem IsPadded.not_mem {text padded : Text} {mark : Char} (around : IsPadded text padded)
    (solid : isBlank mark = false) (absent : mark ∉ text) : mark ∉ padded := by
  obtain ⟨before, after, blankBefore, blankAfter, rfl⟩ := around
  exact List.not_mem_append (SourceLine.not_mem_of_isBlank blankBefore solid)
    (List.not_mem_append absent (SourceLine.not_mem_of_isBlank blankAfter solid))

theorem isPadded_trimStart_trimEnd (text : Text) : IsPadded (trimStart (trimEnd text)) text := by
  refine ⟨(trimEnd text).takeWhile isBlank, text.rtakeWhile isBlank, ?_, ?_, ?_⟩
  · exact fun c member => List.mem_takeWhile_imp member
  · exact fun c member => List.mem_rtakeWhile_imp member
  · rw [trimStart, ← List.append_assoc, List.takeWhile_append_dropWhile]
    exact List.rdropWhile_append_rtakeWhile.symm

/-- Blanks around the whole text do not reach into its trimmed pieces. -/
theorem IsPadded.map_trim_pieces {text padded : Text} {mark : Char} (around : IsPadded text padded)
    (solid : isBlank mark = false) : (pieces mark padded).map trim = (pieces mark text).map trim := by
  obtain ⟨before, after, blankBefore, blankAfter, rfl⟩ := around
  obtain ⟨first, more, inner, outer⟩ :=
    pieces_margin_append (text ++ after) (SourceLine.not_mem_of_isBlank blankBefore solid)
  obtain ⟨others, last, plain, extended⟩ :=
    pieces_append_margin text (SourceLine.not_mem_of_isBlank blankAfter solid)
  have start : trim (before ++ first) = trim first := by
    rw [trim, trimStart_append _ blankBefore, ← trim]
  calc
    _ = (pieces mark (text ++ after)).map trim := by
      rw [outer, inner, List.map_cons, List.map_cons, start]
    _ = (pieces mark text).map trim := by
      rw [extended, plain, List.map_append, List.map_append, List.map_singleton,
        List.map_singleton, trim_append last blankAfter]

end Text

/-! ## Renderings -/

namespace SourceLine

/-- An operand as it is rendered, with blanks around it. -/
structure PaddedOperand where
  /-- The blanks before the operand. -/
  before : Text
  /-- The operand itself. -/
  text : Text
  /-- The blanks behind the operand. -/
  after : Text
  blankBefore : ∀ c ∈ before, Text.isBlank c = true
  blankAfter : ∀ c ∈ after, Text.isBlank c = true
  trimmed : text.IsTrimmed
  noComma : ',' ∉ text
  noSemicolon : ';' ∉ text

namespace PaddedOperand

/-- The operand with its blanks. -/
def padded (operand : PaddedOperand) : Text :=
  operand.before ++ (operand.text ++ operand.after)

variable (operand : PaddedOperand)

theorem isPadded : Text.IsPadded operand.text operand.padded :=
  ⟨operand.before, operand.after, operand.blankBefore, operand.blankAfter, rfl⟩

theorem trim_padded : Text.trim operand.padded = operand.text :=
  operand.isPadded.trim_eq.trans operand.trimmed.trim

end PaddedOperand

/-- A way to write a line with a mnemonic. -/
structure Rendering where
  /-- The label without its colon. -/
  label : Option Text
  /-- The blanks before the mnemonic. -/
  margin : Text
  /-- The mnemonic. -/
  mnemonic : Text
  /-- The blanks between the mnemonic and the operands. -/
  gap : Text
  /-- The operands with the blanks around them. -/
  operands : List PaddedOperand
  /-- The comment without its semicolon. -/
  comment : Text
  isLabelName : ∀ name ∈ label, Operand.isLabelName name = true
  blankMargin : ∀ c ∈ margin, Text.isBlank c = true
  present : mnemonic ≠ []
  solid : ∀ c ∈ mnemonic, Text.isBlank c = false
  noSemicolon : ';' ∉ mnemonic
  blankGap : ∀ c ∈ gap, Text.isBlank c = true
  apart : gap ≠ []
  /-- One empty operand would look like no operand at all. -/
  notOneEmpty : operands.map (·.text) ≠ [[]]
  /-- Without a label the first colon would be taken for its end. -/
  noColon : label = none → ':' ∉ mnemonic ∧ ∀ operand ∈ operands, ':' ∉ operand.text
  trimmed : comment.IsTrimmed

namespace Rendering

/-- The operands as they are rendered. -/
def operandText (rendering : Rendering) : Text :=
  Text.join [','] (rendering.operands.map (·.padded))

/-- What is rendered behind the label. -/
def body (rendering : Rendering) : Text :=
  rendering.margin ++ (rendering.mnemonic ++ (rendering.gap ++ rendering.operandText))

/-- What is rendered before the comment. -/
def code (rendering : Rendering) : Text :=
  match rendering.label with
  | none => rendering.body
  | some name => name ++ ':' :: rendering.body

/-- The line as it is rendered. -/
def text (rendering : Rendering) : Text :=
  rendering.code ++ ';' :: rendering.comment

/-- The line that is rendered. -/
def line (rendering : Rendering) : SourceLine :=
  ⟨rendering.label, some rendering.mnemonic, rendering.operands.map (·.text), rendering.comment⟩

variable (rendering : Rendering)

theorem not_mem_operandText {mark : Char} (solid : Text.isBlank mark = false) (noComma : mark ≠ ',')
    (absent : ∀ operand ∈ rendering.operands, mark ∉ operand.text) :
    mark ∉ rendering.operandText := by
  intro member
  rcases Text.mem_join member with comma | ⟨padded, padMem, inside⟩
  · exact noComma (List.mem_singleton.mp comma)
  · obtain ⟨operand, operandMem, rfl⟩ := List.mem_map.mp padMem
    exact operand.isPadded.not_mem solid (absent operand operandMem) inside

theorem not_mem_body {mark : Char} (solid : Text.isBlank mark = false) (noComma : mark ≠ ',')
    (noMnemonic : mark ∉ rendering.mnemonic)
    (absent : ∀ operand ∈ rendering.operands, mark ∉ operand.text) : mark ∉ rendering.body :=
  List.not_mem_append (not_mem_of_isBlank rendering.blankMargin solid) <|
    List.not_mem_append noMnemonic <|
      List.not_mem_append (not_mem_of_isBlank rendering.blankGap solid)
        (rendering.not_mem_operandText solid noComma absent)

theorem noSemicolon_body : ';' ∉ rendering.body :=
  rendering.not_mem_body rfl (by simp) rendering.noSemicolon
    fun operand _ => operand.noSemicolon

/-- The rendered operands are found again at the commas. -/
theorem map_trim_pieces_operandText (present : rendering.operands ≠ []) :
    (Text.pieces ',' rendering.operandText).map Text.trim =
      rendering.operands.map (·.text) := by
  have noComma : ∀ padded ∈ rendering.operands.map (·.padded), ',' ∉ padded := by
    intro padded member
    obtain ⟨operand, -, rfl⟩ := List.mem_map.mp member
    exact operand.isPadded.not_mem rfl operand.noComma
  rw [operandText, Text.pieces_join (by simpa using present) noComma, List.map_map]
  exact List.map_congr_left fun operand _ => operand.trim_padded

/-- The blanks behind the mnemonic do not reach into the operands. -/
theorem map_trim_pieces_behind (present : rendering.operands ≠ []) :
    (Text.pieces ',' (Text.trimStart (Text.trimEnd
        (rendering.gap ++ rendering.operandText)))).map Text.trim =
      rendering.operands.map (·.text) := by
  have behindGap : Text.IsPadded rendering.operandText (rendering.gap ++ rendering.operandText) :=
    ⟨rendering.gap, [], rendering.blankGap, by simp, by rw [List.append_nil]⟩
  rw [← (Text.isPadded_trimStart_trimEnd _).map_trim_pieces rfl, behindGap.map_trim_pieces rfl,
    rendering.map_trim_pieces_operandText present]

theorem trimmed_behind_of_nil (none : rendering.operands = []) :
    Text.trimStart (Text.trimEnd (rendering.gap ++ rendering.operandText)) = [] := by
  have blank : Text.trimEnd ([] ++ rendering.gap) = [] :=
    Text.trimEnd_append [] rendering.blankGap
  rw [operandText, none, List.map_nil, Text.join, List.append_nil]
  exact congrArg Text.trimStart blank

theorem ofBody_body (label : Option Text) (comment : Text) :
    ofBody label rendering.body comment =
      ⟨label, some rendering.mnemonic, rendering.operands.map (·.text), comment⟩ := by
  have apart : ∀ c ∈ (rendering.gap ++ rendering.operandText).head?, Text.isBlank c = true := by
    obtain ⟨first, rest, gap⟩ := List.exists_cons_of_ne_nil rendering.apart
    intro c isFirst
    refine rendering.blankGap c ?_
    rw [gap, List.cons_append, List.head?_cons, Option.mem_some_iff] at isFirst
    rw [gap, isFirst]
    exact List.mem_cons_self
  have unindented : ofBody label rendering.body comment =
      ofBody label (rendering.mnemonic ++ (rendering.gap ++ rendering.operandText)) comment := by
    rw [ofBody, ofBody, body, Text.trim, Text.trimStart_append _ rendering.blankMargin, ← Text.trim]
  rw [unindented, ofBody_word_rest label comment rendering.solid rendering.present apart]
  dsimp only
  rw [SourceLine.mk.injEq]
  refine ⟨rfl, rfl, ?_, rfl⟩
  by_cases none : rendering.operands = []
  · rw [if_pos (rendering.trimmed_behind_of_nil none), none, List.map_nil]
  · have found := rendering.map_trim_pieces_behind none
    rw [if_neg, found]
    -- Nothing behind the mnemonic would be read as one empty operand.
    intro empty
    rw [empty] at found
    exact rendering.notOneEmpty found.symm

end Rendering

/-! ## Reading back -/

theorem ofBody_with_comment (label : Option Text) (body comment : Text) :
    { ofBody label body [] with comment := comment } = ofBody label body comment := by
  rw [ofBody, ofBody]
  split <;> rfl

/-- A comment does not interfere with the code before it. -/
theorem ofText_commented {code : Text} (comment : Text) (noComment : ';' ∉ code) :
    ofText (code ++ ';' :: comment) =
      (ofText code).map fun line => { line with comment := Text.trim comment } := by
  rw [ofText, ofText, Text.cut_append comment noComment, Text.cut_of_not_mem noComment]
  dsimp only
  cases (Text.cut ':' code).2 with
  | none => exact congrArg Except.ok (ofBody_with_comment ..).symm
  | some body =>
      dsimp only
      split
      next => exact congrArg Except.ok (ofBody_with_comment ..).symm
      next => rfl

namespace Rendering

variable (rendering : Rendering)

theorem noSemicolon_code : ';' ∉ rendering.code := by
  rw [code]
  split
  next => exact rendering.noSemicolon_body
  next name labelled =>
    have noMark : ';' ∉ name :=
      Operand.not_mem_of_isLabelName (rendering.isLabelName name labelled) rfl
    exact List.not_mem_append noMark
      (List.not_mem_cons_of_ne_of_not_mem (by simp) rendering.noSemicolon_body)

theorem ofText_code : ofText rendering.code = .ok (ofBody rendering.label rendering.body []) := by
  rw [code]
  split
  next unlabelled =>
    obtain ⟨noMnemonic, noOperand⟩ := rendering.noColon unlabelled
    rw [unlabelled, ofText_of_unlabelled rendering.noSemicolon_body
      (rendering.not_mem_body rfl (by simp) noMnemonic noOperand)]
  next name labelled =>
    rw [labelled, ofText_of_labelled (rendering.isLabelName name labelled)
      rendering.noSemicolon_body]

/-- What is rendered is read back. -/
theorem ofText_text : ofText rendering.text = .ok rendering.line := by
  rw [text, ofText_commented rendering.comment rendering.noSemicolon_code, ofText_code, Except.map,
    rendering.trimmed.trim, ofBody_with_comment, ofBody_body]
  rfl

end Rendering

/-! ## Lines refused -/

/-- The code of a line: all that stands before the first semicolon. -/
inductive IsCode : Text → Text → Prop
  | whole {code : Text} (noComment : ';' ∉ code) : IsCode code code
  | commented {code : Text} (comment : Text) (noComment : ';' ∉ code) :
      IsCode code (code ++ ';' :: comment)

theorem isCode_iff {code text : Text} : IsCode code text ↔ (Text.cut ';' text).1 = code := by
  constructor
  · rintro (⟨noComment⟩ | ⟨comment, noComment⟩)
    · rw [Text.cut_of_not_mem noComment]
    · rw [Text.cut_append comment noComment]
  · rintro rfl
    rcases parts : Text.cut ';' text with ⟨code, none | comment⟩
    · obtain ⟨rfl, noComment⟩ := Text.cut_eq_none_iff.mp parts
      exact .whole noComment
    · obtain ⟨rfl, noComment⟩ := Text.cut_eq_some_iff.mp parts
      exact .commented comment noComment

/-- A line is refused for what stands before the first colon of its code, and that is reported with
the colon. -/
theorem ofText_eq_error_iff {text : Text} {cause : Cause} :
    ofText text = .error cause ↔
      ∃ code name body, IsCode code text ∧ code = name ++ ':' :: body ∧ ':' ∉ name ∧
        Operand.isLabelName (Text.trimStart name) = false ∧
          cause = .label (Text.trimStart name ++ [':']) := by
  constructor
  · intro failed
    unfold ofText at failed
    dsimp only at failed
    split at failed
    next => cases failed
    next body isBody =>
      split at failed
      next => cases failed
      next invalid =>
        cases failed
        obtain ⟨parts, noColon⟩ := Text.cut_eq_some_iff.mp (Prod.ext rfl isBody)
        exact ⟨_, _, body, isCode_iff.mpr rfl, parts, noColon, Bool.eq_false_iff.mpr invalid, rfl⟩
  · rintro ⟨code, name, body, isCode, rfl, noColon, invalid, rfl⟩
    unfold ofText
    simp only [isCode_iff.mp isCode, Text.cut_append body noColon, invalid, Bool.false_eq_true,
      if_false]

/-- Reading undoes rendering, whatever the parts are and wherever blanks stand; and a line is
refused if and only if a colon stands in its code and what stands before the first one, with the
blanks at its start left out, is not the name of a label. -/
theorem ofText_undoes_rendering :
    (∀ rendering : Rendering, ofText rendering.text = .ok rendering.line) ∧
      ∀ text : Text, (∃ shown, ofText text = .error (.label shown)) ↔
        ∃ code name body, IsCode code text ∧ code = name ++ ':' :: body ∧ ':' ∉ name ∧
          Operand.isLabelName (Text.trimStart name) = false := by
  refine ⟨Rendering.ofText_text, fun text => ⟨?_, ?_⟩⟩
  · rintro ⟨shown, failed⟩
    obtain ⟨code, name, body, isCode, parts, noColon, invalid, -⟩ := ofText_eq_error_iff.mp failed
    exact ⟨code, name, body, isCode, parts, noColon, invalid⟩
  · rintro ⟨code, name, body, isCode, parts, noColon, invalid⟩
    exact ⟨_, ofText_eq_error_iff.mpr ⟨code, name, body, isCode, parts, noColon, invalid, rfl⟩⟩

/-- Empty operands at both ends, an operand with a colon, a quotation mark and a blank in it, and
marks of all kinds in the mnemonic and in the comment; and a colon after a blank. -/
theorem ofText_undoes_rendering_of_marks :
    ofText "x~1:\tmv:,\u2003\t, a: \"b ,\t;; x, y:".toList =
        .ok ⟨some "x~1".toList, some "mv:,".toList, [[], "a: \"b".toList, []], "; x, y:".toList⟩ ∧
      ∃ shown, ofText " a : mv;y:".toList = .error (.label shown) := by
  have tab : ∀ c ∈ "\t".toList, Text.isBlank c = true := by simp [Text.isBlank]
  have space : ∀ c ∈ " ".toList, Text.isBlank c = true := by simp [Text.isBlank]
  let empty : PaddedOperand :=
    ⟨"\t".toList, [], [], tab, by simp, by simp [Text.IsTrimmed], by simp, by simp⟩
  let colon : PaddedOperand :=
    ⟨" ".toList, "a: \"b".toList, " ".toList, space, space,
      by simp [Text.IsTrimmed, Text.isBlank], by simp, by simp⟩
  let rendering : Rendering :=
    { label := some "x~1".toList
      margin := "\t".toList
      mnemonic := "mv:,".toList
      gap := "\u2003".toList
      operands := [empty, colon, empty]
      comment := "; x, y:".toList
      isLabelName := by simp [Operand.isLabelName, Operand.isLabelChar]
      blankMargin := tab
      present := by simp
      solid := by simp [Text.isBlank]
      noSemicolon := by simp
      blankGap := by simp [Text.isBlank]
      apart := by simp
      notOneEmpty := by simp
      noColon := by simp
      trimmed := by simp [Text.IsTrimmed, Text.isBlank] }
  exact ⟨ofText_undoes_rendering.1 rendering,
    (ofText_undoes_rendering.2 _).mpr ⟨" a : mv".toList, " a ".toList, " mv".toList,
      .commented "y:".toList (by simp), rfl, by simp, rfl⟩⟩

end SourceLine
end ByteMachine
