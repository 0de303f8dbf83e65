import ByteMachine.Proofs.Assembly.DiagnosticPlaces
import ByteMachine.Proofs.Text.EditDistance

/-!
# Suggestions for misspelled labels

A label that is not defined is reported with labels much like it.  Those are labels that the source
defines, in the order of their first definitions, and three at most.  A label that differs from the
one reported in letter case only, or in a single character, is among them, unless three others come
before it.
-/

namespace ByteMachine

/-! ## Letter case -/

namespace Text

/-- In a text of ASCII characters each has a lower-case form of its own. -/
theorem lower_eq_map {text : Text} (ascii : ∀ c ∈ text, c.toNat < 0x80) :
    text.lower = text.map lowerChar := by
  have all (afterCased : Bool) : lowerFrom afterCased text = text.map lowerChar := by
    induction text generalizing afterCased with
    | nil => rfl
    | cons c rest induction =>
        rw [List.forall_mem_cons] at ascii
        rw [lowerFrom, if_pos ascii.1, induction ascii.2, List.map_cons]
  exact all false

theorem lowerChar_eq_toLower {c : Char} (ascii : c.toNat < 0x80) : lowerChar c = c.toLower := by
  have each : ∀ code < 0x80, lowerChar (Char.ofNat code) = (Char.ofNat code).toLower := by
    decide +kernel
  have same := each c.toNat ascii
  rwa [Char.ofNat_toNat] at same

end Text

namespace Operand

theorem toNat_of_isLabelChar {c : Char} (valid : isLabelChar c = true) : c.toNat < 0x80 := by
  simp only [isLabelChar, Bool.or_eq_true, beq_iff_eq] at valid
  rcases valid with ((plain | rfl) | rfl) | rfl
  · have range := Text.toNat_of_isAlphanum plain
    omega
  all_goals decide

/-- The letters of a label are ASCII letters. -/
theorem lower_of_isLabelName {name : Text} (named : isLabelName name = true) :
    name.lower = name.map Char.toLower := by
  have ascii : ∀ c ∈ name, c.toNat < 0x80 :=
    fun c member => toNat_of_isLabelChar (isLabelChar_of_mem named member)
  rw [Text.lower_eq_map ascii]
  exact List.map_congr_left fun c member => Text.lowerChar_eq_toLower (ascii c member)

end Operand

/-! ## Labels that are defined -/

namespace Entries

variable {κ α : Type} [DecidableEq κ]

theorem keys_put_of_mem {key : κ} {entries : List (κ × α)} (value : α)
    (present : key ∈ entries.map Prod.fst) :
    (put key value entries).map Prod.fst = entries.map Prod.fst := by
  induction entries with
  | nil => cases present
  | cons entry rest induction =>
      rw [put]
      split
      next replaced => rw [List.map_cons, List.map_cons, replaced]
      next kept =>
        have inRest := (List.mem_cons.mp present).resolve_left (Ne.symm kept)
        rw [List.map_cons, induction inRest, List.map_cons]

/-- A key that has no entry yet comes last. -/
theorem keys_put_of_not_mem {key : κ} {entries : List (κ × α)} (value : α)
    (absent : key ∉ entries.map Prod.fst) :
    (put key value entries).map Prod.fst = entries.map Prod.fst ++ [key] := by
  induction entries with
  | nil => rfl
  | cons entry rest induction =>
      rw [List.map_cons, List.mem_cons, not_or] at absent
      obtain ⟨apart, notInRest⟩ := absent
      rw [put, if_neg (Ne.symm apart), List.map_cons, induction notInRest]
      rfl

end Entries

namespace SourceLine

/-- The label that a line of a source defines. -/
def definedLabel? (text : Text) : Option Text :=
  match ofText text with
  | .ok line => line.label
  | .error _ => none

theorem definedLabel?_of_blank {text : Text} (blank : Text.trim text = []) :
    definedLabel? text = none := by
  have blanks : ∀ c ∈ text, Text.isBlank c = true := by
    intro c member
    by_contra solid
    exact Text.trim_ne_nil member (Bool.eq_false_iff.mpr solid) blank
  have unlabelled := ofText_of_unlabelled (not_mem_of_isBlank blanks rfl)
    (not_mem_of_isBlank blanks rfl)
  rw [definedLabel?, unlabelled]
  exact label_ofBody _ _ _

end SourceLine

namespace Program

open PlacedLine SourceLine

variable {file source : Text} {lines : List PlacedLine}

/-- The labels that a source defines, in the order of their first definitions. -/
def definedLabels (source : Text) : List Text :=
  ((Text.lines source).filterMap definedLabel?).eraseDups

theorem filterMap_definedLabel? (source : Text) :
    (numberedLines source).filterMap (fun line => definedLabel? line.2) =
      (Text.lines source).filterMap definedLabel? := by
  have ofLine (line : Text × Nat) :
      ((if Text.trim line.1 = [] then none else some (line.2, line.1)).bind
        fun line => definedLabel? line.2) = definedLabel? line.1 := by
    split
    next blank => exact (definedLabel?_of_blank blank).symm
    next => rfl
  rw [numberedLines, List.filterMap_filterMap]
  simp only [ofLine]
  change List.filterMap (definedLabel? ∘ Prod.fst) _ = _
  rw [← List.filterMap_map, List.zipIdx_map_fst]

/-- The labels of lines are those that the source defines. -/
theorem filterMap_label (read : readLines file source = .ok lines) :
    lines.filterMap PlacedLine.label = (Text.lines source).filterMap definedLabel? := by
  have all {numbered : List (Nat × Text)} {lines : List PlacedLine}
      (each : List.Forall₂ (fun line placed =>
        PlacedLine.read file line.1 line.2 = .ok placed) numbered lines) :
      lines.filterMap PlacedLine.label = numbered.filterMap fun line => definedLabel? line.2 := by
    induction each with
    | nil => rfl
    | cons first _ induction =>
        obtain ⟨parts, statement, isParts, -, rfl⟩ := read_eq_ok_iff.mp first
        rw [List.filterMap_cons, List.filterMap_cons, definedLabel?, isParts, induction]
  rw [all (mapM_eq_ok_iff.mp read), filterMap_definedLabel?]

theorem names_ofLines (lines : List PlacedLine) :
    (Layout.ofLines lines).symbols.names = (lines.filterMap PlacedLine.label).eraseDups := by
  induction lines using List.reverseRecOn with
  | nil => rfl
  | append_singleton before line induction =>
      rw [Layout.ofLines_append, List.foldl_cons, List.foldl_nil, Layout.symbols_add,
        List.filterMap_append, List.eraseDups_append]
      cases labelled : line.label with
      | none => simp [labelled, Layout.define, induction]
      | some name =>
          have sameKeys : name ∈ (Layout.ofLines before).symbols.names ↔
              name ∈ before.filterMap PlacedLine.label := by
            rw [induction, List.mem_eraseDups]
          have single : [line].filterMap PlacedLine.label = [name] := by simp [labelled]
          rw [Layout.define, SymbolTable.define, SymbolTable.names, single, List.removeAll]
          by_cases known : name ∈ before.filterMap PlacedLine.label
          · rw [Entries.keys_put_of_mem _ (sameKeys.mpr known), ← SymbolTable.names, induction,
              List.filter_cons_of_neg (by simpa using known), List.filter_nil, List.eraseDups_nil,
              List.append_nil]
          · rw [Entries.keys_put_of_not_mem _ (mt sameKeys.mp known), ← SymbolTable.names, induction,
              List.filter_cons_of_pos (by simpa using known), List.filter_nil]
            rfl

/-- The symbol table has the labels that the source defines. -/
theorem names_eq_definedLabels (read : readLines file source = .ok lines) :
    (Layout.ofLines lines).symbols.names = definedLabels source := by
  rw [names_ofLines, filterMap_label read, definedLabels]

end Program

/-! ## Similar labels -/

namespace SymbolTable

open Operand

/-- Labels that are equal up to letter case, or a single edit apart, are much alike. -/
theorem isSimilar_of_slip {name other : Text} (named : isLabelName name = true)
    (otherNamed : isLabelName other = true)
    (slip : other.map Char.toLower = name.map Char.toLower ∨ Text.OneEdit other name) :
    isSimilar name other = true := by
  rw [isSimilar, lower_of_isLabelName named, lower_of_isLabelName otherNamed, Bool.or_eq_true,
    Bool.and_eq_true, Bool.and_eq_true, beq_iff_eq]
  simp only [decide_eq_true_iff]
  obtain sameLetters | edit := slip
  · exact .inl sameLetters
  · have near := (edit.symm.map Char.toLower).editDistance_le
    exact .inr ⟨⟨edit.length_le, edit.symm.length_le⟩, Nat.le_succ_of_le near⟩

theorem similar_sublist (table : SymbolTable) (name : Text) :
    (table.similar name).Sublist table.names :=
  (List.take_sublist 3 _).trans List.filter_sublist

theorem length_similar_le (table : SymbolTable) (name : Text) :
    (table.similar name).length ≤ 3 :=
  List.length_take_le 3 _

/-- A label much like a name is suggested, unless three others are. -/
theorem mem_similar_of_isSimilar {table : SymbolTable} {name other : Text}
    (defined : other ∈ table.names) (alike : isSimilar name other = true) :
    table.similar name ≠ [] ∧ ((table.similar name).length < 3 → other ∈ table.similar name) := by
  have found : other ∈ table.names.filter (isSimilar name) := List.mem_filter.mpr ⟨defined, alike⟩
  constructor
  · intro nothing
    rw [similar, List.take_eq_nil_iff] at nothing
    obtain impossible | empty := nothing
    · cases impossible
    · rw [empty] at found
      cases found
  · intro few
    rw [similar, List.length_take] at few
    rw [similar, List.take_of_length_le (by omega)]
    exact found

end SymbolTable

namespace Program

open PlacedLine

variable {file source : Text}

/-- The labels suggested for an undefined one are at most three different labels that the source
defines, in the order of their first definitions, and the undefined one is not among them.  When a
defined label equals the undefined one up to letter case, or turns into it by a single edit, there
is a suggestion; and with less than three suggestions every such label is one of them. -/
theorem suggestions_sound_and_complete {report : Diagnostic} {name : Text} {hint : Option Text}
    {similar : List Text} (refused : assemble file source = .error (.reported report))
    (isCause : report.cause = .undefinedSymbol name hint similar) :
    similar.length ≤ 3 ∧ similar.Nodup ∧ similar.Sublist (definedLabels source) ∧
      name ∉ similar ∧ name ∉ definedLabels source ∧
      report.cause.hint = (if similar = [] then none else some (Cause.suggestion similar)) ∧
      ∀ label ∈ definedLabels source,
        (label.map Char.toLower = name.map Char.toLower ∨ Text.OneEdit label name) →
        similar ≠ [] ∧ (similar.length < 3 → label ∈ similar) := by
  obtain unread | ⟨lines, read, cell, line, symbol, ⟨refers, undefined⟩, -, same⟩ :=
    assemble_eq_error_iff.mp refused
  · have defined := isUndefinedSymbol_of_readLines_eq_error unread
    rw [Fault.isUndefinedSymbol, isCause] at defined
    cases defined
  obtain rfl := Fault.reported.inj same
  cases isCause
  have names := names_eq_definedLabels read
  have sublist := (Layout.ofLines lines).symbols.similar_sublist name
  have notDefined : name ∉ (Layout.ofLines lines).symbols.names := by
    rw [names_ofLines, List.mem_eraseDups, List.mem_filterMap]
    rintro ⟨other, isLine, labelled⟩
    exact undefined other isLine labelled
  refine ⟨SymbolTable.length_similar_le _ _,
    (Layout.nodup_names_ofLines lines).sublist sublist, names ▸ sublist,
    fun member => notDefined (sublist.subset member), names ▸ notDefined, ?_, ?_⟩
  · by_cases none : (Layout.ofLines lines).symbols.similar name = [] <;>
      simp [Layout.undefinedReport, Cause.hint, none]
  · intro label defined slip
    rw [← names] at defined
    obtain ⟨isLine, address, fills⟩ := exists_filling_of_refers refers
    obtain ⟨numbered, -, readLine⟩ := exists_of_mem_mapM read isLine
    exact SymbolTable.mem_similar_of_isSimilar defined
      (SymbolTable.isSimilar_of_slip (isLabelName_of_filling readLine fills)
        (isLabelName_of_mem_names read defined) slip)

/-- Of three labels a letter case and an edit away one is defined twice and keeps its place; a label
that is further away is left out. -/
theorem suggestions_for_misspelled_loop :
    let source := "Loop: halt\nloops: halt\nfar: halt\nlop: halt\nLoop: jmp loop".toList
    ∃ report, assemble inputName source = .error (.reported report) ∧
      report.cause = .undefinedSymbol "loop".toList none
        ["Loop".toList, "loops".toList, "lop".toList] ∧
      "lop".toList ∈ definedLabels source ∧ Text.OneEdit "lop".toList "loop".toList ∧
      definedLabels source = ["Loop".toList, "loops".toList, "far".toList, "lop".toList] ∧
      ["Loop".toList, "loops".toList, "lop".toList] ≠ [] := by
  intro source
  have refused : assemble inputName source = .error (.reported
      ⟨.undefinedSymbol "loop".toList none ["Loop".toList, "loops".toList, "lop".toList],
        some ⟨inputName, 5, 1⟩, some "Loop: jmp loop".toList⟩) := rfl
  have defined : definedLabels source =
      ["Loop".toList, "loops".toList, "far".toList, "lop".toList] := rfl
  have edit : Text.OneEdit "lop".toList "loop".toList := .insert ['l', 'o'] ['p'] 'o'
  have isDefined : "lop".toList ∈ definedLabels source := by
    rw [defined]
    decide
  obtain ⟨-, -, -, -, -, -, complete⟩ := suggestions_sound_and_complete refused rfl
  exact ⟨_, refused, rfl, isDefined, edit, defined, (complete _ isDefined (.inr edit)).1⟩

end Program
end ByteMachine
