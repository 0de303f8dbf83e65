import ByteMachine.Assembly.Program

/-!
# Remarks on assembling

While a source is assembled there is something to remark at each label and each new origin, and at
the end on the whole program.  The remarks end at the first line that cannot be read; a label on
such a line is still remarked on if only its statement cannot be read.
-/

namespace ByteMachine

/-- Something noticed while assembling. -/
inductive Remark
  /-- A label that had one address gets another one. -/
  | redefined (label : Text) (before after : Byte)
  /-- A label gets an address. -/
  | defined (label : Text) (address : Byte)
  /-- The origin is moved. -/
  | moved (before after : Byte)
  /-- The program is complete. -/
  | assembled (words bytes labels : Nat)
  deriving DecidableEq, Repr

namespace Remark

/-- An address as it stands in a remark. -/
def shown (address : Byte) : Text :=
  '$' :: address.hex

/-- The change of an address as it stands in a remark. -/
def change (before after : Byte) : Text :=
  shown before ++ " -> ".toList ++ shown after

/-- The wording of a remark. -/
def text : Remark → Text
  | redefined label before after =>
      "Label ".toList ++ Text.quoted label ++ " redefined: ".toList ++ change before after
  | defined label address => "Label ".toList ++ Text.quoted label ++ " = ".toList ++ shown address
  | moved before after => "Origin ".toList ++ change before after
  | assembled words bytes labels =>
      "Assembled ".toList ++ Text.decimalNat words ++ " instructions (".toList ++
        Text.decimalNat bytes ++ " bytes, ".toList ++ Text.decimalNat labels ++ " labels)".toList

end Remark

namespace Layout

/-- The remarks on a label that is defined at the origin. -/
def labelRemarks (layout : Layout) : Option Text → List Remark
  | none => []
  | some label =>
      let origin := layout.image.origin
      match layout.symbols.find? label with
      | some before =>
          if before = origin then [.defined label origin]
          else [.redefined label before origin, .defined label origin]
      | none => [.defined label origin]

/-- The remarks on a statement. -/
def statementRemarks (layout : Layout) : Option Statement → List Remark
  | some (.origin address) => [.moved layout.image.origin address]
  | _ => []

/-- The remarks on lines that are added to a layout. -/
def remarks (layout : Layout) (file : Text) : List (Nat × Text) → List Remark
  | [] => []
  | (number, text) :: rest =>
      match SourceLine.ofText text with
      | .error _ => []
      | .ok line =>
          layout.labelRemarks line.label ++
            match PlacedLine.read file number text with
            | .error _ => []
            | .ok placed =>
                layout.statementRemarks placed.statement ++ (layout.add placed).remarks file rest

end Layout

namespace Program

/-- The remark on a complete program. -/
def remark (program : Program) : Remark :=
  .assembled program.words.length program.layout.image.extent program.layout.symbols.size

/-- The remarks on assembling a source. -/
def remarks (file source : Text) : List Remark :=
  Layout.empty.remarks file (numberedLines source) ++
    match assemble file source with
    | .ok program => [program.remark]
    | .error _ => []

end Program
end ByteMachine
