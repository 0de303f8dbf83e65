import ByteMachine.Assembly.Diagnostic
import ByteMachine.Assembly.Image
import ByteMachine.Assembly.Listing
import ByteMachine.Assembly.Numeral
import ByteMachine.Assembly.Operand
import ByteMachine.Assembly.Program
import ByteMachine.Assembly.Remarks
import ByteMachine.Assembly.SourceLine
import ByteMachine.Assembly.Statement
import ByteMachine.Assembly.SymbolTable
import ByteMachine.Byte
import ByteMachine.ByteSet
import ByteMachine.Cells
import ByteMachine.CommandLine.Assemble
import ByteMachine.CommandLine.Conventions
import ByteMachine.CommandLine.Failure
import ByteMachine.CommandLine.Files
import ByteMachine.CommandLine.Platform
import ByteMachine.CommandLine.Simulate
import ByteMachine.CommandLine.SourceFile
import ByteMachine.CommandLine.Terminal
import ByteMachine.CommandLine.Tool
import ByteMachine.Disassembly
import ByteMachine.Dump
import ByteMachine.Entries
import ByteMachine.Instruction
import ByteMachine.Machine.Basic
import ByteMachine.Machine.Run
import ByteMachine.Machine.Stop
import ByteMachine.Machine.StopCommand
import ByteMachine.Machine.StopControl
import ByteMachine.Machine.World
import ByteMachine.Minifloat
import ByteMachine.Mnemonic
import ByteMachine.Session.Command
import ByteMachine.Session.Perform
import ByteMachine.Session.Registry
import ByteMachine.Settings
import ByteMachine.Simulator
import ByteMachine.Store
import ByteMachine.Text.Basic
import ByteMachine.Text.ControlSequence
import ByteMachine.Text.Digit
import ByteMachine.Text.EditDistance
import ByteMachine.Text.Hexadecimal
import ByteMachine.Text.Lines
import ByteMachine.Text.LowerCase
import ByteMachine.Text.Order
import ByteMachine.Text.Printable
import ByteMachine.Text.Quoted
import ByteMachine.Text.Resemblance
import ByteMachine.Text.Utf8
import ByteMachine.Word
import ByteMachine.Main
import ByteMachine.Proofs.Assembly.Operands
import ByteMachine.Proofs.Assembly.Statements
import ByteMachine.Proofs.Assembly.LabelResolution
import ByteMachine.Proofs.Assembly.SourceRoundTrip
import ByteMachine.Proofs.Assembly.CanonicalText
import ByteMachine.Proofs.Machine.FirstStop
import ByteMachine.Proofs.Machine.Ending
import ByteMachine.Proofs.Machine.Settling
import ByteMachine.Proofs.Machine.Mirror
import ByteMachine.Proofs.Machine.Resumption
import ByteMachine.Proofs.Machine.Watching
import ByteMachine.Proofs.Assembly.LastFilling
import ByteMachine.Proofs.Assembly.LineReading
import ByteMachine.Proofs.Assembly.DanglingReferences
import ByteMachine.Proofs.Assembly.BadLines
import ByteMachine.Proofs.Assembly.LineContents
import ByteMachine.Proofs.Assembly.BlockOrder
import ByteMachine.Proofs.Machine.NoticeStream
import ByteMachine.Proofs.Machine.Requests
import ByteMachine.Proofs.Machine.Writing
import ByteMachine.Proofs.Simulator.Loading
import ByteMachine.Proofs.Simulator.Output
import ByteMachine.Proofs.Assembly.ImageHistory
import ByteMachine.Proofs.Assembly.SourceLayout
import ByteMachine.Proofs.Assembly.AssemblerRuns
import ByteMachine.Proofs.Machine.Maintaining
import ByteMachine.Proofs.Machine.Foretelling
import ByteMachine.Proofs.Simulator.Reset
import ByteMachine.Proofs.Simulator.SingleSteps
import ByteMachine.Proofs.Truncation
import ByteMachine.Proofs.Machine.InstructionTable
import ByteMachine.Proofs.Assembly.NumeralGrammar
import ByteMachine.Proofs.Assembly.LineRendering
import ByteMachine.Proofs.Machine.Arrival
import ByteMachine.Proofs.Assembly.OperandForms
import ByteMachine.Proofs.Assembly.DataWords
import ByteMachine.Proofs.Assembly.DiagnosticPlaces
import ByteMachine.Proofs.Assembly.ListingAccount
import ByteMachine.Proofs.Assembly.DataLines
import ByteMachine.Proofs.Text.StoredText
import ByteMachine.Proofs.Assembly.SourceFiles
import ByteMachine.Proofs.Machine.RingLoading
import ByteMachine.Proofs.Text.EditDistance
import ByteMachine.Proofs.Assembly.Suggestions
import ByteMachine.Proofs.CommandLine.FileWriting
import ByteMachine.Proofs.CommandLine.Printing
import ByteMachine.Proofs.CommandLine.Calls
import ByteMachine.Proofs.CommandLine.AssemblerTool
import ByteMachine.Proofs.Simulator.Tracing
import ByteMachine.Proofs.CommandLine.SimulatorTool
import ByteMachine.Proofs.Machine.StopHistory
import ByteMachine.Proofs.Text.LeastEdits
import ByteMachine.Proofs.CommandLine.DumpReading
