import ByteMachine.Assembly.Program
import ByteMachine.CommandLine.Tool

/-!
# Source files

A source may be kept in a file.  It is named by the path of the file in its plainest form, and what
the file holds is read as a text before it is assembled.
-/

namespace ByteMachine
namespace Assembler

/-- What comes out of a run of the assembler on a source file, and the assembler afterwards.  A file
that cannot be read leaves the assembler as it is. -/
def assembleFile (assembler : Assembler) (files : Files) (path : Text) :
    Except ToolFailure (Except (Fault Diagnostic) (List Word) × Assembler) := do
  let file := plainPath path
  let source ← readSource files file
  return assembler.assemble file source

end Assembler
end ByteMachine
