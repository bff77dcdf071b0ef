import ConnectorSchema.Filter.Program
import ConnectorSchema.Formatter

/-!
The programs that a session can start, each of them a filter on the text it is given. They stand in for
those of a real system: one that is not among them counts as missing. Nothing but a session depends on
them, since whatever formats takes any launcher.
-/

namespace ConnectorSchema

namespace Filter

/-- What is seen of a program. What it leaves unread goes unnoticed as long as there is room for it. -/
def Outcome.launch (o : Outcome) : Launch :=
  ⟨if pipeCapacity < o.left.length then .error .brokenPipe else .ok (),
    .ok ⟨o.status, o.out.toBytes, o.err.toBytes⟩⟩

/-- Starts the programs of the system, which are looked for in a search path. -/
def launcher (fs : FileSystem) (search : String) : Launcher := fun program arguments text =>
  (start fs search program arguments text).map Outcome.launch

end Filter

/-- Runs a program, which is looked for in a search path. -/
def Formatter.ofCommand (fs : FileSystem) (search program : String) (arguments : List String) :
    Formatter :=
  .ofProgram (Filter.launcher fs search) program arguments

def FormatterChoice.formatter (fs : FileSystem) (search : String) : FormatterChoice → Formatter
  | .disabled => .none
  | .command program arguments => .ofCommand fs search program arguments

end ConnectorSchema
