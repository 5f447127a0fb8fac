import TypedTraffic.Command.Generate
import TypedTraffic.Command.Inspect

/-!
# Running a command line

A command line is a function of its arguments and of the environment it
is run in: what it leaves behind is an `Outcome`.
-/

namespace TypedTraffic.Command

/-- **Run a command line.** -/
def run (environment : Environment) (args : List String) : Outcome :=
  match readRequest environment.defined environment.files args with
  | .error e => .refused environment.files e
  | .ok (.print text) => .done environment.files text
  | .ok (.generate request) => request.run environment
  | .ok (.inspect path) => inspect environment path

end TypedTraffic.Command
