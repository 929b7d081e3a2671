import DocQuery.CommandLine.Commands

/-!
The program: reads the arguments and the files that they name, prints the outcome and ends with its
status.
-/

namespace DocQuery.CommandLine

/-- The text of a file. -/
def readFile (path : String) : IO (Except String String) := do
  try
    return .ok (← IO.FS.readFile path)
  catch failure =>
    return .error (toString failure)

/-- The files that a command reads, with what they hold. -/
def filesOf : Command → List String
  | .compile options _ | .explain options => [options.plan]
  | .run options fixture _ => [options.plan, fixture]

def perform (invocation : Invocation) : IO Outcome := do
  let contents ← (filesOf invocation.command).mapM fun path => do return (path, ← readFile path)
  let files (path : String) : Except String String :=
    (List.lookup path contents).getD (.error "not read")
  let outcome := invocation.outcome files
  (invocation.logLines outcome).forM fun line => IO.eprintln line
  return outcome

end DocQuery.CommandLine

open DocQuery.CommandLine in
def main (arguments : List String) : IO UInt32 := do
  let outcome ← match Invocation.ofArguments arguments with
    | .ok invocation => perform invocation
    | .error refusal => pure refusal.outcome
  IO.print outcome.output
  outcome.failure.forM fun line => IO.eprintln line
  return outcome.status.toUInt32
