import DocQuery.Client
import DocQuery.CommandLine.Arguments
import DocQuery.CommandLine.Report
import DocQuery.Json.Reader

/-!
Carrying out a command. The outcome depends on the arguments and on what the files hold.
-/

namespace DocQuery.CommandLine

/-- A file that is read: its text, or why there is none. -/
abbrev FileReader := String → Except String String

/-- What a command leaves behind. -/
structure Outcome where
  status : Nat
  lines : List String
  /-- The line that says what went wrong. -/
  failure : Option String
  events : List Event

namespace Outcome

/-- The text of an outcome on standard output. -/
def output (outcome : Outcome) : String :=
  String.join (outcome.lines.map (· ++ "\n"))

def failed (message : String) (events : List Event) : Outcome :=
  ⟨1, [], some s!"Error: {message}", events⟩

/-- The outcome of an error. The one error that no other part of the library foresees ends the
program. -/
def ofError (error : Error) (events : List Event) : Outcome :=
  match error with
  | .remainderOverflow => ⟨101, [], some error.message, events⟩
  | error => failed error.message events

end Outcome

def CompileOptions.compiler (options : CompileOptions) : Compiler :=
  let config : Config :=
    { (default : Config) with
      propertyCase := options.convention
      overrides := options.renames }
  config.compiler options.discriminator

def loadPlan (files : FileReader) (path : String) : Except String Plan :=
  match files path with
  | .error cause => .error s!"Failed to read plan {path}: {cause}"
  | .ok text =>
    match (Json.readTree? text).bind Plan.decode? with
    | some plan => .ok plan
    | none => .error s!"Invalid plan {path}"

/-- The documents of a fixture, which is an array. -/
def loadFixture (files : FileReader) (path : String) : Except String (List Json) :=
  match files path with
  | .error cause => .error s!"Failed to read fixture {path}: {cause}"
  | .ok text =>
    match Json.read? text with
    | some (.array documents) => .ok documents
    | some _ => .error s!"Fixture {path} must hold an array of documents"
    | none => .error s!"Invalid fixture {path}"

namespace Invocation

/-- The lines of a document and its other form. A quiet command has none. -/
def shown (invocation : Invocation) (document : Json) (lines : List String) : List String :=
  if invocation.quiet then []
  else
    match invocation.format with
    | .json => [document.renderPretty]
    | .table => lines

def compile (invocation : Invocation) (options : CompileOptions) (pretty : Bool) (plan : Plan) :
    Outcome :=
  let compiler := options.compiler
  let events := compiler.events plan
  match compiler.compile plan with
  | .error error => .ofError error events
  | .ok compiled =>
    let request :=
      if pretty then compiled.request.toJson.renderPretty else compiled.request.render
    ⟨0, invocation.shown compiled.encode [request], none,
      events ++ [.compiledSteps plan.steps.length compiled.clientSteps.length]⟩

def explain (invocation : Invocation) (options : CompileOptions) (plan : Plan) : Outcome :=
  let compiler := options.compiler
  let events := compiler.events plan
  match compiler.compile plan with
  | .error .remainderOverflow => .ofError .remainderOverflow events
  | _ =>
    let explanation := Explanation.ofPlan compiler plan
    ⟨0, invocation.shown explanation.encode explanation.lines, none, events⟩

def run (invocation : Invocation) (options : CompileOptions) (database : String) (plan : Plan)
    (documents : List Json) : Outcome :=
  let store := Store.empty.withDatabase database documents
  let compiler := options.compiler
  let events := .loaded documents.length database ::
    compiler.executionEvents store database plan
  match (compiler.execute store database plan).1 with
  | .error error => .ofError error events
  | .ok result => ⟨0, invocation.shown result.encode (resultLines result), none, events⟩

def outcome (invocation : Invocation) (files : FileReader) : Outcome :=
  let withPlan (options : CompileOptions) (next : Plan → Outcome) : Outcome :=
    match loadPlan files options.plan with
    | .ok plan => next plan
    | .error message => .failed message []
  match invocation.command with
  | .compile options pretty => withPlan options (invocation.compile options pretty)
  | .explain options => withPlan options (invocation.explain options)
  | .run options fixture database =>
    withPlan options fun plan =>
      match loadFixture files fixture with
      | .ok documents => invocation.run options database plan documents
      | .error message => .failed message []

/-- The lines of the log: all of them if asked for, and none if quiet. -/
def logLines (invocation : Invocation) (outcome : Outcome) : List String :=
  if invocation.verbose then LogLevel.debug.lines outcome.events
  else if invocation.quiet then []
  else LogLevel.info.lines outcome.events

end Invocation

/-- How the program is used. -/
def usage : List String :=
  ["Usage: docquery [OPTIONS] <COMMAND>", "",
    "Commands:",
    "  compile <PLAN>                   print the request of a plan",
    "  explain <PLAN>                   show how each operation of a plan is carried out",
    "  run <PLAN> --fixture <FIXTURE>   run a plan on documents", "",
    "Options:",
    "  --format <table|json>            how results are printed",
    "  -q, --quiet                      print no results",
    "  -v, --verbose                    log what happens",
    "  -h, --help                       print this text", "",
    "Options of every command:",
    "  --case <none|camel|pascal|snake|kebab>",
    "  --rename <MEMBER=WIRE>",
    "  --discriminator <NAME>"]

/-- The outcome of arguments that ask for no command. -/
def Refusal.outcome : Refusal → Outcome
  | .misuse => ⟨2, [], some "error: the arguments are not understood, see --help", []⟩
  | .help => ⟨0, usage, none, []⟩
  | .version => ⟨0, ["docquery 0.1.3"], none, []⟩

end DocQuery.CommandLine
