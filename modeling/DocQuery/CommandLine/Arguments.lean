import DocQuery.Naming

/-!
The arguments of the command line.

Options stand anywhere after the word that they belong to; the format and how much is said may also
stand before the command. An option is given once, renames apart. Its value follows it, or stands
behind an equals sign; a value that looks like an option has to stand behind the sign. After two
dashes nothing is an option or a command any more.
-/

namespace DocQuery.CommandLine

inductive OutputFormat where
  | table | json
deriving DecidableEq, Inhabited, Repr

namespace OutputFormat

def ofName? : String → Option OutputFormat
  | "table" => some .table
  | "json" => some .json
  | _ => none

end OutputFormat

/-- The name of a convention on the command line. -/
def caseOfName? : String → Option PropertyCase
  | "none" => some .unchanged
  | "camel" => some .camel
  | "pascal" => some .pascal
  | "snake" => some .snake
  | "kebab" => some .kebab
  | _ => none

/-- The command words. -/
inductive CommandWord where
  | compile | explain | run
deriving DecidableEq, Repr

def CommandWord.ofName? : String → Option CommandWord
  | "compile" => some .compile
  | "explain" => some .explain
  | "run" => some .run
  | _ => none

/-- An option with a value. -/
inductive Setting where
  | format | case | rename | discriminator | fixture | database
deriving DecidableEq, Repr

/-- An option without a value. -/
inductive Switch where
  | quiet | verbose | pretty | help | version
deriving DecidableEq, Repr

inductive Flag where
  | setting (setting : Setting)
  | switch (switch : Switch)
deriving DecidableEq, Repr

/-- The option of a long name. -/
def Flag.ofLong? : String → Option Flag
  | "format" => some (.setting .format)
  | "case" => some (.setting .case)
  | "rename" => some (.setting .rename)
  | "discriminator" => some (.setting .discriminator)
  | "fixture" => some (.setting .fixture)
  | "database" => some (.setting .database)
  | "quiet" => some (.switch .quiet)
  | "verbose" => some (.switch .verbose)
  | "pretty" => some (.switch .pretty)
  | "help" => some (.switch .help)
  | "version" => some (.switch .version)
  | _ => none

def Switch.ofShort? : Char → Option Switch
  | 'q' => some .quiet
  | 'v' => some .verbose
  | 'h' => some .help
  | 'V' => some .version
  | _ => none

/-- The options that a command has, or that stand before any command. -/
def Flag.allowed (command : Option CommandWord) : Flag → Bool
  | .setting .format | .switch .quiet | .switch .verbose | .switch .help => true
  | .switch .version => command.isNone
  | .setting .case | .setting .rename | .setting .discriminator => command.isSome
  | .switch .pretty => command == some .compile
  | .setting .fixture | .setting .database => command == some .run

/-- What the arguments say, as far as they have been read. -/
structure Reading where
  command : Option CommandWord
  /-- The options of the word that is being read, the last one first. -/
  given : List Flag
  format : OutputFormat
  quiet : Bool
  verbose : Bool
  pretty : Bool
  plan : Option String
  convention : PropertyCase
  renames : List (String × String)
  discriminator : Option String
  fixture : Option String
  database : String

def Reading.initial : Reading :=
  ⟨none, [], .table, false, false, false, none, .camel, [], none, none, "fixture"⟩

/-- Why the arguments are not carried out as a command. -/
inductive Refusal where
  | misuse
  | help
  | version
deriving DecidableEq, Repr

/-- A member and its wire name, parted by the first equals sign. Neither is empty. -/
def rename? (text : String) : Option (String × String) :=
  let member := text.toList.takeWhile (· ≠ '=')
  match text.toList.dropWhile (· ≠ '=') with
  | _ :: wire =>
    if member.isEmpty || wire.isEmpty then none else some (.ofList member, .ofList wire)
  | [] => none

namespace Reading

/-- Notes that an option is given. All but renames are given once. -/
def note (reading : Reading) (flag : Flag) : Except Refusal Reading :=
  if !flag.allowed reading.command then .error .misuse
  else if flag ≠ .setting .rename ∧ reading.given.contains flag then .error .misuse
  else .ok { reading with given := flag :: reading.given }

/-- A value that has to be read as something. -/
def expect {α : Type} : Option α → Except Refusal α
  | some value => .ok value
  | none => .error .misuse

/-- A path is not empty. -/
def path? (text : String) : Option String := if text.isEmpty then none else some text

def set (reading : Reading) (setting : Setting) (value : String) : Except Refusal Reading := do
  let reading ← reading.note (.setting setting)
  match setting with
  | .format => return { reading with format := ← expect (OutputFormat.ofName? value) }
  | .case => return { reading with convention := ← expect (caseOfName? value) }
  | .rename => return { reading with renames := reading.renames ++ [← expect (rename? value)] }
  | .discriminator => return { reading with discriminator := some value }
  | .fixture => return { reading with fixture := some (← expect (path? value)) }
  | .database => return { reading with database := value }

def switchOn (reading : Reading) (switch : Switch) : Except Refusal Reading := do
  let reading ← reading.note (.switch switch)
  match switch with
  | .quiet => return { reading with quiet := true }
  | .verbose => return { reading with verbose := true }
  | .pretty => return { reading with pretty := true }
  | .help => .error .help
  | .version => .error .version

/-- Several switches in one argument. -/
def switchAll (reading : Reading) : List Char → Except Refusal Reading
  | [] => .ok reading
  | letter :: rest => do
    let switch ← expect (Switch.ofShort? letter)
    (← reading.switchOn switch).switchAll rest

/-- A word that is no option: the command, or its plan. -/
def word (reading : Reading) (text : String) : Except Refusal Reading :=
  match reading.command, reading.plan with
  | none, _ =>
    if text = "help" then .error .help
    else do return { reading with command := some (← expect (CommandWord.ofName? text)), given := [] }
  | some _, none => do return { reading with plan := some (← expect (path? text)) }
  | some _, some _ => .error .misuse

/-- A long option as written: its name and the value behind an equals sign. -/
def longParts (text : List Char) : String × Option String :=
  let name := text.takeWhile (· ≠ '=')
  match text.dropWhile (· ≠ '=') with
  | _ :: value => (.ofList name, some (.ofList value))
  | [] => (.ofList name, none)

/-- Whether an argument looks like an option. A single dash does not. -/
def looksLikeOption (argument : String) : Bool :=
  match argument.toList with
  | '-' :: _ :: _ => true
  | _ => false

/-- Reads arguments of which none is an option or a command. -/
def readWords (reading : Reading) : List String → Except Refusal Reading
  | [] => .ok reading
  | text :: rest =>
    if reading.command.isNone then .error .misuse
    else do (← reading.word text).readWords rest

def read (reading : Reading) : List String → Except Refusal Reading
  | [] => .ok reading
  | argument :: rest =>
    match argument.toList with
    | ['-', '-'] => reading.readWords rest
    | '-' :: '-' :: text =>
      match longParts text with
      | (name, value) =>
        match Flag.ofLong? name, value, rest with
        | some (.switch switch), none, rest => do (← reading.switchOn switch).read rest
        | some (.setting setting), some value, rest => do (← reading.set setting value).read rest
        | some (.setting setting), none, value :: rest =>
          if looksLikeOption value then .error .misuse
          else do (← reading.set setting value).read rest
        | _, _, _ => .error .misuse
    | '-' :: letter :: letters => do (← reading.switchAll (letter :: letters)).read rest
    | _ => do (← reading.word argument).read rest

end Reading

/-- What every command needs to know. -/
structure CompileOptions where
  plan : String
  convention : PropertyCase
  renames : List (String × String)
  discriminator : Option String

inductive Command where
  | compile (options : CompileOptions) (pretty : Bool)
  | explain (options : CompileOptions)
  | run (options : CompileOptions) (fixture database : String)

structure Invocation where
  command : Command
  format : OutputFormat
  quiet : Bool
  verbose : Bool

/-- The command that the arguments ask for. -/
def Invocation.ofArguments (arguments : List String) : Except Refusal Invocation := do
  let reading ← Reading.initial.read arguments
  let command ← Reading.expect reading.command
  let options : CompileOptions :=
    ⟨← Reading.expect reading.plan, reading.convention, reading.renames, reading.discriminator⟩
  let command ← match command with
    | .compile => pure (Command.compile options reading.pretty)
    | .explain => pure (Command.explain options)
    | .run => pure (Command.run options (← Reading.expect reading.fixture) reading.database)
  return ⟨command, reading.format, reading.quiet, reading.verbose⟩

end DocQuery.CommandLine
