import DocQuery.Request.Basic
import DocQuery.Plan.Kind
import DocQuery.Value.Basic

/-!
What happens on the way from a plan to its result, for a log. Every function whose work is logged
has a companion that lists the events of that work in order.
-/

namespace DocQuery

/-- How much a reader of the log wants to see. -/
inductive LogLevel where
  | warn | info | debug | trace
deriving DecidableEq, Repr

namespace LogLevel

def all : List LogLevel := [.warn, .info, .debug, .trace]

def name : LogLevel → String
  | .warn => "warn"
  | .info => "info"
  | .debug => "debug"
  | .trace => "trace"

def ofName? (name : String) : Option LogLevel := all.find? (·.name == name)

/-- What a line of the log starts with. -/
def label : LogLevel → String
  | .warn => "WARN"
  | .info => "INFO"
  | .debug => "DEBUG"
  | .trace => "TRACE"

/-- How far a level is from the most urgent one. -/
def depth : LogLevel → Nat
  | .warn => 0
  | .info => 1
  | .debug => 2
  | .trace => 3

end LogLevel

inductive Event where
  | folded (value : Value)
  | expanding (kind : OperationKind)
  | mergingFilters
  | leftToClient (kind : OperationKind)
  | compiled (request : FindRequest)
  | fetchesAll (kind : OperationKind) (database : String)
  | asked (database : String) (request : FindRequest)
  | matched (count total : Nat)
  | warned (database warning : String)
  | fetched (count : Nat) (database : String)
  | withoutValue (count total : Nat) (field : String)
  | compiledSteps (count left : Nat)
  | loaded (count : Nat) (database : String)
deriving BEq, Repr

namespace Event

def level : Event → LogLevel
  | .fetchesAll .. | .warned .. | .withoutValue .. => .warn
  | .compiledSteps .. | .loaded .. => .info
  | .compiled .. | .asked .. => .debug
  | .folded .. | .expanding .. | .mergingFilters | .leftToClient .. | .matched .. | .fetched .. =>
    .trace

def message : Event → String
  | .folded value => s!"folded constant subexpression to {value.render}"
  | .expanding kind => s!"rewriting composite operation {kind.name}"
  | .mergingFilters => "merging adjacent filters"
  | .leftToClient kind => s!"evaluating {kind.name} on the client"
  | .compiled request => s!"compiled find request: {request.render}"
  | .fetchesAll kind database => s!"{kind.name} fetches every matching document from {database}"
  | .asked database request => s!"find on {database}: {request.render}"
  | .matched count total => s!"{count} of {total} documents match"
  | .warned database warning => s!"find on {database} returned a warning: {warning}"
  | .fetched count database => s!"fetched {count} documents from {database}"
  | .withoutValue count total field => s!"{count} of {total} documents have no value at `{field}`"
  | .compiledSteps count left => s!"compiled {count} steps, {left} evaluated on the client"
  | .loaded count database => s!"loaded {count} documents into {database}"

/-- The line of an event in the log. -/
def line (event : Event) : String := s!"{event.level.label} {event.message}"

end Event

/-- The lines of the events that a level shows. -/
def LogLevel.lines (level : LogLevel) (events : List Event) : List String :=
  (events.filter (·.level.depth ≤ level.depth)).map Event.line

end DocQuery
