import DocQuery.Json.Path
import DocQuery.Pattern.Text
import DocQuery.Search
import DocQuery.Value.Collation

/-!
Which documents a selector selects.

A missing value meets no condition but the one that requires it to be missing. Values compare by
collation. An operator looks at its argument only when it is reached, so a selector with a bad
argument is answered as long as no document gets that far.
-/

namespace DocQuery

def DatabaseError.badRequest (reason : String) : DatabaseError :=
  .ofResponse 400 "bad_request" reason

/-- The failure of an operator whose argument is not what it expects. -/
def badArgument {α : Type} (op expected : String) : Except Error α :=
  .error (.database (.badRequest s!"{op} expects {expected}"))

/-- An operator that looks at a value and an argument and has no conditions inside. -/
inductive ValueTest where
  | compare (op : Comparison)
  | inSet
  | notInSet
  | holdsAll
  | presence
  | type
  | size
  | remainder
  | pattern
deriving DecidableEq, Repr

/-- An operator that joins conditions. -/
inductive ConditionJoin where
  | every | some | none
deriving DecidableEq, Repr

/-- What the key of a condition asks for. -/
inductive SelectorKey where
  | join (how : ConditionJoin)
  | negation
  | quantifier (kind : QuantifierKind)
  | test (test : ValueTest)
  | unknown
  | path (keys : List String)
deriving DecidableEq, Repr

/-- A key that starts with a dollar sign is an operator, any other one is a path. -/
def SelectorKey.ofName : String → SelectorKey
  | "$and" => .join .every
  | "$or" => .join .some
  | "$nor" => .join .none
  | "$not" => .negation
  | "$elemMatch" => .quantifier .any
  | "$allMatch" => .quantifier .all
  | "$eq" => .test (.compare .eq)
  | "$ne" => .test (.compare .ne)
  | "$lt" => .test (.compare .lt)
  | "$lte" => .test (.compare .le)
  | "$gt" => .test (.compare .gt)
  | "$gte" => .test (.compare .ge)
  | "$in" => .test .inSet
  | "$nin" => .test .notInSet
  | "$all" => .test .holdsAll
  | "$exists" => .test .presence
  | "$type" => .test .type
  | "$size" => .test .size
  | "$mod" => .test .remainder
  | "$regex" => .test .pattern
  | name => if name.toList.head? = some '$' then .unknown else .path (wireKeys name)

/-- Whether a value leaves a remainder. The least integer has no remainder by minus one: the
division that goes with it does not fit. -/
def remainderTest (divisor remainder : Int) (value : Json) : Except Error Bool :=
  match value.asInt64? with
  | none => .ok false
  | some dividend =>
    if dividend = leastInt64 ∧ divisor = -1 then .error .remainderOverflow
    else .ok (dividend.tmod divisor == remainder)

namespace ValueTest

/-- Applies a test under the name by which its failures are reported. The length of an array counts
as a word of 64 bits. -/
def apply (test : ValueTest) (name : String) (argument value : Json) : Except Error Bool :=
  match test with
  | .compare op => .ok (op.holds ((Value.ofJson value).collate (.ofJson argument)))
  | .inSet =>
    match argument with
    | .array set => .ok ((Value.ofJson value).memberOf (set.map Value.ofJson))
    | _ => badArgument name "an array"
  | .notInSet =>
    match argument with
    | .array set => .ok !((Value.ofJson value).memberOf (set.map Value.ofJson))
    | _ => badArgument name "an array"
  | .holdsAll =>
    match argument with
    | .array needles =>
      match value with
      | .array items => .ok (Value.holdsAll (items.map Value.ofJson) (needles.map Value.ofJson))
      | _ => .ok false
    | _ => badArgument name "an array"
  | .presence =>
    match argument with
    | .bool expected => .ok expected
    | _ => badArgument name "a boolean"
  | .type =>
    match argument with
    | .string typeName => .ok ((Value.ofJson value).jsonType.name == typeName)
    | _ => badArgument name "a type name"
  | .size =>
    match argument.asNat64? with
    | some count =>
      match value with
      | .array items => .ok (items.length % natBound64 == count)
      | _ => .ok false
    | none => badArgument name "an integer"
  | .remainder =>
    match argument with
    | .array [first, second] =>
      match first.asInt64?, second.asInt64? with
      | some divisor, some left =>
        if divisor = 0 then badArgument name "[divisor, remainder]"
        else remainderTest divisor left value
      | _, _ => badArgument name "[divisor, remainder]"
    | .array _ => badArgument name "[divisor, remainder]"
    | _ => badArgument name "an array"
  | .pattern =>
    match argument with
    | .string source =>
      match Pattern.parse? source with
      | some compiled =>
        match value with
        | .string text => .ok (compiled.occursIn text)
        | _ => .ok false
      | none => .error (.database (.ofResponse 400 "invalid_regex" "<regex error>"))
    | _ => badArgument name "a pattern"

end ValueTest

namespace Json

/-- Whether the entries of a condition ask for nothing but a missing value. -/
def requireAbsence (entries : Entries Json) : Bool :=
  !entries.isEmpty &&
    entries.all fun (key, argument) => key == "$exists" && argument.asBool? == some false

mutual

/-- Whether a value, which may be missing, meets a condition. A condition that is no object asks
for equality. -/
def admits (condition : Json) (value : Option Json) : Except Error Bool :=
  match condition, value with
  | .object entries, some value => admitsEntries entries value
  | .object entries, none => .ok (requireAbsence entries)
  | other, some value => .ok ((Value.ofJson value).collatesEqual (.ofJson other))
  | _, none => .ok false
termination_by structural condition

/-- Whether a value meets all entries of a condition, from the first on. -/
def admitsEntries (entries : List (String × Json)) (value : Json) : Except Error Bool :=
  match entries with
  | [] => .ok true
  | (key, argument) :: rest => do
    let met ← match SelectorKey.ofName key with
      | .path keys => argument.admits (value.lookup? keys)
      | .test test => test.apply key argument value
      | .negation => (argument.admits (some value)).map (!·)
      | .quantifier kind =>
        match value with
        | .array items => kind.decide (fun item => argument.admits (some item)) items
        | _ => .ok false
      | .join how =>
        match argument with
        | .array conditions =>
          match how with
          | .every => admitsEvery conditions value
          | .some => admitsSome conditions value
          | .none => (admitsSome conditions value).map (!·)
        | _ => badArgument key "an array of selectors"
      | .unknown =>
        .error (.database (.ofResponse 400 "invalid_operator" s!"Invalid operator: {key}"))
    if met then admitsEntries rest value else return false
termination_by structural entries

def admitsEvery (conditions : List Json) (value : Json) : Except Error Bool :=
  match conditions with
  | [] => .ok true
  | condition :: rest => do
    if ← condition.admits (some value) then admitsEvery rest value else return false
termination_by structural conditions

def admitsSome (conditions : List Json) (value : Json) : Except Error Bool :=
  match conditions with
  | [] => .ok false
  | condition :: rest => do
    if ← condition.admits (some value) then return true else admitsSome rest value
termination_by structural conditions

end

/-- Whether a document matches a selector. -/
def selects (selector document : Json) : Except Error Bool := selector.admits (some document)

end Json
end DocQuery
