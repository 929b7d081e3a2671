import DocQuery.Proofs.Failures
import DocQuery.Store.Basic

/-! What can go wrong when a server answers a request: it reports an error, or it divides the least integer
by minus one. -/

namespace DocQuery

/-- The failures of a server. -/
inductive Error.OfServer : Error → Prop where
  | database (error : DatabaseError) : OfServer (.database error)
  | remainderOverflow : OfServer .remainderOverflow

attribute [simp] Error.OfServer.database Error.OfServer.remainderOverflow

theorem badArgument_fails {α : Type} (op expected : String) :
    FailsOnly Error.OfServer (badArgument op expected : Except Error α) := by
  simp [badArgument]

theorem remainderTest_fails (divisor remainder : Int) (value : Json) :
    FailsOnly Error.OfServer (remainderTest divisor remainder value) := by
  unfold remainderTest
  split
  · simp
  · split <;> simp

theorem ValueTest.apply_fails (test : ValueTest) (name : String) (argument value : Json) :
    FailsOnly Error.OfServer (test.apply name argument value) := by
  cases test
  all_goals
    unfold ValueTest.apply
    repeat' split
  all_goals simp [badArgument_fails, remainderTest_fails]

namespace Json

mutual

theorem admits_fails (condition : Json) (value : Option Json) :
    FailsOnly Error.OfServer (condition.admits value) := by
  match condition, value with
  | .object entries, some value => exact admitsEntries_fails entries value
  | .object _, none => exact failsOnly_ok _
  | .null, value | .bool _, value | .integer _, value | .float _, value | .string _, value
  | .array _, value => cases value <;> simp [admits]
termination_by structural condition

theorem admitsEntries_fails (entries : List (String × Json)) (value : Json) :
    FailsOnly Error.OfServer (admitsEntries entries value) := by
  match entries with
  | [] => exact failsOnly_ok true
  | (key, argument) :: rest =>
    -- The entries that follow are looked at in every branch below.
    have further (met : Bool) : FailsOnly Error.OfServer
        (if met then admitsEntries rest value else .ok false) := by
      cases met with
      | true => exact admitsEntries_fails rest value
      | false => exact failsOnly_ok false
    rw [admitsEntries]
    cases SelectorKey.ofName key with
    | path keys => exact (admits_fails argument _).bind fun met _ => further met
    | test test => exact (test.apply_fails key argument value).bind fun met _ => further met
    | negation =>
      refine FailsOnly.bind ?_ fun met _ => further met
      exact (failsOnly_map _ _).mpr (admits_fails argument (some value))
    | quantifier kind =>
      cases value with
      | array items =>
        refine FailsOnly.bind ?_ fun met _ => further met
        exact .decide kind fun item _ => admits_fails argument (some item)
      | _ => exact further false
    | join how =>
      match argument with
      | .array conditions =>
        cases how with
        | every => exact (admitsEvery_fails conditions value).bind fun met _ => further met
        | some => exact (admitsSome_fails conditions value).bind fun met _ => further met
        | none =>
          refine FailsOnly.bind ?_ fun met _ => further met
          exact (failsOnly_map _ _).mpr (admitsSome_fails conditions value)
      | .null | .bool _ | .integer _ | .float _ | .string _ | .object _ =>
        exact (badArgument_fails key _).bind fun met _ => further met
    | unknown => exact (failsOnly_error _).mpr (.database _)
termination_by structural entries

theorem admitsEvery_fails (conditions : List Json) (value : Json) :
    FailsOnly Error.OfServer (admitsEvery conditions value) := by
  match conditions with
  | [] => exact failsOnly_ok true
  | condition :: rest =>
    refine (admits_fails condition (some value)).bind fun met _ => ?_
    cases met with
    | true => exact admitsEvery_fails rest value
    | false => exact failsOnly_ok false
termination_by structural conditions

theorem admitsSome_fails (conditions : List Json) (value : Json) :
    FailsOnly Error.OfServer (admitsSome conditions value) := by
  match conditions with
  | [] => exact failsOnly_ok false
  | condition :: rest =>
    refine (admits_fails condition (some value)).bind fun met _ => ?_
    cases met with
    | true => exact failsOnly_ok true
    | false => exact admitsSome_fails rest value
termination_by structural conditions

end

end Json

theorem SortKey.read_fails (entry : Json) : FailsOnly Error.OfServer (read entry) := by
  unfold read
  repeat' split
  all_goals simp [badArgument_fails]

namespace FindRequest

variable (request : FindRequest)

theorem sortKeys_fails : FailsOnly Error.OfServer request.sortKeys := by
  unfold sortKeys
  split
  · simp
  · exact .mapM fun entry _ => SortKey.read_fails entry
  · exact badArgument_fails "sort" "an array"

theorem bookmarkOffset_fails : FailsOnly Error.OfServer request.bookmarkOffset := by
  unfold bookmarkOffset
  split
  · unfold readBookmark
    dsimp only
    split <;> simp
  · simp

theorem count?_fails (key : String) : FailsOnly Error.OfServer (request.count? key) := by
  unfold count?
  repeat' split
  all_goals simp

theorem answer_fails (warning : Option String) (documents : List Json) :
    FailsOnly Error.OfServer (request.answer warning documents) := by
  have matching : FailsOnly Error.OfServer (request.matching documents) :=
    .keepItems fun document _ => request.condition.admits_fails (some document)
  simp [answer, matching, sortKeys_fails, pageBounds, bookmarkOffset_fails, count?_fails]

end FindRequest

theorem Store.respond_fails (store : Store) (database : String) (request : FindRequest) :
    FailsOnly Error.OfServer (store.respond database request) := by
  unfold respond
  split
  · simp
  · split <;> simp [request.answer_fails]

end DocQuery
