import TrueNorth.Cmi5.Lms

/-
  The statements on a stack that ends.  Reading a body,
  looking for numbers that are not finite, the text of an id
  and writing the body again each go down into a value as
  deep as it is nested, and raise where the stack ends.

  Key definitions include:
    * `nesting`, `Stack`
    * `finiteWithin`
    * `checkOn`, `checkStatementsOn`
-/

--------
-- Nesting
--------

namespace TrueNorth

namespace Cmi5

mutual

/- How deep arrays and objects are nested in a value. -/
def nesting : Json → Nat
| .arr items => nestingItems items + 1
| .obj members => nestingMembers members + 1
| _ => 0

def nestingItems : List Json → Nat
| [] => 0
| item :: items => max (nesting item) (nestingItems items)

def nestingMembers : List (String × Json) → Nat
| [] => 0
| member :: members =>
    max (nestingMember member) (nestingMembers members)

def nestingMember : String × Json → Nat
| (_, value) => nesting value

end

/-
  What the stack leaves: the nesting that `json.loads`,
  `str` and `json.dumps` can take, and the frames `finite`
  has.
-/
structure Stack where
  loads : Nat
  frames : Nat
  str : Nat
  dumps : Nat

mutual

/-
  `finite`: a frame for each call and one for the generator
  over what is inside.
-/
def finiteWithin : Nat → Json → Option Bool
| 0, _ => none
| frames + 1, .arr items => itemsWithin frames items
| frames + 1, .obj members => membersWithin frames members
| _ + 1, j => some j.finite

def itemsWithin : Nat → List Json → Option Bool
| 0, _ => none
| _ + 1, [] => some true
| frames + 1, item :: items =>
    match finiteWithin frames item with
    | none => none
    | some false => some false
    | some true => itemsWithin (frames + 1) items

def membersWithin : Nat → List (String × Json) → Option Bool
| 0, _ => none
| _ + 1, [] => some true
| frames + 1, member :: members =>
    match memberWithin frames member with
    | none => none
    | some false => some false
    | some true => membersWithin (frames + 1) members

def memberWithin : Nat → String × Json → Option Bool
| frames, (_, value) => finiteWithin frames value

end

--------
-- Statements on a Stack
--------

open Checks

/- The verb id `readVerb` goes on with. -/
def verbId? (st : List (String × Json)) : Option String :=
  match (Json.lookup st "verb").orEmpty with
  | .obj verb =>
      match Json.lookup verb "id" with
      | .str id => if id = "" then none else some id
      | _ => none
  | _ => none

/- `finite` is called on a statement that has a verb id. -/
def finiteOn
    (stack : Stack)
    (st : List (String × Json)) : Checked Unit :=
  refuseIf
    ((verbId? st).isSome &&
      (finiteWithin stack.frames (.obj st)).isNone)
    .crash

/- `str` is called on an id that is not missing. -/
def strOn
    (stack : Stack)
    (st : List (String × Json)) : Checked Unit :=
  let id := Json.lookup st "id"
  refuseIf (id.truthy && decide (stack.str < nesting id)) .crash

/-
  `check`, where the stack may end.  Its steps leave nothing
  behind, so that those before `finite` and `str` come
  first here, and again as a part of the whole.
-/
def checkOn
    (stack : Stack)
    (st : Json)
    (view : SessionView)
    (earlier : List String) : Checked (Option String) := do
  let members ← readStatement st view
  finiteOn stack members
  let _ ← readVerb members
  strOn stack members
  check st view earlier

/- The statements one by one, as `checkEach`. -/
def checkEachOn
    (stack : Stack)
    (view : SessionView) :
    List Json → List String → Checked (List (Option String))
| [], _ => .ok []
| st :: sts, accepted => do
    let verdict ← checkOn stack st view accepted
    let verdicts ←
      checkEachOn stack view sts (accepted ++ verdict.toList)
    .ok (verdict :: verdicts)

/- `json.loads` of the body. -/
def Body.loadsOn
    (stack : Stack) :
    Body → Checked Json
| .json payload => do
    refuseIf (stack.loads < nesting payload) .crash
    .ok payload
| body => body.payload

/- A body is one statement or an array of them. -/
def statementsOf (payload : Json) : List Json :=
  match payload with
  | .arr items => items
  | st => [st]

/- The body to write again. -/
def cleanedOf (payload : Json) : Json :=
  match payload with
  | .arr items => .arr (items.map withoutServerSet)
  | st => withoutServerSet st

/- `_check_statements`, where the stack may end. -/
def checkStatementsOn
    (stack : Stack)
    (view : SessionView)
    (method : String)
    (statementId : Option String)
    (body : Body) :
    Checked (List (Option String) × Json) := do
  let payload ← body.loadsOn stack
  let statements := statementsOf payload
  refuseIf statements.isEmpty
    (violation "4.1.0.0-1" "no statements" 400)
  only (method = "PUT") (checkPut statements statementId)
  let verdicts ← checkEachOn stack view statements []
  let cleaned := cleanedOf payload
  refuseIf (stack.dumps < nesting cleaned) .crash
  .ok (verdicts, cleaned)

end Cmi5

end TrueNorth
