import TrueNorth.Lib.Numbers

/-
  JSON values as a dynamic language holds them: an object
  is a dictionary in insertion order, a lookup finds the
  value of a key or null, and every value is true or false.

  Main declarations:
    * `Json`
    * `Json.lookup`, `Json.has`
    * `Json.truthy`, `Json.orEmpty`
    * `Json.number?`
    * `Json.finite`, `Json.eq`
-/

--------
-- Values
--------

inductive Json where
| null
| bool (value : Bool)
| int (value : Int)
| float (value : Double)
| str (text : String)
| arr (items : List Json)
| obj (members : List (String × Json))

namespace Json

instance : Inhabited Json := ⟨.null⟩

/- The value of a key, null when the key is absent. -/
def lookup
    (members : List (String × Json))
    (key : String) : Json :=
  match members.find? (fun member => member.1 = key) with
  | none => .null
  | some member => member.2

/- The key is there. -/
def has
    (members : List (String × Json))
    (key : String) : Bool :=
  members.any (fun member => member.1 = key)

/- The truth of a value. -/
def truthy :
    Json → Bool
| .null => false
| .bool value => value
| .int value => value ≠ 0
| .float value => value ≠ .finite 0
| .str text => text ≠ ""
| .arr items => !items.isEmpty
| .obj members => !members.isEmpty

/- A false value becomes the empty object. -/
def orEmpty (j : Json) : Json :=
  if j.truthy then j else .obj []

/- The value is this text. -/
def isText
    (j : Json)
    (text : String) : Bool :=
  match j with
  | .str text' => text' = text
  | _ => false

/- The value is this truth value. -/
def isBool
    (j : Json)
    (value : Bool) : Bool :=
  match j with
  | .bool value' => value' = value
  | _ => false

def isNull :
    Json → Bool
| .null => true
| _ => false

def isObject :
    Json → Bool
| .obj _ => true
| _ => false

/- The members of an object, none for anything else. -/
def members? :
    Json → Option (List (String × Json))
| .obj members => some members
| _ => none

/- The number a value is; truth values are 0 and 1. -/
def number? :
    Json → Option Number
| .bool value => some (.int (if value then 1 else 0))
| .int value => some (.int value)
| .float value => some (.float value)
| _ => none

/- What iterating over the value gives, if it can be. -/
def iterate? :
    Json → Option (List Json)
| .arr items => some items
| .obj members =>
    some (members.map (fun member => .str member.1))
| .str text =>
    some (text.toList.map (fun c => .str (String.ofList [c])))
| _ => none

--------
-- Numbers Inside Values
--------

mutual

/- No nan or infinity, no integer beyond every double. -/
def finite :
    Json → Bool
| .float value => value.isFinite
| .int value => (Number.int value).toDouble.isSome
| .arr items => finiteItems items
| .obj members => finiteMembers members
| _ => true

def finiteItems :
    List Json → Bool
| [] => true
| item :: items => item.finite && finiteItems items

def finiteMembers :
    List (String × Json) → Bool
| [] => true
| member :: members =>
    finiteMember member && finiteMembers members

def finiteMember :
    String × Json → Bool
| (_, value) => value.finite

end

--------
-- Equality
--------

mutual

/- Numbers by value, objects in any order. -/
def eq :
    Json → Json → Bool
| .null, other => other.isNull
| .str text, other => other.isText text
| .bool value, other =>
    other.number?.any
      (Number.eq (.int (if value then 1 else 0)))
| .int value, other =>
    other.number?.any (Number.eq (.int value))
| .float value, other =>
    other.number?.any (Number.eq (.float value))
| .arr items, other =>
    match other with
    | .arr others => eqItems items others
    | _ => false
| .obj members, other =>
    match other with
    | .obj others =>
        members.length = others.length &&
          eqMembers members others
    | _ => false

def eqItems :
    List Json → List Json → Bool
| [], others => others.isEmpty
| item :: items, others =>
    match others with
    | [] => false
    | other :: others => item.eq other && eqItems items others

def eqMembers :
    List (String × Json) → List (String × Json) → Bool
| [], _ => true
| member :: members, others =>
    eqMember member others && eqMembers members others

def eqMember :
    String × Json → List (String × Json) → Bool
| (key, value), others =>
    has others key && value.eq (lookup others key)

end

end Json
