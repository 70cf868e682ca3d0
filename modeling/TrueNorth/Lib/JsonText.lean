import TrueNorth.Lib.Json
import TrueNorth.Lib.Texts

/-
  JSON values as text, written without spaces and with the
  keys of every object in order, and read by a parser that
  takes any JSON text.

  How a double is written is given; integers, texts, lists
  and objects are written here.  A half of a surrogate pair
  is no character, and a text that escapes one is not read.

  Key definitions include:
    * `Json.write`, `Json.sorted`
    * `JsonText.readValue`
    * `Json.loads?`
-/

--------
-- Writing
--------

namespace JsonText

/- A character inside quotation marks. -/
def escape (c : Char) : List Char :=
  if c = '"' then ['\\', '"']
  else if c = '\\' then ['\\', '\\']
  else if c = '\n' then ['\\', 'n']
  else if c = '\r' then ['\\', 'r']
  else if c = '\t' then ['\\', 't']
  else if c = '\x0c' then ['\\', 'f']
  else if c = '\x08' then ['\\', 'b']
  else if c.toNat < 32 then
    ['\\', 'u', '0', '0', Nat.digitChar (c.toNat / 16),
      Nat.digitChar (c.toNat % 16)]
  else [c]

def quote (s : String) : List Char :=
  '"' :: (s.toList.flatMap escape ++ ['"'])

def intText :
    Int → List Char
| .ofNat n => Nat.toDigits 10 n
| .negSucc n => '-' :: Nat.toDigits 10 (n + 1)

/- An integer has so many digits at most, or no text. -/
def maxDigits : Nat := 4300

def shortInt (value : Int) : Bool :=
  (Nat.toDigits 10 value.natAbs).length ≤ maxDigits

end JsonText

namespace Json

open JsonText

mutual

/- Every integer has a text. -/
def hasText :
    Json → Bool
| .int value => shortInt value
| .arr items => haveText items
| .obj members => membersHaveText members
| _ => true

def haveText :
    List Json → Bool
| [] => true
| item :: items => hasText item && haveText items

def membersHaveText :
    List (String × Json) → Bool
| [] => true
| member :: members =>
    memberHasText member && membersHaveText members

def memberHasText :
    String × Json → Bool
| (_, value) => hasText value

end

section

variable (floatText : Double → String)

mutual

/- `json.dumps` without spaces, the members as they stand. -/
def write :
    Json → List Char
| .null => "null".toList
| .bool true => "true".toList
| .bool false => "false".toList
| .int value => intText value
| .float value => (floatText value).toList
| .str text => quote text
| .arr [] => "[]".toList
| .arr (item :: items) => '[' :: (write item ++ moreItems items)
| .obj [] => "\x7b\x7d".toList
| .obj (member :: members) =>
    '\x7b' :: (writeMember member ++ moreMembers members)

def moreItems :
    List Json → List Char
| [] => [']']
| item :: items => ',' :: (write item ++ moreItems items)

def writeMember :
    String × Json → List Char
| (key, value) => quote key ++ ':' :: write value

def moreMembers :
    List (String × Json) → List Char
| [] => ['\x7d']
| member :: members =>
    ',' :: (writeMember member ++ moreMembers members)

end

end

/- Members by key, as texts are ordered. -/
def inOrder
    (members : List (String × Json)) : List (String × Json) :=
  members.mergeSort (fun m m' => m.1 ≤ m'.1)

mutual

/- The members of every object by key. -/
def sorted :
    Json → Json
| .arr items => .arr (sortedItems items)
| .obj members => .obj (inOrder (sortedMembers members))
| j => j

def sortedItems :
    List Json → List Json
| [] => []
| item :: items => sorted item :: sortedItems items

def sortedMembers :
    List (String × Json) → List (String × Json)
| [] => []
| member :: members =>
    sortedMember member :: sortedMembers members

def sortedMember :
    String × Json → String × Json
| (key, value) => (key, sorted value)

end

end Json

--------
-- Reading
--------

namespace JsonText

open Texts

/- What stands between values. -/
def blank (c : Char) : Bool :=
  c = ' ' || c = '\t' || c = '\n' || c = '\r'

def skip (cs : List Char) : List Char :=
  cs.dropWhile blank

/- Four hexadecimal digits. -/
def readHex :
    List Char → Option (Nat × List Char)
| a :: b :: c :: d :: rest => do
    let v₀ ← hexValue? a
    let v₁ ← hexValue? b
    let v₂ ← hexValue? c
    let v₃ ← hexValue? d
    some (((16 * v₀ + v₁) * 16 + v₂) * 16 + v₃, rest)
| _ => none

/- After a backslash and a `u`. -/
def readUnicode (cs : List Char) : Option (Char × List Char) :=
  match readHex cs with
  | none => none
  | some (code, rest) =>
      if 0xD800 ≤ code && code < 0xDC00 then
        match rest with
        | '\\' :: 'u' :: rest =>
            match readHex rest with
            | none => none
            | some (low, rest) =>
                if 0xDC00 ≤ low && low < 0xE000 then
                  some
                    (Char.ofNat
                      (0x10000 + (code - 0xD800) * 1024 +
                        (low - 0xDC00)), rest)
                else none
        | _ => none
      else if 0xDC00 ≤ code && code < 0xE000 then none
      else some (Char.ofNat code, rest)

/- After a backslash. -/
def readEscape :
    List Char → Option (Char × List Char)
| [] => none
| c :: rest =>
    if c = '"' || c = '\\' || c = '/' then some (c, rest)
    else if c = 'n' then some ('\n', rest)
    else if c = 'r' then some ('\r', rest)
    else if c = 't' then some ('\t', rest)
    else if c = 'f' then some ('\x0c', rest)
    else if c = 'b' then some ('\x08', rest)
    else if c = 'u' then readUnicode rest
    else none

/- After the first quotation mark, to the one that ends it. -/
def readString :
    Nat → List Char → Option (List Char × List Char)
| 0, _ => none
| _, [] => none
| fuel + 1, c :: rest =>
    if c = '"' then some ([], rest)
    else if c = '\\' then do
      let (c, rest) ← readEscape rest
      let (cs, rest) ← readString fuel rest
      some (c :: cs, rest)
    else if c.toNat < 32 then none
    else do
      let (cs, rest) ← readString fuel rest
      some (c :: cs, rest)

/- The digits before the point, which begin with no zero. -/
def readDigits :
    List Char → Option (List Char × List Char)
| [] => none
| c :: rest =>
    if c = '0' then some (['0'], rest)
    else if c.isDigit then
      some ((c :: rest).takeWhile Char.isDigit,
        (c :: rest).dropWhile Char.isDigit)
    else none

def readFraction :
    List Char → List Char × List Char
| '.' :: rest =>
    if rest.takeWhile Char.isDigit = [] then ([], '.' :: rest)
    else
      (rest.takeWhile Char.isDigit,
        rest.dropWhile Char.isDigit)
| cs => ([], cs)

/- The sign and the digits of an exponent. -/
def readExponent
    (cs : List Char) : Option Int × List Char :=
  match cs with
  | [] => (none, cs)
  | c :: rest =>
      if c = 'e' || c = 'E' then
        let (negative, rest) :=
          match rest with
          | '-' :: rest => (true, rest)
          | '+' :: rest => (false, rest)
          | rest => (false, rest)
        let digits := rest.takeWhile Char.isDigit
        if digits = [] then (none, cs)
        else
          let n : Int := Nat.ofDigitChars 10 digits 0
          (some (if negative then -n else n),
            rest.dropWhile Char.isDigit)
      else (none, cs)

/- Whether a minus comes first. -/
def readSign :
    List Char → Bool × List Char
| '-' :: rest => (true, rest)
| cs => (false, cs)

/- An integer, or the double nearest to what is written. -/
def readNumber (cs : List Char) : Option (Json × List Char) :=
  let (negative, cs) := readSign cs
  match readDigits cs with
  | none => none
  | some (digits, rest) =>
      let (fraction, rest) := readFraction rest
      let (exponent, rest) := readExponent rest
      if fraction = [] && exponent.isNone then
        let n : Int := Nat.ofDigitChars 10 digits 0
        if digits.length ≤ maxDigits then
          some (.int (if negative then -n else n), rest)
        else none
      else
        let n : Int :=
          Nat.ofDigitChars 10 (digits ++ fraction) 0
        let value : Rat :=
          (if negative then -n else n) *
            (10 : Rat) ^
              (exponent.getD 0 - (fraction.length : Int))
        some (.float (Double.ofRat value), rest)

/- The words that are values. -/
def words : List (String × Json) :=
  [("null", .null), ("true", .bool true), ("false", .bool false),
    ("NaN", .float .nan), ("Infinity", .float (.infinite false)),
    ("-Infinity", .float (.infinite true))]

def readWord (cs : List Char) : Option (Json × List Char) :=
  (words.find? (fun word => word.1.toList.isPrefixOf cs)).map
    (fun word => (word.2, cs.drop word.1.toList.length))

/- A key that comes again has the value it has last. -/
def lastWins
    (members : List (String × Json)) : List (String × Json) :=
  members.foldl (fun found member =>
    if Json.has found member.1 then
      found.map (fun m =>
        if m.1 = member.1 then member else m)
    else found ++ [member]) []

mutual

def readValue :
    Nat → List Char → Option (Json × List Char)
| 0, _ => none
| _, [] => none
| fuel + 1, c :: rest =>
    if c = '"' then
      match readString rest.length rest with
      | none => none
      | some (cs, rest) => some (.str (String.ofList cs), rest)
    else if c = '[' then
      match skip rest with
      | ']' :: rest => some (.arr [], rest)
      | cs =>
          match readItems fuel cs with
          | none => none
          | some (items, rest) => some (.arr items, rest)
    else if c = '\x7b' then
      match skip rest with
      | '\x7d' :: rest => some (.obj [], rest)
      | cs =>
          match readMembers fuel cs with
          | none => none
          | some (members, rest) =>
              some (.obj (lastWins members), rest)
    else
      (readWord (c :: rest)).or (readNumber (c :: rest))

/- A value, and what comes after it in a list. -/
def readItems :
    Nat → List Char → Option (List Json × List Char)
| 0, _ => none
| fuel + 1, cs =>
    match readValue fuel cs with
    | none => none
    | some (item, rest) =>
        match skip rest with
        | ']' :: rest => some ([item], rest)
        | ',' :: rest =>
            match readItems fuel (skip rest) with
            | none => none
            | some (items, rest) => some (item :: items, rest)
        | _ => none

/- A member, and what comes after it in an object. -/
def readMembers :
    Nat → List Char → Option (List (String × Json) × List Char)
| 0, _ => none
| fuel + 1, cs =>
    match cs with
    | '"' :: rest =>
        match readString rest.length rest with
        | none => none
        | some (key, rest) =>
            match skip rest with
            | ':' :: rest =>
                match readValue fuel (skip rest) with
                | none => none
                | some (value, rest) =>
                    let member := (String.ofList key, value)
                    match skip rest with
                    | '\x7d' :: rest => some ([member], rest)
                    | ',' :: rest =>
                        match readMembers fuel (skip rest) with
                        | none => none
                        | some (members, rest) =>
                            some (member :: members, rest)
                    | _ => none
            | _ => none
    | _ => none

end

end JsonText

namespace Json

open JsonText

/- `json.loads`, of a text. -/
def loads? (text : List Char) : Option Json :=
  match readValue (text.length + 1) (skip text) with
  | none => none
  | some (value, rest) =>
      if skip rest = [] then some value else none

end Json
