import TrueNorth.Firewalls.Meaning

/-
  The plain way to read the texts of a configuration: ports
  in decimal digits, ranges of them, and addresses in CIDR
  form.

  Main declarations:
    * `decimal`
-/

--------
-- Words
--------

namespace TrueNorth

namespace Firewalls

/- The words of a text, with blanks between them. -/
def wordsOf (text : List Char) : List (List Char) :=
  text.splitOn ' '

theorem any_wordsOf_join
    {f : List Char → Bool}
    (hEmpty : f [] = false)
    (texts : List String) :
    (wordsOf (" ".intercalate texts).toList).any f =
      texts.any (fun text => (wordsOf text.toList).any f) := by
  induction texts with
  | nil =>
      rw [String.intercalate_nil]
      simp [wordsOf, hEmpty]
  | cons text texts ih =>
      cases texts with
      | nil =>
          rw [String.intercalate_singleton]
          simp
      | cons next texts =>
          have hText :
              (" ".intercalate (text :: next :: texts)).toList =
                text.toList ++
                  ' ' :: (" ".intercalate (next :: texts)).toList := by
            rw [String.intercalate_cons_cons, String.toList_append,
              String.toList_append, List.append_assoc]
            rfl
          rw [List.any_cons, ← ih, hText]
          unfold wordsOf
          rw [List.splitOn_append_cons_self, List.any_append]

/- A map that leaves the blanks alone maps the words. -/
theorem wordsOf_map
    {g : Char → Char}
    (hBlank : ∀ c, g c = ' ' ↔ c = ' ')
    (text : List Char) :
    wordsOf (text.map g) = (wordsOf text).map (List.map g) := by
  unfold wordsOf
  induction text with
  | nil => rfl
  | cons c text ih =>
      rw [List.map_cons, List.splitOn_cons_eq_if_modifyHead,
        List.splitOn_cons_eq_if_modifyHead, ih]
      have hSame : (g c == ' ') = (c == ' ') := by
        rw [Bool.eq_iff_iff, beq_iff_eq, beq_iff_eq]
        exact hBlank c
      rw [hSame]
      split
      · rfl
      · cases text.splitOn ' ' <;> rfl

--------
-- Ports And Addresses
--------

def colonChar (c : Char) : Char :=
  if c = '-' then ':' else c

def decimalNumber? (text : List Char) : Option Nat :=
  if IpText.isDecimal text then
    some (Nat.ofDigitChars 10 text 0)
  else none

/- A number, or two with a dash or a colon between them. -/
def portWord
    (word : List Char)
    (n : Nat) : Bool :=
  match ((word.map colonChar).splitOn ':').map decimalNumber? with
  | [some m] => n = m
  | [some low, some high] => low ≤ n && n ≤ high
  | _ => false

/- An address of a network in CIDR form. -/
def addressWord
    (word : List Char)
    (a : IpAddress) : Bool :=
  match IpNetwork.network? (String.ofList word) with
  | none => false
  | some net =>
      a.version = net.address.version &&
        net.address.value ≤ a.value && a.value ≤ net.broadcast

theorem portWord_nil (n : Nat) : portWord [] n = false :=
  rfl

theorem addressWord_nil (a : IpAddress) :
    addressWord [] a = false := by
  have hNone : IpNetwork.network? (String.ofList []) = none := by
    decide
  unfold addressWord
  rw [hNone]

theorem portWord_colons
    (word : List Char)
    (n : Nat) :
    portWord (word.map colonChar) n = portWord word n := by
  have hTwice :
      (word.map colonChar).map colonChar = word.map colonChar := by
    rw [List.map_map]
    apply List.map_congr_left
    intro c _
    by_cases hDash : c = '-' <;> simp [colonChar, hDash]
  unfold portWord
  rw [hTwice]

def decimal : Reading IpAddress where
  port := fun text n => (wordsOf text.toList).any (portWord · n)
  address := fun text a =>
    (wordsOf text.toList).any (addressWord · a)
  subnet := fun ip prefixLen a =>
    addressWord (ip ++ "/" ++ toString prefixLen).toList a
  port_joined := fun texts n =>
    any_wordsOf_join (portWord_nil n) texts
  port_colons := by
    intro text n
    have hBlank (c : Char) : colonChar c = ' ' ↔ c = ' ' := by
      unfold colonChar
      split
      · next hDash => simp [hDash]
      · exact Iff.rfl
    have hMap : (colons text).toList = text.toList.map colonChar := by
      unfold colons
      rw [String.toList_ofList]
      rfl
    rw [hMap, wordsOf_map hBlank, List.any_map]
    congr 1
    funext word
    exact portWord_colons word n
  address_joined := fun texts a =>
    any_wordsOf_join (addressWord_nil a) texts

end Firewalls

end TrueNorth
