import TrueNorth.Lib.JsonRecords

/-
  A text says which value it was written from: a plain
  value, of texts and objects only, has a text that no other
  value has.

  The other value may hold doubles, whose texts begin
  neither like a text nor like an object.

  Key definitions include:
    * `Json.Plain`
    * `JsonText.FloatsApart`

  Main theorems:
    * `Json.write_injective`
    * `Json.plain_sorted`
-/

--------
-- Plain Values
--------

namespace Json

mutual

/- Texts, and objects of plain values. -/
def Plain :
    Json → Prop
| .str _ => True
| .obj members => PlainMembers members
| _ => False

def PlainMembers :
    List (String × Json) → Prop
| [] => True
| member :: members => PlainMember member ∧ PlainMembers members

def PlainMember :
    String × Json → Prop
| (_, value) => Plain value

end

theorem plainMembers_iff
    {members : List (String × Json)} :
    PlainMembers members ↔ ∀ m ∈ members, m.2.Plain := by
  induction members with
  | nil => simp [PlainMembers]
  | cons m members ih =>
      rcases m with ⟨key, value⟩
      rw [PlainMembers, PlainMember, ih, List.forall_mem_cons]

mutual

theorem plain_sorted
    (value : Json)
    (hPlain : value.Plain) :
    value.sorted.Plain := by
  cases value with
  | str text => simpa [sorted] using hPlain
  | obj members =>
      rw [Plain] at hPlain
      rw [sorted, Plain, plainMembers_iff]
      have hMembers := plain_sortedMembers members hPlain
      rw [plainMembers_iff] at hMembers
      intro m hMem
      exact hMembers m ((inOrder_perm _).mem_iff.mp hMem)
  | null => simp [Plain] at hPlain
  | bool value => simp [Plain] at hPlain
  | int value => simp [Plain] at hPlain
  | float value => simp [Plain] at hPlain
  | arr items => simp [Plain] at hPlain

theorem plain_sortedMembers
    (members : List (String × Json))
    (hPlain : PlainMembers members) :
    PlainMembers (sortedMembers members) := by
  cases members with
  | nil => rw [sortedMembers, PlainMembers]; trivial
  | cons member members =>
      rw [PlainMembers] at hPlain
      rw [sortedMembers, PlainMembers]
      exact ⟨plain_sortedMember member hPlain.1,
        plain_sortedMembers members hPlain.2⟩

theorem plain_sortedMember
    (member : String × Json)
    (hPlain : PlainMember member) :
    PlainMember (sortedMember member) := by
  rcases member with ⟨key, value⟩
  rw [PlainMember] at hPlain
  rw [sortedMember, PlainMember]
  exact plain_sorted value hPlain

end

end Json

--------
-- First Characters
--------

namespace JsonText

open Json

/- No double is written like a text or an object. -/
def FloatsApart (floatText : Double → String) : Prop :=
  ∀ d, ∃ c cs, (floatText d).toList = c :: cs ∧
    c ≠ '"' ∧ c ≠ '\x7b'

variable {floatText : Double → String}

theorem digit_apart
    {c : Char}
    (hDigit : c.isDigit = true) :
    c ≠ '"' ∧ c ≠ '\x7b' := by
  refine ⟨?_, ?_⟩
  · rintro rfl
    cases hDigit
  · rintro rfl
    cases hDigit

theorem intText_head
    (value : Int) :
    ∃ c cs, intText value = c :: cs ∧ c ≠ '"' ∧ c ≠ '\x7b' := by
  cases value with
  | ofNat n =>
      cases hDigits : Nat.toDigits 10 n with
      | nil => exact absurd hDigits Nat.toDigits_ne_nil
      | cons d ds =>
          exact ⟨d, ds, hDigits, digit_apart
            (toDigits_isDigit n d
              (by rw [hDigits]; exact List.mem_cons_self))⟩
  | negSucc n =>
      exact ⟨'-', _, rfl, by decide, by decide⟩

/- The first character tells texts and objects apart. -/
theorem write_first
    (hApart : FloatsApart floatText)
    (value : Json) :
    (∃ text, value = .str text) ∨
      (∃ members, value = .obj members) ∨
      ∃ c cs, value.write floatText = c :: cs ∧
        c ≠ '"' ∧ c ≠ '\x7b' := by
  cases value with
  | str text => exact .inl ⟨text, rfl⟩
  | obj members => exact .inr (.inl ⟨members, rfl⟩)
  | null =>
      exact .inr (.inr
        ⟨'n', _, by rw [write]; rfl, by decide, by decide⟩)
  | bool value =>
      cases value with
      | true =>
          exact .inr (.inr
            ⟨'t', _, by rw [write]; rfl, by decide, by decide⟩)
      | false =>
          exact .inr (.inr
            ⟨'f', _, by rw [write]; rfl, by decide, by decide⟩)
  | int value =>
      rcases intText_head value with ⟨c, cs, hText, hNe⟩
      exact .inr (.inr ⟨c, cs, by rw [write, hText], hNe⟩)
  | float value =>
      rcases hApart value with ⟨c, cs, hText, hNe⟩
      exact .inr (.inr ⟨c, cs, by rw [write, hText], hNe⟩)
  | arr items =>
      cases items with
      | nil =>
          exact .inr (.inr
            ⟨'[', _, by rw [write]; rfl, by decide, by decide⟩)
      | cons item items =>
          exact .inr (.inr
            ⟨'[', _, by rw [write], by decide, by decide⟩)

/- Two quoted texts, and what comes after them. -/
theorem quote_injective
    {s t : String}
    {rest rest' : List Char}
    (hSame : quote s ++ rest = quote t ++ rest') :
    s = t ∧ rest = rest' := by
  unfold quote at hSame
  simp only [List.cons_append, List.append_assoc,
    List.nil_append, List.cons.injEq, true_and] at hSame
  have hRead := readString_quoted s rest
  rw [hSame, readString_quoted t rest'] at hRead
  rw [Option.some.injEq, Prod.mk.injEq] at hRead
  exact ⟨String.toList_inj.mp hRead.1.symm, hRead.2.symm⟩

end JsonText

--------
-- Texts Of Values
--------

namespace Json

open JsonText

variable {floatText : Double → String}

/- What begins like a text is one. -/
theorem write_str_first
    (hApart : FloatsApart floatText)
    {value : Json}
    {rest cs : List Char}
    (hText : value.write floatText ++ rest = '"' :: cs) :
    ∃ text, value = .str text := by
  rcases write_first hApart value with
    hStr | ⟨members, rfl⟩ | ⟨c, cs', hWrite, hNe⟩
  · exact hStr
  · cases members with
    | nil => rw [write] at hText; cases hText
    | cons member members => rw [write] at hText; cases hText
  · rw [hWrite] at hText
    exact absurd (List.cons.inj hText).1 hNe.1

theorem write_obj_first
    (hApart : FloatsApart floatText)
    {value : Json}
    {rest cs : List Char}
    (hText : value.write floatText ++ rest = '\x7b' :: cs) :
    ∃ members, value = .obj members := by
  rcases write_first hApart value with
    ⟨text, rfl⟩ | hObj | ⟨c, cs', hWrite, hNe⟩
  · rw [write] at hText
    cases hText
  · exact hObj
  · rw [hWrite] at hText
    exact absurd (List.cons.inj hText).1 hNe.2

theorem writeMember_head
    (member : String × Json)
    (rest : List Char) :
    ∃ cs, writeMember floatText member ++ rest = '"' :: cs := by
  rcases member with ⟨key, value⟩
  rw [writeMember]
  exact ⟨_, rfl⟩

mutual

/- A plain value's text is no other value's. -/
theorem write_unambiguous
    (hApart : FloatsApart floatText)
    (value : Json)
    (hPlain : value.Plain)
    {value' : Json}
    {rest rest' : List Char}
    (hText : value'.write floatText ++ rest' =
      value.write floatText ++ rest) :
    value' = value ∧ rest' = rest := by
  cases value with
  | str text =>
      have hFirst : ∃ cs,
          (Json.str text).write floatText ++ rest = '"' :: cs := by
        rw [write]
        exact ⟨_, rfl⟩
      rcases hFirst with ⟨cs, hCs⟩
      rcases write_str_first hApart (hText.trans hCs) with
        ⟨text', rfl⟩
      rw [write, write] at hText
      rcases quote_injective hText with ⟨rfl, hRest⟩
      exact ⟨rfl, hRest⟩
  | obj members =>
      have hFirst : ∃ cs,
          (Json.obj members).write floatText ++ rest =
            '\x7b' :: cs := by
        cases members with
        | nil => rw [write]; exact ⟨_, rfl⟩
        | cons member members => rw [write]; exact ⟨_, rfl⟩
      rcases hFirst with ⟨cs, hCs⟩
      rcases write_obj_first hApart (hText.trans hCs) with
        ⟨members', rfl⟩
      rw [Plain] at hPlain
      cases members with
      | nil =>
          cases members' with
          | nil =>
              exact ⟨rfl, List.append_cancel_left hText⟩
          | cons member' members' =>
              rw [write, write, List.cons_append,
                List.append_assoc] at hText
              rcases @writeMember_head floatText member'
                  (moreMembers floatText members' ++ rest') with
                ⟨cs', hCs'⟩
              rw [hCs'] at hText
              cases hText
      | cons member members =>
          rw [PlainMembers] at hPlain
          cases members' with
          | nil =>
              rw [write, write, List.cons_append,
                List.append_assoc] at hText
              rcases @writeMember_head floatText member
                  (moreMembers floatText members ++ rest) with
                ⟨cs', hCs'⟩
              rw [hCs'] at hText
              cases hText
          | cons member' members' =>
              rw [write, write, List.cons_append,
                List.cons_append, List.append_assoc,
                List.append_assoc] at hText
              rcases writeMember_unambiguous hApart member
                  hPlain.1 (List.cons.inj hText).2 with
                ⟨rfl, hMore⟩
              rcases moreMembers_unambiguous hApart members
                  hPlain.2 hMore with
                ⟨rfl, hRest⟩
              exact ⟨rfl, hRest⟩
  | null => simp [Plain] at hPlain
  | bool value => simp [Plain] at hPlain
  | int value => simp [Plain] at hPlain
  | float value => simp [Plain] at hPlain
  | arr items => simp [Plain] at hPlain

theorem writeMember_unambiguous
    (hApart : FloatsApart floatText)
    (member : String × Json)
    (hPlain : PlainMember member)
    {member' : String × Json}
    {rest rest' : List Char}
    (hText : writeMember floatText member' ++ rest' =
      writeMember floatText member ++ rest) :
    member' = member ∧ rest' = rest := by
  rcases member with ⟨key, value⟩
  rcases member' with ⟨key', value'⟩
  rw [PlainMember] at hPlain
  rw [writeMember, writeMember, List.append_assoc,
    List.append_assoc, List.cons_append,
    List.cons_append] at hText
  rcases quote_injective hText with ⟨rfl, hValue⟩
  rcases write_unambiguous hApart value hPlain
      (List.cons.inj hValue).2 with
    ⟨rfl, hRest⟩
  exact ⟨rfl, hRest⟩

theorem moreMembers_unambiguous
    (hApart : FloatsApart floatText)
    (members : List (String × Json))
    (hPlain : PlainMembers members)
    {members' : List (String × Json)}
    {rest rest' : List Char}
    (hText : moreMembers floatText members' ++ rest' =
      moreMembers floatText members ++ rest) :
    members' = members ∧ rest' = rest := by
  cases members with
  | nil =>
      cases members' with
      | nil => exact ⟨rfl, List.append_cancel_left hText⟩
      | cons member' members' =>
          rw [moreMembers, moreMembers] at hText
          cases hText
  | cons member members =>
      rw [PlainMembers] at hPlain
      cases members' with
      | nil =>
          rw [moreMembers, moreMembers] at hText
          cases hText
      | cons member' members' =>
          rw [moreMembers, moreMembers, List.cons_append,
            List.cons_append, List.append_assoc,
            List.append_assoc] at hText
          rcases writeMember_unambiguous hApart member
              hPlain.1 (List.cons.inj hText).2 with
            ⟨rfl, hMore⟩
          rcases moreMembers_unambiguous hApart members
              hPlain.2 hMore with
            ⟨rfl, hRest⟩
          exact ⟨rfl, hRest⟩

end

/- No two values have the text of a plain one. -/
theorem write_injective
    (hApart : FloatsApart floatText)
    {value value' : Json}
    (hPlain : value.Plain)
    (hText : value'.write floatText = value.write floatText) :
    value' = value := by
  have hEnd : value'.write floatText ++ [] =
      value.write floatText ++ [] := by
    rw [hText]
  exact (write_unambiguous hApart value hPlain hEnd).1

end Json
