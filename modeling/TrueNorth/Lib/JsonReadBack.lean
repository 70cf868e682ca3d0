import TrueNorth.Lib.JsonText

/-
  JSON text that was written is read back: the reader finds
  the value that was written, whatever comes after it.

  Doubles are left out: a value is tidy when it has none,
  its integers have a text and the keys of its objects are
  distinct.

  Key definitions include:
    * `Json.Tidy`
    * `JsonText.Ends`

  Main theorem:
    * `Json.loads?_write`
-/

--------
-- Texts
--------

namespace JsonText

open Texts

/- A control character, by its two hexadecimal digits. -/
theorem readUnicode_control
    {n : Nat}
    (hn : n < 32)
    (rest : List Char) :
    readUnicode
        ('0' :: '0' :: Nat.digitChar (n / 16) ::
          Nat.digitChar (n % 16) :: rest) =
      some (Char.ofNat n, rest) := by
  have hZero : hexValue? '0' = some 0 := by decide
  have hCode :
      ((16 * 0 + 0) * 16 + n / 16) * 16 + n % 16 = n := by
    omega
  have hRead :
      readHex
          ('0' :: '0' :: Nat.digitChar (n / 16) ::
            Nat.digitChar (n % 16) :: rest) = some (n, rest) := by
    unfold readHex
    simp only [hZero, hexValue?_digitChar (n / 16) (by omega),
      hexValue?_digitChar (n % 16) (by omega),
      Option.bind_eq_bind, Option.bind_some, hCode]
  have hLow : ¬ 0xD800 ≤ n := by omega
  have hHigh : ¬ 0xDC00 ≤ n := by omega
  unfold readUnicode
  rw [hRead]
  simp [hLow, hHigh]

/- One character, whether it was escaped or not. -/
theorem readString_escape
    (fuel : Nat)
    (c : Char)
    (rest : List Char) :
    readString (fuel + 1) (escape c ++ rest) =
      (readString fuel rest).bind (fun p =>
        some (c :: p.1, p.2)) := by
  unfold escape
  split_ifs with hQuote hSlash hLine hReturn hTab hFeed hBack
    hControl
  · subst hQuote
    simp [readString, readEscape]
  · subst hSlash
    simp [readString, readEscape]
  · subst hLine
    simp [readString, readEscape]
  · subst hReturn
    simp [readString, readEscape]
  · subst hTab
    simp [readString, readEscape]
  · subst hFeed
    simp [readString, readEscape]
  · subst hBack
    simp [readString, readEscape]
  · have hRead := readUnicode_control hControl rest
    rw [Char.ofNat_toNat] at hRead
    simp [readString, readEscape, hRead]
  · simp [readString, hQuote, hSlash, hControl]

/- A text up to its last quotation mark. -/
theorem readString_text
    (cs : List Char)
    (rest : List Char)
    {fuel : Nat}
    (hFuel : cs.length < fuel) :
    readString fuel (cs.flatMap escape ++ '"' :: rest) =
      some (cs, rest) := by
  induction cs generalizing fuel with
  | nil =>
      cases fuel with
      | zero => cases hFuel
      | succ fuel => simp [readString]
  | cons c cs ih =>
      cases fuel with
      | zero => cases hFuel
      | succ fuel =>
          rw [List.flatMap_cons, List.append_assoc,
            readString_escape,
            ih (Nat.lt_of_succ_lt_succ hFuel)]
          rfl

theorem length_escape
    (c : Char) :
    1 ≤ (escape c).length := by
  unfold escape
  split_ifs <;> simp

theorem length_le_escaped
    (cs : List Char) :
    cs.length ≤ (cs.flatMap escape).length := by
  induction cs with
  | nil => exact Nat.le_refl _
  | cons c cs ih =>
      have hFirst := length_escape c
      rw [List.flatMap_cons, List.length_append,
        List.length_cons]
      omega

/- The reader's own fuel is enough for a text. -/
theorem readString_quoted
    (s : String)
    (rest : List Char) :
    readString
        (s.toList.flatMap escape ++ '"' :: rest).length
        (s.toList.flatMap escape ++ '"' :: rest) =
      some (s.toList, rest) := by
  apply readString_text
  have hLength := length_le_escaped s.toList
  rw [List.length_append, List.length_cons]
  omega

--------
-- Numbers
--------

/- A value ends here: the text does, or a mark follows. -/
def Ends (rest : List Char) : Prop :=
  ∀ c cs, rest = c :: cs → c = ',' ∨ c = ']' ∨ c = '\x7d'

theorem ends_nil : Ends [] := by
  intro c cs hCons
  cases hCons

theorem ends_cons
    {c : Char}
    (hMark : c = ',' ∨ c = ']' ∨ c = '\x7d')
    (cs : List Char) :
    Ends (c :: cs) := by
  intro c' cs' hCons
  cases hCons
  exact hMark

theorem isDigit_digitChar :
    ∀ d < 10, (Nat.digitChar d).isDigit = true := by
  decide

theorem toDigits_isDigit
    (n : Nat) :
    ∀ c ∈ Nat.toDigits 10 n, c.isDigit = true := by
  induction n using Nat.strongRecOn with
  | ind n ih =>
      rw [Nat.toDigits_eq_if (by omega)]
      split
      · rename_i hLt
        intro c hMem
        rw [List.mem_singleton.mp hMem]
        exact isDigit_digitChar n hLt
      · intro c hMem
        rcases List.mem_append.mp hMem with hInit | hLast
        · exact ih (n / 10) (by omega) c hInit
        · rw [List.mem_singleton.mp hLast]
          exact isDigit_digitChar _ (Nat.mod_lt _ (by omega))

/- No number but zero begins with a zero. -/
theorem toDigits_head
    {n : Nat}
    (hn : 0 < n) :
    ∃ c cs, Nat.toDigits 10 n = c :: cs ∧ c ≠ '0' := by
  induction n using Nat.strongRecOn with
  | ind n ih =>
      rw [Nat.toDigits_eq_if (by omega)]
      split
      · rename_i hLt
        refine ⟨Nat.digitChar n, [], rfl, ?_⟩
        have hAll : ∀ d < 10, 0 < d →
            Nat.digitChar d ≠ '0' := by
          decide
        exact hAll n hLt hn
      · rcases ih (n / 10) (by omega) (by omega) with
          ⟨c, cs, hDigits, hNe⟩
        exact ⟨c, cs ++ [Nat.digitChar (n % 10)], by
          rw [hDigits]; rfl, hNe⟩

theorem span_ends
    {ds rest : List Char}
    (hDigits : ∀ c ∈ ds, c.isDigit = true)
    (hEnds : Ends rest) :
    (ds ++ rest).takeWhile Char.isDigit = ds ∧
      (ds ++ rest).dropWhile Char.isDigit = rest := by
  have hRest : rest.takeWhile Char.isDigit = [] ∧
      rest.dropWhile Char.isDigit = rest := by
    cases rest with
    | nil => exact ⟨rfl, rfl⟩
    | cons c cs =>
        have hNot : c.isDigit = false := by
          rcases hEnds c cs rfl with rfl | rfl | rfl
          · rfl
          · rfl
          · rfl
        rw [List.takeWhile_cons, List.dropWhile_cons, hNot]
        exact ⟨rfl, rfl⟩
  rw [List.takeWhile_append_of_pos hDigits,
    List.dropWhile_append_of_pos hDigits, hRest.1, hRest.2,
    List.append_nil]
  exact ⟨rfl, rfl⟩

/- The digits of a number are read, and no more. -/
theorem readDigits_toDigits
    (n : Nat)
    {rest : List Char}
    (hEnds : Ends rest) :
    readDigits (Nat.toDigits 10 n ++ rest) =
      some (Nat.toDigits 10 n, rest) := by
  by_cases hn : n = 0
  · subst hn
    rw [Nat.toDigits_zero]
    rfl
  · rcases toDigits_head (Nat.pos_of_ne_zero hn) with
      ⟨c, cs, hCons, hNe⟩
    have hAll := toDigits_isDigit n
    have hSpan := span_ends hAll hEnds
    rw [hCons] at hAll hSpan ⊢
    rw [List.cons_append] at hSpan ⊢
    rw [readDigits, if_neg hNe,
      if_pos (hAll c List.mem_cons_self), hSpan.1, hSpan.2]

theorem readFraction_ends
    {rest : List Char}
    (hEnds : Ends rest) :
    readFraction rest = ([], rest) := by
  cases rest with
  | nil => rfl
  | cons c cs =>
      rcases hEnds c cs rfl with rfl | rfl | rfl
      · rfl
      · rfl
      · rfl

theorem readExponent_ends
    {rest : List Char}
    (hEnds : Ends rest) :
    readExponent rest = (none, rest) := by
  cases rest with
  | nil => rfl
  | cons c cs =>
      rcases hEnds c cs rfl with rfl | rfl | rfl
      · rfl
      · rfl
      · rfl

theorem readSign_digits
    {ds : List Char}
    (hDigits : ∀ c ∈ ds, c.isDigit = true)
    (hSome : ds ≠ [])
    (rest : List Char) :
    readSign (ds ++ rest) = (false, ds ++ rest) := by
  cases ds with
  | nil => exact absurd rfl hSome
  | cons d ds =>
      rw [List.cons_append]
      unfold readSign
      split
      · rename_i hCons
        cases hCons
        cases hDigits '-' List.mem_cons_self
      · rfl

theorem readNumber_intText
    {value : Int}
    (hShort : shortInt value = true)
    {rest : List Char}
    (hEnds : Ends rest) :
    readNumber (intText value ++ rest) =
      some (.int value, rest) := by
  have hValue (n : Nat) :
      Nat.ofDigitChars 10 (Nat.toDigits 10 n) 0 = n :=
    Nat.ofDigitChars_toDigits (by omega) le_rfl
  have hLength := of_decide_eq_true hShort
  cases value with
  | ofNat n =>
      unfold readNumber intText
      rw [readSign_digits (toDigits_isDigit n)
        Nat.toDigits_ne_nil]
      simp only [readDigits_toDigits n hEnds,
        readFraction_ends hEnds, readExponent_ends hEnds, hValue]
      exact if_pos hLength
  | negSucc n =>
      have hSign :
          readSign ('-' :: Nat.toDigits 10 (n + 1) ++ rest) =
            (true, Nat.toDigits 10 (n + 1) ++ rest) := rfl
      unfold readNumber intText
      simp only [hSign, readDigits_toDigits (n + 1) hEnds,
        readFraction_ends hEnds, readExponent_ends hEnds, hValue]
      exact if_pos hLength

end JsonText

--------
-- Tidy Values
--------

namespace Json

mutual

/- No doubles or long integers, and distinct keys. -/
def Tidy :
    Json → Prop
| .float _ => False
| .int value => JsonText.shortInt value = true
| .arr items => TidyItems items
| .obj members =>
    (members.map Prod.fst).Nodup ∧ TidyMembers members
| _ => True

def TidyItems :
    List Json → Prop
| [] => True
| item :: items => Tidy item ∧ TidyItems items

def TidyMembers :
    List (String × Json) → Prop
| [] => True
| member :: members => TidyMember member ∧ TidyMembers members

def TidyMember :
    String × Json → Prop
| (_, value) => Tidy value

end

end Json

namespace JsonText

open Json

variable {floatText : Double → String}

/- A value begins with neither a blank nor a bracket's end. -/
theorem write_head
    {value : Json}
    (hTidy : value.Tidy) :
    ∃ c cs, value.write floatText = c :: cs ∧
      blank c = false ∧ c ≠ ']' := by
  cases value with
  | null => exact ⟨'n', _, by rw [write]; rfl, rfl, by decide⟩
  | bool value =>
      cases value with
      | true => exact ⟨'t', _, by rw [write]; rfl, rfl, by decide⟩
      | false => exact ⟨'f', _, by rw [write]; rfl, rfl, by decide⟩
  | int value =>
      rw [write]
      cases value with
      | ofNat n =>
          cases hDigits : Nat.toDigits 10 n with
          | nil => exact absurd hDigits Nat.toDigits_ne_nil
          | cons d ds =>
              have hDigit := toDigits_isDigit n d
                (by rw [hDigits]; exact List.mem_cons_self)
              refine ⟨d, ds, hDigits, ?_, ?_⟩
              · cases hBlank : blank d with
                | false => rfl
                | true =>
                    unfold blank at hBlank
                    simp only [Bool.or_eq_true,
                      decide_eq_true_eq] at hBlank
                    rcases hBlank with ((rfl | rfl) | rfl) | rfl
                    all_goals cases hDigit
              · rintro rfl
                cases hDigit
      | negSucc n => exact ⟨'-', _, rfl, rfl, by decide⟩
  | float value =>
      rw [Tidy] at hTidy
      exact hTidy.elim
  | str text => exact ⟨'"', _, by rw [write]; rfl, rfl, by decide⟩
  | arr items =>
      cases items with
      | nil => exact ⟨'[', _, by rw [write]; rfl, rfl, by decide⟩
      | cons item items =>
          exact ⟨'[', _, by rw [write], rfl, by decide⟩
  | obj members =>
      cases members with
      | nil => exact ⟨'\x7b', _, by rw [write]; rfl, rfl, by decide⟩
      | cons member members =>
          exact ⟨'\x7b', _, by rw [write], rfl, by decide⟩

theorem skip_write
    {value : Json}
    (hTidy : value.Tidy)
    (rest : List Char) :
    skip (value.write floatText ++ rest) =
      value.write floatText ++ rest := by
  rcases @write_head floatText value hTidy with
    ⟨c, cs, hWrite, hBlank, _⟩
  rw [hWrite, List.cons_append]
  exact List.dropWhile_cons_of_neg (by simp [hBlank])

/- Distinct keys are kept as they come. -/
theorem lastWins_eq
    {members : List (String × Json)}
    (hKeys : (members.map Prod.fst).Nodup) :
    lastWins members = members := by
  have hStep (found rest : List (String × Json))
      (hAll : ((found ++ rest).map Prod.fst).Nodup) :
      rest.foldl (fun found member =>
        if has found member.1 then
          found.map (fun m =>
            if m.1 = member.1 then member else m)
        else found ++ [member]) found = found ++ rest := by
    induction rest generalizing found with
    | nil => rw [List.foldl_nil, List.append_nil]
    | cons m rest ih =>
        have hNew : has found m.1 = false := by
          cases hHas : has found m.1 with
          | false => rfl
          | true =>
              unfold has at hHas
              rcases List.any_eq_true.mp hHas with
                ⟨m', hMem, hSame⟩
              rw [decide_eq_true_eq] at hSame
              rw [List.map_append, List.nodup_append] at hAll
              exact absurd hSame
                (hAll.2.2 m'.1 (List.mem_map.mpr ⟨m', hMem, rfl⟩)
                  m.1 List.mem_cons_self)
        rw [List.foldl_cons, hNew]
        simp only [Bool.false_eq_true, if_false]
        rw [ih (found ++ [m]) (by
          rw [List.append_assoc]
          exact hAll), List.append_assoc]
        rfl
  exact hStep [] members hKeys

theorem readWord_none
    {c : Char}
    {cs : List Char}
    (hDigit : c.isDigit = true ∨
      (c = '-' ∧ ∃ d ds, cs = d :: ds ∧ d.isDigit = true)) :
    readWord (c :: cs) = none := by
  unfold readWord
  rw [Option.map_eq_none_iff, List.find?_eq_none]
  intro word hMem hPrefix
  rcases List.isPrefixOf_iff_prefix.mp hPrefix with
    ⟨rest, hRest⟩
  simp only [words, List.mem_cons, List.not_mem_nil,
    or_false] at hMem
  rcases hDigit with hDigit | ⟨rfl, d, ds, rfl, hDigit⟩
  · rcases hMem with rfl | rfl | rfl | rfl | rfl | rfl
    all_goals
      cases hRest
      cases hDigit
  · rcases hMem with rfl | rfl | rfl | rfl | rfl | rfl
    all_goals cases hRest
    cases hDigit

/- An integer is read as a value. -/
theorem readValue_int
    (fuel : Nat)
    {value : Int}
    (hShort : shortInt value = true)
    {rest : List Char}
    (hEnds : Ends rest) :
    readValue (fuel + 1) (intText value ++ rest) =
      some (.int value, rest) := by
  have hRead := readNumber_intText hShort hEnds
  have hFirst : ∃ c cs, intText value ++ rest = c :: cs ∧
      (c.isDigit = true ∨
        (c = '-' ∧ ∃ d ds, cs = d :: ds ∧ d.isDigit = true)) := by
    have hHead (n : Nat) :
        ∃ d ds, Nat.toDigits 10 n ++ rest = d :: ds ∧
          d.isDigit = true := by
      cases hDigits : Nat.toDigits 10 n with
      | nil => exact absurd hDigits Nat.toDigits_ne_nil
      | cons d ds =>
          exact ⟨d, ds ++ rest, rfl, toDigits_isDigit n d
            (by rw [hDigits]; exact List.mem_cons_self)⟩
    cases value with
    | ofNat n =>
        rcases hHead n with ⟨d, ds, hCons, hDigit⟩
        exact ⟨d, ds, hCons, .inl hDigit⟩
    | negSucc n =>
        rcases hHead (n + 1) with ⟨d, ds, hCons, hDigit⟩
        exact ⟨'-', d :: ds, congrArg ('-' :: ·) hCons,
          .inr ⟨rfl, d, ds, rfl, hDigit⟩⟩
  rcases hFirst with ⟨c, cs, hCons, hDigit⟩
  rw [hCons] at hRead ⊢
  have hOther (mark : Char)
      (hMark : mark.isDigit = false)
      (hDash : mark ≠ '-') : c ≠ mark := by
    rintro rfl
    rcases hDigit with hDigit | ⟨hDigit, _⟩
    · rw [hDigit] at hMark
      cases hMark
    · exact hDash hDigit
  rw [readValue, if_neg (hOther '"' rfl (by decide)),
    if_neg (hOther '[' rfl (by decide)),
    if_neg (hOther '\x7b' rfl (by decide)),
    readWord_none hDigit, hRead]
  rfl

--------
-- Values
--------

open Json

variable {floatText : Double → String}

theorem moreItems_ends
    (items : List Json)
    (rest : List Char) :
    Ends (moreItems floatText items ++ rest) := by
  cases items with
  | nil =>
      rw [moreItems]
      exact ends_cons (.inr (.inl rfl)) _
  | cons item items =>
      rw [moreItems]
      exact ends_cons (.inl rfl) _

theorem moreMembers_ends
    (members : List (String × Json))
    (rest : List Char) :
    Ends (moreMembers floatText members ++ rest) := by
  cases members with
  | nil =>
      rw [moreMembers]
      exact ends_cons (.inr (.inr rfl)) _
  | cons member members =>
      rw [moreMembers]
      exact ends_cons (.inl rfl) _

theorem length_moreItems
    (items : List Json) :
    0 < (moreItems floatText items).length := by
  cases items with
  | nil => rw [moreItems]; exact Nat.one_pos
  | cons item items => rw [moreItems]; exact Nat.succ_pos _

mutual

/- A value is read back, with fuel for each character. -/
theorem readValue_write
    (value : Json)
    (hTidy : value.Tidy)
    (fuel : Nat)
    (hFuel : (value.write floatText).length < fuel)
    (rest : List Char)
    (hEnds : Ends rest) :
    readValue fuel (value.write floatText ++ rest) =
      some (value, rest) := by
  cases fuel with
  | zero => cases hFuel
  | succ fuel =>
  cases value with
  | null =>
      rw [write]
      rfl
  | bool value =>
      cases value with
      | true =>
          rw [write]
          rfl
      | false =>
          rw [write]
          rfl
  | int value =>
      rw [write]
      rw [Tidy] at hTidy
      exact readValue_int fuel hTidy hEnds
  | float value =>
      rw [Tidy] at hTidy
      exact hTidy.elim
  | str text =>
      rw [write]
      unfold quote
      rw [List.cons_append, List.append_assoc, readValue,
        if_pos rfl]
      rw [show ['"'] ++ rest = '"' :: rest from rfl,
        readString_quoted]
      simp only [String.ofList_toList]
  | arr items =>
      cases items with
      | nil =>
          rw [write]
          rfl
      | cons item items =>
          rw [Tidy, TidyItems] at hTidy
          rw [write] at hFuel ⊢
          rcases @write_head floatText item hTidy.1 with
            ⟨c, cs, hWrite, hBlank, hNot⟩
          have hSkip :=
            @skip_write floatText item hTidy.1
              (moreItems floatText items ++ rest)
          have hItems :=
            readItems_write item items hTidy.1 hTidy.2 fuel
              (Nat.lt_of_succ_lt_succ hFuel) rest
          rw [List.cons_append, List.append_assoc, readValue,
            if_neg (by decide), if_pos rfl, hSkip]
          rw [hWrite, List.cons_append] at hItems ⊢
          split
          · rename_i hCons
            cases hCons
            exact absurd rfl hNot
          · rw [hItems]
  | obj members =>
      cases members with
      | nil =>
          rw [write]
          rfl
      | cons member members =>
          rw [Tidy, TidyMembers] at hTidy
          rw [write] at hFuel ⊢
          have hMembers :=
            readMembers_write member members hTidy.2.1 hTidy.2.2
              fuel (Nat.lt_of_succ_lt_succ hFuel) rest
          rcases member with ⟨key, value⟩
          rw [List.cons_append, List.append_assoc, readValue,
            if_neg (by decide), if_neg (by decide), if_pos rfl]
          rw [writeMember, quote, List.cons_append,
            List.cons_append] at hMembers ⊢
          have hSkip (cs : List Char) :
              skip ('"' :: cs) = '"' :: cs :=
            List.dropWhile_cons_of_neg (by decide)
          rw [hSkip]
          split
          · rename_i hCons
            cases hCons
          · rw [hMembers]
            simp only [lastWins_eq hTidy.1]
termination_by fuel

theorem readItems_write
    (item : Json)
    (items : List Json)
    (hTidy : item.Tidy)
    (hTidyItems : TidyItems items)
    (fuel : Nat)
    (hFuel :
      (item.write floatText ++
        moreItems floatText items).length < fuel)
    (rest : List Char) :
    readItems fuel
        (item.write floatText ++
          (moreItems floatText items ++ rest)) =
      some (item :: items, rest) := by
  cases fuel with
  | zero => cases hFuel
  | succ fuel =>
      have hMore := @length_moreItems floatText items
      rw [List.length_append] at hFuel
      have hValue :=
        readValue_write item hTidy fuel (by omega)
          (moreItems floatText items ++ rest)
          (moreItems_ends items rest)
      rw [readItems, hValue]
      cases items with
      | nil =>
          rw [moreItems]
          rfl
      | cons next items =>
          rw [TidyItems] at hTidyItems
          rw [moreItems, List.length_cons,
            List.length_append] at hFuel
          have hItems :=
            readItems_write next items hTidyItems.1 hTidyItems.2
              fuel (by rw [List.length_append]; omega) rest
          have hSkip (cs : List Char) :
              skip (',' :: cs) = ',' :: cs :=
            List.dropWhile_cons_of_neg (by decide)
          rw [moreItems, List.cons_append, List.append_assoc]
          simp only [hSkip,
            @skip_write floatText next hTidyItems.1, hItems]
termination_by fuel

theorem readMembers_write
    (member : String × Json)
    (members : List (String × Json))
    (hTidy : TidyMember member)
    (hTidyMembers : TidyMembers members)
    (fuel : Nat)
    (hFuel :
      (writeMember floatText member ++
        moreMembers floatText members).length < fuel)
    (rest : List Char) :
    readMembers fuel
        (writeMember floatText member ++
          (moreMembers floatText members ++ rest)) =
      some (member :: members, rest) := by
  cases fuel with
  | zero => cases hFuel
  | succ fuel =>
  rcases member with ⟨key, value⟩
  rw [TidyMember] at hTidy
  have hLength :
      (writeMember floatText (key, value)).length =
        (quote key).length +
          ((value.write floatText).length + 1) := by
    rw [writeMember, List.length_append, List.length_cons]
  rw [List.length_append, hLength] at hFuel
  have hValue :=
    readValue_write value hTidy fuel (by omega)
      (moreMembers floatText members ++ rest)
      (moreMembers_ends members rest)
  have hKey :=
    readString_quoted key
      (':' :: (value.write floatText ++
        (moreMembers floatText members ++ rest)))
  have hText :
      writeMember floatText (key, value) ++
          (moreMembers floatText members ++ rest) =
        '"' :: (key.toList.flatMap escape ++ '"' ::
          (':' :: (value.write floatText ++
            (moreMembers floatText members ++ rest)))) := by
    rw [writeMember, quote]
    simp only [List.cons_append, List.append_assoc,
      List.nil_append]
  have hColon (cs : List Char) : skip (':' :: cs) = ':' :: cs :=
    List.dropWhile_cons_of_neg (by decide)
  rw [hText, readMembers]
  simp only [hKey, hColon, @skip_write floatText value hTidy,
    hValue, String.ofList_toList]
  cases members with
  | nil =>
      rw [moreMembers]
      rfl
  | cons next members =>
      rw [TidyMembers] at hTidyMembers
      rw [moreMembers, List.length_cons,
        List.length_append] at hFuel
      have hMembers :=
        readMembers_write next members hTidyMembers.1
          hTidyMembers.2 fuel
          (by rw [List.length_append]; omega) rest
      have hSkip (cs : List Char) :
          skip (',' :: cs) = ',' :: cs :=
        List.dropWhile_cons_of_neg (by decide)
      have hNext (cs : List Char) :
          skip (writeMember floatText next ++ cs) =
            writeMember floatText next ++ cs := by
        rcases next with ⟨key', value'⟩
        rw [writeMember, quote, List.cons_append,
          List.cons_append]
        exact List.dropWhile_cons_of_neg (by decide)
      rw [moreMembers, List.cons_append, List.append_assoc]
      simp only [hSkip, hNext, hMembers]
termination_by fuel

end

end JsonText

namespace Json

open JsonText

/- What was written is what is loaded. -/
theorem loads?_write
    {floatText : Double → String}
    {value : Json}
    (hTidy : value.Tidy) :
    loads? (value.write floatText) = some value := by
  have hSkip := @skip_write floatText value hTidy []
  have hRead :=
    readValue_write value hTidy
      ((value.write floatText).length + 1)
      (Nat.lt_succ_self _) [] ends_nil
  rw [List.append_nil] at hSkip hRead
  unfold loads?
  rw [hSkip, hRead]
  rfl

end Json
