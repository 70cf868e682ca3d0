import TrueNorth.Firewalls.Meaning

/-
  The aliases of a configuration: what they are called, where
  they come from, and when the rules that refer to a port
  alias find their own ports there.

  Key definitions include:
    * `Input.AliasesApart`
    * `Input.PortsPlain`

  Main theorems:
    * `aliasName_template`
    * `Built.mem_aliases`
    * `Built.ports_iff`
-/

--------
-- Alias Names
--------

namespace TrueNorth

namespace Firewalls

open Texts

theorem mem_trimmed
    {p : Char → Bool}
    {text : List Char}
    {c : Char}
    (hMem : c ∈ trimmed p text) : c ∈ text := by
  unfold trimmed at hMem
  have hBack :=
    (List.dropWhile_sublist p).mem (List.mem_reverse.mp hMem)
  exact (List.dropWhile_sublist p).mem (List.mem_reverse.mp hBack)

theorem isAliasChar_aliasChar (c : Char) :
    isAliasChar (aliasChar c) = true := by
  unfold aliasChar
  split
  · next hPlain => exact hPlain
  · rfl

/- A name is made of letters, digits and underscores. -/
theorem isAliasChar_of_mem_aliasName
    {text : String}
    {limit : Nat}
    {c : Char}
    (hMem : c ∈ (aliasName text limit).toList) :
    isAliasChar c = true := by
  unfold aliasName clip orElse at hMem
  rw [String.toList_ofList] at hMem
  have hClean := List.mem_of_mem_take hMem
  split at hClean
  · have hOnly : c = 'x' := by simpa using hClean
    rw [hOnly]
    rfl
  · rw [String.toList_ofList] at hClean
    rcases List.mem_map.mp (mem_trimmed hClean) with ⟨d, _, hd⟩
    rw [← hd]
    exact isAliasChar_aliasChar d

/- What does not start and end with blanks keeps its start. -/
theorem trimmed_append_cons
    (p : Char → Bool)
    (first c : Char)
    (hFirst : p first = false)
    (hLast : p c = false)
    (front back : List Char) :
    ∃ rest,
      trimmed p (first :: (front ++ c :: back)) =
        first :: (front ++ c :: rest) := by
  have hStart :
      (first :: (front ++ c :: back)).dropWhile p =
        first :: (front ++ c :: back) :=
    List.dropWhile_cons_of_neg (by simp [hFirst])
  have hEnd (cs ds : List Char) :
      ∃ es, (cs ++ c :: ds).dropWhile p = es ++ c :: ds := by
    induction cs with
    | nil =>
        exact ⟨[], List.dropWhile_cons_of_neg (by simp [hLast])⟩
    | cons d cs ih =>
        rw [List.cons_append, List.dropWhile_cons]
        split
        · exact ih
        · exact ⟨d :: cs, rfl⟩
  rcases hEnd back.reverse (front.reverse ++ [first]) with
    ⟨es, hEs⟩
  refine ⟨es.reverse, ?_⟩
  unfold trimmed
  rw [hStart]
  have hReverse :
      (first :: (front ++ c :: back)).reverse =
        back.reverse ++ c :: (front.reverse ++ [first]) := by
    simp
  rw [hReverse, hEs]
  simp

/- The alias of a template rule keeps the start of its name. -/
theorem aliasName_template (name : String) :
    ∃ rest,
      (aliasName ("TN_P_" ++ name) aliasLimit).toList =
        'T' :: 'N' :: '_' :: 'P' :: rest := by
  have hText :
      (("TN_P_" ++ name).toList.map aliasChar) =
        'T' :: (['N', '_'] ++ 'P' ::
          ('_' :: name.toList.map aliasChar)) := by
    rw [String.toList_append, List.map_append]
    rfl
  rcases trimmed_append_cons (fun c => decide (c = '_'))
    'T' 'P' rfl rfl
    ['N', '_'] ('_' :: name.toList.map aliasChar) with
    ⟨rest, hTrimmed⟩
  refine ⟨rest.take 27, ?_⟩
  unfold aliasName clip orElse
  rw [hText, hTrimmed, if_neg (by simp [String.ext_iff])]
  simp [aliasLimit]

end Firewalls

end TrueNorth

--------
-- Where Aliases Come From
--------

namespace TrueNorth

namespace Firewalls

namespace Input

/- The rule is one that is written, for some zone. -/
def isWritten
    (inp : Input)
    (t : TemplateRule) : Bool :=
  (inp.scope.ruleFor? t).isSome

theorem mem_allAliases
    {inp : Input}
    {a : Alias} :
    a ∈ inp.allAliases inp.scope ↔
      a = zonesAlias inp.scope ∨
      (inp.hasDepot = true ∧
        (a = inp.depotAlias ∨ a = inp.depotPortsAlias)) ∨
      ∃ k t, inp.rules[k]? = some t ∧ inp.isWritten t = true ∧
        t.isMulti = true ∧ a = t.portAlias k := by
  have hOwn :
      a ∈ inp.ownAliases inp.scope ↔
        a = zonesAlias inp.scope ∨
          (inp.hasDepot = true ∧
            (a = inp.depotAlias ∨ a = inp.depotPortsAlias)) := by
    unfold ownAliases
    cases inp.hasDepot <;> simp
  have hTemplate :
      a ∈ inp.rules.zipIdx.flatMap inp.scope.aliasesFor ↔
        ∃ k t, inp.rules[k]? = some t ∧
          inp.isWritten t = true ∧ t.isMulti = true ∧
            a = t.portAlias k := by
    rw [List.mem_flatMap]
    constructor
    · rintro ⟨⟨t, k⟩, hTurn, hMem⟩
      unfold Scope.aliasesFor at hMem
      split at hMem
      · next hBoth =>
          exact ⟨k, t, List.mem_zipIdx_iff_getElem?.mp hTurn,
            hBoth.1, hBoth.2, List.mem_singleton.mp hMem⟩
      · cases hMem
    · rintro ⟨k, t, hAt, hWritten, hMulti, rfl⟩
      refine ⟨(t, k), List.mem_zipIdx_iff_getElem?.mpr hAt, ?_⟩
      unfold Scope.aliasesFor
      rw [if_pos ⟨hWritten, hMulti⟩]
      exact List.mem_singleton_self _
  unfold allAliases
  rw [List.mem_append, hOwn, hTemplate, or_assoc]

end Input

namespace Built

variable {inp : Input}
variable {cfg : PfsenseConfig}

/- An alias is one of those that were asked for. -/
theorem mem_aliases
    (hBuilt : Built inp cfg)
    {a : Alias}
    (hMem : a ∈ cfg.aliases) :
    a ∈ inp.allAliases inp.scope := by
  rw [hBuilt.aliases] at hMem
  rcases FirstWins.mem_of_mem_addAll hMem with hNone | hAsked
  · cases hNone
  · exact hAsked

/- A name that was asked for is one of the aliases. -/
theorem aliasNamed?_of_asked
    (hBuilt : Built inp cfg)
    {a : Alias}
    (hAsked : a ∈ inp.allAliases inp.scope) :
    ∃ b ∈ cfg.aliases,
      b.name = a.name ∧ cfg.aliasNamed? a.name = some b := by
  have hKey : a.name ∈ cfg.aliases.map Alias.name := by
    rw [hBuilt.aliases, FirstWins.mem_keys_addAll]
    exact .inr (List.mem_map_of_mem hAsked)
  rcases List.mem_map.mp hKey with ⟨c, hc, hName⟩
  cases hFound : cfg.aliasNamed? a.name with
  | none =>
      have hNot := List.find?_eq_none.mp hFound c hc
      exact absurd (decide_eq_true hName) hNot
  | some b =>
      have hSame := List.find?_some hFound
      exact ⟨b, List.mem_of_find?_eq_some hFound,
        of_decide_eq_true hSame, rfl⟩

end Built

/- A template rule's alias has a name of its own kind. -/
theorem portAliasName_ne
    (t : TemplateRule)
    (n : Nat)
    (text : String)
    (hText : text.toList[3]? ≠ some 'P') :
    t.portAliasName n ≠ text := by
  rcases aliasName_template (t.nameAt n) with ⟨rest, hName⟩
  intro hSame
  apply hText
  rw [← hSame]
  unfold TemplateRule.portAliasName
  rw [hName]
  rfl

--------
-- Rules Of A Turn
--------

/- The rules that a turn of the loop adds. -/
theorem map_writtenIn
    {inp : Input}
    {k : Nat}
    {t : TemplateRule}
    (hAt : inp.rules[k]? = some t) :
    (inp.writtenIn k).map FilterRule.body =
      inp.scope.rulesFor (t, k) := by
  have hTake :
      inp.rules.zipIdx.take (k + 1) =
        inp.rules.zipIdx.take k ++ [(t, k)] := by
    rw [List.take_add_one, List.getElem?_zipIdx, hAt]
    simp
  have hTurn :=
    templateRule_writes inp.scope
      ((inp.rules.zipIdx.take k).foldl (templateRule inp.scope)
        ((inp.ownRules inp.scope).2, [])) (t, k)
  have hBodies :
      (inp.rulesAfter (k + 1)).bodies =
        (inp.rulesAfter k).bodies ++ inp.scope.rulesFor (t, k) := by
    unfold Input.rulesAfter
    rw [hTake, List.foldl_append]
    exact hTurn.bodies
  have hLength :
      (inp.rulesAfter k).filter.length =
        (inp.rulesAfter k).bodies.length := by
    unfold Rules.bodies
    rw [List.length_map]
  have hMap :
      (inp.rulesAfter (k + 1)).filter.map FilterRule.body =
        (inp.rulesAfter (k + 1)).bodies := rfl
  unfold Input.writtenIn
  rw [List.map_drop, hLength, hMap, hBodies]
  exact List.drop_left' rfl

/- Each of them has the port text of its template rule. -/
theorem port_of_mem_writtenIn
    {inp : Input}
    {k : Nat}
    {t : TemplateRule}
    (hAt : inp.rules[k]? = some t)
    {r : FilterRule}
    (hMem : r ∈ inp.writtenIn k) :
    inp.isWritten t = true ∧ r.body.port = t.portText k := by
  have hBody :
      r.body ∈ inp.scope.rulesFor (t, k) := by
    rw [← map_writtenIn hAt]
    exact List.mem_map_of_mem hMem
  unfold Scope.rulesFor at hBody
  unfold Input.isWritten
  cases hRule : inp.scope.ruleFor? t with
  | none =>
      simp only [hRule] at hBody
      cases hBody
  | some found =>
      simp only [hRule] at hBody
      rcases List.mem_map.mp hBody with ⟨z, _, hz⟩
      rw [← hz]
      exact ⟨rfl, rfl⟩

/- A rule that is written is written for some zone. -/
theorem exists_mem_writtenIn
    {inp : Input}
    {k : Nat}
    {t : TemplateRule}
    (hAt : inp.rules[k]? = some t)
    (hWritten : inp.isWritten t = true) :
    ∃ r ∈ inp.writtenIn k, r.body.port = t.portText k := by
  have hSome : inp.scope.rulesFor (t, k) ≠ [] := by
    unfold Scope.rulesFor
    unfold Input.isWritten at hWritten
    cases hRule : inp.scope.ruleFor? t with
    | none =>
        rw [hRule] at hWritten
        cases hWritten
    | some found =>
        simp only
        intro hNone
        rw [List.map_eq_nil_iff] at hNone
        unfold Scope.ruleFor? at hRule
        cases hKind : filterKind? t.actionOr with
        | none =>
            simp only [hKind] at hRule
            cases hRule
        | some kind =>
            simp only [hKind, hNone, if_true] at hRule
            cases hRule
  rw [← map_writtenIn hAt] at hSome
  cases hAll : inp.writtenIn k with
  | nil =>
      rw [hAll] at hSome
      exact absurd rfl hSome
  | cons r rs =>
      have hMem : r ∈ inp.writtenIn k := by
        rw [hAll]
        exact List.mem_cons_self
      exact ⟨r, List.mem_cons_self, (port_of_mem_writtenIn hAt hMem).2⟩

end Firewalls

end TrueNorth

--------
-- Ports Of Aliases
--------

namespace TrueNorth

namespace Firewalls

namespace TemplateRule

/- The ports, as an alias has them. -/
def aliasText (t : TemplateRule) : String :=
  " ".intercalate (t.portTexts.map colons)

theorem portTexts_ne
    {t : TemplateRule}
    {p : String}
    (hMem : p ∈ t.portTexts) : p ≠ "" := by
  unfold portTexts at hMem
  exact of_decide_eq_true (List.mem_filter.mp hMem).2

/- Several ports are written with a blank in between. -/
theorem space_mem_aliasText
    {t : TemplateRule}
    (hMulti : t.isMulti = true) :
    ' ' ∈ t.aliasText.toList := by
  unfold isMulti at hMulti
  unfold aliasText
  cases hTexts : t.portTexts with
  | nil =>
      rw [hTexts] at hMulti
      cases hMulti
  | cons p ps =>
      cases ps with
      | nil =>
          rw [hTexts] at hMulti
          cases hMulti
      | cons q ps =>
          rw [List.map_cons, List.map_cons,
            String.intercalate_cons_cons]
          simp

end TemplateRule

namespace Input

/-
  Written rules with several ports that share the name of an
  alias have the same ports.
-/
def AliasesApart (inp : Input) : Prop :=
  ∀ (i j : Nat) (s t : TemplateRule),
    inp.rules[i]? = some s → inp.rules[j]? = some t →
      inp.isWritten s = true → inp.isWritten t = true →
        s.isMulti = true → t.isMulti = true →
          s.portAliasName i = t.portAliasName j →
            s.aliasText = t.aliasText

/-
  The port of a written rule with one port is not the name of
  a port alias.
-/
def PortsPlain (inp : Input) : Prop :=
  ∀ (j : Nat) (t : TemplateRule) (p : String),
    inp.rules[j]? = some t → inp.isWritten t = true →
      t.portTexts = [p] →
        (inp.hasDepot = true → p ≠ "TN_DEPOT_PORTS") ∧
        ∀ (i : Nat) (s : TemplateRule),
          inp.rules[i]? = some s → inp.isWritten s = true →
            s.isMulti = true → p ≠ s.portAliasName i

end Input

/- No port number has a letter in it. -/
theorem not_mem_toString
    {c : Char}
    (hDigit : c.isDigit = false)
    (hSign : c ≠ '-')
    (n : Int) : c ∉ (toString n).toList := by
  intro hMem
  have hNat (m : Nat) : c ∉ (Nat.repr m).toList := by
    rw [Nat.repr, String.toList_ofList]
    exact IpText.not_mem_toDigits hDigit m
  cases n with
  | ofNat m => exact hNat m hMem
  | negSucc m =>
      have hText :
          (toString (Int.negSucc m)).toList =
            '-' :: (Nat.repr (m + 1)).toList := by
        exact String.toList_append
      rw [hText] at hMem
      rcases List.mem_cons.mp hMem with hFirst | hRest
      · exact hSign hFirst
      · exact hNat (m + 1) hRest

theorem colons_eq
    {text : String}
    (hPlain : '-' ∉ text.toList) : colons text = text := by
  have hSame :
      text.toList.map (fun c => if c = '-' then ':' else c) =
        text.toList := by
    conv => rhs; rw [← List.map_id text.toList]
    apply List.map_congr_left
    intro c hMem
    have hc : c ≠ '-' := by
      intro hDash
      rw [hDash] at hMem
      exact hPlain hMem
    rw [if_neg hc]
    rfl
  unfold colons
  rw [hSame, String.ofList_toList]

/- The depot's ports are no name of an alias. -/
theorem depotPorts_ne (inp : Input) :
    inp.depotPortsAlias.address ≠ "TN_DEPOT_PORTS" := by
  have hNot :
      'T' ∉ inp.depotPortsAlias.address.toList := by
    unfold Input.depotPortsAlias Rules.aliasElement
    simp only [String.toList_intercalate]
    apply IpText.not_mem_intercalate (by decide)
    intro text hMem
    rw [List.map_map] at hMem
    rcases List.mem_map.mp hMem with ⟨port, _, rfl⟩
    exact not_mem_toString (by decide) (by decide) port
  intro hSame
  rw [hSame] at hNot
  exact hNot (by decide)

namespace Built

variable {inp : Input}
variable {cfg : PfsenseConfig}

/- A port alias is the depot's or that of a written rule. -/
theorem port_alias_cases
    (hBuilt : Built inp cfg)
    {a : Alias}
    (hMem : a ∈ cfg.aliases)
    (hType : a.type = "port") :
    (inp.hasDepot = true ∧ a = inp.depotPortsAlias) ∨
      ∃ i s, inp.rules[i]? = some s ∧ inp.isWritten s = true ∧
        s.isMulti = true ∧ a = s.portAlias i := by
  rcases Input.mem_allAliases.mp (hBuilt.mem_aliases hMem) with
    rfl | ⟨hDepot, rfl | rfl⟩ | hTemplate
  · exact absurd (show "network" = "port" from hType) (by decide)
  · exact absurd (show "host" = "port" from hType) (by decide)
  · exact .inl ⟨hDepot, rfl⟩
  · exact .inr hTemplate

/- An alias with the name of a template rule's is one itself. -/
theorem portAlias_origin
    (hBuilt : Built inp cfg)
    {k : Nat}
    {t : TemplateRule}
    {a : Alias}
    (hMem : a ∈ cfg.aliases)
    (hName : a.name = t.portAliasName k) :
    ∃ i s, inp.rules[i]? = some s ∧ inp.isWritten s = true ∧
      s.isMulti = true ∧ a = s.portAlias i := by
  rcases Input.mem_allAliases.mp (hBuilt.mem_aliases hMem) with
    rfl | ⟨_, rfl | rfl⟩ | hTemplate
  · exact absurd hName.symm
      (portAliasName_ne t k "TN_ZONES" (by decide))
  · exact absurd hName.symm
      (portAliasName_ne t k "TN_DEPOT" (by decide))
  · exact absurd hName.symm
      (portAliasName_ne t k "TN_DEPOT_PORTS" (by decide))
  · exact hTemplate

end Built

theorem TemplateRule.portText_multi
    {t : TemplateRule}
    (hMulti : t.isMulti = true)
    (n : Nat) : t.portText n = t.portAliasName n := by
  unfold isMulti at hMulti
  unfold portText
  cases hTexts : t.portTexts with
  | nil =>
      rw [hTexts] at hMulti
      cases hMulti
  | cons p ps =>
      cases ps with
      | nil =>
          rw [hTexts] at hMulti
          cases hMulti
      | cons q ps => rfl

/- The rules that refer to a port alias have their own ports. -/
def PortsRight
    (inp : Input)
    (cfg : PfsenseConfig) : Prop :=
  ∀ (k : Nat) (t : TemplateRule),
    inp.rules[k]? = some t → ∀ r ∈ inp.writtenIn k,
      ∀ a ∈ cfg.aliases, a.type = "port" →
        a.name = r.body.port → a.address = t.aliasText

namespace PortsRight

variable {inp : Input}
variable {cfg : PfsenseConfig}

theorem apart
    (hRight : PortsRight inp cfg)
    (hBuilt : Built inp cfg) :
    inp.AliasesApart := by
  intro i j s t hs ht hSome hWritten hMany hMulti hName
  have hAsked : s.portAlias i ∈ inp.allAliases inp.scope :=
    Input.mem_allAliases.mpr
      (.inr (.inr ⟨i, s, hs, hSome, hMany, rfl⟩))
  rcases hBuilt.aliasNamed?_of_asked hAsked with
    ⟨a, hMem, hKey, _⟩
  have hText (k : Nat) (u : TemplateRule)
      (hAt : inp.rules[k]? = some u)
      (hu : inp.isWritten u = true)
      (hLong : u.isMulti = true)
      (hSame : s.portAliasName i = u.portAliasName k) :
      a.address = u.aliasText := by
    rcases exists_mem_writtenIn hAt hu with ⟨r, hr, hPort⟩
    have hOwn : a.name = u.portAliasName k := hKey.trans hSame
    rcases hBuilt.portAlias_origin hMem hOwn with
      ⟨_, _, _, _, _, hOrigin⟩
    have hType : a.type = "port" := by
      rw [hOrigin]
      rfl
    apply hRight k u hAt r hr a hMem hType
    rw [hPort, TemplateRule.portText_multi hLong]
    exact hOwn
  rw [← hText i s hs hSome hMany rfl,
    ← hText j t ht hWritten hMulti hName]

/-
  An alias that a rule's one port names would have to have
  its own name for an address.
-/
theorem plain
    (hRight : PortsRight inp cfg)
    (hBuilt : Built inp cfg) :
    inp.PortsPlain := by
  intro j t p hAt hWritten hTexts
  rcases exists_mem_writtenIn hAt hWritten with ⟨r, hr, hPort⟩
  have hPortText : t.portText j = p := by
    unfold TemplateRule.portText
    rw [hTexts]
  have hAddress (b : Alias)
      (hAsked : b ∈ inp.allAliases inp.scope)
      (hName : p = b.name)
      (hPlain : '-' ∉ b.name.toList) :
      ∃ a ∈ cfg.aliases, a.name = b.name ∧
        (a.type = "port" → a.address = b.name) := by
    rcases hBuilt.aliasNamed?_of_asked hAsked with
      ⟨a, hMem, hKey, _⟩
    refine ⟨a, hMem, hKey, ?_⟩
    intro hType
    rw [hRight j t hAt r hr a hMem hType
      (by rw [hPort, hPortText, hKey, hName])]
    unfold TemplateRule.aliasText
    rw [hTexts, List.map_singleton, String.intercalate_singleton,
      hName, colons_eq hPlain]
  constructor
  · intro hDepot hSame
    have hAsked : inp.depotPortsAlias ∈ inp.allAliases inp.scope :=
      Input.mem_allAliases.mpr (.inr (.inl ⟨hDepot, .inr rfl⟩))
    rcases hAddress _ hAsked hSame
      (show '-' ∉ ("TN_DEPOT_PORTS" : String).toList by decide)
      with ⟨a, hMem, hName, hText⟩
    rcases Input.mem_allAliases.mp (hBuilt.mem_aliases hMem) with
      rfl | ⟨_, rfl | rfl⟩ | ⟨i, s, _, _, _, rfl⟩
    · exact absurd (show "TN_ZONES" = "TN_DEPOT_PORTS" from hName)
        (by decide)
    · exact absurd (show "TN_DEPOT" = "TN_DEPOT_PORTS" from hName)
        (by decide)
    · exact depotPorts_ne inp (hText rfl)
    · exact portAliasName_ne s i "TN_DEPOT_PORTS" (by decide) hName
  · intro i s hs hSome hMany hSame
    have hAsked : s.portAlias i ∈ inp.allAliases inp.scope :=
      Input.mem_allAliases.mpr
        (.inr (.inr ⟨i, s, hs, hSome, hMany, rfl⟩))
    have hChars (c : Char) (hc : isAliasChar c = false) :
        c ∉ (s.portAliasName i).toList := by
      intro hMem
      have hGood := isAliasChar_of_mem_aliasName hMem
      rw [hc] at hGood
      cases hGood
    rcases hAddress _ hAsked hSame (hChars '-' rfl) with
      ⟨a, hMem, hName, hText⟩
    rcases hBuilt.portAlias_origin hMem hName with
      ⟨i', s', _, _, hMany', rfl⟩
    have hBlank := s'.space_mem_aliasText hMany'
    rw [show s'.aliasText = s.portAliasName i from hText rfl]
      at hBlank
    exact hChars ' ' rfl hBlank

end PortsRight

namespace Built

variable {inp : Input}
variable {cfg : PfsenseConfig}

/- The alias under the name of a written rule has its ports. -/
theorem portAlias_found
    (hBuilt : Built inp cfg)
    (hApart : inp.AliasesApart)
    {k : Nat}
    {t : TemplateRule}
    (hAt : inp.rules[k]? = some t)
    (hWritten : inp.isWritten t = true)
    (hMulti : t.isMulti = true)
    {a : Alias}
    (hMem : a ∈ cfg.aliases)
    (hName : a.name = t.portAliasName k) :
    a.type = "port" ∧ a.address = t.aliasText := by
  rcases hBuilt.portAlias_origin hMem hName with
    ⟨i, s, hs, hSome, hMany, rfl⟩
  exact ⟨rfl,
    hApart i k s t hs hAt hSome hWritten hMany hMulti hName⟩

/- No port alias has the name of a written rule's one port. -/
theorem no_port_alias
    (hBuilt : Built inp cfg)
    (hPlain : inp.PortsPlain)
    {k : Nat}
    {t : TemplateRule}
    (hAt : inp.rules[k]? = some t)
    (hWritten : inp.isWritten t = true)
    {p : String}
    (hTexts : t.portTexts = [p])
    {a : Alias}
    (hMem : a ∈ cfg.aliases)
    (hName : a.name = p) : a.type ≠ "port" := by
  intro hType
  rcases hPlain k t p hAt hWritten hTexts with ⟨hDepotPlain, hOthers⟩
  rcases hBuilt.port_alias_cases hMem hType with
    ⟨hDepot, rfl⟩ | ⟨i, s, hs, hSome, hMany, rfl⟩
  · exact hDepotPlain hDepot hName.symm
  · exact hOthers i s hs hSome hMany hName.symm

theorem ports_iff (hBuilt : Built inp cfg) :
    PortsRight inp cfg ↔ inp.AliasesApart ∧ inp.PortsPlain := by
  constructor
  · intro hRight
    exact ⟨hRight.apart hBuilt, hRight.plain hBuilt⟩
  · rintro ⟨hApart, hPlain⟩ k t hAt r hr a hMem hType hName
    rcases port_of_mem_writtenIn hAt hr with ⟨hWritten, hPort⟩
    rw [hPort] at hName
    match hTexts : t.portTexts with
    | [] =>
        have hEmpty : t.portText k = "" := by
          unfold TemplateRule.portText
          rw [hTexts]
        rcases hBuilt.port_alias_cases hMem hType with
          ⟨_, rfl⟩ | ⟨i, s, _, _, _, rfl⟩
        · exact absurd
            (show "TN_DEPOT_PORTS" = "" from hName.trans hEmpty)
            (by decide)
        · exact absurd (hName.trans hEmpty)
            (portAliasName_ne s i "" (by decide))
    | [p] =>
        have hOne : t.portText k = p := by
          unfold TemplateRule.portText
          rw [hTexts]
        exact absurd hType
          (hBuilt.no_port_alias hPlain hAt hWritten hTexts hMem
            (hName.trans hOne))
    | p :: q :: ps =>
        have hMulti : t.isMulti = true := by
          unfold TemplateRule.isMulti
          rw [hTexts]
          simp
        rw [TemplateRule.portText_multi hMulti] at hName
        exact (hBuilt.portAlias_found hApart hAt hWritten hMulti hMem
          hName).2

end Built

end Firewalls

end TrueNorth
