import TrueNorth.TemplateAccounts.Parse

/-
  A template whose typed-in passwords are sealed, as it is
  stored (range_credentials/accounts.py `seal_yaml`).

  Key definitions include:
    * `YamlText`
    * `sealItem`, `sealDoc`
    * `sealYaml`, `parseYaml`

  Main theorems:
    * `parse_sealDoc`
    * `parseYaml_sealYaml`
    * `sealYaml_sealYaml`
-/

--------
-- Sealing
--------

namespace TrueNorth

namespace TemplateAccounts

/- Texts as YAML; none is a text that is refused. -/
structure YamlText where
  load : String → Option Yaml
  dump : Yaml → String

/- Loading undoes dumping of this document. -/
def YamlText.Inverse
    (yaml : YamlText)
    (doc : Yaml) : Prop :=
  yaml.load (yaml.dump doc) = some doc

/- The stored token, or a password typed in before sealing. -/
def storedPassword (item : Yaml) : Option String :=
  item.entries?.bind (fun entries =>
    (Yaml.getD entries "password").text?)

/- A password that is to be sealed. -/
def typedIn (item : Yaml) : Option String :=
  (storedPassword item).filter
    (fun password => password ≠ "" && !looksSealed password)

variable (py : Language)
variable (env : Environment)
variable (seals : Seals)

def sealItem
    (draw : Nat)
    (item : Yaml) : Yaml :=
  match item, typedIn item with
  | .map entries, some password =>
      .map (Yaml.set entries "password"
        (.str (seals.seal draw password)))
  | item, _ => item

/- Each with a nonce of its own. -/
def sealItems : Nat → List Yaml → List Yaml
| _, [] => []
| draw, item :: items =>
    sealItem seals draw item :: sealItems (draw + 1) items

/- The list of accounts, where there is one. -/
def accountList (doc : Yaml) : Option (Entries × List Yaml) :=
  match doc with
  | .map entries =>
      match Yaml.getD entries "accounts" with
      | .seq items => some (entries, items)
      | _ => none
  | _ => none

def withAccounts
    (entries : Entries)
    (items : List Yaml) : Yaml :=
  .map (Yaml.set entries "accounts" (.seq items))

/- None where there is nothing to seal. -/
def sealDoc
    (draw : Nat)
    (doc : Yaml) : Option Yaml :=
  match accountList doc with
  | some (entries, items) =>
      if items.any (fun item => (typedIn item).isSome) then
        some (withAccounts entries (sealItems seals draw items))
      else none
  | none => none

/- `seal_yaml` -/
def sealYaml
    (yaml : YamlText)
    (draw : Nat)
    (text : Option String) : Option String :=
  match (yaml.load (text.getD "")).bind (sealDoc seals draw) with
  | some doc => some (yaml.dump doc)
  | none => text

/- `parse_yaml` -/
def parseYaml
    (yaml : YamlText)
    (text : Option String) :
    Option (List AccountSpec × List Problem) :=
  match yaml.load (text.getD "") with
  | some doc => parse py env seals doc
  | none => some ([], [])

--------
-- A Sealed Template Declares The Same
--------

variable {py : Language}
variable {env : Environment}
variable {seals : Seals}

/- What is to be sealed is read as it is. -/
theorem opened_of_typedIn
    (seals : Seals)
    {entries : Entries}
    {password : String}
    (hTyped : typedIn (.map entries) = some password) :
    Yaml.getD entries "password" = .str password ∧
      opened seals (Yaml.getD entries "password") =
        (.str password, false) := by
  unfold typedIn at hTyped
  rcases Option.filter_eq_some_iff.mp hTyped with ⟨hText, hPlain⟩
  rw [Bool.and_eq_true, Bool.not_eq_true'] at hPlain
  have hWritten : Yaml.getD entries "password" = .str password := by
    change (Yaml.getD entries "password").text? = _ at hText
    cases hValue : Yaml.getD entries "password" with
    | scalar s =>
        rw [hValue] at hText
        cases s with
        | str text => exact congrArg Yaml.str (Option.some.inj hText)
        | _ => cases hText
    | seq items => rw [hValue] at hText; cases hText
    | map inner => rw [hValue] at hText; cases hText
  refine ⟨hWritten, ?_⟩
  rw [hWritten]
  show (if looksSealed password then _ else _) = _
  rw [hPlain.2]
  rfl

theorem opened_seal
    (hIdeal : seals.Ideal)
    (draw : Nat)
    (password : String) :
    opened seals (.str (seals.seal draw password)) =
      (.str password, false) := by
  show (if looksSealed (seals.seal draw password) then _ else _) = _
  rw [if_pos (looksSealed_seal seals draw password)]
  simp only [hIdeal.unseal_seal]

/- Sealing changes nothing of what is read of an account. -/
theorem written_set
    (hIdeal : seals.Ideal)
    {entries : Entries}
    {password : String}
    (hTyped : typedIn (.map entries) = some password)
    (draw : Nat) :
    written py seals (Yaml.set entries "password"
        (.str (seals.seal draw password))) =
      written py seals entries := by
  rcases opened_of_typedIn seals hTyped with
    ⟨hWritten, hOpened⟩
  have hOther (key : String)
      (hKey : key ≠ "password") :
      Yaml.get? (Yaml.set entries "password"
          (.str (seals.seal draw password))) key =
        Yaml.get? entries key :=
    Yaml.get?_set_of_ne hKey _
  have hSealed : Yaml.getD (Yaml.set entries "password"
      (.str (seals.seal draw password))) "password" =
        .str (seals.seal draw password) := by
    unfold Yaml.getD at hWritten ⊢
    rw [Yaml.get?_set_self]
    cases hValue : Yaml.get? entries "password" with
    | none =>
        rw [hValue] at hWritten
        cases hWritten
    | some value => rfl
  unfold written
  rw [hSealed, hOpened, opened_seal hIdeal, Yaml.keys_set]
  unfold Yaml.getD
  rw [hOther "machine" (by decide), hOther "username" (by decide),
    hOther "generate" (by decide), hOther "role" (by decide),
    hOther "student_visible" (by decide),
    hOther "scenario" (by decide), hOther "notes" (by decide)]

theorem declare_sealItem
    (hIdeal : seals.Ideal)
    (ctx : Context)
    (declared : Declared)
    (draw i : Nat)
    (item : Yaml) :
    declare py env seals ctx declared
        (sealItem seals draw item, i) =
      declare py env seals ctx declared (item, i) := by
  cases item with
  | scalar s => rfl
  | seq items => rfl
  | map entries =>
      unfold sealItem
      cases hTyped : typedIn (.map entries) with
      | none => rfl
      | some password =>
          unfold declare
          simp only [Yaml.entries?]
          rw [written_set hIdeal hTyped]

theorem foldl_declare_sealItems
    (hIdeal : seals.Ideal)
    (ctx : Context)
    (declared : Declared)
    (draw i : Nat)
    (items : List Yaml) :
    ((sealItems seals draw items).zipIdx i).foldl
        (declare py env seals ctx) declared =
      (items.zipIdx i).foldl
        (declare py env seals ctx) declared := by
  induction items generalizing declared draw i with
  | nil => rfl
  | cons item items ih =>
      rw [sealItems, List.zipIdx_cons, List.zipIdx_cons,
        List.foldl_cons, List.foldl_cons,
        declare_sealItem hIdeal, ih]

theorem length_sealItems
    (seals : Seals)
    (draw : Nat)
    (items : List Yaml) :
    (sealItems seals draw items).length = items.length := by
  induction items generalizing draw with
  | nil => rfl
  | cons item items ih =>
      rw [sealItems, List.length_cons, List.length_cons, ih]

/- The machines are read elsewhere in the template. -/
theorem contextOf_set
    (py : Language)
    (entries : Entries)
    (v : Yaml) :
    contextOf py (Yaml.set entries "accounts" v) =
      contextOf py entries := by
  unfold contextOf builtFrom Yaml.getD
  rw [Yaml.get?_set_of_ne (by decide),
    Yaml.get?_set_of_ne (by decide)]

theorem getD_withAccounts
    {entries : Entries}
    {items : List Yaml}
    (hItems : Yaml.getD entries "accounts" = .seq items)
    (v : Yaml) :
    Yaml.getD (Yaml.set entries "accounts" v) "accounts" = v := by
  unfold Yaml.getD at hItems ⊢
  rw [Yaml.get?_set_self]
  cases hValue : Yaml.get? entries "accounts" with
  | none =>
      rw [hValue] at hItems
      cases hItems
  | some value => rfl

theorem accountList_eq_some
    {doc : Yaml}
    {entries : Entries}
    {items : List Yaml} :
    accountList doc = some (entries, items) ↔
      doc = .map entries ∧
        Yaml.getD entries "accounts" = .seq items := by
  constructor
  · intro hList
    unfold accountList at hList
    split at hList
    · split at hList
      · rename_i entries' items' hItems
        cases hList
        exact ⟨rfl, hItems⟩
      · cases hList
    · cases hList
  · rintro ⟨hDoc, hItems⟩
    rw [hDoc]
    unfold accountList
    simp only [hItems]

theorem accountList_withAccounts
    {entries : Entries}
    {items : List Yaml}
    (hItems : Yaml.getD entries "accounts" = .seq items)
    (items' : List Yaml) :
    accountList (withAccounts entries items') =
      some (Yaml.set entries "accounts" (.seq items'), items') :=
  accountList_eq_some.mpr ⟨rfl, getD_withAccounts hItems _⟩

theorem sealDoc_eq_some
    {draw : Nat}
    {doc sealed : Yaml}
    (hSealed : sealDoc seals draw doc = some sealed) :
    ∃ entries items, doc = .map entries ∧
      Yaml.getD entries "accounts" = .seq items ∧
      sealed = withAccounts entries
        (sealItems seals draw items) := by
  unfold sealDoc at hSealed
  split at hSealed
  · rename_i entries items hList
    split at hSealed
    · rcases accountList_eq_some.mp hList with ⟨hDoc, hItems⟩
      exact ⟨entries, items, hDoc, hItems,
        (Option.some.inj hSealed).symm⟩
    · cases hSealed
  · cases hSealed

/- The accounts of a sealed template are those of the template. -/
theorem parse_sealDoc
    (hIdeal : seals.Ideal)
    {draw : Nat}
    {doc sealed : Yaml}
    (hSealed : sealDoc seals draw doc = some sealed) :
    parse py env seals sealed = parse py env seals doc := by
  rcases sealDoc_eq_some hSealed with
    ⟨entries, items, hDoc, hItems, hEq⟩
  rw [hDoc, hEq]
  unfold parse withAccounts
  simp only [Yaml.entries?, getD_withAccounts hItems, hItems,
    length_sealItems, contextOf_set]
  unfold declareAll
  simp only [foldl_declare_sealItems hIdeal]

/- A sealed password is not sealed again. -/
theorem typedIn_sealItem
    (seals : Seals)
    (draw : Nat)
    (item : Yaml) :
    typedIn (sealItem seals draw item) = none := by
  cases item with
  | scalar s => rfl
  | seq items => rfl
  | map entries =>
      unfold sealItem
      cases hTyped : typedIn (.map entries) with
      | none => exact hTyped
      | some password =>
          rcases opened_of_typedIn seals hTyped with
            ⟨hWritten, _⟩
          unfold Yaml.getD at hWritten
          have hSealed := looksSealed_seal seals draw password
          unfold typedIn storedPassword
          simp only [Yaml.entries?, Option.bind_some, Yaml.getD,
            Yaml.get?_set_self]
          cases hValue : Yaml.get? entries "password" with
          | none =>
              rw [hValue] at hWritten
              cases hWritten
          | some value =>
              simp [Yaml.text?, Option.filter, hSealed]

theorem any_typedIn_sealItems
    (seals : Seals)
    (draw : Nat)
    (items : List Yaml) :
    (sealItems seals draw items).any
      (fun item => (typedIn item).isSome) = false := by
  induction items generalizing draw with
  | nil => rfl
  | cons item items ih =>
      rw [sealItems, List.any_cons, typedIn_sealItem, ih]
      rfl

theorem sealDoc_sealed
    {draw : Nat}
    {doc sealed : Yaml}
    (hSealed : sealDoc seals draw doc = some sealed)
    (draw' : Nat) :
    sealDoc seals draw' sealed = none := by
  rcases sealDoc_eq_some hSealed with
    ⟨entries, items, hDoc, hItems, hEq⟩
  rw [hEq]
  unfold sealDoc
  simp only [accountList_withAccounts hItems,
    any_typedIn_sealItems, Bool.false_eq_true, if_false]

/- Whether there is something to seal is not up to the nonces. -/
theorem sealDoc_none
    {draw : Nat}
    {doc : Yaml}
    (hNone : sealDoc seals draw doc = none)
    (draw' : Nat) :
    sealDoc seals draw' doc = none := by
  unfold sealDoc at hNone ⊢
  split at hNone
  · split at hNone
    · cases hNone
    · rename_i hTyped
      simp only [hTyped]
      rfl
  · rfl

variable {yaml : YamlText}

/- The stored text is the sealed document, or what was given. -/
theorem sealYaml_cases
    (seals : Seals)
    (yaml : YamlText)
    (draw : Nat)
    (text : Option String) :
    (∃ doc sealed, yaml.load (text.getD "") = some doc ∧
      sealDoc seals draw doc = some sealed ∧
      sealYaml seals yaml draw text = some (yaml.dump sealed)) ∨
    ((yaml.load (text.getD "")).bind (sealDoc seals draw) = none ∧
      sealYaml seals yaml draw text = text) := by
  unfold sealYaml
  cases hSealed : (yaml.load (text.getD "")).bind
      (sealDoc seals draw) with
  | none => exact .inr ⟨rfl, rfl⟩
  | some sealed =>
      rcases Option.bind_eq_some_iff.mp hSealed with
        ⟨doc, hLoad, hDoc⟩
      exact .inl ⟨doc, sealed, hLoad, hDoc, rfl⟩

/- Sealing leaves what a template declares as it is. -/
theorem parseYaml_sealYaml
    (hIdeal : seals.Ideal)
    {draw : Nat}
    {text : Option String}
    (hInverse : ∀ doc sealed,
      yaml.load (text.getD "") = some doc →
      sealDoc seals draw doc = some sealed →
        yaml.Inverse sealed) :
    parseYaml py env seals yaml
        (sealYaml seals yaml draw text) =
      parseYaml py env seals yaml text := by
  rcases sealYaml_cases seals yaml draw text with
    ⟨doc, sealed, hLoad, hDoc, hSealed⟩ | ⟨_, hSame⟩
  · have hBack : yaml.load (yaml.dump sealed) = some sealed :=
      hInverse doc sealed hLoad hDoc
    rw [hSealed]
    unfold parseYaml
    simp only [Option.getD_some, hBack, hLoad]
    exact parse_sealDoc hIdeal hDoc
  · rw [hSame]

/- A stored template is stored as it is. -/
theorem sealYaml_sealYaml
    {draw : Nat}
    {text : Option String}
    (hInverse : ∀ doc sealed,
      yaml.load (text.getD "") = some doc →
      sealDoc seals draw doc = some sealed →
        yaml.Inverse sealed)
    (draw' : Nat) :
    sealYaml seals yaml draw' (sealYaml seals yaml draw text) =
      sealYaml seals yaml draw text := by
  rcases sealYaml_cases seals yaml draw text with
    ⟨doc, sealed, hLoad, hDoc, hSealed⟩ | ⟨hNothing, hSame⟩
  · have hBack : yaml.load (yaml.dump sealed) = some sealed :=
      hInverse doc sealed hLoad hDoc
    rw [hSealed]
    unfold sealYaml
    simp only [Option.getD_some, hBack, Option.bind_some,
      sealDoc_sealed hDoc draw']
  · rw [hSame]
    have hAgain : (yaml.load (text.getD "")).bind
        (sealDoc seals draw') = none := by
      rw [Option.bind_eq_none_iff] at hNothing ⊢
      exact fun doc hLoad =>
        sealDoc_none (hNothing doc hLoad) draw'
    unfold sealYaml
    rw [hAgain]

end TemplateAccounts

end TrueNorth
