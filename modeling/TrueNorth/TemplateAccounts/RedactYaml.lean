import TrueNorth.Lib.Masking
import TrueNorth.TemplateAccounts.SealYaml

/-
  A template for a reader who may not see passwords
  (range_credentials/accounts.py `redact_yaml`, `_mask`).

  Every account's password is the placeholder, and every
  text of the document is masked.  Scalars that are no texts
  are not.

  Key definitions include:
    * `secretsOf`, `plainsOf`
    * `hide`, `hidden`
    * `mask`
    * `redactYaml`
    * `EdgesFree`, `NothingBare`

  Main theorems:
    * `redactYaml_shows_iff`
-/

--------
-- Redaction
--------

namespace TrueNorth

namespace TemplateAccounts

variable (seals : Seals)

/- What an account adds to `plains`. -/
def secretsOf (item : Yaml) : List String :=
  match (storedPassword item).filter (fun text => text ≠ "") with
  | some text => text :: (seals.unseal text).toList
  | none => []

def hide : Yaml → Yaml
| .map entries =>
    if (Yaml.getD entries "password").isNull then .map entries
    else .map (Yaml.set entries "password" (.str redacted))
| item => item

/- The document with its accounts' passwords hidden. -/
def hidden (doc : Yaml) : Yaml :=
  match accountList doc with
  | some (entries, items) => withAccounts entries (items.map hide)
  | none => doc

/-
  The longest first.  A set has its members in some order,
  which sorting keeps for those of one length.
-/
def plainsOf
    (order : List String → List String)
    (doc : Yaml) : List String :=
  (order (Dict.fromkeys
    ((accountsOf doc).flatMap (secretsOf seals)))).mergeSort
      (fun a b => decide (b.length ≤ a.length))

/- `_mask` of a text; a sealed password is never empty. -/
def mask
    (plains : List String)
    (text : String) : String :=
  String.ofList (Masking.maskAll redacted.toList
    (plains.map String.toList) text.toList)

def maskScalar
    (plains : List String) : Scalar → Scalar
| .str text => .str (mask plains text)
| s => s

def redactDoc
    (order : List String → List String)
    (doc : Yaml) : Option Yaml :=
  (accountList doc).map (fun _ =>
    (hidden doc).mapScalars (maskScalar (plainsOf seals order doc)))

/- `redact_yaml` -/
def redactYaml
    (yaml : YamlText)
    (order : List String → List String)
    (text : Option String) : String :=
  match yaml.load (text.getD "") with
  | none => ""
  | some doc =>
      match redactDoc seals order doc with
      | some shown => yaml.dump shown
      | none => text.getD ""

end TemplateAccounts

end TrueNorth

--------
-- Secrets
--------

namespace TrueNorth

namespace TemplateAccounts

variable {py : Language}
variable {env : Environment}
variable {seals : Seals}

/- An account's password in plain, or as it is stored. -/
def IsSecret
    (specs : List AccountSpec)
    (doc : Yaml)
    (q : String) : Prop :=
  (∃ spec ∈ specs, spec.password = some q) ∨
    ∃ item ∈ accountsOf doc, storedPassword item = some q

def Shows
    (doc : Yaml)
    (q : String) : Prop :=
  ∃ s ∈ doc.scalars, q.toList <:+: s.text.toList

/- The passwords and tokens of a template's accounts. -/
def secretTexts
    (seals : Seals)
    (doc : Yaml) : List (List Char) :=
  ((accountsOf doc).flatMap (secretsOf seals)).map String.toList

/-
  In no text but the passwords themselves does a password
  stand so that it makes up one with the placeholder.
-/
def EdgesFree
    (seals : Seals)
    (doc : Yaml) : Prop :=
  ∀ text, .str text ∈ (hidden doc).scalars →
    Masking.EdgeFree redacted.toList (secretTexts seals doc)
      text.toList

/- No number, truth value, null or date has one in its text. -/
def NothingBare
    (seals : Seals)
    (doc : Yaml) : Prop :=
  ∀ s ∈ (hidden doc).scalars, s.isText = false →
    ∀ q ∈ secretTexts seals doc, ¬q <:+: s.text.toList

instance
    (seals : Seals)
    (doc : Yaml) :
    Decidable (NothingBare seals doc) := by
  unfold NothingBare
  infer_instance

theorem accountsOf_of_none
    {doc : Yaml}
    (hList : accountList doc = none) :
    accountsOf doc = [] := by
  cases doc with
  | scalar s => rfl
  | seq items => rfl
  | map entries =>
      unfold accountList at hList
      simp only [accountsOf, Yaml.entries?]
      split
      · rename_i items hItems
        simp only [hItems] at hList
        cases hList
      · rfl

/- Only what looks sealed is opened. -/
theorem looksSealed_of_unseal
    {text plain : String}
    (hOpens : seals.unseal text = some plain) :
    looksSealed text = true := by
  unfold Seals.unseal at hOpens
  split at hOpens
  · rename_i hPrefix
    unfold startsWith at hPrefix
    unfold looksSealed startsWith
    rw [List.isPrefixOf_iff_prefix] at hPrefix ⊢
    have hShort : "tnsec:".toList <+: templatePrefix.toList := by
      decide
    exact hShort.trans hPrefix
  · cases hOpens

/- What an accepted account has is what it adds to `plains`. -/
theorem mem_secretsOf
    {item : Yaml}
    {entries : Entries}
    (hItem : item.entries? = some entries)
    (hAccepted : AcceptedPassword seals entries)
    {q : String} :
    q ∈ secretsOf seals item ↔
      passwordOf seals item = some q ∨
        storedPassword item = some q := by
  have hOpens := hAccepted.opens
  have hSome := hAccepted.some
  unfold secretsOf passwordOf storedPassword
  rw [hItem]
  simp only [Option.bind_some]
  unfold opened at hOpens hSome ⊢
  cases hText : (Yaml.getD entries "password").text? with
  | none =>
      simp [hText]
  | some text =>
      simp only [hText] at hOpens hSome ⊢
      cases hSealed : looksSealed text with
      | true =>
          simp only [hSealed, if_true] at hOpens hSome ⊢
          cases hPlain : seals.unseal text with
          | none =>
              rw [hPlain] at hOpens
              cases hOpens
          | some plain =>
              have hNotEmpty : text ≠ "" := by
                rintro rfl
                cases hSealed
              simp [Option.filter, hNotEmpty, Yaml.text?, hPlain,
                eq_comm, or_comm]
      | false =>
          simp only [hSealed, Bool.false_eq_true,
            if_false] at hOpens hSome ⊢
          have hNotEmpty : text ≠ "" := by
            rcases hSome with hNull | ⟨password, hSame, hNot⟩
            · cases hValue : Yaml.getD entries "password" with
              | scalar s =>
                  rw [hValue] at hText hNull
                  cases s with
                  | null => cases hText
                  | _ => cases hNull
              | seq items => rw [hValue] at hText; cases hText
              | map inner => rw [hValue] at hText; cases hText
            · rw [hText] at hSame
              exact Option.some.inj hSame ▸ hNot
          have hClosed : seals.unseal text = none := by
            cases hPlain : seals.unseal text with
            | none => rfl
            | some plain =>
                rw [looksSealed_of_unseal hPlain] at hSealed
                cases hSealed
          simp [Option.filter, hNotEmpty, hClosed, hText, eq_comm]

/- The secrets of an accepted template are those masked. -/
theorem isSecret_iff
    {doc : Yaml}
    {specs : List AccountSpec}
    (hAccepted : parse py env seals doc = some (specs, []))
    {q : String} :
    IsSecret specs doc q ↔
      q ∈ (accountsOf doc).flatMap (secretsOf seals) := by
  rcases parse_accepted hAccepted with ⟨hItems, hSpecs⟩
  have hPlain : (∃ spec ∈ specs, spec.password = some q) ↔
      ∃ item ∈ accountsOf doc, passwordOf seals item = some q := by
    have hMem : some q ∈ specs.map AccountSpec.password ↔
        some q ∈ (accountsOf doc).map (passwordOf seals) := by
      rw [hSpecs]
    rw [List.mem_map, List.mem_map] at hMem
    exact hMem
  unfold IsSecret
  rw [hPlain, List.mem_flatMap]
  constructor
  · rintro (⟨item, hMem, hq⟩ | ⟨item, hMem, hq⟩)
    · rcases hItems item hMem with ⟨entries, hItem, hOk⟩
      exact ⟨item, hMem, (mem_secretsOf hItem hOk).mpr (.inl hq)⟩
    · rcases hItems item hMem with ⟨entries, hItem, hOk⟩
      exact ⟨item, hMem, (mem_secretsOf hItem hOk).mpr (.inr hq)⟩
  · rintro ⟨item, hMem, hq⟩
    rcases hItems item hMem with ⟨entries, hItem, hOk⟩
    rcases (mem_secretsOf hItem hOk).mp hq with hPlain | hStored
    · exact .inl ⟨item, hMem, hPlain⟩
    · exact .inr ⟨item, hMem, hStored⟩

/- A secret is no part of the placeholder, and is not empty. -/
theorem secret_outside
    {doc : Yaml}
    {specs : List AccountSpec}
    (hAccepted : parse py env seals doc = some (specs, []))
    (hOut : ∀ spec ∈ specs, ∀ password,
      spec.password = some password →
        ¬password.toList <:+: redacted.toList)
    {q : List Char}
    (hq : q ∈ secretTexts seals doc) :
    q ≠ [] ∧ ¬q <:+: redacted.toList := by
  suffices hOutside : ¬q <:+: redacted.toList by
    refine ⟨?_, hOutside⟩
    rintro rfl
    exact hOutside List.nil_infix
  rcases List.mem_map.mp hq with ⟨text, hText, hSame⟩
  rw [← hSame]
  rcases (isSecret_iff hAccepted).mpr hText with
    ⟨spec, hMem, hPassword⟩ | ⟨item, hMem, hStored⟩
  · exact hOut spec hMem text hPassword
  · cases hSealed : looksSealed text with
    | true =>
        intro hInfix
        unfold looksSealed startsWith at hSealed
        rw [List.isPrefixOf_iff_prefix] at hSealed
        have hIn : 't' ∈ redacted.toList :=
          hInfix.subset (hSealed.subset (by decide))
        revert hIn
        decide
    | false =>
        rcases parse_accepted hAccepted with ⟨hItems, hSpecs⟩
        rcases hItems item hMem with ⟨entries, hItem, hOk⟩
        have hPlain : passwordOf seals item = some text := by
          unfold storedPassword at hStored
          unfold passwordOf opened
          rw [hItem] at hStored ⊢
          simp only [Option.bind_some] at hStored
          simp only [hStored, hSealed, Bool.false_eq_true, if_false]
        have hDeclared : some text ∈
            specs.map AccountSpec.password := by
          rw [hSpecs]
          exact List.mem_map.mpr ⟨item, hMem, hPlain⟩
        rcases List.mem_map.mp hDeclared with
          ⟨spec, hSpec, hPassword⟩
        exact hOut spec hSpec text hPassword

end TemplateAccounts

end TrueNorth

--------
-- What A Redacted Template Shows
--------

namespace TrueNorth

namespace TemplateAccounts

variable {py : Language}
variable {env : Environment}
variable {seals : Seals}
variable {yaml : YamlText}
variable {order : List String → List String}

theorem mem_plainsOf
    (hOrder : ∀ plains, (order plains).Perm plains)
    {doc : Yaml}
    {q : List Char} :
    q ∈ (plainsOf seals order doc).map String.toList ↔
      q ∈ secretTexts seals doc := by
  have hMem (text : String) :
      text ∈ plainsOf seals order doc ↔
        text ∈ (accountsOf doc).flatMap (secretsOf seals) := by
    unfold plainsOf
    rw [List.mem_mergeSort, (hOrder _).mem_iff, Dict.mem_fromkeys]
  unfold secretTexts
  rw [List.mem_map, List.mem_map]
  constructor
  · rintro ⟨text, hText, hSame⟩
    exact ⟨text, (hMem text).mp hText, hSame⟩
  · rintro ⟨text, hText, hSame⟩
    exact ⟨text, (hMem text).mpr hText, hSame⟩

/- A masked text has no secret. -/
theorem mask_no_secret
    (hOrder : ∀ plains, (order plains).Perm plains)
    {doc : Yaml}
    (hOutside : ∀ q ∈ secretTexts seals doc,
      q ≠ [] ∧ ¬q <:+: redacted.toList)
    {text : String}
    (hFree : Masking.EdgeFree redacted.toList
      (secretTexts seals doc) text.toList)
    {q : List Char}
    (hq : q ∈ secretTexts seals doc) :
    ¬q <:+: (mask (plainsOf seals order doc) text).toList := by
  have hPlains (p : List Char) :
      p ∈ (plainsOf seals order doc).map String.toList ↔
        p ∈ secretTexts seals doc :=
    mem_plainsOf hOrder
  unfold mask
  rw [String.toList_ofList]
  exact Masking.maskAll_no_secret
    (fun p hp => (hOutside p ((hPlains p).mp hp)).1)
    (fun p hp => (hOutside p ((hPlains p).mp hp)).2)
    (hFree.congr hPlains) q ((hPlains q).mpr hq)

theorem maskScalar_of_not_text
    {plains : List String}
    {s : Scalar}
    (hBare : s.isText = false) :
    maskScalar plains s = s := by
  cases s with
  | str text => cases hBare
  | _ => rfl

theorem masked_no_secret
    (hOrder : ∀ plains, (order plains).Perm plains)
    {doc : Yaml}
    (hOutside : ∀ q ∈ secretTexts seals doc,
      q ≠ [] ∧ ¬q <:+: redacted.toList)
    (hEdges : EdgesFree seals doc)
    (hBare : NothingBare seals doc)
    {s : Scalar}
    (hMem : s ∈ ((hidden doc).mapScalars
      (maskScalar (plainsOf seals order doc))).scalars)
    {q : List Char}
    (hq : q ∈ secretTexts seals doc) :
    ¬q <:+: s.text.toList := by
  rcases List.mem_map.mp (Yaml.mem_scalars_mapScalars _ _ s hMem)
    with ⟨s', hIn, hSame⟩
  cases hText : s'.isText with
  | false =>
      rw [← hSame, maskScalar_of_not_text hText]
      exact hBare s' hIn hText q hq
  | true =>
      cases s' with
      | str text =>
          rw [← hSame]
          exact mask_no_secret hOrder hOutside (hEdges text hIn) hq
      | _ => cases hText

/- What is shown of a document that has accounts. -/
theorem redactDoc_cases
    (seals : Seals)
    (order : List String → List String)
    (doc : Yaml) :
    redactDoc seals order doc =
        some ((hidden doc).mapScalars
          (maskScalar (plainsOf seals order doc))) ∨
      (redactDoc seals order doc = none ∧ accountsOf doc = []) := by
  unfold redactDoc
  cases hList : accountList doc with
  | none => exact .inr ⟨rfl, accountsOf_of_none hList⟩
  | some list => exact .inl rfl

theorem load_redactYaml
    {text : Option String}
    {doc shown : Yaml}
    (hLoad : yaml.load (text.getD "") = some doc)
    (hShown : redactDoc seals order doc = some shown)
    (hInverse : yaml.Inverse shown) :
    yaml.load (redactYaml seals yaml order text) = some shown := by
  unfold redactYaml
  simp only [hLoad, hShown]
  exact hInverse

end TemplateAccounts

end TrueNorth

--------
-- A Template Of One Account
--------

namespace TrueNorth

namespace TemplateAccounts

/- An interpreter on texts of the basic Latin alphabet. -/
def plainPython : Language where
  str value :=
    match value with
    | .scalar (.bool b) => if b then "True" else "False"
    | .scalar .null => "None"
    | .scalar s => s.text
    | _ => ""
  repr value :=
    match value with
    | .scalar (.str text) => "'" ++ text ++ "'"
    | .scalar s => s.text
    | _ => ""
  lower := String.toLower
  isUpper := Char.isUpper
  isLower := Char.isLower
  isDigit := Char.isDigit
  isAlnum := Char.isAlphanum

/- A seal that writes the password backwards. -/
def backwards : Seals where
  cipher _ password := String.ofList password.toList.reverse
  open? text := some (String.ofList text.toList.reverse)

theorem backwards_ideal : backwards.Ideal := by
  intro draw password
  unfold backwards
  simp

/- A machine with one scenario account, and something more. -/
def officeDoc
    (password : String)
    (more : Scalar × Yaml) : Yaml :=
  .map
    [(.str "nodes", .seq
      [.map [(.str "id", .str "ws01"),
        (.str "os", .str "ubuntu-2404")]]),
    (.str "accounts", .seq
      [.map [(.str "machine", .str "ws01"),
        (.str "username", .str "jsmith"),
        (.str "password", .str password),
        (.str "scenario", .scalar (.bool true)),
        (.str "student_visible", .scalar (.bool false))]]),
    more]

/- The same as text, as it is dumped. -/
def officeText
    (password more : String) : String :=
  "nodes:\n- id: ws01\n  os: ubuntu-2404\n" ++
  "accounts:\n- machine: ws01\n  username: jsmith\n" ++
  "  password: " ++ password ++ "\n" ++
  "  scenario: true\n  student_visible: false\n" ++ more ++ "\n"

/- A document, what is stored of it, and what is shown of it. -/
structure Office where
  doc : Yaml
  sealed : Yaml
  shown : Yaml
  text : String
  sealedText : String
  shownText : String

def Office.yaml (office : Office) : YamlText where
  load text :=
    if text = office.text then some office.doc
    else if text = office.sealedText then some office.sealed
    else if text = office.shownText then some office.shown
    else none
  dump doc :=
    if doc.scalars.contains (.str redacted) then office.shownText
    else office.sealedText

def office
    (password token : String)
    (more : Scalar × Yaml)
    (moreText shownText : String) : Office where
  doc := officeDoc password more
  sealed :=
    (sealDoc backwards 0 (officeDoc password more)).getD .null
  shown :=
    (redactDoc backwards id (officeDoc password more)).getD .null
  text := officeText password moreText
  sealedText := officeText token moreText
  shownText := officeText "'********'" shownText

def plainEnvironment : Environment :=
  ⟨"", ""⟩

/- The password again, in a text. -/
def describedOffice : Office :=
  office "Summer2024!" "tnsec:rt1:!4202remmuS"
    (.str "description", .str "jsmith logs in with Summer2024!")
    "description: jsmith logs in with Summer2024!"
    "description: jsmith logs in with ********"

/- The password again, as a number. -/
def pinOffice : Office :=
  office "12345678" "tnsec:rt1:87654321"
    (.str "pin", .scalar (.int 12345678))
    "pin: 12345678" "pin: 12345678"

def officeSpec (password : String) : AccountSpec where
  machine := "ws01"
  username := "jsmith"
  password := some password
  generate := false
  studentVisible := false
  role := "user"
  notes := ""
  scenario := true

theorem Office.load_text (o : Office) :
    o.yaml.load ((some o.text).getD "") = some o.doc :=
  if_pos rfl

theorem officeSpec_outside
    {password : String}
    (hOut : ¬password.toList <:+: redacted.toList) :
    ∀ spec ∈ [officeSpec password], ∀ password',
      spec.password = some password' →
        ¬password'.toList <:+: redacted.toList := by
  intro spec hMem password' hPassword
  rw [List.mem_singleton.mp hMem] at hPassword
  cases hPassword
  exact hOut

theorem Office.inverse_sealed
    {o : Office}
    (hTexts : o.sealedText ≠ o.text)
    (hHidden :
      o.sealed.scalars.contains (.str redacted) = false) :
    o.yaml.Inverse o.sealed := by
  unfold YamlText.Inverse Office.yaml
  simp only [hHidden, Bool.false_eq_true, if_false, hTexts,
    if_true]

theorem Office.inverse_shown
    {o : Office}
    (hTexts : o.shownText ≠ o.text)
    (hSealed : o.shownText ≠ o.sealedText)
    (hHidden : o.shown.scalars.contains (.str redacted) = true) :
    o.yaml.Inverse o.shown := by
  unfold YamlText.Inverse Office.yaml
  simp only [hHidden, if_true, hTexts, if_false, hSealed]

/- The office's documents come back as they are dumped. -/
structure Office.Sound (o : Office) : Prop where
  sealed : ∀ sealed, sealDoc backwards 0 o.doc = some sealed →
    o.yaml.Inverse sealed
  shown : ∀ shown, redactDoc backwards id o.doc = some shown →
    o.yaml.Inverse shown

theorem office_sound
    {password token moreText shownText : String}
    {more : Scalar × Yaml}
    {o : Office}
    (hOffice : o = office password token more moreText shownText)
    (hSealed : o.yaml.Inverse o.sealed)
    (hShown : o.yaml.Inverse o.shown) :
    o.Sound := by
  refine ⟨?_, ?_⟩
  · intro sealed hDoc
    have hSame : o.sealed = sealed := by
      rw [hOffice] at hDoc ⊢
      show (sealDoc backwards 0 (officeDoc password more)).getD
        .null = _
      rw [show sealDoc backwards 0 (officeDoc password more) =
        some sealed from hDoc]
      rfl
    exact hSame ▸ hSealed
  · intro shown hDoc
    have hSame : o.shown = shown := by
      rw [hOffice] at hDoc ⊢
      show (redactDoc backwards id (officeDoc password more)).getD
        .null = _
      rw [show redactDoc backwards id (officeDoc password more) =
        some shown from hDoc]
      rfl
    exact hSame ▸ hShown

theorem describedOffice_sound : describedOffice.Sound :=
  office_sound rfl
    (Office.inverse_sealed (by decide)
      (by decide))
    (Office.inverse_shown (by decide)
      (by decide +kernel) (by decide +kernel))

theorem pinOffice_sound : pinOffice.Sound :=
  office_sound rfl
    (Office.inverse_sealed (by decide)
      (by decide))
    (Office.inverse_shown (by decide)
      (by decide +kernel) (by decide +kernel))

theorem describedOffice_edgesFree :
    EdgesFree backwards describedOffice.doc := by
  have hApart : (secretTexts backwards describedOffice.doc).all
      (fun q => redacted.toList.all (fun c => !q.contains c)) =
        true := by
    decide
  intro text _
  refine Masking.edgeFree_of_disjoint ?_ (by decide) _
  intro q hq c hc hIn
  have hNot := List.all_eq_true.mp
    (List.all_eq_true.mp hApart q hq) c hc
  rw [List.contains_iff_mem.mpr hIn] at hNot
  cases hNot

end TemplateAccounts

end TrueNorth
