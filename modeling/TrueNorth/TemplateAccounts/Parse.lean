import Mathlib.Data.List.Sort
import TrueNorth.TemplateAccounts.Machines

/-
  The accounts that a template declares, and what is wrong
  with them (range_credentials/accounts.py `parse`,
  range_credentials/seal.py).

  Key definitions include:
    * `Seals`, `Seals.seal`, `Seals.unseal`
    * `Written`
    * `declare`
    * `parse`

  Main theorems:
    * `declareAll_accepted`
    * `parse_accepted`
-/

--------
-- Template Seals
--------

namespace TrueNorth

namespace TemplateAccounts

/-
  A seal of the template's tenant: what is written behind the
  prefix, with a nonce for each draw, and what that opens to.
-/
structure Seals where
  cipher : Nat → String → String
  open? : String → Option String

/- A token opens to the password it seals. -/
def Seals.Ideal (seals : Seals) : Prop :=
  ∀ draw password,
    seals.open? (seals.cipher draw password) = some password

def templatePrefix : String :=
  "tnsec:rt1:"

def looksSealed (text : String) : Bool :=
  startsWith "tnsec:" text

/- `rc_seal.seal(plain, tenant_id)` -/
def Seals.seal
    (seals : Seals)
    (draw : Nat)
    (plain : String) : String :=
  templatePrefix ++ seals.cipher draw plain

/- `rc_seal.unseal(token, tenant_id)` -/
def Seals.unseal
    (seals : Seals)
    (token : String) : Option String :=
  if startsWith templatePrefix token then
    seals.open? (String.ofList
      (token.toList.drop templatePrefix.toList.length))
  else none

theorem startsWith_append
    (start text : String) :
    startsWith start (start ++ text) = true := by
  unfold startsWith
  rw [List.isPrefixOf_iff_prefix, String.toList_append]
  exact List.prefix_append _ _

theorem looksSealed_seal
    (seals : Seals)
    (draw : Nat)
    (plain : String) :
    looksSealed (seals.seal draw plain) = true := by
  have hPrefix : templatePrefix = "tnsec:" ++ "rt1:" := by
    decide
  unfold looksSealed Seals.seal
  rw [hPrefix, String.append_assoc]
  exact startsWith_append _ _

theorem Seals.Ideal.unseal_seal
    {seals : Seals}
    (hIdeal : seals.Ideal)
    (draw : Nat)
    (plain : String) :
    seals.unseal (seals.seal draw plain) = some plain := by
  unfold Seals.unseal Seals.seal
  rw [if_pos (startsWith_append _ _), String.toList_append,
    List.drop_left, String.ofList_toList]
  exact hIdeal draw plain

--------
-- What An Account Says
--------

structure AccountSpec where
  machine : String
  username : String
  password : Option String
  generate : Bool
  studentVisible : Bool
  role : String
  notes : String
  scenario : Bool
deriving DecidableEq

structure Problem where
  path : String
  message : String
deriving DecidableEq

/- What is read of one account, its password opened. -/
structure Written where
  unknown : List String
  machine : Yaml
  username : Yaml
  password : Yaml
  /- a sealed value that is not this tenant's template seal -/
  unopened : Bool
  generate : Yaml
  visible : Yaml
  role : Yaml
  scenario : Yaml
  notes : Yaml

def fields : List String :=
  ["machine", "username", "password", "generate",
    "student_visible", "role", "notes", "scenario"]

/- `sorted(set(map(str, item)) - FIELDS)` -/
def unknownFields
    (py : Language)
    (keys : List Scalar) : List String :=
  let names := Dict.fromkeys (keys.map (fun key =>
    py.str (.scalar key)))
  (names.filter (fun name => !fields.contains name)).mergeSort
    (fun a b => decide (a ≤ b))

/- A sealed password is opened, or refused as an empty one. -/
def opened
    (seals : Seals)
    (password : Yaml) : Yaml × Bool :=
  match password.text? with
  | some text =>
      if looksSealed text then
        match seals.unseal text with
        | some plain => (.str plain, false)
        | none => (.str "", true)
      else (password, false)
  | none => (password, false)

def written
    (py : Language)
    (seals : Seals)
    (item : Entries) : Written :=
  let password := opened seals (Yaml.getD item "password")
  { unknown := unknownFields py (item.map Prod.fst)
    machine := Yaml.getD item "machine"
    username := Yaml.getD item "username"
    password := password.1
    unopened := password.2
    generate := (Yaml.get? item "generate").getD
      (.scalar (.bool false))
    visible := Yaml.getD item "student_visible"
    role := (Yaml.get? item "role").getD (.str "user")
    scenario := (Yaml.get? item "scenario").getD
      (.scalar (.bool false))
    notes := (Yaml.get? item "notes").getD (.str "") }

/- Python's `isinstance(value, (str, int))` -/
def isName : Yaml → Bool
| .scalar (.str _) => true
| .scalar (.int _) => true
| .scalar (.bool _) => true
| _ => false

def isUsernameChar (c : Char) : Bool :=
  c.isAlphanum || ['.', '_', '@', '\\', '-'].contains c

def fitsUsername : List Char → Bool
| [] => false
| c :: cs => c.isAlphanum && cs.all isUsernameChar && cs.length ≤ 103

/- `USERNAME_RE.match`: `$` is also before a last line feed. -/
def matchesUsername (username : String) : Bool :=
  let text := username.toList
  fitsUsername text ||
    (text.getLast? = some '\n' && fitsUsername text.dropLast)

--------
-- The Checks Of An Account
--------

open Texts

def redacted : String :=
  "********"

/- What a template's machines give for all accounts. -/
structure Context where
  known : Dict String String
  osOf : Dict String String
  appliances : Dict String String

variable (py : Language)
variable (env : Environment)

/- `f"{path}.{field}"`, of a field. -/
def bad
    (path message : String)
    (field : Option String) : Problem where
  path :=
    match field with
    | some field => path ++ "." ++ field
    | none => path
  message := message

def only
    (applies : Bool)
    (problem : Problem) : List Problem :=
  if applies then [problem] else []

def machineId
    (ctx : Context)
    (machine : Yaml) : Option String :=
  if isName machine then ctx.known.get? (py.str machine) else none

def unknownProblems
    (path : String)
    (w : Written) : List Problem :=
  only (w.unknown ≠ [])
    (bad path ("unknown field(s): " ++ ", ".intercalate w.unknown)
      none)

def machineProblems
    (ctx : Context)
    (path : String)
    (w : Written) : List Problem :=
  if !isName w.machine || strip (py.str w.machine) = "" then
    [bad path "machine is required" (some "machine")]
  else only (machineId py ctx w.machine = none)
    (bad path ("machine " ++ py.repr w.machine ++
      " is not a node or asset of this template")
      (some "machine"))

/- The username, where it is one. -/
def usernameOf (w : Written) : Option String :=
  w.username.text?.filter matchesUsername

def usernameProblems
    (path : String)
    (w : Written) : List Problem :=
  only (usernameOf w = none)
    (bad path ("username is required: letters, digits and " ++
      ". _ @ - \\ (at most 104)") (some "username"))

def sealProblems
    (path : String)
    (w : Written) : List Problem :=
  only w.unopened
    (bad path ("password is a sealed value (tnsec:) that is not " ++
      "this tenant's template seal, so it cannot be used; type " ++
      "the password or use generate: true") (some "password"))

/- A truth value, or the problem that it is none. -/
def flag
    (path field : String)
    (value : Yaml) : Bool × List Problem :=
  match value.bool? with
  | some b => (b, [])
  | none =>
      (false,
        [bad path (field ++ " must be true or false") (some field)])

/- Why Windows would refuse the password of the account. -/
def windowsProblem
    (ctx : Context)
    (w : Written)
    (password : String) : Option String := do
  let username ← w.username.text?
  let machine ← machineId py ctx w.machine
  if isWindows py ((ctx.osOf.get? machine).getD "") then
    windowsPasswordProblem py password username
  else none

def passwordMessage
    (ctx : Context)
    (w : Written) : Option String :=
  if w.password.isNull then none
  else
    match w.password.text? with
    | none => some "password must be a non-empty string"
    | some password =>
        if password = "" then
          some "password must be a non-empty string"
        else if 128 < password.length then
          some "password is longer than 128 characters"
        else if password = redacted then
          some ("password is the placeholder a redacted copy " ++
            "shows; set the real password or generate: true")
        else
          (windowsProblem py ctx w password).map (fun why =>
            "password for a Windows machine: " ++ why)

def passwordProblems
    (ctx : Context)
    (path : String)
    (w : Written) : List Problem :=
  ((passwordMessage py ctx w).map (fun message =>
    bad path message (some "password"))).toList

def visibleProblems
    (path : String)
    (w : Written) : List Problem :=
  only (w.visible.bool? = none)
    (bad path "student_visible is required: true or false"
      (some "student_visible"))

/- The role, where it is one of `ROLES`. -/
def roleOf (w : Written) : Option String :=
  w.role.text?.filter (fun role => ["admin", "user"].contains role)

def roleProblems
    (path : String)
    (w : Written) : List Problem :=
  only (roleOf w = none)
    (bad path "role must be one of admin, user" (some "role"))

def typedProblems
    (path : String)
    (w : Written)
    (scenario : Bool) : List Problem :=
  if scenario && w.password.isNull then
    [bad path ("scenario: true is for a typed-in password the " ++
      "exercise needs; set password (or drop scenario and use " ++
      "generate: true)") (some "scenario")]
  else only (!w.password.isNull && !scenario)
    (bad path ("a typed-in password is allowed only on a " ++
      "scenario account (scenario: true), whose weak password " ++
      "is part of the exercise; use generate: true (ADR 0013)")
      (some "password"))

def isReserved (w : Written) : Bool :=
  match w.username.text? with
  | some username =>
      (reservedLogins env).contains (casefold username)
  | none => false

/- The username is the admin login of its appliance. -/
def isApplianceLogin
    (ctx : Context)
    (w : Written) : Bool :=
  match w.username.text?, machineId py ctx w.machine with
  | some username, some machine =>
      casefold username =
        (ctx.appliances.get? machine).getD (String.singleton '\x00')
  | _, _ => false

def staffProblems
    (ctx : Context)
    (path : String)
    (w : Written)
    (scenario : Bool) : List Problem :=
  if scenario &&
      (w.role.text? = some "admin" || isReserved env w) then
    [bad path ("a staff login (role: admin, Administrator, the " ++
      "Linux build user or soadmin) cannot be a scenario " ++
      "account: its password is always generated (ADR 0013)")
      (some "scenario")]
  else only (scenario && isApplianceLogin py ctx w)
    (bad path ("an appliance's admin login cannot be a scenario " ++
      "account: its password is always generated (ADR 0013, " ++
      "issue #248)") (some "scenario"))

/- The notes, where they are a short text or null. -/
def notesOf (w : Written) : Option String :=
  if w.notes.isNull then some ""
  else w.notes.text?.filter (fun notes => notes.length ≤ 500)

def notesProblems
    (path : String)
    (w : Written) : List Problem :=
  only (notesOf w = none)
    (bad path "notes must be text of at most 500 characters"
      (some "notes"))

/- All problems of an account but a second declaration. -/
def problems
    (ctx : Context)
    (path : String)
    (w : Written) : List Problem :=
  let generate := flag path "generate" w.generate
  let scenario := flag path "scenario" w.scenario
  unknownProblems path w ++ machineProblems py ctx path w ++
    usernameProblems path w ++ sealProblems path w ++ generate.2 ++
    passwordProblems py ctx path w ++
    only (!w.password.isNull == generate.1)
      (bad path "set exactly one of password and generate: true"
        none) ++
    visibleProblems path w ++ roleProblems path w ++ scenario.2 ++
    typedProblems path w scenario.1 ++
    staffProblems py env ctx path w scenario.1 ++
    notesProblems path w

def specOf
    (w : Written)
    (machine username : String) : AccountSpec where
  machine := machine
  username := username
  password := w.password.text?
  generate := (flag "" "" w.generate).1
  studentVisible := w.visible.bool? = some true
  role := (roleOf w).getD "user"
  notes := if w.notes.isNull then "" else w.notes.text?.getD ""
  scenario := (flag "" "" w.scenario).1

--------
-- All Accounts
--------

open Texts

variable (py : Language)
variable (env : Environment)
variable (seals : Seals)

/- What the loop over the accounts has so far. -/
structure Declared where
  specs : List AccountSpec
  errors : List Problem
  seen : List ((String × String) × Nat)

def Declared.report
    (declared : Declared)
    (errors : List Problem) : Declared :=
  { declared with errors := declared.errors ++ errors }

/- An account that is not one of a machine twice. -/
def Declared.add
    (declared : Declared)
    (i : Nat)
    (spec : AccountSpec) : Declared :=
  let key := (spec.machine, casefold spec.username)
  match declared.seen.lookup key with
  | some first =>
      declared.report [bad ("accounts." ++ toString i)
        ("username " ++ py.repr (.str spec.username) ++
          " is declared twice for machine " ++
          py.repr (.str spec.machine) ++ " (also accounts." ++
          toString first ++ ")") (some "username")]
  | none =>
      { declared with
        specs := declared.specs ++ [spec]
        seen := declared.seen ++ [(key, i)] }

/- One account that is a mapping. -/
def declareWritten
    (ctx : Context)
    (declared : Declared)
    (w : Written)
    (i : Nat) : Declared :=
  let checked := declared.report
    (problems py env ctx ("accounts." ++ toString i) w)
  match machineId py ctx w.machine, usernameOf w with
  | some machine, some username =>
      checked.add py i (specOf w machine username)
  | _, _ => checked

def declare
    (ctx : Context)
    (declared : Declared)
    (entry : Yaml × Nat) : Declared :=
  match entry.1.entries? with
  | some item =>
      declareWritten py env ctx declared (written py seals item)
        entry.2
  | none =>
      declared.report [bad ("accounts." ++ toString entry.2)
        "each account must be a mapping" none]

def declareAll
    (ctx : Context)
    (items : List Yaml) : Declared :=
  items.zipIdx.foldl (declare py env seals ctx) ⟨[], [], []⟩

def contextOf (doc : Entries) : Option Context :=
  (builtFrom doc).map (fun built =>
    { known := machines py built
      osOf := machineOs py built
      appliances := applianceAdmins py built })

/-
  The accounts and what is wrong with them; none where the
  template's machines are not to be iterated.
-/
def parse (doc : Yaml) : Option (List AccountSpec × List Problem) :=
  match doc.entries? with
  | none => some ([], [])
  | some entries =>
      match Yaml.getD entries "accounts" with
      | .scalar .null => some ([], [])
      | .seq items =>
          if 500 < items.length then
            some ([], [⟨"accounts", "at most 500 accounts"⟩])
          else
            (contextOf py entries).map (fun ctx =>
              let declared := declareAll py env seals ctx items
              (if declared.errors = [] then declared.specs else [],
                declared.errors))
      | _ => some ([], [⟨"accounts", "accounts must be a list"⟩])

--------
-- Accepted Templates
--------

open Texts

variable {py : Language}
variable {env : Environment}
variable {seals : Seals}

/- The password that an account declares, opened. -/
def passwordOf
    (seals : Seals)
    (item : Yaml) : Option String :=
  match item.entries? with
  | some entries =>
      (opened seals (Yaml.getD entries "password")).1.text?
  | none => none

/- Its password is a text that is not empty, or there is none. -/
structure AcceptedPassword
    (seals : Seals)
    (entries : Entries) : Prop where
  opens : (opened seals (Yaml.getD entries "password")).2 = false
  some : (opened seals (Yaml.getD entries "password")).1.isNull ∨
    ∃ password,
      (opened seals (Yaml.getD entries "password")).1.text? =
        some password ∧ password ≠ ""

theorem only_eq_nil
    {applies : Bool}
    {problem : Problem} :
    only applies problem = [] ↔ applies = false := by
  cases applies <;> simp [only]

theorem machine_of_problems
    {ctx : Context}
    {path : String}
    {w : Written}
    (hNone : machineProblems py ctx path w = []) :
    ∃ machine, machineId py ctx w.machine = some machine := by
  unfold machineProblems at hNone
  split at hNone
  · cases hNone
  · rw [only_eq_nil, decide_eq_false_iff_not] at hNone
    exact Option.ne_none_iff_exists'.mp hNone

theorem username_of_problems
    {path : String}
    {w : Written}
    (hNone : usernameProblems path w = []) :
    ∃ username, usernameOf w = some username := by
  unfold usernameProblems at hNone
  rw [only_eq_nil, decide_eq_false_iff_not] at hNone
  exact Option.ne_none_iff_exists'.mp hNone

theorem password_of_problems
    {ctx : Context}
    {path : String}
    {w : Written}
    (hNone : passwordProblems py ctx path w = []) :
    w.password.isNull ∨
      ∃ password, w.password.text? = some password ∧
        password ≠ "" := by
  unfold passwordProblems at hNone
  rw [Option.toList_eq_nil_iff, Option.map_eq_none_iff] at hNone
  unfold passwordMessage at hNone
  by_cases hNull : w.password.isNull = true
  · exact .inl hNull
  · rw [if_neg hNull] at hNone
    right
    cases hText : w.password.text? with
    | none =>
        rw [hText] at hNone
        cases hNone
    | some password =>
        rw [hText] at hNone
        refine ⟨password, rfl, ?_⟩
        intro hEmpty
        simp only [hEmpty, if_true] at hNone
        cases hNone

@[simp] theorem report_errors
    (declared : Declared)
    (errors : List Problem) :
    (declared.report errors).errors = declared.errors ++ errors :=
  rfl

/- Without an error, the account is the next of the list. -/
theorem add_accepted
    {declared : Declared}
    {i : Nat}
    {spec : AccountSpec}
    (hNone : (declared.add py i spec).errors = []) :
    declared.errors = [] ∧
      (declared.add py i spec).specs = declared.specs ++ [spec] := by
  unfold Declared.add at hNone ⊢
  cases hSeen : declared.seen.lookup
      (spec.machine, casefold spec.username) with
  | some first =>
      simp only [hSeen, report_errors,
        List.append_eq_nil_iff] at hNone
      cases hNone.2
  | none =>
      simp only [hSeen] at hNone ⊢
      exact ⟨hNone, trivial⟩

theorem declareWritten_accepted
    {ctx : Context}
    {declared : Declared}
    {w : Written}
    {i : Nat}
    (hNone :
      (declareWritten py env ctx declared w i).errors = []) :
    declared.errors = [] ∧
      w.unopened = false ∧
      (w.password.isNull ∨
        ∃ password, w.password.text? = some password ∧
          password ≠ "") ∧
      ∃ spec,
        (declareWritten py env ctx declared w i).specs =
          declared.specs ++ [spec] ∧
        spec.password = w.password.text? := by
  have hChecked : (declared.report
      (problems py env ctx ("accounts." ++ toString i)
        w)).errors = [] := by
    unfold declareWritten at hNone
    split at hNone
    · exact (add_accepted hNone).1
    · exact hNone
  rw [report_errors, List.append_eq_nil_iff] at hChecked
  rcases hChecked with ⟨hBefore, hProblems⟩
  simp only [problems, List.append_eq_nil_iff] at hProblems
  rcases hProblems with ⟨⟨⟨⟨⟨⟨⟨⟨⟨⟨⟨⟨_, hMachine⟩, hUsername⟩,
    hSeal⟩, _⟩, hPassword⟩, _⟩, _⟩, _⟩, _⟩, _⟩, _⟩, _⟩
  rcases machine_of_problems hMachine with ⟨machine, hMachine⟩
  rcases username_of_problems hUsername with ⟨username, hUsername⟩
  refine ⟨hBefore, ?_, password_of_problems hPassword, ?_⟩
  · unfold sealProblems at hSeal
    exact only_eq_nil.mp hSeal
  · refine ⟨specOf w machine username, ?_, rfl⟩
    unfold declareWritten at hNone ⊢
    simp only [hMachine, hUsername] at hNone ⊢
    exact (add_accepted hNone).2

theorem declare_accepted
    {ctx : Context}
    {declared : Declared}
    {entry : Yaml × Nat}
    (hNone :
      (declare py env seals ctx declared entry).errors = []) :
    declared.errors = [] ∧
      (∃ entries, entry.1.entries? = some entries ∧
        AcceptedPassword seals entries) ∧
      ∃ spec,
        (declare py env seals ctx declared entry).specs =
          declared.specs ++ [spec] ∧
        spec.password = passwordOf seals entry.1 := by
  unfold declare passwordOf at *
  cases hItem : entry.1.entries? with
  | none =>
      simp only [hItem, report_errors,
        List.append_eq_nil_iff] at hNone
      cases hNone.2
  | some entries =>
      simp only [hItem] at hNone ⊢
      rcases declareWritten_accepted hNone with
        ⟨hBefore, hOpens, hSome, hSpec⟩
      exact ⟨hBefore, ⟨entries, rfl, ⟨hOpens, hSome⟩⟩, hSpec⟩

theorem foldl_declare_accepted
    {ctx : Context}
    {entries : List (Yaml × Nat)}
    {declared : Declared}
    (hNone : (entries.foldl (declare py env seals ctx)
      declared).errors = []) :
    declared.errors = [] ∧
      (∀ entry ∈ entries, ∃ item, entry.1.entries? = some item ∧
        AcceptedPassword seals item) ∧
      (entries.foldl (declare py env seals ctx)
          declared).specs.map AccountSpec.password =
        declared.specs.map AccountSpec.password ++
          entries.map (fun entry => passwordOf seals entry.1) := by
  induction entries generalizing declared with
  | nil =>
      refine ⟨hNone,
        fun entry hMem => absurd hMem List.not_mem_nil, ?_⟩
      exact (List.append_nil _).symm
  | cons entry entries ih =>
      rcases ih hNone with ⟨hStep, hLater, hSpecs⟩
      rcases declare_accepted hStep with
        ⟨hBefore, hHere, spec, hAdded, hPassword⟩
      refine ⟨hBefore, ?_, ?_⟩
      · intro entry' hMem
        rcases List.mem_cons.mp hMem with hSame | hMem
        · exact hSame ▸ hHere
        · exact hLater entry' hMem
      · rw [List.foldl_cons, hSpecs, hAdded, List.map_append,
          List.map_singleton, hPassword, List.append_assoc,
          List.map_cons, List.singleton_append]

/- One account for each item, with the item's own password. -/
theorem declareAll_accepted
    {ctx : Context}
    {items : List Yaml}
    (hNone : (declareAll py env seals ctx items).errors = []) :
    (∀ item ∈ items, ∃ entries, item.entries? = some entries ∧
        AcceptedPassword seals entries) ∧
      (declareAll py env seals ctx items).specs.map
          AccountSpec.password =
        items.map (passwordOf seals) := by
  rcases foldl_declare_accepted hNone with ⟨_, hItems, hSpecs⟩
  refine ⟨?_, ?_⟩
  · intro item hMem
    rcases List.mem_iff_getElem.mp hMem with ⟨i, hi, hItem⟩
    exact hItems (item, i)
      (List.mem_zipIdx_iff_getElem?.mpr
        (List.getElem?_eq_some_iff.mpr ⟨hi, hItem⟩))
  · have hFirst : (fun entry : Yaml × Nat =>
        passwordOf seals entry.1) = passwordOf seals ∘ Prod.fst :=
      rfl
    unfold declareAll
    rw [hSpecs, hFirst, ← List.map_map, List.zipIdx_map_fst]
    rfl

/- The accounts of the document, where it has a list of them. -/
def accountsOf (doc : Yaml) : List Yaml :=
  match doc.entries? with
  | some entries =>
      match Yaml.getD entries "accounts" with
      | .seq items => items
      | _ => []
  | none => []

theorem parse_accepted
    {doc : Yaml}
    {specs : List AccountSpec}
    (hAccepted : parse py env seals doc = some (specs, [])) :
    (∀ item ∈ accountsOf doc, ∃ entries,
        item.entries? = some entries ∧
        AcceptedPassword seals entries) ∧
      specs.map AccountSpec.password =
        (accountsOf doc).map (passwordOf seals) := by
  have hNothing (hSpecs : specs = [])
      (hAccounts : accountsOf doc = []) :
      (∀ item ∈ accountsOf doc, ∃ entries,
          item.entries? = some entries ∧
          AcceptedPassword seals entries) ∧
        specs.map AccountSpec.password =
          (accountsOf doc).map (passwordOf seals) := by
    rw [hSpecs, hAccounts]
    exact ⟨fun item hMem => absurd hMem List.not_mem_nil, rfl⟩
  unfold parse at hAccepted
  cases hDoc : doc.entries? with
  | none =>
      simp only [hDoc] at hAccepted
      cases hAccepted
      exact hNothing rfl (by simp only [accountsOf, hDoc])
  | some entries =>
      simp only [hDoc] at hAccepted
      split at hAccepted
      · rename_i hNull
        cases hAccepted
        exact hNothing rfl (by simp only [accountsOf, hDoc, hNull])
      · rename_i items hItems
        have hAccounts : accountsOf doc = items := by
          simp only [accountsOf, hDoc, hItems]
        split at hAccepted
        · cases hAccepted
        · rcases Option.map_eq_some_iff.mp hAccepted with
            ⟨ctx, _, hResult⟩
          rcases Prod.mk.inj hResult with ⟨hSpecs, hErrors⟩
          rw [if_pos hErrors] at hSpecs
          rw [hAccounts, ← hSpecs]
          exact declareAll_accepted hErrors
      · cases hAccepted

end TemplateAccounts

end TrueNorth
