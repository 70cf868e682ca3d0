import Mathlib.Data.List.Infix

/-
  YAML documents as they are loaded: scalars, sequences, and
  mappings with scalar keys in the order of the document.

  Key definitions include:
    * `Scalar`, `Yaml`
    * `Yaml.get?`, `Yaml.set`
    * `Yaml.scalars`
    * `Yaml.mapScalars`
    * `Yaml.KeysApart`

  Main theorems:
    * `Yaml.get?_set_of_ne`, `Yaml.get?_set_self`
    * `Yaml.mem_scalars_mapScalars`
    * `Yaml.scalars_mapScalars`
-/

--------
-- Documents
--------

/- `other`: a fraction or a date, as it is written. -/
inductive Scalar where
  | null
  | bool (value : Bool)
  | int (value : Int)
  | str (text : String)
  | other (text : String) (truth : Bool)
deriving DecidableEq

inductive Yaml where
  | scalar (s : Scalar)
  | seq (items : List Yaml)
  | map (entries : List (Scalar × Yaml))

namespace Scalar

def text : Scalar → String
| null => "null"
| bool value => if value then "true" else "false"
| int value => toString value
| str text => text
| other text _ => text

def isText : Scalar → Bool
| str _ => true
| _ => false

end Scalar

namespace Yaml

abbrev str (text : String) : Yaml :=
  .scalar (.str text)

abbrev null : Yaml :=
  .scalar .null

/- `value.get(key)` -/
def get?
    (entries : List (Scalar × Yaml))
    (key : String) : Option Yaml :=
  (entries.find? (fun entry => entry.1 = .str key)).map Prod.snd

/- `value[key] = v` of a key that is there. -/
def set
    (entries : List (Scalar × Yaml))
    (key : String)
    (v : Yaml) : List (Scalar × Yaml) :=
  entries.map (fun entry =>
    if entry.1 = .str key then (entry.1, v) else entry)

/- A lookup that takes a null for nothing. -/
def getD
    (entries : List (Scalar × Yaml))
    (key : String) : Yaml :=
  (get? entries key).getD null

def truthy : Yaml → Bool
| .scalar .null => false
| .scalar (.bool value) => value
| .scalar (.int value) => value ≠ 0
| .scalar (.str text) => text ≠ ""
| .scalar (.other _ truth) => truth
| .seq items => !items.isEmpty
| .map entries => !entries.isEmpty

def isNull : Yaml → Bool
| .scalar .null => true
| _ => false

def text? : Yaml → Option String
| .scalar (.str text) => some text
| _ => none

def bool? : Yaml → Option Bool
| .scalar (.bool value) => some value
| _ => none

def entries? : Yaml → Option (List (Scalar × Yaml))
| .map entries => some entries
| _ => none

theorem get?_cons
    (entry : Scalar × Yaml)
    (entries : List (Scalar × Yaml))
    (key : String) :
    get? (entry :: entries) key =
      if entry.1 = .str key then some entry.2
      else get? entries key := by
  unfold get?
  rw [List.find?_cons]
  by_cases hHere : entry.1 = .str key
  · rw [if_pos hHere, decide_eq_true hHere]
    rfl
  · rw [if_neg hHere, decide_eq_false hHere]

theorem set_cons
    (entry : Scalar × Yaml)
    (entries : List (Scalar × Yaml))
    (key : String)
    (v : Yaml) :
    set (entry :: entries) key v =
      (if entry.1 = .str key then (entry.1, v) else entry) ::
        set entries key v :=
  rfl

/- The other keys keep their values, whatever is set. -/
theorem get?_set_of_ne
    {entries : List (Scalar × Yaml)}
    {key key' : String}
    (hOther : key' ≠ key)
    (v : Yaml) :
    get? (set entries key v) key' = get? entries key' := by
  induction entries with
  | nil => rfl
  | cons entry entries ih =>
      rw [set_cons, get?_cons, get?_cons, ih]
      by_cases hHere : entry.1 = .str key
      · have hNot : ¬entry.1 = .str key' := fun hSame =>
          hOther (Scalar.str.inj (hSame.symm.trans hHere))
        rw [if_pos hHere, if_neg hNot, if_neg hNot]
      · rw [if_neg hHere]

theorem get?_set_self
    (entries : List (Scalar × Yaml))
    (key : String)
    (v : Yaml) :
    get? (set entries key v) key =
      (get? entries key).map (fun _ => v) := by
  induction entries with
  | nil => rfl
  | cons entry entries ih =>
      rw [set_cons, get?_cons, get?_cons, ih]
      by_cases hHere : entry.1 = .str key
      · rw [if_pos hHere, if_pos hHere, if_pos hHere]
        rfl
      · rw [if_neg hHere, if_neg hHere, if_neg hHere]

theorem keys_set
    (entries : List (Scalar × Yaml))
    (key : String)
    (v : Yaml) :
    (set entries key v).map Prod.fst = entries.map Prod.fst := by
  unfold set
  rw [List.map_map]
  refine List.map_congr_left (fun entry _ => ?_)
  show (if entry.1 = .str key then (entry.1, v) else entry).1 = _
  split <;> rfl

--------
-- All Scalars Of A Document
--------

mutual

/- Keys and values, inside any nesting. -/
def scalars : Yaml → List Scalar
| .scalar s => [s]
| .seq items => itemScalars items
| .map entries => entryScalars entries

def itemScalars : List Yaml → List Scalar
| [] => []
| item :: items => scalars item ++ itemScalars items

def entryScalars : List (Scalar × Yaml) → List Scalar
| [] => []
| entry :: entries =>
    entry.1 :: (scalars entry.2 ++ entryScalars entries)

end

theorem mem_entryScalars
    {s : Scalar}
    {entries : List (Scalar × Yaml)} :
    s ∈ entryScalars entries ↔
      ∃ entry ∈ entries, s = entry.1 ∨ s ∈ scalars entry.2 := by
  induction entries with
  | nil => simp [entryScalars]
  | cons entry entries ih =>
      rw [entryScalars, List.mem_cons, List.mem_append, ih]
      constructor
      · rintro (hKey | hHere | ⟨entry', hMem, hIn⟩)
        · exact ⟨entry, List.mem_cons_self, .inl hKey⟩
        · exact ⟨entry, List.mem_cons_self, .inr hHere⟩
        · exact ⟨entry', List.mem_cons_of_mem _ hMem, hIn⟩
      · rintro ⟨entry', hMem, hIn⟩
        rcases List.mem_cons.mp hMem with hHere | hLater
        · rw [hHere] at hIn
          exact hIn.imp_right .inl
        · exact .inr (.inr ⟨entry', hLater, hIn⟩)

--------
-- Mappings Built Anew
--------

/- `d[key] = v`: replaced in its place, or added at the end. -/
def insert
    (entries : List (Scalar × Yaml))
    (entry : Scalar × Yaml) : List (Scalar × Yaml) :=
  if entries.any (fun old => old.1 = entry.1) then
    entries.map (fun old =>
      if old.1 = entry.1 then (old.1, entry.2) else old)
  else entries ++ [entry]

/- A mapping built entry by entry: the last of a key counts. -/
def ofEntries (entries : List (Scalar × Yaml)) :
    List (Scalar × Yaml) :=
  entries.foldl insert []

theorem mem_insert
    {entries : List (Scalar × Yaml)}
    {entry entry' : Scalar × Yaml}
    (hMem : entry' ∈ insert entries entry) :
    entry' ∈ entries ∨ entry' = entry := by
  unfold insert at hMem
  split at hMem
  · rcases List.mem_map.mp hMem with ⟨old, hOld, hSame⟩
    by_cases hKey : old.1 = entry.1
    · rw [if_pos hKey, hKey] at hSame
      exact .inr hSame.symm
    · rw [if_neg hKey] at hSame
      exact .inl (hSame ▸ hOld)
  · rcases List.mem_append.mp hMem with hOld | hNew
    · exact .inl hOld
    · exact .inr (List.mem_singleton.mp hNew)

theorem mem_foldl_insert
    {entries acc : List (Scalar × Yaml)}
    {entry : Scalar × Yaml}
    (hMem : entry ∈ entries.foldl insert acc) :
    entry ∈ acc ∨ entry ∈ entries := by
  induction entries generalizing acc with
  | nil => exact .inl hMem
  | cons new entries ih =>
      rcases ih hMem with hAcc | hLater
      · rcases mem_insert hAcc with hOld | hNew
        · exact .inl hOld
        · exact .inr (hNew ▸ List.mem_cons_self)
      · exact .inr (List.mem_cons_of_mem _ hLater)

/- Of the entries, none is made up. -/
theorem mem_ofEntries
    {entries : List (Scalar × Yaml)}
    {entry : Scalar × Yaml}
    (hMem : entry ∈ ofEntries entries) :
    entry ∈ entries := by
  rcases mem_foldl_insert hMem with hNone | hSome
  · cases hNone
  · exact hSome

theorem foldl_insert_eq_append
    {entries acc : List (Scalar × Yaml)}
    (hKeys : ((acc ++ entries).map Prod.fst).Nodup) :
    entries.foldl insert acc = acc ++ entries := by
  induction entries generalizing acc with
  | nil => exact (List.append_nil acc).symm
  | cons new entries ih =>
      have hSplit : acc ++ new :: entries =
          (acc ++ [new]) ++ entries := by
        rw [List.append_assoc, List.singleton_append]
      have hNew : insert acc new = acc ++ [new] := by
        unfold insert
        rw [if_neg]
        intro hAny
        rcases List.any_eq_true.mp hAny with ⟨old, hOld, hSame⟩
        rw [List.map_append, List.map_cons,
          List.nodup_append] at hKeys
        exact hKeys.2.2 old.1 (List.mem_map_of_mem hOld) new.1
          List.mem_cons_self (of_decide_eq_true hSame)
      rw [hSplit] at hKeys ⊢
      rw [List.foldl_cons, hNew, ih hKeys]

/- Distinct keys: the mapping is its entries. -/
theorem ofEntries_eq_self
    {entries : List (Scalar × Yaml)}
    (hKeys : (entries.map Prod.fst).Nodup) :
    ofEntries entries = entries :=
  foldl_insert_eq_append hKeys

--------
-- Every Scalar Changed
--------

mutual

/- The document with every scalar changed, keys too. -/
def mapScalars (f : Scalar → Scalar) : Yaml → Yaml
| .scalar s => .scalar (f s)
| .seq items => .seq (mapItems f items)
| .map entries => .map (ofEntries (mapEntries f entries))

def mapItems (f : Scalar → Scalar) : List Yaml → List Yaml
| [] => []
| item :: items => mapScalars f item :: mapItems f items

def mapEntries (f : Scalar → Scalar) :
    List (Scalar × Yaml) → List (Scalar × Yaml)
| [] => []
| entry :: entries =>
    (f entry.1, mapScalars f entry.2) :: mapEntries f entries

end

mutual

/- In every mapping the changed keys are distinct. -/
def KeysApart (f : Scalar → Scalar) : Yaml → Prop
| .scalar _ => True
| .seq items => ItemsApart f items
| .map entries =>
    (entries.map (fun entry => f entry.1)).Nodup ∧
      EntriesApart f entries

def ItemsApart (f : Scalar → Scalar) : List Yaml → Prop
| [] => True
| item :: items => KeysApart f item ∧ ItemsApart f items

def EntriesApart (f : Scalar → Scalar) :
    List (Scalar × Yaml) → Prop
| [] => True
| entry :: entries =>
    KeysApart f entry.2 ∧ EntriesApart f entries

end

theorem keys_mapEntries
    (f : Scalar → Scalar)
    (entries : List (Scalar × Yaml)) :
    (mapEntries f entries).map Prod.fst =
      entries.map (fun entry => f entry.1) := by
  induction entries with
  | nil => rfl
  | cons entry entries ih =>
      rw [mapEntries, List.map_cons, List.map_cons, ih]

mutual

/- Every scalar of the changed document is one that was changed. -/
theorem mem_scalars_mapScalars
    (f : Scalar → Scalar)
    (v : Yaml)
    (s : Scalar)
    (hMem : s ∈ scalars (mapScalars f v)) :
    s ∈ (scalars v).map f := by
  match v with
  | .scalar s' => exact hMem
  | .seq items => exact mem_itemScalars_mapItems f items s hMem
  | .map entries =>
      refine mem_entryScalars_mapEntries f entries s ?_
      rw [mapScalars, scalars] at hMem
      rcases mem_entryScalars.mp hMem with ⟨entry, hEntry, hIn⟩
      exact mem_entryScalars.mpr ⟨entry, mem_ofEntries hEntry, hIn⟩

theorem mem_itemScalars_mapItems
    (f : Scalar → Scalar)
    (items : List Yaml)
    (s : Scalar)
    (hMem : s ∈ itemScalars (mapItems f items)) :
    s ∈ (itemScalars items).map f := by
  match items with
  | [] => exact hMem
  | item :: items =>
      rw [mapItems, itemScalars] at hMem
      rw [itemScalars, List.map_append]
      rcases List.mem_append.mp hMem with hHere | hLater
      · exact List.mem_append_left _
          (mem_scalars_mapScalars f item s hHere)
      · exact List.mem_append_right _
          (mem_itemScalars_mapItems f items s hLater)

theorem mem_entryScalars_mapEntries
    (f : Scalar → Scalar)
    (entries : List (Scalar × Yaml))
    (s : Scalar)
    (hMem : s ∈ entryScalars (mapEntries f entries)) :
    s ∈ (entryScalars entries).map f := by
  match entries with
  | [] => exact hMem
  | entry :: entries =>
      rw [mapEntries, entryScalars] at hMem
      rw [entryScalars, List.map_cons, List.map_append]
      rcases List.mem_cons.mp hMem with hKey | hMore
      · exact List.mem_cons.mpr (.inl hKey)
      · rcases List.mem_append.mp hMore with hHere | hLater
        · exact List.mem_cons_of_mem _ (List.mem_append_left _
            (mem_scalars_mapScalars f entry.2 s hHere))
        · exact List.mem_cons_of_mem _ (List.mem_append_right _
            (mem_entryScalars_mapEntries f entries s hLater))

end

mutual

/- Nothing is lost where the changed keys are distinct. -/
theorem scalars_mapScalars
    (f : Scalar → Scalar)
    (v : Yaml)
    (hApart : KeysApart f v) :
    scalars (mapScalars f v) = (scalars v).map f := by
  match v with
  | .scalar s' => rfl
  | .seq items => exact itemScalars_mapItems f items hApart
  | .map entries =>
      have hKeys : ((mapEntries f entries).map Prod.fst).Nodup := by
        rw [keys_mapEntries]
        exact hApart.1
      rw [mapScalars, scalars, ofEntries_eq_self hKeys]
      exact entryScalars_mapEntries f entries hApart.2

theorem itemScalars_mapItems
    (f : Scalar → Scalar)
    (items : List Yaml)
    (hApart : ItemsApart f items) :
    itemScalars (mapItems f items) = (itemScalars items).map f := by
  match items with
  | [] => rfl
  | item :: items =>
      rw [mapItems, itemScalars, itemScalars, List.map_append,
        scalars_mapScalars f item hApart.1,
        itemScalars_mapItems f items hApart.2]

theorem entryScalars_mapEntries
    (f : Scalar → Scalar)
    (entries : List (Scalar × Yaml))
    (hApart : EntriesApart f entries) :
    entryScalars (mapEntries f entries) =
      (entryScalars entries).map f := by
  match entries with
  | [] => rfl
  | entry :: entries =>
      rw [mapEntries, entryScalars, entryScalars, List.map_cons,
        List.map_append, scalars_mapScalars f entry.2 hApart.1,
        entryScalars_mapEntries f entries hApart.2]

end

end Yaml
