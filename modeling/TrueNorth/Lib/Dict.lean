import Mathlib.Data.List.Nodup

/-
  Dictionaries in insertion order: a list of entries whose
  keys are distinct, so that a lookup and a membership say
  the same.

  Main declarations:
    * `Dict`
    * `Dict.get?_eq_some_iff`
    * `Dict.fromkeys`
    * `Dict.collect`
    * `Dict.ofPairs`
    * `Dict.update`
    * `Dict.setdefault`
    * `Dict.set`
-/

--------
-- Distinct Keys
--------

namespace Dict

variable {K : Type}
variable [DecidableEq K]

/- The keys in order of their first occurrence. -/
def fromkeys : List K → List K
| [] => []
| k :: ks => k :: (fromkeys ks).filter (fun k' => k' ≠ k)

@[simp] theorem mem_fromkeys
    {k : K}
    {ks : List K} :
    k ∈ fromkeys ks ↔ k ∈ ks := by
  induction ks with
  | nil => simp [fromkeys]
  | cons k' ks ih =>
      simp only [fromkeys, List.mem_cons, List.mem_filter,
        ih, decide_eq_true_eq]
      by_cases hk : k = k' <;> simp [hk]

theorem filter_fromkeys
    (p : K → Bool)
    (ks : List K) :
    (fromkeys ks).filter p = fromkeys (ks.filter p) := by
  induction ks with
  | nil => rfl
  | cons k ks ih =>
      have hOthers :
          ((fromkeys ks).filter (fun k' => k' ≠ k)).filter p =
            (fromkeys (ks.filter p)).filter (fun k' => k' ≠ k) := by
        rw [← ih, List.filter_filter, List.filter_filter]
        simp only [Bool.and_comm]
      by_cases hk : p k = true
      · rw [fromkeys, List.filter_cons_of_pos hk,
          List.filter_cons_of_pos hk, fromkeys, hOthers]
      · rw [fromkeys, List.filter_cons_of_neg hk,
          List.filter_cons_of_neg hk, hOthers]
        apply List.filter_eq_self.mpr
        intro k' hMem
        rw [mem_fromkeys, List.mem_filter] at hMem
        rw [decide_eq_true_eq]
        rintro rfl
        exact hk hMem.2

theorem nodup_fromkeys
    (ks : List K) :
    (fromkeys ks).Nodup := by
  induction ks with
  | nil => exact List.nodup_nil
  | cons k ks ih =>
      refine List.nodup_cons.mpr ⟨?_, ih.filter _⟩
      simp

end Dict

--------
-- Dictionaries
--------

structure Dict (K V : Type) where
  entries : List (K × V)
  nodup : (entries.map Prod.fst).Nodup
deriving DecidableEq

namespace Dict

variable {K V : Type}
variable [DecidableEq K]

def empty : Dict K V where
  entries := []
  nodup := List.nodup_nil

def keys (d : Dict K V) : List K :=
  d.entries.map Prod.fst

def get?
    (d : Dict K V)
    (k : K) : Option V :=
  (d.entries.find? (fun entry => entry.1 = k)).map Prod.snd

private theorem find?_iff
    {entries : List (K × V)}
    (hNodup : (entries.map Prod.fst).Nodup)
    {k : K}
    {v : V} :
    (entries.find? (fun entry => entry.1 = k)).map Prod.snd =
        some v ↔
      (k, v) ∈ entries := by
  induction entries with
  | nil => simp
  | cons entry entries ih =>
      rcases entry with ⟨k', v'⟩
      rw [List.map_cons, List.nodup_cons] at hNodup
      rcases hNodup with ⟨hFirst, hRest⟩
      by_cases hk : k' = k
      · rw [List.find?_cons]
        simp only [hk, decide_true, Option.map_some,
          Option.some.injEq, List.mem_cons, Prod.mk.injEq,
          true_and]
        constructor
        · intro hv
          exact .inl hv.symm
        · rintro (hv | hMem)
          · exact hv.symm
          · exfalso
            apply hFirst
            rw [hk]
            exact List.mem_map.mpr ⟨(k, v), hMem, rfl⟩
      · rw [List.find?_cons]
        simp only [hk, decide_false, List.mem_cons,
          Prod.mk.injEq]
        rw [ih hRest]
        constructor
        · exact .inr
        · rintro (⟨hSame, _⟩ | hMem)
          · exact absurd hSame.symm hk
          · exact hMem

/- What one of the entries gives, found by its own key. -/
theorem find?_filterMap
    {W : Type}
    {entries : List (K × V)}
    (hNodup : (entries.map Prod.fst).Nodup)
    {f : K × V → Option W}
    {g : W → K}
    (hName : ∀ entry ∈ entries, ∀ w, f entry = some w →
      g w = entry.1)
    {k : K}
    {v : V}
    (hMem : (k, v) ∈ entries) :
    (entries.filterMap f).find? (fun w => g w = k) =
      f (k, v) := by
  induction entries with
  | nil => cases hMem
  | cons entry entries ih =>
      rw [List.map_cons, List.nodup_cons] at hNodup
      have hRest : ∀ entry' ∈ entries, ∀ w,
          f entry' = some w → g w = entry'.1 := by
        intro entry' hIn
        exact hName entry' (List.mem_cons_of_mem _ hIn)
      have hOwn := hName entry List.mem_cons_self
      rcases List.mem_cons.mp hMem with rfl | hIn
      · cases hf : f (k, v) with
        | some w =>
            rw [List.filterMap_cons_some hf, List.find?_cons]
            simp [hOwn w hf]
        | none =>
            rw [List.filterMap_cons_none hf]
            apply List.find?_eq_none.mpr
            intro w hw
            rcases List.mem_filterMap.mp hw with
              ⟨entry', hIn, hSome⟩
            rw [hRest entry' hIn w hSome, decide_eq_true_eq]
            intro hSame
            apply hNodup.1
            exact List.mem_map.mpr ⟨entry', hIn, hSame⟩
      · have hOther : entry.1 ≠ k := by
          rintro rfl
          exact hNodup.1 (List.mem_map.mpr ⟨_, hIn, rfl⟩)
        cases hf : f entry with
        | none =>
            rw [List.filterMap_cons_none hf]
            exact ih hNodup.2 hRest hIn
        | some w =>
            rw [List.filterMap_cons_some hf,
              List.find?_cons_of_neg
                (by simpa [hOwn w hf] using hOther)]
            exact ih hNodup.2 hRest hIn

/- A lookup finds exactly the entries. -/
theorem get?_eq_some_iff
    {d : Dict K V}
    {k : K}
    {v : V} :
    d.get? k = some v ↔ (k, v) ∈ d.entries :=
  find?_iff d.nodup

theorem mem_keys
    {d : Dict K V}
    {k : K} :
    k ∈ d.keys ↔ ∃ v, d.get? k = some v := by
  unfold keys
  constructor
  · intro hMem
    rcases List.mem_map.mp hMem with ⟨⟨k', v⟩, hEntry, rfl⟩
    exact ⟨v, get?_eq_some_iff.mpr hEntry⟩
  · rintro ⟨v, hGet⟩
    exact List.mem_map.mpr
      ⟨(k, v), get?_eq_some_iff.mp hGet, rfl⟩

theorem get?_eq_none_iff
    {d : Dict K V}
    {k : K} :
    d.get? k = none ↔ k ∉ d.keys := by
  rw [mem_keys]
  cases d.get? k <;> simp

/- The entries that satisfy a test. -/
def filter
    (d : Dict K V)
    (p : K → V → Bool) : Dict K V where
  entries := d.entries.filter (fun entry => p entry.1 entry.2)
  nodup := d.nodup.sublist (List.filter_sublist.map _)

theorem get?_filter
    {d : Dict K V}
    {p : K → V → Bool}
    {k : K}
    {v : V} :
    (d.filter p).get? k = some v ↔
      d.get? k = some v ∧ p k v = true := by
  rw [get?_eq_some_iff, get?_eq_some_iff]
  simp [filter]

theorem mem_keys_filter
    {d : Dict K V}
    {p : K → Bool}
    {k : K} :
    k ∈ (d.filter (fun k _ => p k)).keys ↔
      k ∈ d.keys ∧ p k = true := by
  simp only [mem_keys, get?_filter]
  constructor
  · rintro ⟨v, hGet, hp⟩
    exact ⟨⟨v, hGet⟩, hp⟩
  · rintro ⟨⟨v, hGet⟩, hp⟩
    exact ⟨v, hGet, hp⟩

/- Every value, changed along with its key. -/
def mapValues
    {W : Type}
    (d : Dict K V)
    (f : K → V → W) : Dict K W where
  entries :=
    d.entries.map (fun entry => (entry.1, f entry.1 entry.2))
  nodup := by
    rw [List.map_map]
    exact d.nodup

omit [DecidableEq K] in
theorem mem_keys_mapValues
    {W : Type}
    {d : Dict K V}
    {f : K → V → W}
    {k : K} :
    k ∈ (d.mapValues f).keys ↔ k ∈ d.keys := by
  simp [keys, mapValues]

/- `f` at each of the keys where it has a value. -/
def collect
    (ks : List K)
    (f : K → Option V) : Dict K V where
  entries :=
    (fromkeys ks).filterMap (fun k => (f k).map (fun v => (k, v)))
  nodup := by
    have hKeys :
        ((fromkeys ks).filterMap
          (fun k => (f k).map (fun v => (k, v)))).map
            Prod.fst =
          (fromkeys ks).filter (fun k => (f k).isSome) := by
      induction fromkeys ks with
      | nil => rfl
      | cons k ks ih =>
          cases hk : f k <;> simp [hk, ih]
    rw [hKeys]
    exact (nodup_fromkeys ks).filter _

theorem get?_collect
    {ks : List K}
    {f : K → Option V}
    {k : K}
    {v : V} :
    (collect ks f).get? k = some v ↔ k ∈ ks ∧ f k = some v := by
  rw [get?_eq_some_iff]
  simp only [collect, List.mem_filterMap, mem_fromkeys,
    Option.map_eq_some_iff, Prod.mk.injEq]
  constructor
  · rintro ⟨k', hMem, v', hf, rfl, rfl⟩
    exact ⟨hMem, hf⟩
  · rintro ⟨hMem, hf⟩
    exact ⟨k, hMem, v, hf, rfl, rfl⟩

/- The pairs in order; a later one overwrites. -/
def ofPairs (pairs : List (K × V)) : Dict K V :=
  collect (pairs.map Prod.fst)
    (fun k =>
      (pairs.reverse.find? (fun pair => pair.1 = k)).map
        Prod.snd)

theorem get?_ofPairs
    {pairs : List (K × V)}
    (hNodup : (pairs.map Prod.fst).Nodup)
    {k : K}
    {v : V} :
    (ofPairs pairs).get? k = some v ↔ (k, v) ∈ pairs := by
  have hReverse : (pairs.reverse.map Prod.fst).Nodup := by
    rw [List.map_reverse]
    exact List.nodup_reverse.mpr hNodup
  unfold ofPairs
  rw [get?_collect, find?_iff hReverse, List.mem_reverse]
  constructor
  · exact fun h => h.2
  · exact fun h => ⟨List.mem_map_of_mem h, h⟩

theorem mem_keys_ofPairs
    {pairs : List (K × V)}
    {k : K} :
    k ∈ (ofPairs pairs).keys ↔ k ∈ pairs.map Prod.fst := by
  unfold ofPairs
  simp only [mem_keys, get?_collect, exists_and_left]
  apply and_iff_left_of_imp
  intro hMem
  rcases List.mem_map.mp hMem with ⟨pair, hPair, hk⟩
  cases hFind :
      pairs.reverse.find? (fun pair => pair.1 = k) with
  | some found => exact ⟨found.2, rfl⟩
  | none =>
      have hNone := List.find?_eq_none.mp hFind pair
        (List.mem_reverse.mpr hPair)
      rw [decide_eq_true_eq] at hNone
      exact absurd hk hNone

/- What is found was among the pairs. -/
theorem mem_of_get?_ofPairs
    {pairs : List (K × V)}
    {k : K}
    {v : V}
    (hGet : (ofPairs pairs).get? k = some v) :
    (k, v) ∈ pairs := by
  unfold ofPairs at hGet
  have hFound := (get?_collect.mp hGet).2
  rcases Option.map_eq_some_iff.mp hFound with
    ⟨pair, hFind, rfl⟩
  have hKey : pair.1 = k := by
    simpa using List.find?_some hFind
  rw [← hKey]
  exact List.mem_reverse.mp (List.mem_of_find?_eq_some hFind)

/- The entries of `e` over those of `d`. -/
def update (d e : Dict K V) : Dict K V :=
  collect (d.keys ++ e.keys) (fun k => (e.get? k).or (d.get? k))

theorem get?_update
    {d e : Dict K V}
    {k : K} :
    (d.update e).get? k = (e.get? k).or (d.get? k) := by
  apply Option.ext
  intro v
  unfold update
  rw [get?_collect]
  constructor
  · exact fun h => h.2
  · intro h
    refine ⟨?_, h⟩
    rw [List.mem_append, mem_keys, mem_keys]
    cases he : e.get? k with
    | some w => exact .inr ⟨w, rfl⟩
    | none =>
        rw [he] at h
        exact .inl ⟨v, by simpa using h⟩

/- `e`'s entries where `d` has none. -/
def setdefaults (d e : Dict K V) : Dict K V :=
  e.update d

theorem mem_keys_setdefaults
    {d e : Dict K V}
    {k : K} :
    k ∈ (d.setdefaults e).keys ↔ k ∈ d.keys ∨ k ∈ e.keys := by
  rw [mem_keys, setdefaults, get?_update, mem_keys, mem_keys]
  cases hd : d.get? k <;> cases he : e.get? k <;> simp

--------
-- One Entry
--------

variable {K V : Type}
variable [DecidableEq K]

/- `d[k] = v`: the entry is replaced, or added at the end. -/
def set
    (d : Dict K V)
    (k : K)
    (v : V) : Dict K V :=
  if h : k ∈ d.keys then
    d.mapValues (fun k' old => if k' = k then v else old)
  else
    { entries := d.entries ++ [(k, v)]
      nodup := by
        rw [List.map_append]
        refine List.nodup_append.mpr
          ⟨d.nodup, by simp, ?_⟩
        intro a hOld b hNew
        rw [List.map_singleton, List.mem_singleton] at hNew
        rw [hNew]
        rintro rfl
        exact h hOld }

theorem get?_mapValues
    {W : Type}
    {d : Dict K V}
    {f : K → V → W}
    {k : K} :
    (d.mapValues f).get? k = (d.get? k).map (f k) := by
  apply Option.ext
  intro w
  rw [get?_eq_some_iff, Option.map_eq_some_iff]
  constructor
  · intro hMem
    rcases List.mem_map.mp hMem with ⟨⟨k', v⟩, hEntry, hSame⟩
    rw [Prod.mk.injEq] at hSame
    rcases hSame with ⟨rfl, rfl⟩
    exact ⟨v, get?_eq_some_iff.mpr hEntry, rfl⟩
  · rintro ⟨v, hGet, rfl⟩
    exact List.mem_map.mpr
      ⟨(k, v), get?_eq_some_iff.mp hGet, rfl⟩

theorem get?_set
    (d : Dict K V)
    (k k' : K)
    (v : V) :
    (d.set k v).get? k' =
      if k' = k then some v else d.get? k' := by
  unfold set
  by_cases hMem : k ∈ d.keys
  · rw [dif_pos hMem, get?_mapValues]
    by_cases hk : k' = k
    · rcases mem_keys.mp hMem with ⟨old, hGet⟩
      rw [if_pos hk, hk, hGet, Option.map_some, if_pos rfl]
    · simp only [hk, if_false, Option.map_id']
  · rw [dif_neg hMem]
    by_cases hk : k' = k
    · rw [if_pos hk, hk, get?_eq_some_iff]
      simp
    · rw [if_neg hk]
      apply Option.ext
      intro w
      rw [get?_eq_some_iff, get?_eq_some_iff]
      simp [hk]

theorem mapValues_set
    {W : Type}
    (d : Dict K V)
    (f : V → W)
    (k : K)
    (v : V) :
    (d.set k v).mapValues (fun _ => f) =
      (d.mapValues (fun _ => f)).set k (f v) := by
  unfold set
  by_cases hMem : k ∈ d.keys
  · rw [dif_pos hMem, dif_pos (mem_keys_mapValues.mpr hMem)]
    simp only [mapValues, List.map_map, mk.injEq]
    apply List.map_congr_left
    intro entry _
    simp only [Function.comp_apply, apply_ite f]
  · rw [dif_neg hMem,
      dif_neg (fun h => hMem (mem_keys_mapValues.mp h))]
    simp only [mapValues, List.map_append, List.map_singleton]

theorem length_keys_set_le
    (d : Dict K V)
    (k : K)
    (v : V) :
    (d.set k v).keys.length ≤ d.keys.length + 1 := by
  unfold set keys
  split
  · simp [mapValues]
  · simp

@[simp] theorem get?_set_self
    (d : Dict K V)
    (k : K)
    (v : V) :
    (d.set k v).get? k = some v := by
  rw [get?_set, if_pos rfl]

/- Values that are changed into themselves. -/
theorem mapValues_eq_self
    {d : Dict K V}
    {f : K → V → V}
    (hSame : ∀ k v, d.get? k = some v → f k v = v) :
    d.mapValues f = d := by
  rcases d with ⟨entries, hNodup⟩
  unfold mapValues
  rw [mk.injEq]
  calc
    entries.map (fun entry => (entry.1, f entry.1 entry.2)) =
        entries.map id := by
      apply List.map_congr_left
      intro entry hMem
      rw [hSame entry.1 entry.2 (get?_eq_some_iff.mpr hMem)]
      rfl
    _ = entries := List.map_id entries

/- Writing what is already there. -/
theorem set_get?
    {d : Dict K V}
    {k : K}
    {v : V}
    (hGet : d.get? k = some v) :
    d.set k v = d := by
  unfold set
  rw [dif_pos (mem_keys.mpr ⟨v, hGet⟩)]
  apply mapValues_eq_self
  intro k' old hOld
  by_cases hk : k' = k
  · rw [hk, hGet] at hOld
    cases hOld
    rw [if_pos hk]
  · rw [if_neg hk]

theorem get?_set_ne
    {d : Dict K V}
    {k k' : K}
    (hk : k' ≠ k)
    (v : V) :
    (d.set k v).get? k' = d.get? k' := by
  rw [get?_set, if_neg hk]

/- The entries, with one written, in some order. -/
theorem perm_set
    (d : Dict K V)
    (k : K)
    (v : V) :
    (d.set k v).entries.Perm
      ((k, v) :: d.entries.filter (fun entry =>
        entry.1 ≠ k)) := by
  apply (List.perm_ext_iff_of_nodup
    (List.Nodup.of_map _ (d.set k v).nodup) _).mpr
  · rintro ⟨k', v'⟩
    rw [← get?_eq_some_iff, get?_set, List.mem_cons,
      List.mem_filter, ← get?_eq_some_iff, Prod.mk.injEq,
      decide_eq_true_eq]
    by_cases hk : k' = k
    · rw [if_pos hk, Option.some.injEq]
      simp [hk, eq_comm]
    · rw [if_neg hk]
      simp [hk]
  · rw [List.nodup_cons]
    constructor
    · simp
    · exact (List.Nodup.of_map _ d.nodup).filter _

section

variable {W : Type}
variable {d : Dict K V}
variable {f : K × V → Option W}
variable {k : K}

/- An entry that gives nothing may be left out. -/
theorem filterMap_skip
    (hOld : ∀ v, d.get? k = some v → f (k, v) = none) :
    d.entries.filterMap (fun entry =>
        if entry.1 = k then none else f entry) =
      d.entries.filterMap f := by
  apply List.filterMap_congr
  rintro ⟨k', v⟩ hMem
  by_cases hk : k' = k
  · rw [if_pos hk]
    rw [hk] at hMem ⊢
    exact (hOld v (get?_eq_some_iff.mpr hMem)).symm
  · rw [if_neg hk]

/- An entry that gives nothing, once it is written. -/
theorem filterMap_set_none
    {v : V}
    (hNew : f (k, v) = none) :
    (d.set k v).entries.filterMap f =
      d.entries.filterMap (fun entry =>
        if entry.1 = k then none else f entry) := by
  unfold set
  by_cases hMem : k ∈ d.keys
  · rw [dif_pos hMem]
    unfold mapValues
    rw [List.filterMap_map]
    apply List.filterMap_congr
    rintro ⟨k', v'⟩ _
    simp only [Function.comp_apply]
    by_cases hk : k' = k
    · rw [if_pos hk, if_pos hk, hk]
      exact hNew
    · rw [if_neg hk, if_neg hk]
  · rw [dif_neg hMem, List.filterMap_append]
    simp only [List.filterMap_cons, hNew, List.filterMap_nil,
      List.append_nil]
    apply List.filterMap_congr
    rintro ⟨k', v'⟩ hEntry
    rw [if_neg]
    rintro rfl
    exact hMem (List.mem_map.mpr ⟨_, hEntry, rfl⟩)

/- Only what the entry gives counts. -/
theorem filterMap_set_same
    {v v' : V}
    (hGet : d.get? k = some v)
    (hSame : f (k, v') = f (k, v)) :
    (d.set k v').entries.filterMap f =
      d.entries.filterMap f := by
  unfold set
  rw [dif_pos (mem_keys.mpr ⟨v, hGet⟩)]
  unfold mapValues
  rw [List.filterMap_map]
  apply List.filterMap_congr
  rintro ⟨k', old⟩ hMem
  simp only [Function.comp_apply]
  by_cases hk : k' = k
  · rw [hk] at hMem ⊢
    rw [if_pos rfl, hSame]
    rw [get?_eq_some_iff.mpr hMem] at hGet
    cases hGet
    rfl
  · rw [if_neg hk]

/- An entry that gives something, once it is written. -/
theorem filterMap_set_some
    {v : V}
    {x : W}
    (hNew : f (k, v) = some x) :
    ((d.set k v).entries.filterMap f).Perm
      (x :: d.entries.filterMap (fun entry =>
        if entry.1 = k then none else f entry)) := by
  have hPerm := (perm_set d k v).filterMap f
  rw [List.filterMap_cons_some hNew] at hPerm
  refine hPerm.trans (List.Perm.cons x ?_)
  rw [List.filterMap_filter]
  apply List.Perm.of_eq
  apply List.filterMap_congr
  rintro ⟨k', v'⟩ _
  by_cases hk : k' = k
  · simp [hk]
  · simp [hk]

end

end Dict
