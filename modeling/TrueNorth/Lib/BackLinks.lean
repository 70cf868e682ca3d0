import TrueNorth.Lib.Dict
import Mathlib.Data.List.Perm.Basic

/-
  Keys that point back to keys: each has the key before it,
  or none.  What is walked from the one key that no other
  points back to, and when that is a chain of all the keys.

  Key definitions include:
    * `BackLinks.referenced`, `BackLinks.heads`
    * `BackLinks.walk`
    * `BackLinks.Steps`
    * `BackLinks.Linear`
    * `BackLinks.distinct`
    * `BackLinks.OneChain`

  Main theorems:
    * `BackLinks.walk_stops`
    * `BackLinks.walk_room`
    * `BackLinks.walk_path`
    * `BackLinks.linear_iff`
    * `BackLinks.oneChain_iff`
-/

--------
-- Walks
--------

namespace BackLinks

variable {K : Type}
variable [DecidableEq K]

/- The keys that some key points back to. -/
def referenced (d : Dict K (Option K)) : List K :=
  d.entries.filterMap Prod.snd

/- The keys that no key points back to. -/
def heads (d : Dict K (Option K)) : List K :=
  d.keys.filter (fun k => !decide (k ∈ referenced d))

/-
  Back from a key, as long as there is one and it was not
  visited yet: the keys visited, and where the walk stops.
-/
def walk (d : Dict K (Option K)) :
    Nat → List K → Option K → List K × Option K
| 0, visited, at? => (visited, at?)
| _ + 1, visited, none => (visited, none)
| n + 1, visited, some k =>
    match d.get? k with
    | none => (visited, some k)
    | some p =>
        if k ∈ visited then (visited, some k)
        else walk d n (visited ++ [k]) p

/- Some keys lie on the way from one place to another. -/
inductive Steps (d : Dict K (Option K)) :
    Option K → List K → Option K → Prop where
| stay (at? : Option K) : Steps d at? [] at?
| back
    {k : K}
    {p stop : Option K}
    {ks : List K}
    (hBefore : d.get? k = some p)
    (hRest : Steps d p ks stop) :
    Steps d (some k) (k :: ks) stop

/- All the keys lie on one way that ends with a first key. -/
def Linear (d : Dict K (Option K)) : Prop :=
  ∃ start path, Steps d start path none ∧ path.Perm d.keys

variable {d : Dict K (Option K)}

theorem mem_referenced
    {k : K} :
    k ∈ referenced d ↔ ∃ k', d.get? k' = some (some k) := by
  unfold referenced
  rw [List.mem_filterMap]
  constructor
  · rintro ⟨⟨k', p⟩, hMem, hp⟩
    cases (show p = some k from hp)
    exact ⟨k', Dict.get?_eq_some_iff.mpr hMem⟩
  · rintro ⟨k', hGet⟩
    exact ⟨(k', some k), Dict.get?_eq_some_iff.mp hGet, rfl⟩

theorem Steps.mem_keys
    {at? stop : Option K}
    {path : List K}
    (hSteps : Steps d at? path stop) :
    ∀ k ∈ path, k ∈ d.keys := by
  induction hSteps with
  | stay at? =>
      intro k hMem
      cases hMem
  | @back k p stop ks hBefore hRest ih =>
      intro k' hMem
      rcases List.mem_cons.mp hMem with rfl | hLater
      · exact Dict.mem_keys.mpr ⟨p, hBefore⟩
      · exact ih k' hLater

/- A walk goes along a way, and visits no key twice. -/
theorem walk_steps
    (n : Nat)
    {visited : List K}
    (hNodup : visited.Nodup)
    (at? : Option K) :
    ∃ path,
      (walk d n visited at?).1 = visited ++ path ∧
      Steps d at? path (walk d n visited at?).2 ∧
      (visited ++ path).Nodup := by
  induction n generalizing visited at? with
  | zero =>
      exact ⟨[], (List.append_nil _).symm, .stay at?, by simpa⟩
  | succ n ih =>
      cases at? with
      | none =>
          exact ⟨[], (List.append_nil _).symm, .stay none, by simpa⟩
      | some k =>
          rw [walk]
          cases hGet : d.get? k with
          | none =>
              exact ⟨[], (List.append_nil _).symm, .stay (some k),
                by simpa⟩
          | some p =>
              by_cases hVisited : k ∈ visited
              · simp only [if_pos hVisited]
                exact ⟨[], (List.append_nil _).symm,
                  .stay (some k), by simpa⟩
              · simp only [if_neg hVisited]
                have hNew : (visited ++ [k]).Nodup := by
                  rw [← List.concat_eq_append]
                  exact List.Nodup.concat hVisited hNodup
                rcases ih hNew p with
                  ⟨path, hList, hSteps, hAll⟩
                refine ⟨k :: path, ?_, .back hGet hSteps, ?_⟩
                · rw [hList, List.append_assoc,
                    List.singleton_append]
                · rw [List.append_assoc, List.singleton_append]
                    at hAll
                  exact hAll

/-
  With room for every key a walk stops where there is no key
  to go on from, or at one it has visited.
-/
theorem walk_stops
    {n : Nat}
    {visited : List K}
    (hNodup : visited.Nodup)
    (hKeys : ∀ k ∈ visited, k ∈ d.keys)
    (hRoom : d.keys.length < n + visited.length)
    {at? : Option K}
    {k : K}
    (hStop : (walk d n visited at?).2 = some k) :
    k ∉ d.keys ∨ k ∈ (walk d n visited at?).1 := by
  induction n generalizing visited at? with
  | zero =>
      have hLe := (List.subperm_of_subset hNodup hKeys).length_le
      omega
  | succ n ih =>
      cases at? with
      | none => cases hStop
      | some k' =>
          rw [walk] at hStop ⊢
          cases hGet : d.get? k' with
          | none =>
              rw [hGet] at hStop
              cases hStop
              exact .inl (Dict.get?_eq_none_iff.mp hGet)
          | some p =>
              simp only [hGet] at hStop ⊢
              by_cases hVisited : k' ∈ visited
              · rw [if_pos hVisited] at hStop ⊢
                cases hStop
                exact .inr hVisited
              · rw [if_neg hVisited] at hStop ⊢
                have hNew : (visited ++ [k']).Nodup := by
                  rw [← List.concat_eq_append]
                  exact List.Nodup.concat hVisited hNodup
                apply ih hNew _ _ hStop
                · intro k'' hMem
                  rcases List.mem_append.mp hMem with hOld | hLast
                  · exact hKeys k'' hOld
                  · rw [List.mem_singleton.mp hLast]
                    exact Dict.mem_keys.mpr ⟨p, hGet⟩
                · rw [List.length_append, List.length_singleton]
                  omega

/- More room than for every key changes no walk. -/
theorem walk_succ
    {n : Nat}
    {visited : List K}
    (hNodup : visited.Nodup)
    (hKeys : ∀ k ∈ visited, k ∈ d.keys)
    (hRoom : d.keys.length < n + visited.length)
    (at? : Option K) :
    walk d (n + 1) visited at? = walk d n visited at? := by
  induction n generalizing visited at? with
  | zero =>
      have hLe := (List.subperm_of_subset hNodup hKeys).length_le
      omega
  | succ n ih =>
      cases at? with
      | none => rfl
      | some k =>
          rw [walk, walk]
          cases hGet : d.get? k with
          | none => rfl
          | some p =>
              by_cases hVisited : k ∈ visited
              · simp only [if_pos hVisited]
              · simp only [if_neg hVisited]
                have hNew : (visited ++ [k]).Nodup := by
                  rw [← List.concat_eq_append]
                  exact List.Nodup.concat hVisited hNodup
                apply ih hNew
                · intro k' hMem
                  rcases List.mem_append.mp hMem with hOld | hLast
                  · exact hKeys k' hOld
                  · rw [List.mem_singleton.mp hLast]
                    exact Dict.mem_keys.mpr ⟨p, hGet⟩
                · rw [List.length_append, List.length_singleton]
                  omega

theorem walk_room
    {n : Nat}
    (hRoom : d.keys.length < n)
    (at? : Option K) :
    walk d n [] at? = walk d (d.keys.length + 1) [] at? := by
  induction n with
  | zero => cases hRoom
  | succ n ih =>
      rcases Nat.lt_succ_iff_lt_or_eq.mp hRoom with hMore | rfl
      · rw [walk_succ List.nodup_nil (fun _ hMem => nomatch hMem)
          (by simpa using hMore), ih hMore]
      · rfl

/- A way to a first key is walked to its end. -/
theorem walk_path
    {n : Nat}
    {visited path : List K}
    {at? : Option K}
    (hSteps : Steps d at? path none)
    (hNodup : (visited ++ path).Nodup)
    (hRoom : path.length < n) :
    walk d n visited at? = (visited ++ path, none) := by
  induction path generalizing n visited at? with
  | nil =>
      cases hSteps
      cases n with
      | zero => simp [walk]
      | succ n => simp [walk]
  | cons k path ih =>
      cases hSteps with
      | back hBefore hRest =>
          cases n with
          | zero => cases hRoom
          | succ n =>
              have hNew : k ∉ visited := by
                intro hMem
                exact (List.nodup_append.mp hNodup).2.2 k hMem k
                  List.mem_cons_self rfl
              have hMoved : visited ++ k :: path =
                  (visited ++ [k]) ++ path := by
                rw [List.append_assoc, List.singleton_append]
              rw [walk, hBefore]
              simp only [if_neg hNew]
              rw [hMoved] at hNodup
              rw [ih hRest hNodup (by simpa using hRoom), hMoved]

end BackLinks

--------
-- Chains Of All Keys
--------

namespace BackLinks

variable {K : Type}
variable [DecidableEq K]
variable {d : Dict K (Option K)}

/- On a way, a key points back to the one that follows. -/
theorem Steps.later
    {at? : Option K}
    {path : List K}
    (hSteps : Steps d at? path none)
    {k k' : K}
    (hMem : k' ∈ path)
    (hGet : d.get? k' = some (some k)) :
    k ∈ path.tail := by
  induction path generalizing at? with
  | nil => cases hMem
  | cons first path ih =>
      cases hSteps with
      | back hBefore hRest =>
          rcases List.mem_cons.mp hMem with rfl | hLater
          · rw [hBefore] at hGet
            cases hGet
            cases hRest
            exact List.mem_cons_self
          · exact List.mem_of_mem_tail (ih hRest hLater)

/- Every key but the one it starts at is pointed back to. -/
theorem Steps.referenced
    {at? : Option K}
    {path : List K}
    (hSteps : Steps d at? path none)
    {k : K}
    (hMem : k ∈ path.tail) :
    k ∈ referenced d := by
  induction path generalizing at? with
  | nil => cases hMem
  | cons first path ih =>
      cases hSteps with
      | back hBefore hRest =>
          rw [List.tail_cons] at hMem
          cases path with
          | nil => cases hMem
          | cons next path =>
              cases hRest with
              | back hNext hLater =>
                  rcases List.mem_cons.mp hMem with rfl | hTail
                  · exact mem_referenced.mpr ⟨first, hBefore⟩
                  · exact ih (.back hNext hLater) hTail

/- A way that does not end stops at a key pointed back to. -/
theorem Steps.stop_cases
    {at? : Option K}
    {path : List K}
    {k : K}
    (hSteps : Steps d at? path (some k)) :
    at? = some k ∨ k ∈ BackLinks.referenced d := by
  induction path generalizing at? with
  | nil =>
      cases hSteps
      exact .inl rfl
  | cons first path ih =>
      cases hSteps with
      | back hBefore hRest =>
          rcases ih hRest with rfl | hRef
          · exact .inr (mem_referenced.mpr ⟨first, hBefore⟩)
          · exact .inr hRef

theorem mem_heads
    {k : K} :
    k ∈ heads d ↔ k ∈ d.keys ∧ k ∉ referenced d := by
  unfold heads
  rw [List.mem_filter]
  simp

/- A chain of all keys has one head, the key it starts at. -/
theorem heads_of_steps
    {first : K}
    {path : List K}
    (hSteps : Steps d (some first) (first :: path) none)
    (hPerm : (first :: path).Perm d.keys) :
    heads d = [first] := by
  have hNodup : (first :: path).Nodup :=
    hPerm.nodup_iff.mpr d.nodup
  have hFirst : first ∉ referenced d := by
    intro hRef
    rcases mem_referenced.mp hRef with ⟨k', hGet⟩
    have hOn : k' ∈ first :: path :=
      hPerm.mem_iff.mpr (Dict.mem_keys.mpr ⟨_, hGet⟩)
    exact (List.nodup_cons.mp hNodup).1 (hSteps.later hOn hGet)
  have hFilter :
      (first :: path).filter (fun k => !decide (k ∈ referenced d)) =
        [first] := by
    rw [List.filter_cons_of_pos (by simpa using hFirst),
      List.filter_eq_nil_iff.mpr]
    intro k hMem
    simpa using hSteps.referenced hMem
  have hHeads := hPerm.filter (fun k => !decide (k ∈ referenced d))
  rw [hFilter] at hHeads
  exact List.singleton_perm.mp hHeads |>.symm

/- What a check of one chain looks at. -/
structure Checked (d : Dict K (Option K)) : Prop where
  present : ∀ k ∈ referenced d, k ∈ d.keys
  one_head : d.keys ≠ [] → (heads d).length = 1
  no_loop : ∀ h, heads d = [h] →
    ∀ k, (walk d (d.keys.length + 1) [] (some h)).2 = some k →
      k ∉ (walk d (d.keys.length + 1) [] (some h)).1
  visited : ∀ h, heads d = [h] →
    ∀ k ∈ d.keys,
      k ∈ (walk d (d.keys.length + 1) [] (some h)).1

/- The check passes exactly for a chain of all the keys. -/
theorem linear_iff : Checked d ↔ Linear d := by
  constructor
  · intro hChecked
    by_cases hNone : d.keys = []
    · refine ⟨none, [], .stay none, ?_⟩
      rw [hNone]
    · rcases List.length_eq_one_iff.mp (hChecked.one_head hNone) with
        ⟨h, hHead⟩
      rcases walk_steps (d := d) (d.keys.length + 1)
        List.nodup_nil (some h) with ⟨path, hList, hSteps, hNodup⟩
      rw [List.nil_append] at hList hNodup
      refine ⟨some h, path, ?_, ?_⟩
      · cases hStop :
            (walk d (d.keys.length + 1) [] (some h)).2 with
        | none =>
            rw [hStop] at hSteps
            exact hSteps
        | some k =>
            have hFresh := hChecked.no_loop h hHead k hStop
            have hAbsent : k ∉ d.keys := by
              rcases walk_stops List.nodup_nil
                (fun _ hMem => nomatch hMem) (by simp) hStop with
                hAway | hBack
              · exact hAway
              · exact absurd hBack hFresh
            rw [hStop] at hSteps
            rcases hSteps.stop_cases with hStart | hRef
            · cases hStart
              have hMem : h ∈ heads d := by
                rw [hHead]
                exact List.mem_cons_self
              exact absurd (mem_heads.mp hMem).1 hAbsent
            · exact absurd (hChecked.present k hRef) hAbsent
      · apply (List.perm_ext_iff_of_nodup hNodup d.nodup).mpr
        intro k
        constructor
        · exact hSteps.mem_keys k
        · intro hMem
          rw [← hList]
          exact hChecked.visited h hHead k hMem
  · rintro ⟨start, path, hSteps, hPerm⟩
    have hPresent (k : K) (hRef : k ∈ referenced d) :
        k ∈ d.keys := by
      rcases mem_referenced.mp hRef with ⟨k', hGet⟩
      have hOn : k' ∈ path :=
        hPerm.mem_iff.mpr (Dict.mem_keys.mpr ⟨_, hGet⟩)
      exact hPerm.mem_iff.mp
        (List.mem_of_mem_tail (hSteps.later hOn hGet))
    cases hSteps with
    | stay =>
        have hNone : d.keys = [] := List.nil_perm.mp hPerm
        have hNoHead : heads d = [] := by
          unfold heads
          rw [hNone, List.filter_nil]
        exact
          { present := hPresent
            one_head := fun hSome => absurd hNone hSome
            no_loop := fun h hHead => by
              rw [hNoHead] at hHead
              cases hHead
            visited := fun h hHead => by
              rw [hNoHead] at hHead
              cases hHead }
    | @back first p stop ks hBefore hRest =>
        have hSteps : Steps d (some first) (first :: ks) none :=
          .back hBefore hRest
        have hHeads := heads_of_steps hSteps hPerm
        have hWalk :
            walk d (d.keys.length + 1) [] (some first) =
              (first :: ks, none) := by
          apply walk_path hSteps
          · exact hPerm.nodup_iff.mpr d.nodup
          · rw [hPerm.length_eq]
            exact Nat.lt_succ_self _
        have hOnly (h : K) (hHead : heads d = [h]) : h = first := by
          rw [hHeads] at hHead
          cases hHead
          rfl
        exact
          { present := hPresent
            one_head := fun _ => by rw [hHeads]; rfl
            no_loop := fun h hHead k hStop => by
              rw [hOnly h hHead, hWalk] at hStop
              cases hStop
            visited := fun h hHead k hMem => by
              rw [hOnly h hHead, hWalk]
              exact hPerm.mem_iff.mpr hMem }

end BackLinks

--------
-- Linked Entries
--------

namespace BackLinks

variable {K : Type}

/- Each points back to the next, and the last to none. -/
def Linked : List (K × Option K) → Prop
| [] => True
| [e] => e.2 = none
| e :: e' :: es => e.2 = some e'.1 ∧ Linked (e' :: es)

theorem Linked.tail
    {e : K × Option K}
    {es : List (K × Option K)}
    (hLinked : Linked (e :: es)) : Linked es := by
  cases es with
  | nil => trivial
  | cons e' es => exact hLinked.2

/- Each but the first is pointed back to by one before it. -/
theorem Linked.pointed
    {e e' : K × Option K}
    {es : List (K × Option K)}
    (hLinked : Linked (e :: es))
    (hMem : e' ∈ es) :
    ∃ f ∈ e :: es, f.2 = some e'.1 := by
  induction es generalizing e with
  | nil => cases hMem
  | cons next es ih =>
      rcases List.mem_cons.mp hMem with rfl | hLater
      · exact ⟨e, List.mem_cons_self, hLinked.1⟩
      · rcases ih hLinked.2 hLater with ⟨f, hf, hPoints⟩
        exact ⟨f, List.mem_cons_of_mem e hf, hPoints⟩

/- What one of a chain points back to comes after it. -/
theorem Linked.later
    {es : List (K × Option K)}
    (hLinked : Linked es)
    {e : K × Option K}
    {k : K}
    (hMem : e ∈ es)
    (hPoints : e.2 = some k) : k ∈ es.tail.map Prod.fst := by
  induction es with
  | nil => cases hMem
  | cons first es ih =>
      cases es with
      | nil =>
          rw [List.mem_singleton.mp hMem] at hPoints
          have hLast : first.2 = none := hLinked
          rw [hLast] at hPoints
          cases hPoints
      | cons next es =>
          rcases List.mem_cons.mp hMem with rfl | hLater
          · rw [hLinked.1] at hPoints
            cases hPoints
            exact List.mem_cons_self
          · have hTail := ih hLinked.2 hLater
            exact List.mem_cons_of_mem next.1 hTail

end BackLinks

--------
-- Chains Of Entries
--------

namespace BackLinks

variable {K : Type}
variable [DecidableEq K]

/- Each key once, as the last entry of the key has it. -/
def distinct (es : List (K × Option K)) : Dict K (Option K) :=
  es.foldl (fun d e => d.set e.1 e.2) Dict.empty

/-
  The entries form one chain: in some order each points back
  to the next, to exactly one of them, and none is pointed
  back to twice.
-/
structure OneChain (es : List (K × Option K)) : Prop where
  chain : ∃ order, order.Perm es ∧ Linked order
  one_target : ∀ e ∈ es, ∀ k, e.2 = some k →
    (es.filter (fun e' => e'.1 = k)).length = 1
  one_source : ∀ e ∈ es,
    (es.filter (fun e' => e'.2 = some e.1)).length ≤ 1

theorem get?_foldl_set
    {es : List (K × Option K)}
    (hNodup : (es.map Prod.fst).Nodup)
    (d : Dict K (Option K))
    (k : K) :
    (es.foldl (fun d e => d.set e.1 e.2) d).get? k =
      ((es.find? (fun e => e.1 = k)).map Prod.snd).or
        (d.get? k) := by
  induction es generalizing d with
  | nil => rfl
  | cons e es ih =>
      rw [List.map_cons, List.nodup_cons] at hNodup
      rw [List.foldl_cons, ih hNodup.2, Dict.get?_set]
      by_cases hk : e.1 = k
      · have hNone : es.find? (fun e => e.1 = k) = none := by
          rw [List.find?_eq_none]
          intro e' hMem hSame
          apply hNodup.1
          rw [hk, ← of_decide_eq_true hSame]
          exact List.mem_map_of_mem hMem
        rw [hNone, if_pos hk.symm,
          List.find?_cons_of_pos (by simpa using hk)]
        rfl
      · rw [if_neg (Ne.symm hk),
          List.find?_cons_of_neg (by simpa using hk)]

theorem get?_distinct
    {es : List (K × Option K)}
    (hNodup : (es.map Prod.fst).Nodup)
    {k : K}
    {p : Option K} :
    (distinct es).get? k = some p ↔ (k, p) ∈ es := by
  have hDict :
      (distinct es).get? k =
        (⟨es, hNodup⟩ : Dict K (Option K)).get? k := by
    unfold distinct
    rw [get?_foldl_set hNodup]
    exact Option.or_none
  rw [hDict, Dict.get?_eq_some_iff]

theorem keys_distinct_perm
    {es : List (K × Option K)}
    (hNodup : (es.map Prod.fst).Nodup) :
    (distinct es).keys.Perm (es.map Prod.fst) := by
  apply (List.perm_ext_iff_of_nodup (distinct es).nodup hNodup).mpr
  intro k
  constructor
  · intro hMem
    rcases Dict.mem_keys.mp hMem with ⟨p, hGet⟩
    exact List.mem_map_of_mem ((get?_distinct hNodup).mp hGet)
  · intro hMem
    rcases List.mem_map.mp hMem with ⟨e, he, rfl⟩
    exact Dict.mem_keys.mpr ⟨e.2, (get?_distinct hNodup).mpr he⟩

/- A chain leaves no key to two of its entries. -/
theorem OneChain.nodup
    {es : List (K × Option K)}
    (hChain : OneChain es) : (es.map Prod.fst).Nodup := by
  rcases hChain.chain with ⟨order, hPerm, hLinked⟩
  have hOnce (e : K × Option K) (hMem : e ∈ order)
      (k : K) (hk : e.2 = some k) :
      (order.filter (fun e' => e'.1 = k)).length = 1 := by
    rw [(hPerm.filter _).length_eq]
    exact hChain.one_target e (hPerm.mem_iff.mp hMem) k hk
  have hAll (rest : List (K × Option K))
      (hRest : rest <:+ order)
      (hLinks : Linked rest) : (rest.map Prod.fst).Nodup := by
    induction rest with
    | nil => exact List.nodup_nil
    | cons e rest ih =>
        have hTail := ih ((List.suffix_cons e rest).trans hRest)
          hLinks.tail
        refine List.nodup_cons.mpr ⟨?_, hTail⟩
        intro hMem
        rcases List.mem_map.mp hMem with ⟨e', he', hSame⟩
        -- its key is pointed back to, and two entries have it
        rcases hLinks.pointed he' with ⟨f, hf, hPoints⟩
        have hOne := hOnce f (hRest.subset hf) e'.1 hPoints
        have hFew := (hRest.sublist.filter
          (fun e'' => decide (e''.1 = e'.1))).length_le
        have hSome : 0 < (rest.filter
            (fun e'' => decide (e''.1 = e'.1))).length := by
          apply List.length_pos_of_mem
          exact List.mem_filter.mpr ⟨he', decide_eq_true rfl⟩
        rw [List.filter_cons_of_pos (by simpa using hSame.symm),
          List.length_cons, hOne] at hFew
        omega
  exact (hPerm.map Prod.fst).nodup_iff.mp
    (hAll order (List.suffix_refl order) hLinked)

/- The way a chain of entries lies on. -/
theorem Linked.steps
    {es : List (K × Option K)}
    (hLinked : Linked es)
    (hGet : ∀ e ∈ es, d.get? e.1 = some e.2) :
    Steps d (es.head?.map Prod.fst) (es.map Prod.fst) none := by
  induction es with
  | nil => exact .stay none
  | cons e es ih =>
      have hRest := ih hLinked.tail
        (fun e' hMem => hGet e' (List.mem_cons_of_mem e hMem))
      have hFirst := hGet e List.mem_cons_self
      apply Steps.back hFirst
      cases es with
      | nil =>
          rw [show e.2 = none from hLinked]
          exact hRest
      | cons next es =>
          rw [show e.2 = some next.1 from hLinked.1]
          exact hRest

/- The entries of a way, each pointing back to the next. -/
theorem Steps.linked
    {at? : Option K}
    {path : List K}
    (hSteps : Steps d at? path none) :
    ∃ order : List (K × Option K),
      order.map Prod.fst = path ∧
      order.head?.map Prod.fst = at? ∧
      Linked order ∧
      ∀ e ∈ order, d.get? e.1 = some e.2 := by
  induction path generalizing at? with
  | nil =>
      cases hSteps
      exact ⟨[], rfl, rfl, trivial, fun _ hMem => nomatch hMem⟩
  | cons k path ih =>
      cases hSteps with
      | @back _ p _ _ hBefore hRest =>
          rcases ih hRest with ⟨order, hKeys, hHead, hLinked, hGet⟩
          refine ⟨(k, p) :: order, ?_, rfl, ?_, ?_⟩
          · rw [List.map_cons, hKeys]
          · cases order with
            | nil => exact hHead.symm
            | cons next order => exact ⟨hHead.symm, hLinked⟩
          · intro e hMem
            rcases List.mem_cons.mp hMem with rfl | hLater
            · exact hBefore
            · exact hGet e hLater

/- In a chain no key is pointed back to twice. -/
theorem Linked.one_source
    {es : List (K × Option K)}
    (hLinked : Linked es)
    (hNodup : (es.map Prod.fst).Nodup)
    (k : K) :
    (es.filter (fun e => e.2 = some k)).length ≤ 1 := by
  induction es with
  | nil => exact Nat.zero_le 1
  | cons e es ih =>
      have hRest := ih hLinked.tail (List.nodup_cons.mp hNodup).2
      by_cases hk : e.2 = some k
      · -- what it points back to comes next, so once only
        rw [List.filter_cons_of_pos (by simpa using hk)]
        have hNone : es.filter (fun e => e.2 = some k) = [] := by
          rw [List.filter_eq_nil_iff]
          intro e' hMem hAlso
          have hLater := hLinked.tail.later hMem
            (of_decide_eq_true hAlso)
          cases es with
          | nil => cases hMem
          | cons next es =>
              have hNext : next.1 = k := by
                rw [hLinked.1] at hk
                exact Option.some.inj hk
              rw [← hNext] at hLater
              exact (List.nodup_cons.mp
                (List.nodup_cons.mp hNodup).2).1 hLater
        rw [hNone]
        exact Nat.le_refl 1
      · rw [List.filter_cons_of_neg (by simpa using hk)]
        exact hRest

private theorem length_filter_key
    {es : List (K × Option K)}
    (hNodup : (es.map Prod.fst).Nodup)
    {k : K}
    (hMem : k ∈ es.map Prod.fst) :
    (es.filter (fun e => e.1 = k)).length = 1 := by
  have hCount := List.count_eq_one_of_mem hNodup hMem
  rw [List.count_eq_countP, List.countP_map,
    List.countP_eq_length_filter] at hCount
  rw [← hCount]
  congr 1

/-
  The entries form one chain exactly if no two have one key,
  and their keys are a chain.
-/
theorem oneChain_iff
    {es : List (K × Option K)} :
    OneChain es ↔
      (es.map Prod.fst).Nodup ∧ Linear (distinct es) := by
  constructor
  · intro hChain
    have hNodup := hChain.nodup
    rcases hChain.chain with ⟨order, hPerm, hLinked⟩
    refine ⟨hNodup, order.head?.map Prod.fst,
      order.map Prod.fst, ?_, ?_⟩
    · apply hLinked.steps
      intro e hMem
      exact (get?_distinct hNodup).mpr (hPerm.mem_iff.mp hMem)
    · exact (hPerm.map Prod.fst).trans
        (keys_distinct_perm hNodup).symm
  · rintro ⟨hNodup, start, path, hSteps, hPath⟩
    rcases hSteps.linked with ⟨order, hKeys, -, hLinked, hGet⟩
    have hOrderKeys : (order.map Prod.fst).Perm (es.map Prod.fst) := by
      rw [hKeys]
      exact hPath.trans (keys_distinct_perm hNodup)
    have hOrderNodup : (order.map Prod.fst).Nodup :=
      hOrderKeys.nodup_iff.mpr hNodup
    have hPerm : order.Perm es := by
      apply (List.perm_ext_iff_of_nodup hOrderNodup.of_map
        hNodup.of_map).mpr
      intro e
      constructor
      · intro hMem
        exact (get?_distinct hNodup).mp (hGet e hMem)
      · intro hMem
        have hKey : e.1 ∈ order.map Prod.fst :=
          hOrderKeys.mem_iff.mpr (List.mem_map_of_mem hMem)
        rcases List.mem_map.mp hKey with ⟨e', he', hSame⟩
        have hThere := (get?_distinct hNodup).mpr hMem
        have hHere := hGet e' he'
        rw [hSame, hThere] at hHere
        have hEq : e' = e :=
          Prod.ext hSame (Option.some.inj hHere).symm
        exact hEq ▸ he'
    exact
      { chain := ⟨order, hPerm, hLinked⟩
        one_target := fun e hMem k hk => by
          apply length_filter_key hNodup
          have hTail := hLinked.later (hPerm.mem_iff.mpr hMem) hk
          exact hOrderKeys.mem_iff.mp
            ((List.tail_sublist order).map Prod.fst |>.subset hTail)
        one_source := fun e _ => by
          rw [← (hPerm.filter _).length_eq]
          exact hLinked.one_source hOrderNodup e.1 }

end BackLinks
