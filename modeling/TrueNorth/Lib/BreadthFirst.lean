import Mathlib.Data.List.Nodup
import Mathlib.Data.List.Perm.Subperm
import Mathlib.Logic.Relation

/-
  Breadth-first search from one vertex, with a queue of
  paths and a set of the vertices seen.

  The vertices found stand in the order in which they were
  queued, and those already taken from the queue come first.
  So one list carries the search: its paths only get longer,
  by at most one edge from what is being taken to what is
  last, and that makes every path a shortest one.

  Main declarations:
    * `BreadthFirst.Walk`
    * `BreadthFirst.search`
    * `BreadthFirst.ShortestPaths`
    * `BreadthFirst.search_ends`
    * `BreadthFirst.search_shortestPaths`
-/

--------
-- Walks
--------

namespace BreadthFirst

variable {V : Type}

/- A walk along the edges, with every vertex it passes. -/
inductive Walk
    (next : V → List V)
    (start : V) : V → List V → Prop
| start : Walk next start start [start]
| step
    {v w : V}
    {path : List V}
    (hWalk : Walk next start v path)
    (hNext : w ∈ next v) :
    Walk next start w (path ++ [w])

theorem Walk.start_or_next
    {next : V → List V}
    {start v : V}
    {path : List V}
    (hWalk : Walk next start v path) :
    v = start ∨ ∃ u, v ∈ next u := by
  cases hWalk with
  | start => exact .inl rfl
  | step _ hNext => exact .inr ⟨_, hNext⟩

theorem exists_walk_iff
    {next : V → List V}
    {start v : V} :
    (∃ path, Walk next start v path) ↔
      Relation.ReflTransGen (fun a b => b ∈ next a)
        start v := by
  constructor
  · rintro ⟨path, hWalk⟩
    induction hWalk with
    | start => exact .refl
    | step _ hNext ih => exact ih.tail hNext
  · intro hReach
    induction hReach with
    | refl => exact ⟨_, .start⟩
    | tail _ hNext ih =>
        rcases ih with ⟨path, hWalk⟩
        exact ⟨_, .step hWalk hNext⟩

--------
-- The Search
--------

variable {V : Type}
variable [DecidableEq V]

structure Search (V : Type) where
  seen : List V
  out : List (V × List V)
  queue : List (V × List V)
deriving DecidableEq

def begin' (start : V) : Search V where
  seen := [start]
  out := []
  queue := [(start, [start])]

/- One vertex met from the end of `path`. -/
def meet
    (path : List V)
    (s : Search V)
    (nxt : V) : Search V :=
  if nxt ∈ s.seen then s
  else
    { seen := s.seen ++ [nxt]
      out := s.out ++ [(nxt, path ++ [nxt])]
      queue := s.queue ++ [(nxt, path ++ [nxt])] }

/- One turn of the loop; nothing where the queue is empty. -/
def turn
    (next : V → List V)
    (s : Search V) : Search V :=
  match s.queue with
  | [] => s
  | (node, path) :: queue =>
      (next node).foldl (meet path) { s with queue := queue }

/- The loop after a number of turns. -/
def search
    (next : V → List V)
    (start : V) : Nat → Search V
| 0 => begin' start
| turns + 1 => turn next (search next start turns)

--------
-- What One Turn Adds
--------

variable {V : Type}

/- The entries that vertices met from `path` get. -/
def entries
    (path : List V)
    (fresh : List V) : List (V × List V) :=
  fresh.map (fun w => (w, path ++ [w]))

theorem mem_entries
    {path fresh : List V}
    {entry : V × List V} :
    entry ∈ entries path fresh ↔
      entry.1 ∈ fresh ∧ entry.2 = path ++ [entry.1] := by
  rcases entry with ⟨w, p⟩
  simp only [entries, List.mem_map, Prod.mk.injEq]
  constructor
  · rintro ⟨w', hFresh, rfl, rfl⟩
    exact ⟨hFresh, rfl⟩
  · rintro ⟨hFresh, rfl⟩
    exact ⟨w, hFresh, rfl, rfl⟩

@[simp] theorem map_fst_entries
    (path fresh : List V) :
    (entries path fresh).map Prod.fst = fresh := by
  rw [entries, List.map_map]
  exact List.map_id fresh

/- Meeting a list of vertices keeps those not seen, once each. -/
theorem foldl_meet
    [DecidableEq V]
    (path : List V)
    (met : List V)
    (s : Search V) :
    ∃ fresh : List V,
      fresh.Nodup ∧
      (∀ w ∈ fresh, w ∈ met ∧ w ∉ s.seen) ∧
      (∀ w ∈ met, w ∈ s.seen ∨ w ∈ fresh) ∧
      met.foldl (meet path) s =
        { seen := s.seen ++ fresh
          out := s.out ++ entries path fresh
          queue := s.queue ++ entries path fresh } := by
  induction met generalizing s with
  | nil => exact ⟨[], by simp [entries]⟩
  | cons w met ih =>
      by_cases hSeen : w ∈ s.seen
      · rcases ih s with ⟨fresh, hNodup, hFresh, hMet, hFold⟩
        refine ⟨fresh, hNodup, ?_, ?_, ?_⟩
        · intro w' hMem
          exact ⟨List.mem_cons_of_mem _ (hFresh w' hMem).1,
            (hFresh w' hMem).2⟩
        · intro w' hMem
          rcases List.mem_cons.mp hMem with rfl | hMem
          · exact .inl hSeen
          · exact hMet w' hMem
        · rw [List.foldl_cons, meet, if_pos hSeen]
          exact hFold
      · rcases ih
            { seen := s.seen ++ [w]
              out := s.out ++ [(w, path ++ [w])]
              queue := s.queue ++ [(w, path ++ [w])] } with
          ⟨fresh, hNodup, hFresh, hMet, hFold⟩
        simp only [List.mem_append, List.mem_singleton,
          not_or] at hFresh hMet
        refine ⟨w :: fresh, ?_, ?_, ?_, ?_⟩
        · refine List.nodup_cons.mpr ⟨?_, hNodup⟩
          intro hMem
          exact (hFresh w hMem).2.2 rfl
        · intro w' hMem
          rcases List.mem_cons.mp hMem with rfl | hMem
          · exact ⟨List.mem_cons_self, hSeen⟩
          · exact ⟨List.mem_cons_of_mem _ (hFresh w' hMem).1,
              (hFresh w' hMem).2.1⟩
        · intro w' hMem
          rcases List.mem_cons.mp hMem with rfl | hMem
          · exact .inr List.mem_cons_self
          · rcases hMet w' hMem with (hOld | rfl) | hNew
            · exact .inl hOld
            · exact .inr List.mem_cons_self
            · exact .inr (List.mem_cons_of_mem _ hNew)
        · rw [List.foldl_cons, meet, if_neg hSeen, hFold]
          simp [entries]

--------
-- The Invariant
--------

variable {V : Type}

/- The vertices with the paths they were met by. -/
def Search.labels
    (s : Search V)
    (start : V) : List (V × List V) :=
  (start, [start]) :: s.out

/- What holds between two turns, `taken` being the entries
   already taken from the queue. -/
structure Sound
    (next : V → List V)
    (start : V)
    (taken : List (V × List V))
    (s : Search V) : Prop where
  split : s.labels start = taken ++ s.queue
  seen : ∀ v, v ∈ s.seen ↔
    v ∈ (s.labels start).map Prod.fst
  nodup : ((s.labels start).map Prod.fst).Nodup
  walks : ∀ entry ∈ s.labels start,
    Walk next start entry.1 entry.2
  ascending : (s.labels start).Pairwise
    (fun a b => a.2.length ≤ b.2.length)
  near : ∀ entry ∈ s.labels start, ∀ waiting ∈ s.queue,
    entry.2.length ≤ waiting.2.length + 1
  closed : ∀ entry ∈ taken, ∀ w ∈ next entry.1,
    ∃ path, (w, path) ∈ s.labels start ∧
      path.length ≤ entry.2.length + 1

theorem sound_begin
    (next : V → List V)
    (start : V) :
    Sound next start [] (begin' start) where
  split := rfl
  seen := by simp [begin', Search.labels]
  nodup := by simp [begin', Search.labels]
  walks := by
    intro entry hEntry
    simp only [begin', Search.labels,
      List.mem_singleton] at hEntry
    subst hEntry
    exact .start
  ascending := by simp [begin', Search.labels]
  near := by simp [begin', Search.labels]
  closed := by simp

theorem Sound.turn
    [DecidableEq V]
    {next : V → List V}
    {start node : V}
    {path : List V}
    {taken queue : List (V × List V)}
    {s : Search V}
    (hSound : Sound next start taken s)
    (hQueue : s.queue = (node, path) :: queue) :
    Sound next start (taken ++ [(node, path)])
      (turn next s) := by
  rcases foldl_meet path (next node)
      { s with queue := queue } with
    ⟨fresh, hNodup, hFresh, hMet, hFold⟩
  have hTurn :
      BreadthFirst.turn next s =
        { seen := s.seen ++ fresh
          out := s.out ++ entries path fresh
          queue := queue ++ entries path fresh } := by
    rw [BreadthFirst.turn, hQueue]
    exact hFold
  have hLabels :
      (BreadthFirst.turn next s).labels start =
        s.labels start ++ entries path fresh := by
    rw [hTurn]
    rfl
  have hNode : (node, path) ∈ s.queue := by
    rw [hQueue]
    exact List.mem_cons_self
  have hNodeLabel : (node, path) ∈ s.labels start := by
    rw [hSound.split]
    exact List.mem_append_right _ hNode
  have hLength :
      ∀ entry ∈ entries path fresh,
        entry.2.length = path.length + 1 := by
    intro entry hEntry
    rw [(mem_entries.mp hEntry).2]
    simp
  -- what waits behind the node has a path no shorter
  have hBehind :
      ∀ waiting ∈ queue,
        path.length ≤ waiting.2.length := by
    intro waiting hWaiting
    have hAscending := hSound.ascending
    rw [hSound.split, hQueue, List.pairwise_append] at hAscending
    exact (List.pairwise_cons.mp hAscending.2.1).1 _ hWaiting
  constructor
  case split =>
    rw [hLabels, hTurn, hSound.split, hQueue]
    simp
  case seen =>
    intro v
    rw [hLabels, hTurn, List.map_append, map_fst_entries,
      List.mem_append, List.mem_append, hSound.seen]
  case nodup =>
    rw [hLabels, List.map_append, map_fst_entries]
    apply hSound.nodup.append hNodup
    intro w hOld hNew
    exact (hFresh w hNew).2 ((hSound.seen w).mpr hOld)
  case walks =>
    intro entry hEntry
    rw [hLabels, List.mem_append] at hEntry
    rcases hEntry with hOld | hNew
    · exact hSound.walks entry hOld
    · rcases mem_entries.mp hNew with ⟨hMem, hPath⟩
      rw [hPath]
      exact .step (hSound.walks _ hNodeLabel)
        (hFresh _ hMem).1
  case ascending =>
    rw [hLabels]
    refine List.pairwise_append.mpr
      ⟨hSound.ascending, ?_, ?_⟩
    · apply List.pairwise_of_forall_mem_list
      intro a hA b hB
      exact Nat.le_of_eq
        ((hLength a hA).trans (hLength b hB).symm)
    · intro a hA b hB
      rw [hLength b hB]
      exact hSound.near a hA _ hNode
  case near =>
    intro entry hEntry waiting hWaiting
    have hEntryLe : entry.2.length ≤ path.length + 1 := by
      rw [hLabels, List.mem_append] at hEntry
      rcases hEntry with hOld | hNew
      · exact hSound.near entry hOld _ hNode
      · exact Nat.le_of_eq (hLength entry hNew)
    have hWaitingLe : path.length ≤ waiting.2.length := by
      rw [hTurn, List.mem_append] at hWaiting
      rcases hWaiting with hOld | hNew
      · exact hBehind waiting hOld
      · rw [hLength waiting hNew]
        exact Nat.le_succ _
    omega
  case closed =>
    intro entry hEntry w hNext
    rw [hLabels]
    rw [List.mem_append, List.mem_singleton] at hEntry
    rcases hEntry with hTaken | rfl
    · rcases hSound.closed entry hTaken w hNext with
        ⟨p, hMem, hLe⟩
      exact ⟨p, List.mem_append_left _ hMem, hLe⟩
    · rcases hMet w hNext with hOld | hNew
      · rcases List.mem_map.mp ((hSound.seen w).mp hOld) with
          ⟨⟨w', p⟩, hMem, rfl⟩
        exact ⟨p, List.mem_append_left _ hMem,
          hSound.near _ hMem _ hNode⟩
      · refine ⟨path ++ [w], ?_, by simp⟩
        apply List.mem_append_right
        exact mem_entries.mpr ⟨hNew, rfl⟩

/- Every turn takes one entry, until none is left. -/
theorem search_sound
    [DecidableEq V]
    (next : V → List V)
    (start : V)
    (turns : Nat) :
    ∃ taken,
      Sound next start taken (search next start turns) ∧
      ((search next start turns).queue = [] ∨
        taken.length = turns) := by
  induction turns with
  | zero => exact ⟨[], sound_begin next start, .inr rfl⟩
  | succ turns ih =>
      rcases ih with ⟨taken, hSound, hTaken⟩
      cases hQueue : (search next start turns).queue with
      | nil =>
          have hSame :
              search next start (turns + 1) =
                search next start turns := by
            rw [search, BreadthFirst.turn, hQueue]
          rw [hSame]
          exact ⟨taken, hSound, .inl hQueue⟩
      | cons entry queue =>
          rcases entry with ⟨node, path⟩
          refine ⟨_, hSound.turn hQueue, .inr ?_⟩
          rw [hQueue] at hTaken
          rcases hTaken with hEmpty | hLength
          · cases hEmpty
          · simp [hLength]

--------
-- Shortest Paths
--------

variable {V : Type}

/- Every vertex that can be reached, once, by a shortest path. -/
structure ShortestPaths
    (next : V → List V)
    (start : V)
    (out : List (V × List V)) : Prop where
  nodup : (start :: out.map Prod.fst).Nodup
  walk : ∀ v path, (v, path) ∈ out →
    Walk next start v path
  shortest : ∀ v path, Walk next start v path →
    v ≠ start →
    ∃ found, (v, found) ∈ out ∧
      found.length ≤ path.length

/- On finitely many vertices the loop ends. -/
theorem search_ends
    [DecidableEq V]
    {next : V → List V}
    {vertices : List V}
    (hVertices : ∀ v w, w ∈ next v → w ∈ vertices)
    (start : V) :
    (search next start (vertices.length + 1)).queue = [] := by
  rcases search_sound next start (vertices.length + 1) with
    ⟨taken, hSound, hEmpty | hLength⟩
  · exact hEmpty
  · have hSubset :
        ((search next start
          (vertices.length + 1)).labels start).map Prod.fst ⊆
          start :: vertices := by
      intro v hMem
      rcases List.mem_map.mp hMem with ⟨entry, hEntry, rfl⟩
      rcases (hSound.walks entry hEntry).start_or_next with
        hStart | ⟨u, hNext⟩
      · rw [hStart]
        exact List.mem_cons_self
      · exact List.mem_cons_of_mem _ (hVertices _ _ hNext)
    have hCount :=
      (hSound.nodup.subperm hSubset).length_le
    rw [List.length_map, hSound.split, List.length_append,
      hLength, List.length_cons] at hCount
    apply List.length_eq_zero_iff.mp
    omega

/- When it has ended, what it found are shortest paths. -/
theorem search_shortestPaths
    [DecidableEq V]
    {next : V → List V}
    {start : V}
    {turns : Nat}
    (hEnded : (search next start turns).queue = []) :
    ShortestPaths next start (search next start turns).out := by
  rcases search_sound next start turns with
    ⟨taken, hSound, _⟩
  have hTaken :
      (search next start turns).labels start = taken := by
    rw [hSound.split, hEnded, List.append_nil]
  have hNodup := hSound.nodup
  rw [Search.labels, List.map_cons] at hNodup
  refine ⟨hNodup, ?_, ?_⟩
  · intro v path hMem
    exact hSound.walks (v, path) (List.mem_cons_of_mem _ hMem)
  · intro v path hWalk hNe
    -- along a walk no label is longer than the walk so far
    have hLabel :
        ∃ found, (v, found) ∈
            (search next start turns).labels start ∧
          found.length ≤ path.length := by
      clear hNe
      induction hWalk with
      | start => exact ⟨_, List.mem_cons_self, Nat.le_refl _⟩
      | step _ hNext ih =>
          rcases ih with ⟨before, hMem, hLe⟩
          rw [hTaken] at hMem
          rcases hSound.closed _ hMem _ hNext with
            ⟨found, hFound, hFoundLe⟩
          refine ⟨found, hFound, ?_⟩
          rw [List.length_append]
          exact Nat.le_trans hFoundLe (Nat.succ_le_succ hLe)
    rcases hLabel with ⟨found, hMem, hLe⟩
    refine ⟨found, ?_, hLe⟩
    rcases List.mem_cons.mp hMem with hStart | hOut
    · cases hStart
      exact absurd rfl hNe
    · exact hOut

theorem ShortestPaths.exists_mem_iff
    {next : V → List V}
    {start v : V}
    {out : List (V × List V)}
    (hPaths : ShortestPaths next start out) :
    (∃ path, (v, path) ∈ out) ↔
      v ≠ start ∧
        Relation.ReflTransGen (fun a b => b ∈ next a)
          start v := by
  constructor
  · rintro ⟨path, hMem⟩
    refine ⟨?_, exists_walk_iff.mp
      ⟨path, hPaths.walk v path hMem⟩⟩
    rintro rfl
    exact (List.nodup_cons.mp hPaths.nodup).1
      (List.mem_map.mpr ⟨_, hMem, rfl⟩)
  · rintro ⟨hNe, hReach⟩
    rcases exists_walk_iff.mpr hReach with ⟨path, hWalk⟩
    rcases hPaths.shortest v path hWalk hNe with
      ⟨found, hFound, _⟩
    exact ⟨found, hFound⟩

end BreadthFirst
