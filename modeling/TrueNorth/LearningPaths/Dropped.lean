import TrueNorth.Lib.Bypass
import TrueNorth.Lib.Dict
import TrueNorth.Lib.Runs

/-
  Learning paths and the courses dropped from them
  (qsp_paths.py).

  A dropped course leaves the prerequisite graph as a point
  leaves a relation: what depended on it now depends on what
  it depended on.

  Key definitions include:
    * `LearningPath`
    * `rewire`, `dropCourse`, `dropCourseFromPaths`
    * `LearningPath.Before`
    * `LearningPath.Sound`

  Main theorems:
    * `direct_dropCourse`
    * `Sound.dropAll`
    * `before_dropAll`
    * `dropped_order`
-/

--------
-- Learning Paths
--------

namespace TrueNorth

namespace LearningPaths

/- A text column that should hold JSON. -/
inductive Column (α : Type)
| empty
| malformed
| json (value : α)

/- `json.loads(text or default)`. -/
def Column.loads
    {α : Type}
    (default : α) : Column α → Option α
| .empty => some default
| .malformed => none
| .json value => some value

structure LearningPath where
  courseIds : Column (List String)
  prerequisiteGraph : Column (Dict String (List String))

namespace LearningPath

/- The courses of the path. -/
def courses (lp : LearningPath) : List String :=
  (lp.courseIds.loads []).getD []

/- What each course asks for first. -/
def prereq (lp : LearningPath) : Dict String (List String) :=
  (lp.prerequisiteGraph.loads Dict.empty).getD Dict.empty

end LearningPath

/- `prereq.get(course_id, [])`. -/
def inherited
    (prereq : Dict String (List String))
    (courseId : String) : List String :=
  (prereq.get? courseId).getD []

/- What one of the other courses asks for now. -/
def newDeps
    (prereq : Dict String (List String))
    (courseId node : String)
    (deps : List String) : List String :=
  (Dict.fromkeys (deps.flatMap (fun d =>
    if d = courseId then inherited prereq courseId
    else [d]))).filter (fun d => d ≠ node)

/- The graph, rewired around the gap. -/
def rewire
    (prereq : Dict String (List String))
    (courseId : String) : Dict String (List String) :=
  (prereq.filter (fun node _ => node ≠ courseId)).mapValues
    (newDeps prereq courseId)

/- What is done to one path. -/
def dropCourse
    (courseId : String)
    (lp : LearningPath) : LearningPath :=
  match lp.courseIds.loads [],
    lp.prerequisiteGraph.loads Dict.empty with
  | some ids, some prereq =>
      if courseId ∈ ids then
        { courseIds := .json (ids.filter (fun c => c ≠ courseId))
          prerequisiteGraph := .json (rewire prereq courseId) }
      else lp
  | _, _ => lp

/- `drop_course_from_paths`. -/
def dropCourseFromPaths
    (paths : List LearningPath)
    (courseId : String) : List LearningPath :=
  paths.map (dropCourse courseId)

/- `_ordered_unique`. -/
def orderedUnique (courseIds : List String) : List String :=
  Dict.fromkeys courseIds

/- `_linear_prereq`. -/
def linearPrereq
    (courseIds : List String) : Dict String (List String) :=
  Dict.ofPairs ((courseIds.tail.zip courseIds).map (fun pair =>
    (pair.1, [pair.2])))

--------
-- Prerequisites
--------

open Relation

namespace LearningPath

/- `a` is asked for by `b`. -/
def Direct
    (lp : LearningPath)
    (a b : String) : Prop :=
  ∃ deps, lp.prereq.get? b = some deps ∧ a ∈ deps

/- `a` is a transitive prerequisite of `b`. -/
def Before (lp : LearningPath) : String → String → Prop :=
  TransGen lp.Direct

/- No course comes before itself, and all are of the path. -/
structure Sound (lp : LearningPath) : Prop where
  acyclic : ∀ a, ¬ lp.Before a a
  named : ∀ b deps, lp.prereq.get? b = some deps →
    b ∈ lp.courses ∧ ∀ a ∈ deps, a ∈ lp.courses

variable {lp : LearningPath}
variable {a b : String}

theorem Sound.direct
    (hSound : lp.Sound)
    (hDirect : lp.Direct a b) :
    a ∈ lp.courses ∧ b ∈ lp.courses := by
  rcases hDirect with ⟨deps, hGet, hMem⟩
  have hNamed := hSound.named b deps hGet
  exact ⟨hNamed.2 a hMem, hNamed.1⟩

end LearningPath

variable {prereq : Dict String (List String)}
variable {c node d : String}
variable {deps : List String}

theorem mem_newDeps :
    d ∈ newDeps prereq c node deps ↔
      d ≠ node ∧
        (d ∈ deps ∧ d ≠ c ∨ c ∈ deps ∧ d ∈ inherited prereq c) := by
  unfold newDeps
  rw [List.mem_filter, Dict.mem_fromkeys, List.mem_flatMap,
    decide_eq_true_eq, and_comm]
  apply and_congr_right
  intro _
  constructor
  · rintro ⟨d', hMem, hIn⟩
    by_cases hSame : d' = c
    · rw [if_pos hSame] at hIn
      exact .inr ⟨hSame ▸ hMem, hIn⟩
    · rw [if_neg hSame, List.mem_singleton] at hIn
      rw [hIn]
      exact .inl ⟨hMem, hSame⟩
  · rintro (⟨hMem, hOther⟩ | ⟨hMem, hIn⟩)
    · refine ⟨d, hMem, ?_⟩
      rw [if_neg hOther]
      exact List.mem_singleton_self d
    · refine ⟨c, hMem, ?_⟩
      rw [if_pos rfl]
      exact hIn

theorem get?_rewire
    {new : List String} :
    (rewire prereq c).get? node = some new ↔
      node ≠ c ∧ ∃ deps, prereq.get? node = some deps ∧
        new = newDeps prereq c node deps := by
  unfold rewire
  rw [Dict.get?_mapValues, Option.map_eq_some_iff]
  simp only [Dict.get?_filter, decide_eq_true_eq]
  constructor
  · rintro ⟨deps, ⟨hGet, hOther⟩, rfl⟩
    exact ⟨hOther, deps, hGet, rfl⟩
  · rintro ⟨hOther, deps, hGet, rfl⟩
    exact ⟨deps, ⟨hGet, hOther⟩, rfl⟩

theorem mem_inherited :
    d ∈ inherited prereq c ↔
      ∃ deps, prereq.get? c = some deps ∧ d ∈ deps := by
  unfold inherited
  cases prereq.get? c <;> simp

--------
-- One Drop
--------

open Relation

variable {lp : LearningPath}
variable {a b c : String}

/- What a drop does: nothing, or the rewiring. -/
theorem dropCourse_cases
    (c : String)
    (lp : LearningPath) :
    (dropCourse c lp = lp ∧
      (c ∉ lp.courses ∨ lp.courses = [] ∨
        lp.prereq = Dict.empty)) ∨
    (c ∈ lp.courses ∧
      (dropCourse c lp).courses =
        lp.courses.filter (fun c' => c' ≠ c) ∧
      (dropCourse c lp).prereq = rewire lp.prereq c) := by
  unfold LearningPath.courses LearningPath.prereq dropCourse
  cases hIds : lp.courseIds.loads [] with
  | none => exact .inl ⟨rfl, .inr (.inl rfl)⟩
  | some ids =>
      cases hGraph : lp.prerequisiteGraph.loads Dict.empty with
      | none => exact .inl ⟨rfl, .inr (.inr rfl)⟩
      | some prereq =>
          by_cases hMem : c ∈ ids
          · refine .inr ⟨hMem, ?_, ?_⟩
            · simp [hMem, Column.loads]
            · simp [hMem, Column.loads]
          · refine .inl ⟨?_, .inl hMem⟩
            simp [hMem]

/- In a path that asks for nothing, nothing comes before. -/
theorem not_direct_of_empty
    (hEmpty : lp.prereq = Dict.empty) :
    ¬ lp.Direct a b := by
  rintro ⟨deps, hGet, _⟩
  rw [hEmpty] at hGet
  cases hGet

/- A drop leads what led through the course past it. -/
theorem direct_dropCourse
    (hSound : lp.Sound)
    (c : String) :
    (dropCourse c lp).Direct = Bypass.Past lp.Direct c := by
  rcases dropCourse_cases c lp with
    ⟨hSame, hOut⟩ | ⟨_, _, hPrereq⟩
  · rw [hSame, Bypass.past_eq_of_unnamed]
    · intro a hDirect
      rcases hOut with hOut | hNone | hEmpty
      · exact hOut (hSound.direct hDirect).2
      · simpa [hNone] using (hSound.direct hDirect).2
      · exact not_direct_of_empty hEmpty hDirect
    · intro b hDirect
      rcases hOut with hOut | hNone | hEmpty
      · exact hOut (hSound.direct hDirect).1
      · simpa [hNone] using (hSound.direct hDirect).1
      · exact not_direct_of_empty hEmpty hDirect
  · funext a b
    apply propext
    have hLoop : ∀ a b, lp.Direct a b → a ≠ b := by
      rintro a b hDirect rfl
      exact hSound.acyclic a (.single hDirect)
    constructor
    · rintro ⟨new, hGet, hMem⟩
      rw [hPrereq, get?_rewire] at hGet
      rcases hGet with ⟨hNode, deps, hOld, rfl⟩
      rw [mem_newDeps, mem_inherited] at hMem
      rcases hMem with ⟨_, ⟨hIn, hOther⟩ | ⟨hIn, hUp⟩⟩
      · exact ⟨hOther, hNode, .inl ⟨deps, hOld, hIn⟩⟩
      · refine ⟨hLoop a c hUp, hNode, .inr ⟨hUp, ?_⟩⟩
        exact ⟨deps, hOld, hIn⟩
    · rintro ⟨hStart, hNode, hEdge⟩
      -- the filter on the node itself never finds anything
      have hPast : a ≠ b := by
        rintro rfl
        exact hSound.acyclic a
          (Bypass.Past.transGen ⟨hStart, hNode, hEdge⟩)
      unfold LearningPath.Direct
      simp only [hPrereq, get?_rewire]
      rcases hEdge with ⟨deps, hOld, hIn⟩ | ⟨hUp, deps, hOld, hIn⟩
      · refine ⟨_, ⟨hNode, deps, hOld, rfl⟩, ?_⟩
        rw [mem_newDeps]
        exact ⟨hPast, .inl ⟨hIn, hStart⟩⟩
      · refine ⟨_, ⟨hNode, deps, hOld, rfl⟩, ?_⟩
        rw [mem_newDeps, mem_inherited]
        exact ⟨hPast, .inr ⟨hIn, hUp⟩⟩

theorem before_dropCourse
    (hSound : lp.Sound) :
    (dropCourse c lp).Before a b ↔
      lp.Before a b ∧ a ≠ c ∧ b ≠ c := by
  unfold LearningPath.Before
  rw [direct_dropCourse hSound c]
  exact Bypass.transGen_past

/- A course that stays was there. -/
theorem courses_dropCourse
    (hMem : a ∈ (dropCourse c lp).courses) :
    a ∈ lp.courses := by
  rcases dropCourse_cases c lp with
    ⟨hSame, _⟩ | ⟨_, hCourses, _⟩
  · rw [hSame] at hMem
    exact hMem
  · rw [hCourses] at hMem
    exact List.mem_of_mem_filter hMem

/- A course that stays, and is named, is not the dropped one. -/
theorem ne_of_courses_dropCourse
    (hMem : a ∈ (dropCourse c lp).courses)
    (hNamed : lp.prereq ≠ Dict.empty) : a ≠ c := by
  rcases dropCourse_cases c lp with
    ⟨hSame, hOut | hNone | hEmpty⟩ | ⟨_, hCourses, _⟩
  · rintro rfl
    rw [hSame] at hMem
    exact hOut hMem
  · rw [hSame, hNone] at hMem
    cases hMem
  · exact absurd hEmpty hNamed
  · rw [hCourses] at hMem
    simpa using (List.mem_filter.mp hMem).2

theorem prereq_ne_empty
    (hBefore : lp.Before a b) : lp.prereq ≠ Dict.empty := by
  intro hEmpty
  induction hBefore with
  | single hDirect => exact not_direct_of_empty hEmpty hDirect
  | tail _ hDirect _ => exact not_direct_of_empty hEmpty hDirect

/- One drop keeps the order of the courses that stay. -/
theorem before_dropCourse_of_mem
    (hSound : lp.Sound)
    (hStart : a ∈ (dropCourse c lp).courses)
    (hEnd : b ∈ (dropCourse c lp).courses) :
    (dropCourse c lp).Before a b ↔ lp.Before a b := by
  rw [before_dropCourse hSound]
  constructor
  · exact And.left
  · intro hBefore
    have hNamed := prereq_ne_empty hBefore
    exact ⟨hBefore, ne_of_courses_dropCourse hStart hNamed,
      ne_of_courses_dropCourse hEnd hNamed⟩

/- One drop keeps a path sound. -/
theorem LearningPath.Sound.dropCourse
    (hSound : lp.Sound)
    (c : String) :
    (dropCourse c lp).Sound := by
  constructor
  · intro a hLoop
    exact hSound.acyclic a ((before_dropCourse hSound).mp hLoop).1
  · intro b new hGet
    rcases dropCourse_cases c lp with
      ⟨hSame, _⟩ | ⟨_, hCourses, hPrereq⟩
    · rw [hSame] at hGet ⊢
      exact hSound.named b new hGet
    · rw [hPrereq, get?_rewire] at hGet
      rcases hGet with ⟨hNode, deps, hOld, rfl⟩
      simp only [hCourses, List.mem_filter, decide_eq_true_eq]
      have hNamed := hSound.named b deps hOld
      refine ⟨⟨hNamed.1, hNode⟩, ?_⟩
      intro a hMem
      rw [mem_newDeps, mem_inherited] at hMem
      rcases hMem with
        ⟨_, ⟨hIn, hOther⟩ | ⟨_, up, hUp, hIn⟩⟩
      · exact ⟨hNamed.2 a hIn, hOther⟩
      · refine ⟨(hSound.named c up hUp).2 a hIn, ?_⟩
        rintro rfl
        exact hSound.acyclic a (.single ⟨up, hUp, hIn⟩)

--------
-- Any Number Of Drops
--------

variable {lp : LearningPath}
variable {a b : String}

/- What a sequence of drops makes of one path. -/
def dropAll
    (lp : LearningPath)
    (cs : List String) : LearningPath :=
  Runs.run (fun lp c => dropCourse c lp) lp cs

/- The paths of the database are rewired one by one. -/
theorem run_dropCourseFromPaths
    (paths : List LearningPath)
    (cs : List String) :
    Runs.run dropCourseFromPaths paths cs =
      paths.map (fun lp => dropAll lp cs) := by
  induction cs generalizing paths with
  | nil => simp [dropAll]
  | cons c cs ih =>
      rw [Runs.run_cons, ih]
      unfold dropCourseFromPaths
      rw [List.map_map]
      rfl

theorem LearningPath.Sound.dropAll
    (hSound : lp.Sound)
    (cs : List String) : (dropAll lp cs).Sound :=
  Runs.run_invariant LearningPath.Sound
    (fun _ c hSound => hSound.dropCourse c) hSound cs

theorem courses_dropAll
    {cs : List String}
    (hMem : a ∈ (dropAll lp cs).courses) : a ∈ lp.courses := by
  induction cs generalizing lp with
  | nil => exact hMem
  | cons c cs ih => exact courses_dropCourse (ih hMem)

/- The order of the courses that stay is kept. -/
theorem before_dropAll
    (hSound : lp.Sound)
    {cs : List String}
    (hStart : a ∈ (dropAll lp cs).courses)
    (hEnd : b ∈ (dropAll lp cs).courses) :
    (dropAll lp cs).Before a b ↔ lp.Before a b := by
  induction cs generalizing lp with
  | nil => exact Iff.rfl
  | cons c cs ih =>
      calc
        (dropAll (dropCourse c lp) cs).Before a b
          ↔ (dropCourse c lp).Before a b :=
            ih (hSound.dropCourse c) hStart hEnd
        _ ↔ lp.Before a b :=
            before_dropCourse_of_mem hSound
              (courses_dropAll hStart) (courses_dropAll hEnd)

/- Two courses may be dropped in either order. -/
theorem before_dropCourse_comm
    (hSound : lp.Sound)
    (c d : String) :
    (dropCourse d (dropCourse c lp)).Before a b ↔
      (dropCourse c (dropCourse d lp)).Before a b := by
  unfold LearningPath.Before
  rw [direct_dropCourse (hSound.dropCourse c) d,
    direct_dropCourse (hSound.dropCourse d) c,
    direct_dropCourse hSound c, direct_dropCourse hSound d]
  exact Bypass.transGen_past_comm

/-
  Dropping courses keeps a sound path sound and the order of
  the courses that stay, and the last two drops may come in
  either order.
-/
theorem dropped_order
    (paths : List LearningPath)
    (i : Nat)
    (hPath : paths[i]? = some lp)
    (hSound : lp.Sound)
    (cs : List String) :
    ∃ lp', (Runs.run dropCourseFromPaths paths cs)[i]? =
        some lp' ∧
      lp'.Sound ∧
      (∀ a ∈ lp'.courses, ∀ b ∈ lp'.courses,
        (lp'.Before a b ↔ lp.Before a b)) ∧
      ∀ c d, ∃ cd dc,
        (Runs.run dropCourseFromPaths paths
          (cs ++ [c, d]))[i]? = some cd ∧
        (Runs.run dropCourseFromPaths paths
          (cs ++ [d, c]))[i]? = some dc ∧
        ∀ a b, cd.Before a b ↔ dc.Before a b := by
  have hAt : ∀ cs, (Runs.run dropCourseFromPaths paths cs)[i]? =
      some (dropAll lp cs) := by
    intro cs
    rw [run_dropCourseFromPaths, List.getElem?_map, hPath]
    rfl
  refine ⟨dropAll lp cs, hAt cs, hSound.dropAll cs, ?_, ?_⟩
  · intro a hStart b hEnd
    exact before_dropAll hSound hStart hEnd
  · intro c d
    refine ⟨_, _, hAt _, hAt _, ?_⟩
    intro a b
    unfold dropAll
    rw [Runs.run_append, Runs.run_append]
    exact before_dropCourse_comm (hSound.dropAll cs) c d

--------
-- A Chain Of Courses
--------

open Relation

/- A path in which each course asks for the one before. -/
def chain (courseIds : List String) : LearningPath where
  courseIds := .json (orderedUnique courseIds)
  prerequisiteGraph :=
    .json (linearPrereq (orderedUnique courseIds))

variable {a b : String}

/- A neighbour in the list stands one place before. -/
theorem idxOf_of_mem_zip
    {ids : List String}
    (hNodup : ids.Nodup)
    (hMem : (b, a) ∈ ids.tail.zip ids) :
    a ∈ ids ∧ b ∈ ids ∧ ids.idxOf a < ids.idxOf b := by
  rcases List.mem_iff_getElem.mp hMem with ⟨i, hi, hPair⟩
  rw [List.length_zip, List.length_tail] at hi
  have hNext : i + 1 < ids.length := by omega
  have hHere : i < ids.length := by omega
  simp only [List.getElem_zip, List.getElem_tail,
    Prod.mk.injEq] at hPair
  rcases hPair with ⟨rfl, rfl⟩
  rw [hNodup.idxOf_getElem i hHere,
    hNodup.idxOf_getElem (i + 1) hNext]
  exact ⟨List.getElem_mem hHere, List.getElem_mem hNext,
    Nat.lt_succ_self i⟩

/- The generated paths are sound. -/
theorem chain_sound
    (courseIds : List String) : (chain courseIds).Sound := by
  have hNodup := Dict.nodup_fromkeys courseIds
  have hEntry : ∀ b deps,
      (chain courseIds).prereq.get? b = some deps →
      ∃ a, deps = [a] ∧
        (b, a) ∈ (orderedUnique courseIds).tail.zip
          (orderedUnique courseIds) := by
    intro b deps hGet
    have hMem := Dict.mem_of_get?_ofPairs hGet
    rcases List.mem_map.mp hMem with ⟨⟨b', a⟩, hPair, hSame⟩
    cases hSame
    exact ⟨a, rfl, hPair⟩
  constructor
  · have hUp : ∀ a b, (chain courseIds).Before a b →
        (orderedUnique courseIds).idxOf a <
          (orderedUnique courseIds).idxOf b := by
      intro a b hBefore
      induction hBefore with
      | single hDirect =>
          rcases hDirect with ⟨deps, hGet, hIn⟩
          rcases hEntry _ _ hGet with ⟨a', rfl, hPair⟩
          rw [List.mem_singleton] at hIn
          subst hIn
          exact (idxOf_of_mem_zip hNodup hPair).2.2
      | tail _ hDirect ih =>
          rcases hDirect with ⟨deps, hGet, hIn⟩
          rcases hEntry _ _ hGet with ⟨a', rfl, hPair⟩
          rw [List.mem_singleton] at hIn
          subst hIn
          exact Nat.lt_trans ih
            (idxOf_of_mem_zip hNodup hPair).2.2
    intro a hLoop
    exact absurd (hUp a a hLoop) (Nat.lt_irrefl _)
  · intro b deps hGet
    rcases hEntry b deps hGet with ⟨a, rfl, hPair⟩
    have hMem := idxOf_of_mem_zip hNodup hPair
    refine ⟨hMem.2.1, ?_⟩
    intro a' hIn
    rw [List.mem_singleton] at hIn
    rw [hIn]
    exact hMem.1

/- Without the middle of a chain its ends keep their order. -/
theorem chain_ends_ordered :
    ∃ lp', (Runs.run dropCourseFromPaths
        [chain ["A", "B", "C"]] ["B"])[0]? = some lp' ∧
      lp'.courses = ["A", "C"] ∧ lp'.Before "A" "C" := by
  rcases dropped_order [chain ["A", "B", "C"]] 0 rfl
      (chain_sound ["A", "B", "C"]) ["B"] with
    ⟨lp', hAt, _, hOrder, _⟩
  have hCourses : lp'.courses = ["A", "C"] := by
    cases hAt
    decide
  have hFirst : (chain ["A", "B", "C"]).Direct "A" "B" :=
    ⟨["A"], by decide, by decide⟩
  have hSecond : (chain ["A", "B", "C"]).Direct "B" "C" :=
    ⟨["B"], by decide, by decide⟩
  refine ⟨lp', hAt, hCourses, ?_⟩
  apply (hOrder "A" (by simp [hCourses]) "C"
    (by simp [hCourses])).mpr
  exact (TransGen.single hFirst).tail hSecond

end LearningPaths

end TrueNorth
