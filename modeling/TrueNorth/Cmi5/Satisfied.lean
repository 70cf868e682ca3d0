import Mathlib.Data.List.Dedup
import TrueNorth.Lib.ShortCircuit
import TrueNorth.Cmi5.Lms
import TrueNorth.Cmi5.Structure

/-
  Recording what is satisfied (cmi5/lms.py, `evaluate`).
  The blocks of a course and the course itself each have a
  `satisfied` statement, sent once.

  A block looks at its children until one is not satisfied:
  what is nested in a later child is not looked at.  The
  course looks at all of its own children.

  Key definitions include:
    * `nodeOk`, `evaluate`
    * `Satisfied`, `Reaches`
    * `Complete`
    * `evaluate_complete_iff`
-/

--------
-- Evaluation
--------

namespace TrueNorth

namespace Cmi5

open Structure

def typeBlock : String :=
  "https://w3id.org/xapi/cmi5/activitytype/block"

def typeCourse : String :=
  "https://w3id.org/xapi/cmi5/activitytype/course"

/- What an evaluation reads besides the registration. -/
structure Surroundings where
  -- `lms_statement_id` of the parts
  statementId : List String → String
  -- `xapi.actor` of the registration's user
  actor : Json
  iriBase : String
  releaseId : String
  sessionId : String
  -- `_stamp()`
  stamp : String

namespace Surroundings

/- `course_runtime_id`. -/
def courseRuntimeId (env : Surroundings) : String :=
  env.iriBase ++ "/cmi5/releases/" ++ env.releaseId

/- `block_runtime_id`. -/
def blockRuntimeId
    (env : Surroundings)
    (index : Nat) : String :=
  env.courseRuntimeId ++ "/block/" ++ toString index

/- `_satisfied_statement`. -/
def satisfiedStatement
    (env : Surroundings)
    (reg : Registration)
    (runtimeId : String)
    (publisherId : String)
    (activityType : String) : Json :=
  .obj [
    ("id", .str
      (env.statementId [reg.id, "satisfied", runtimeId])),
    ("actor", env.actor),
    ("verb", .obj [
      ("id", .str satisfied),
      ("display", .obj [("en", .str "satisfied")])]),
    ("object", .obj [
      ("objectType", .str "Activity"),
      ("id", .str runtimeId),
      ("definition", .obj [("type", .str activityType)])]),
    ("context", .obj [
      ("registration", .str reg.id),
      ("contextActivities", .obj [
        ("category", .arr [.obj [("id", .str catCmi5)]]),
        ("grouping", .arr [.obj [("id", .str publisherId)]])]),
      ("extensions",
        .obj [(extSession, .str env.sessionId)])]),
    ("timestamp", .str env.stamp)]

end Surroundings

def Structure.MoveOn.text : MoveOn → String
| .notApplicable => "NotApplicable"
| .passed => "Passed"
| .completed => "Completed"
| .completedAndPassed => "CompletedAndPassed"
| .completedOrPassed => "CompletedOrPassed"

/- The AU as the other requests read it. -/
def Structure.AU.asAU (au : Structure.AU) : Cmi5.AU where
  publisherId := au.publisherId
  moveOn := au.moveOn.text
  masteryScore := au.masteryScore

/- `au_satisfied`, with the states of all AUs. -/
def Structure.AU.satisfiedIn
    (au : Structure.AU)
    (aus : Nat → AuState) : Bool :=
  auSatisfied au.asAU (aus au.index)

/- `done` and `newly`. -/
structure Recording where
  done : List String
  newly : List String
deriving DecidableEq

/- A key whose statement the LRS takes, once. -/
def Recording.record
    (r : Recording)
    (lrs : Json → Bool)
    (key : String)
    (statement : Json) : Recording :=
  if key ∈ r.done then r
  else if lrs statement then
    { done := r.done ++ [key]
      newly := r.newly ++ [key] }
  else r

/- The registration with what was recorded saved. -/
def Registration.save
    (reg : Registration)
    (r : Recording) : Registration :=
  { reg with satisfied := r.done.mergeSort (· ≤ ·) }

def blockKey (index : Nat) : String :=
  "block:" ++ toString index

section

variable (env : Surroundings)
variable (s : CourseStructure)
variable (lrs : Json → Bool)
variable (reg : Registration)

/- The statement for a block of the structure. -/
def blockStatement
    (index : Nat)
    (block : Block) : Json :=
  env.satisfiedStatement reg (env.blockRuntimeId index)
    block.publisherId typeBlock

/- `node_ok`, nested at most `depth` calls deep. -/
def nodeOk :
    Nat → Child → Recording → Option (Bool × Recording)
| 0, _, _ => none
| _ + 1, .au index, r =>
    match s.aus[index]? with
    | none => none
    | some au => some (au.satisfiedIn reg.aus, r)
| depth + 1, .block index, r =>
    match s.blocks[index]? with
    | none => none
    | some block =>
        match ShortCircuit.all (nodeOk depth)
            block.children r with
        | none => none
        | some (false, r) => some (false, r)
        | some (true, r) =>
            some (true, r.record lrs (blockKey index)
              (blockStatement env reg index block))

/-
  `evaluate`: the keys newly recorded, and the registration.
-/
def evaluate : Option (List String × Registration) :=
  match ShortCircuit.every
      (nodeOk env s lrs reg (s.blocks.length + 1)) s.children
      ⟨reg.satisfied.dedup, []⟩ with
  | none => none
  | some (courseOk, r) =>
      let r :=
        if courseOk then
          r.record lrs "course"
            (env.satisfiedStatement reg env.courseRuntimeId
              s.publisherId typeCourse)
        else r
      some (r.newly, reg.save r)

end

--------
-- What Is Satisfied
--------

open Structure

section

variable (s : CourseStructure)
variable (aus : Nat → AuState)

/- An AU by its moveOn, a block by all that is in it. -/
inductive Satisfied : Child → Prop
| au
    {index : Nat}
    {au : Structure.AU}
    (hGet : s.aus[index]? = some au)
    (hSatisfied : au.satisfiedIn aus = true) :
    Satisfied (.au index)
| block
    {index : Nat}
    {block : Block}
    (hGet : s.blocks[index]? = some block)
    (hChildren : ∀ c ∈ block.children, Satisfied c) :
    Satisfied (.block index)

/-
  A block in a child, or the child itself: in every block on
  the way down, the children before the one that leads on
  are satisfied.
-/
inductive Reaches : Child → Nat → Prop
| here
    (index : Nat) :
    Reaches (.block index) index
| inside
    {index index' : Nat}
    {block : Block}
    {c : Child}
    (hGet : s.blocks[index]? = some block)
    (hReached :
      ShortCircuit.Reached (Satisfied s aus) block.children c)
    (hReaches : Reaches c index') :
    Reaches (.block index) index'

/- The keys of what is satisfied, at every depth. -/
def Due (key : String) : Prop :=
  (∃ index, Satisfied s aus (.block index) ∧
      key = blockKey index) ∨
    ((∀ c ∈ s.children, Satisfied s aus c) ∧ key = "course")

end

variable {s : CourseStructure}
variable {aus : Nat → AuState}

theorem satisfied_au_iff
    {index : Nat}
    {au : Structure.AU}
    (hGet : s.aus[index]? = some au) :
    Satisfied s aus (.au index) ↔ au.satisfiedIn aus = true := by
  constructor
  · rintro (⟨hGet', hSatisfied⟩ | _)
    rw [hGet] at hGet'
    cases hGet'
    exact hSatisfied
  · exact Satisfied.au hGet

theorem satisfied_block_iff
    {index : Nat}
    {block : Block}
    (hGet : s.blocks[index]? = some block) :
    Satisfied s aus (.block index) ↔
      ∀ c ∈ block.children, Satisfied s aus c := by
  constructor
  · rintro (_ | ⟨hGet', hChildren⟩)
    rw [hGet] at hGet'
    cases hGet'
    exact hChildren
  · exact Satisfied.block hGet

theorem not_reaches_au
    {i j : Nat} :
    ¬Reaches s aus (.au i) j := by
  intro hReaches
  cases hReaches

theorem reaches_block_iff
    {i j : Nat}
    {block : Block}
    (hGet : s.blocks[i]? = some block) :
    Reaches s aus (.block i) j ↔
      j = i ∨
        ∃ c, ShortCircuit.Reached (Satisfied s aus)
            block.children c ∧
          Reaches s aus c j := by
  constructor
  · intro hReaches
    cases hReaches with
    | here => exact .inl rfl
    | inside hGet' hReached hReaches =>
        rw [hGet] at hGet'
        cases hGet'
        exact .inr ⟨_, hReached, hReaches⟩
  · rintro (rfl | ⟨c, hReached, hReaches⟩)
    · exact .here _
    · exact .inside hGet hReached hReaches

theorem blockKey_injective
    {i j : Nat}
    (hSame : blockKey i = blockKey j) : i = j := by
  have hDigits : Nat.toDigits 10 i = Nat.toDigits 10 j := by
    have hChars := congrArg String.toList hSame
    rw [blockKey, blockKey, String.toList_append,
      String.toList_append] at hChars
    have hRepr := List.append_cancel_left hChars
    rwa [Nat.toString_eq_repr, Nat.toString_eq_repr,
      Nat.toList_repr, Nat.toList_repr] at hRepr
  have hSame' := congrArg (Nat.ofDigitChars 10 · 0) hDigits
  have hLt : 1 < 10 := by omega
  rwa [Nat.ofDigitChars_toDigits hLt (Nat.le_refl _),
    Nat.ofDigitChars_toDigits hLt (Nat.le_refl _)] at hSame'

theorem blockKey_ne_course
    (i : Nat) :
    blockKey i ≠ "course" := by
  intro hSame
  have hChars := congrArg String.toList hSame
  unfold blockKey at hChars
  rw [String.toList_append] at hChars
  cases (List.cons.inj hChars).1

--------
-- What an Evaluation Records
--------

open Structure

/- Each key recorded once, and what is new among the rest. -/
structure Recording.Distinct (r : Recording) : Prop where
  done : r.done.Nodup
  newly : r.newly.Nodup
  subset : r.newly ⊆ r.done

/- The key that is recorded, if the LRS takes it. -/
structure Records
    (taken : String → Prop)
    (r r' : Recording) : Prop where
  done : ∀ key, key ∈ r'.done ↔ key ∈ r.done ∨ taken key
  newly : ∀ key,
    key ∈ r'.newly ↔ key ∈ r.newly ∨ key ∉ r.done ∧ taken key
  distinct : r.Distinct → r'.Distinct

theorem Records.none
    {taken : String → Prop}
    (hNone : ∀ key, ¬taken key)
    (r : Recording) :
    Records taken r r where
  done := by
    intro key
    simp [hNone key]
  newly := by
    intro key
    simp [hNone key]
  distinct := id

theorem Records.trans
    {taken taken' : String → Prop}
    {r r' r'' : Recording}
    (hFirst : Records taken r r')
    (hThen : Records taken' r' r'') :
    Records (fun key => taken key ∨ taken' key) r r'' where
  done := by
    intro key
    rw [hThen.done, hFirst.done, or_assoc]
  newly := by
    intro key
    rw [hThen.newly, hFirst.newly, hFirst.done]
    tauto
  distinct := fun hDistinct =>
    hThen.distinct (hFirst.distinct hDistinct)

theorem Records.congr
    {taken taken' : String → Prop}
    {r r' : Recording}
    (hRecords : Records taken r r')
    (hSame : ∀ key, taken key ↔ taken' key) :
    Records taken' r r' := by
  have hEq : taken = taken' := by
    funext key
    exact propext (hSame key)
  rwa [← hEq]

theorem Recording.record_records
    (r : Recording)
    (lrs : Json → Bool)
    (key : String)
    (statement : Json) :
    Records (fun k => k = key ∧ lrs statement = true)
      r (r.record lrs key statement) := by
  unfold Recording.record
  split
  · next hDone =>
      refine ⟨?_, ?_, id⟩
      · intro k
        constructor
        · exact .inl
        · rintro (hMem | ⟨rfl, _⟩)
          · exact hMem
          · exact hDone
      · intro k
        constructor
        · exact .inl
        · rintro (hMem | ⟨hNot, rfl, _⟩)
          · exact hMem
          · exact absurd hDone hNot
  · next hNotDone =>
      split
      · next hTakes =>
          refine ⟨?_, ?_, ?_⟩
          · intro k
            simp [hTakes]
          · intro k
            simp only [List.mem_append, List.mem_singleton,
              hTakes, and_true]
            constructor
            · rintro (hMem | rfl)
              · exact .inl hMem
              · exact .inr ⟨hNotDone, rfl⟩
            · rintro (hMem | ⟨_, rfl⟩)
              · exact .inl hMem
              · exact .inr rfl
          · intro hDistinct
            have hNotNew : key ∉ r.newly :=
              fun hMem => hNotDone (hDistinct.subset hMem)
            have hDone := List.Nodup.concat hNotDone hDistinct.done
            have hNewly := List.Nodup.concat hNotNew hDistinct.newly
            rw [List.concat_eq_append] at hDone hNewly
            exact ⟨hDone, hNewly,
              List.append_subset.mpr
                ⟨List.subset_append_of_subset_left _
                    hDistinct.subset,
                  List.subset_append_right _ _⟩⟩
      · next hRefuses =>
          refine Records.none ?_ r
          rintro k ⟨_, hTakes⟩
          exact hRefuses hTakes

section

variable (env : Surroundings)
variable (s : CourseStructure)
variable (lrs : Json → Bool)
variable (reg : Registration)

/- The key of one of these blocks, if the LRS takes it. -/
def Taken
    (blocks : Set Nat)
    (key : String) : Prop :=
  ∃ index ∈ blocks, ∃ block,
    s.blocks[index]? = some block ∧
      lrs (blockStatement env reg index block) = true ∧
      key = blockKey index

/- The satisfied blocks that a child's evaluation reaches. -/
def reached (c : Child) : Set Nat :=
  {j | Reaches s reg.aus c j ∧ Satisfied s reg.aus (.block j)}

/- How deep the calls for a child go. -/
def need : Child → Nat
| .au _ => 1
| .block i => s.blocks.length - i + 1

end

variable {env : Surroundings}
variable {s : CourseStructure}
variable {lrs : Json → Bool}
variable {reg : Registration}

theorem records_none
    (r : Recording) :
    Records (Taken env s lrs reg ∅) r r := by
  refine Records.none ?_ r
  rintro key ⟨index, hMem, _⟩
  exact hMem

theorem records_union
    (x y : Set Nat)
    (r r' r'' : Recording)
    (hFirst : Records (Taken env s lrs reg x) r r')
    (hThen : Records (Taken env s lrs reg y) r' r'') :
    Records (Taken env s lrs reg (x ∪ y)) r r'' := by
  refine (hFirst.trans hThen).congr ?_
  intro key
  simp only [Taken, Set.mem_union, or_and_right, exists_or]

/- What a block reaches: itself, and what its children do. -/
theorem mem_reached_block
    {i j : Nat}
    {block : Block}
    (hGet : s.blocks[i]? = some block) :
    j ∈ reached s reg (.block i) ↔
      (j = i ∧ Satisfied s reg.aus (.block i)) ∨
        ∃ c, ShortCircuit.Reached (Satisfied s reg.aus)
            block.children c ∧
          j ∈ reached s reg c := by
  unfold reached
  rw [Set.mem_ofPred_eq, reaches_block_iff hGet]
  constructor
  · rintro ⟨rfl | ⟨c, hReached, hReaches⟩, hSatisfied⟩
    · exact .inl ⟨rfl, hSatisfied⟩
    · exact .inr ⟨c, hReached, hReaches, hSatisfied⟩
  · rintro (⟨rfl, hSatisfied⟩ |
      ⟨c, hReached, hReaches, hSatisfied⟩)
    · exact ⟨.inl rfl, hSatisfied⟩
    · exact ⟨.inr ⟨c, hReached, hReaches⟩, hSatisfied⟩

open Classical in
/-
  Induction on the depth: a block's children are numbered
  after it, so that the depth left is enough for them.
-/
theorem nodeOk_eq
    (hForward : Forward s.aus s.blocks)
    {depth : Nat}
    {c : Child}
    (hWithin : c.Within 0 s.aus s.blocks)
    (hDepth : need s c ≤ depth)
    (r : Recording) :
    ∃ r', nodeOk env s lrs reg depth c r =
        some (decide (Satisfied s reg.aus c), r') ∧
      Records (Taken env s lrs reg (reached s reg c)) r r' := by
  induction depth generalizing c r with
  | zero => cases c <;> simp [need] at hDepth
  | succ depth ih =>
      cases c with
      | au i =>
          have hGet := List.getElem?_eq_getElem hWithin
          refine ⟨r, ?_, ?_⟩
          · simp [nodeOk, hGet, satisfied_au_iff hGet]
          · have hEmpty : reached s reg (.au i) = ∅ := by
              apply Set.eq_empty_of_forall_notMem
              exact fun j hMem => not_reaches_au hMem.1
            rw [hEmpty]
            exact records_none r
      | block i =>
          have hBlock : ∃ block, s.blocks[i]? = some block :=
            ⟨_, List.getElem?_eq_getElem hWithin.2⟩
          rcases hBlock with ⟨block, hGet⟩
          have hChild : ∀ c ∈ block.children, ∀ r,
              ∃ r', nodeOk env s lrs reg depth c r =
                  some (decide (Satisfied s reg.aus c), r') ∧
                Records
                  (Taken env s lrs reg (reached s reg c)) r r' := by
            intro c hMem r
            have hInner := hForward i _ hGet c hMem
            refine ih ?_ ?_ r
            · exact hInner.mono (Nat.zero_le _)
                (Nat.le_refl _) (Nat.le_refl _)
            · cases c with
              | au j =>
                  have hLt := hWithin.2
                  simp only [need] at hDepth ⊢
                  omega
              | block j =>
                  have hLow := hInner.1
                  have hHigh := hInner.2
                  simp only [need] at hDepth ⊢
                  omega
          rcases ShortCircuit.all_eq records_none records_union
              hChild r with ⟨r₁, hAll, hInside⟩
          have hHolds := @satisfied_block_iff s reg.aus i block hGet
          by_cases hSatisfied : Satisfied s reg.aus (.block i)
          · rw [decide_eq_true (hHolds.mp hSatisfied)] at hAll
            refine ⟨r₁.record lrs (blockKey i)
              (blockStatement env reg i block), ?_, ?_⟩
            · simp [nodeOk, hGet, hAll, hSatisfied]
            · refine (hInside.trans
                (r₁.record_records lrs _ _)).congr ?_
              intro key
              constructor
              · rintro (⟨j, hMem, hTaken⟩ | ⟨rfl, hTakes⟩)
                · exact ⟨j, (mem_reached_block hGet).mpr
                    (.inr hMem), hTaken⟩
                · exact ⟨i, (mem_reached_block hGet).mpr
                    (.inl ⟨rfl, hSatisfied⟩),
                    block, hGet, hTakes, rfl⟩
              · rintro ⟨j, hMem, block', hGet', hTakes, hKey⟩
                rcases (mem_reached_block hGet).mp hMem with
                  ⟨rfl, _⟩ | hMem
                · rw [hGet] at hGet'
                  cases hGet'
                  exact .inr ⟨hKey, hTakes⟩
                · exact .inl
                    ⟨j, hMem, block', hGet', hTakes, hKey⟩
          · rw [decide_eq_false (fun hAll' =>
              hSatisfied (hHolds.mpr hAll'))] at hAll
            refine ⟨r₁, ?_, ?_⟩
            · simp [nodeOk, hGet, hAll, hSatisfied]
            · refine hInside.congr ?_
              intro key
              unfold Taken
              simp only [mem_reached_block hGet, hSatisfied,
                and_false, false_or, Set.mem_ofPred_eq]

/- What an evaluation leaves, from what was recorded. -/
theorem Records.fromStart
    {taken : String → Prop}
    {satisfied : List String}
    {r : Recording}
    (hRecords : Records taken ⟨satisfied.dedup, []⟩ r) :
    r.newly.Nodup ∧
      (∀ key, key ∈ r.done.mergeSort (· ≤ ·) ↔
        key ∈ satisfied ∨ key ∈ r.newly) ∧
      ∀ key, key ∈ r.newly ↔ key ∉ satisfied ∧ taken key := by
  have hStart : Recording.Distinct ⟨satisfied.dedup, []⟩ :=
    ⟨List.nodup_dedup _, List.nodup_nil, List.nil_subset _⟩
  have hNewly : ∀ key,
      key ∈ r.newly ↔ key ∉ satisfied ∧ taken key := by
    intro key
    rw [hRecords.newly]
    simp
  refine ⟨(hRecords.distinct hStart).newly, ?_, hNewly⟩
  intro key
  rw [List.mem_mergeSort, hRecords.done, hNewly]
  simp only [List.mem_dedup]
  tauto

open Classical in
/-
  What `evaluate` records: of a structure that is well
  numbered, the blocks that are reached and satisfied.
-/
theorem evaluate_eq
    (hNumbered : s.WellNumbered) :
    ∃ newly reg', evaluate env s lrs reg = some (newly, reg') ∧
      reg'.aus = reg.aus ∧ newly.Nodup ∧
      (∀ key, key ∈ reg'.satisfied ↔
        key ∈ reg.satisfied ∨ key ∈ newly) ∧
      ∀ key, key ∈ newly ↔ key ∉ reg.satisfied ∧
        (Taken env s lrs reg
            {j | ∃ c ∈ s.children, j ∈ reached s reg c} key ∨
          (∀ c ∈ s.children, Satisfied s reg.aus c) ∧
            key = "course" ∧
            lrs (env.satisfiedStatement reg
              env.courseRuntimeId s.publisherId typeCourse) =
                true) := by
  have hChild : ∀ c ∈ s.children, ∀ r,
      ∃ r', nodeOk env s lrs reg (s.blocks.length + 1) c r =
          some (decide (Satisfied s reg.aus c), r') ∧
        Records (Taken env s lrs reg (reached s reg c)) r r' := by
    intro c hMem r
    refine nodeOk_eq hNumbered.forward
      (hNumbered.top c hMem) ?_ r
    cases c <;> simp only [need] <;> omega
  rcases ShortCircuit.every_eq records_none records_union hChild
      ⟨reg.satisfied.dedup, []⟩ with ⟨r, hEvery, hBlocks⟩
  by_cases hCourse : ∀ c ∈ s.children, Satisfied s reg.aus c
  · rw [decide_eq_true hCourse] at hEvery
    refine ⟨_, reg.save (r.record lrs "course" _),
      by rw [evaluate, hEvery]; rfl, rfl,
      Records.fromStart ?_⟩
    refine (hBlocks.trans (r.record_records lrs _ _)).congr ?_
    intro key
    rw [and_iff_right hCourse]
  · rw [decide_eq_false hCourse] at hEvery
    refine ⟨_, reg.save r, by rw [evaluate, hEvery]; rfl, rfl,
      Records.fromStart ?_⟩
    refine hBlocks.congr ?_
    intro key
    simp [hCourse]

--------
-- Completeness
--------

open Structure

section

variable (env : Surroundings)
variable (s : CourseStructure)
variable (reg : Registration)

/-
  With an LRS that takes every statement, one evaluation
  records what is satisfied and was not recorded, each key
  once, and another one after it records nothing.
-/
def Complete : Prop :=
  ∃ newly reg',
    evaluate env s (fun _ => true) reg = some (newly, reg') ∧
      newly.Nodup ∧
      (∀ key, key ∈ newly ↔
        key ∉ reg.satisfied ∧ Due s reg.aus key) ∧
      (∀ key, key ∈ reg'.satisfied ↔
        key ∈ reg.satisfied ∨ key ∈ newly) ∧
      ∀ env' lrs, ∃ reg'',
        evaluate env' s lrs reg' = some ([], reg'')

/-
  Every satisfied block that is not recorded is reached from
  the top of the course: no child that is not satisfied
  stands before it in a block, at any depth.
-/
def NoneBehind : Prop :=
  ∀ index, Satisfied s reg.aus (.block index) →
    blockKey index ∉ reg.satisfied →
      ∃ c ∈ s.children, Reaches s reg.aus c index

end

variable {env : Surroundings}
variable {s : CourseStructure}
variable {reg : Registration}

theorem taken_iff
    {blocks : Set Nat}
    {key : String} :
    Taken env s (fun _ => true) reg blocks key ↔
      ∃ index ∈ blocks, index < s.blocks.length ∧
        key = blockKey index := by
  constructor
  · rintro ⟨index, hMem, block, hGet, _, hKey⟩
    exact ⟨index, hMem,
      (List.getElem?_eq_some_iff.mp hGet).1, hKey⟩
  · rintro ⟨index, hMem, hLt, hKey⟩
    exact ⟨index, hMem, _, List.getElem?_eq_getElem hLt, rfl,
      hKey⟩

theorem Satisfied.lt_length
    {aus : Nat → AuState}
    {index : Nat}
    (hSatisfied : Satisfied s aus (.block index)) :
    index < s.blocks.length := by
  cases hSatisfied with
  | block hGet _ => exact (List.getElem?_eq_some_iff.mp hGet).1

/- What is recorded where every statement is taken. -/
theorem evaluate_accepted
    (hNumbered : s.WellNumbered) :
    ∃ newly reg',
      evaluate env s (fun _ => true) reg = some (newly, reg') ∧
      reg'.aus = reg.aus ∧ newly.Nodup ∧
      (∀ key, key ∈ reg'.satisfied ↔
        key ∈ reg.satisfied ∨ key ∈ newly) ∧
      ∀ key, key ∈ newly ↔ key ∉ reg.satisfied ∧
        ((∃ index, (∃ c ∈ s.children,
              Reaches s reg.aus c index) ∧
            Satisfied s reg.aus (.block index) ∧
            key = blockKey index) ∨
          (∀ c ∈ s.children, Satisfied s reg.aus c) ∧
            key = "course") := by
  rcases @evaluate_eq env s (fun _ => true) reg hNumbered with
    ⟨newly, reg', hEvaluate, hAus, hNodup, hSaved, hNewly⟩
  refine ⟨newly, reg', hEvaluate, hAus, hNodup, hSaved, ?_⟩
  intro key
  rw [hNewly, taken_iff]
  apply and_congr Iff.rfl
  apply or_congr
  · constructor
    · rintro ⟨index, ⟨c, hMem, hReaches, hHolds⟩, _, hKey⟩
      exact ⟨index, ⟨c, hMem, hReaches⟩, hHolds, hKey⟩
    · rintro ⟨index, ⟨c, hMem, hReaches⟩, hHolds, hKey⟩
      exact ⟨index, ⟨c, hMem, hReaches, hHolds⟩,
        hHolds.lt_length, hKey⟩
  · simp

/- An evaluation after one that was recorded records nothing. -/
theorem evaluate_again
    (hNumbered : s.WellNumbered)
    {newly : List String}
    {reg' : Registration}
    (hEvaluate :
      evaluate env s (fun _ => true) reg = some (newly, reg'))
    (env' : Surroundings)
    (lrs : Json → Bool) :
    ∃ reg'', evaluate env' s lrs reg' = some ([], reg'') := by
  rcases @evaluate_accepted env s reg hNumbered with
    ⟨newly₁, reg₁, hFirst, hAus, _, hSaved, hNewly⟩
  rw [hFirst] at hEvaluate
  cases hEvaluate
  rcases @evaluate_eq env' s lrs reg' hNumbered with
    ⟨newly', reg'', hAgain, _, _, _, hNewly'⟩
  have hNone : newly' = [] := by
    apply List.eq_nil_iff_forall_not_mem.mpr
    intro key hMem
    rcases (hNewly' key).mp hMem with ⟨hNot, hWhich⟩
    rw [hSaved, not_or] at hNot
    apply hNot.2
    rw [hNewly]
    refine ⟨hNot.1, ?_⟩
    rw [hAus] at hWhich
    rcases hWhich with
      ⟨index, ⟨c, hChild, hReaches, hHolds⟩, _, _, _, hKey⟩ |
      ⟨hCourse, hKey, _⟩
    · rw [hAus] at hReaches hHolds
      exact .inl ⟨index, ⟨c, hChild, hReaches⟩, hHolds, hKey⟩
    · exact .inr ⟨hCourse, hKey⟩
  exact ⟨reg'', by rw [hAgain, hNone]⟩

/- Recording is complete just where none is left behind. -/
theorem complete_iff
    (hNumbered : s.WellNumbered) :
    Complete env s reg ↔ NoneBehind s reg := by
  rcases @evaluate_accepted env s reg hNumbered with
    ⟨newly, reg', hEvaluate, _, hNodup, hSaved, hNewly⟩
  constructor
  · rintro ⟨newly', reg'', hEvaluate', _, hDue, _, _⟩
    rw [hEvaluate] at hEvaluate'
    cases hEvaluate'
    intro index hHolds hNot
    have hMem : blockKey index ∈ newly :=
      (hDue _).mpr ⟨hNot, .inl ⟨index, hHolds, rfl⟩⟩
    rcases ((hNewly _).mp hMem).2 with
      ⟨index', hReached, _, hKey⟩ | ⟨_, hKey⟩
    · rw [blockKey_injective hKey]
      exact hReached
    · exact absurd hKey (blockKey_ne_course index)
  · intro hNone
    refine ⟨newly, reg', hEvaluate, hNodup, ?_, hSaved,
      evaluate_again hNumbered hEvaluate⟩
    intro key
    rw [hNewly]
    constructor
    · rintro ⟨hNot, ⟨index, _, hHolds, hKey⟩ | hCourse⟩
      · exact ⟨hNot, .inl ⟨index, hHolds, hKey⟩⟩
      · exact ⟨hNot, .inr hCourse⟩
    · rintro ⟨hNot, ⟨index, hHolds, rfl⟩ | hCourse⟩
      · exact ⟨hNot,
          .inl ⟨index, hNone index hHolds hNot, hHolds, rfl⟩⟩
      · exact ⟨hNot, .inr hCourse⟩

/-
  For every course structure that is parsed and every state
  of the AUs: recording is complete if and only if no
  satisfied block is left behind an unsatisfied child.
-/
theorem evaluate_complete_iff
    (fromstring : List UInt8 → Except String Element)
    (float : String → Option Double)
    (data : List UInt8)
    (s : CourseStructure)
    (env : Surroundings)
    (reg : Registration)
    (hParse : parse fromstring float data = .ok s) :
    Complete env s reg ↔ NoneBehind s reg :=
  complete_iff (parse_wellNumbered hParse)

--------
-- A Block Left Behind
--------

open Structure

namespace LeftBehind

/- An AU of the document, with its moveOn. -/
def au
    (id : String)
    (moveOn : String) : Element :=
  .node (q "au") [("id", id), ("moveOn", moveOn)] none
    [.node (q "url") [] (some "index.html") []]

/-
  A block with an AU to pass, and in it, after that AU, a
  block with an AU that asks for nothing.
-/
def document : Element :=
  .node (q "courseStructure") [] none
    [.node (q "course") [("id", "c")] none [],
      .node (q "block") [("id", "outer")] none
        [au "first" "Passed",
          .node (q "block") [("id", "inner")] none
            [au "second" "NotApplicable"]]]

def parsed : CourseStructure where
  publisherId := "c"
  title := Dict.empty
  description := Dict.empty
  children := [.block 0]
  aus := [
    ⟨0, "first", Dict.empty, Dict.empty, "index.html", .passed,
      none, "AnyWindow", none, none, [0]⟩,
    ⟨1, "second", Dict.empty, Dict.empty, "index.html",
      .notApplicable, none, "AnyWindow", none, none, [0, 1]⟩]
  blocks := [
    ⟨0, "outer", Dict.empty, [.au 0, .block 1]⟩,
    ⟨1, "inner", Dict.empty, [.au 1]⟩]

theorem parse_document :
    parse (fun _ => .ok document) (fun _ => none) [] =
      .ok parsed := by
  decide

def surroundings : Surroundings where
  statementId := fun parts => String.intercalate ":" parts
  actor := .obj []
  iriBase := ""
  releaseId := ""
  sessionId := ""
  stamp := ""

/- A registration in which nothing was done yet. -/
def registration : Registration where
  id := ""
  aus := fun _ => {}
  satisfied := []

/- The block within is satisfied. -/
theorem inner_satisfied :
    Satisfied parsed registration.aus (.block 1) := by
  have hBlock : parsed.blocks[1]? =
      some ⟨1, "inner", Dict.empty, [.au 1]⟩ := rfl
  apply Satisfied.block hBlock
  intro c hMem
  rw [List.mem_singleton.mp hMem]
  exact Satisfied.au rfl (by decide)

/- It is not recorded, though the LRS takes everything. -/
theorem inner_not_recorded :
    parse (fun _ => .ok document) (fun _ => none) [] =
        .ok parsed ∧
      Satisfied parsed registration.aus (.block 1) ∧
      (evaluate surroundings parsed (fun _ => true)
        registration).map Prod.fst = some [] ∧
      ¬Complete surroundings parsed registration := by
  have hNothing :
      (evaluate surroundings parsed (fun _ => true)
        registration).map Prod.fst = some [] := by
    decide
  refine ⟨parse_document, inner_satisfied, hNothing, ?_⟩
  rintro ⟨newly, reg', hEvaluate, _, hNewly, _⟩
  rw [hEvaluate, Option.map_some, Option.some.injEq] at hNothing
  have hNone : newly = [] := hNothing
  have hMem : blockKey 1 ∈ newly :=
    (hNewly _).mpr
      ⟨List.not_mem_nil, .inl ⟨1, inner_satisfied, rfl⟩⟩
  rw [hNone] at hMem
  exact List.not_mem_nil hMem

theorem complete_iff_document :
    parse (fun _ => .ok document) (fun _ => none) [] =
        .ok parsed ∧
      (Complete surroundings parsed registration ↔
        NoneBehind parsed registration) :=
  ⟨parse_document,
    evaluate_complete_iff _ _ _ _ _ _ parse_document⟩

end LeftBehind

end Cmi5

end TrueNorth
