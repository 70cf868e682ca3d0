import TrueNorth.Fencing.Safety

/-
  The fenced task's wrapper, path by path (worker/fencing.py
  `claim`, `fenced`): what it does after each way its body
  ends, one statement at a time.

  The wrapper drives its own execution of the world, while
  heartbeats, other executions, time and the API take steps
  of their own in between.

  Key definitions include:
    * `BodyEnd`, `Exit`
    * `At`
    * `At.advance`
    * `Wrapped.step`

  Main theorems:
    * `Wrapped.leaves_no_lease`
-/

--------
-- The Wrapper
--------

namespace TrueNorth

namespace Fencing

/-
  How `at_entry(...) or fn(...)` ends.  A retry is an
  exception of Celery's.
-/
inductive BodyEnd where
-- a maintenance window holds the task
| held
| returned (leftover : Bool)
| softTimeLimit
| exception
| leaseLost
| baseException
deriving DecidableEq

/- How `claim` without a holder, or the wrapper, ends. -/
inductive Exit where
| leaseHeld
| notInState
| checkRaised
| returned
| raised
-- the result of an execution that was fenced out
| fencedOut (status : Status)
| kept
deriving DecidableEq

/- Where `claim` and `fenced` are, the next statement first. -/
inductive At where
-- `in_state`, after the upsert
| checking (leased : Bool)
| body
-- `lease.keep()`: its holder, then the extension
| keeping
| extending
-- the handler of an exception, after `lease.stop()`
| failed (leaseLost : Bool)
-- in `lease.refresh()`, the row read
| refreshing
-- `record_leftover`
| recording
-- `release`, and how the wrapper ends then
| releasing (exit : Exit)
-- `on_lost`
| notifying (exit : Exit) (reached : Bool)
-- `reached`: the release, if it had one to do, was done
| ended (exit : Exit) (reached : Bool)
| killed
deriving DecidableEq

/- What the next statement of a wrapper meets. -/
inductive Meets where
| inState (b : Bool)
| raises
| ends (e : BodyEnd)
| database (time : Nat)
-- the database cannot be reached
| outage
deriving DecidableEq

namespace At

/- The wrapper goes on after its body. -/
def afterBody : BodyEnd → At × Option TaskStep
| .held => (.releasing .returned, some .finish)
| .returned leftover =>
    (if leftover then .recording else .releasing .returned,
      some .finish)
| .softTimeLimit => (.keeping, some .softTimeLimit)
| .exception => (.failed false, some .finish)
| .leaseLost => (.failed true, some .finish)
| .baseException => (.releasing .raised, some .finish)

/- `fenced_out`, before the row is read. -/
def fencedOut
    (e : Execution)
    (leaseLost : Bool) : Bool :=
  leaseLost || e.abandoned || e.lost

/- `"abandoned" if lease.abandoned.is_set() else "lease_lost"` -/
def outcome (e : Execution) : Status :=
  if e.abandoned then .abandoned else .lost

/- Where the wrapper is once its release ended. -/
def released
    (e : Execution)
    (exit : Exit)
    (reached : Bool) : At :=
  match exit with
  | .fencedOut _ => .notifying (.fencedOut (outcome e)) reached
  | exit => .ended exit reached

/- The next statement, and what it does to the world. -/
def advance
    (now : Nat)
    (e : Execution) : At → Meets → At × Option TaskStep
| .checking true, .inState b =>
    (if b then .body else .releasing .notInState,
      some (.checked b))
| .checking false, .inState b =>
    (.ended (if b then .leaseHeld else .notInState) true,
      some (.checked b))
| .checking leased, .raises =>
    (if leased then .releasing .checkRaised
      else .ended .checkRaised true,
      some (.checked false))
| .body, .ends bodyEnd => afterBody bodyEnd
| .keeping, .database _ => (.extending, some .takeCurrent)
| .extending, .database time =>
    if time ≤ now then (.ended .kept true, some (.keep time))
    else (.extending, none)
| .extending, .outage => (.ended .kept false, some .keepFailed)
| .failed leaseLost, .database _ =>
    if fencedOut e leaseLost then
      (.releasing (.fencedOut .lost), none)
    else (.refreshing, some .look)
| .failed leaseLost, .outage =>
    (.releasing (if fencedOut e leaseLost then .fencedOut .lost
      else .raised), none)
| .refreshing, .database _ =>
    match e.sight with
    | some seen =>
        (.releasing (if (e.observe seen).2 = .held then .raised
          else .fencedOut .lost), some .observe)
    | none => (.refreshing, none)
-- recorded or not: the failure is logged
| .recording, .database _ => (.releasing .returned, none)
| .recording, .outage => (.releasing .returned, none)
| .releasing exit, .database _ =>
    (released e exit true, some .release)
| .releasing exit, .outage =>
    (released e exit false, some .releaseFailed)
| .notifying exit reached, _ => (.ended exit reached, none)
| at', _ => (at', none)

end At

end Fencing

end TrueNorth

--------
-- Wrapped Executions
--------

namespace TrueNorth

namespace Fencing

/- The steps of the heartbeat thread. -/
def TaskStep.ofBeat : TaskStep → Bool
| .wake => true
| .renew _ => true
| .read => true
| .classify => true
| .renewAgain _ => true
| .blip => true
| _ => false

/- The steps of the task's body. -/
def TaskStep.ofBody : TaskStep → Bool
| .look => true
| .observe => true
| .guardedRangeUpdate => true
| .reserve => true
| .commit => true
| .rollback => true
| _ => false

/-
  The world, where the wrapper of each execution is, and the
  tokens of the claims whose upsert was rolled back.
-/
structure Wrapped where
  world : World
  places : List At
  rolledBack : List Token
deriving DecidableEq

inductive WrapperAct where
| claim (token : Token) (time : Nat)
-- the range's row is gone, or the database is
| claimRollsBack (token : Token)
| wrapper (i : Nat) (meets : Meets)
| kill (i : Nat)
| other (a : Step)
deriving DecidableEq

namespace Wrapped

variable (leaseSeconds : Nat)

def fresh : Wrapped :=
  { world := .fresh
    places := []
    rolledBack := [] }

/- A step of the world that no wrapper takes. -/
def allowed
    (s : Wrapped) : Step → Bool
| .tick _ => true
| .abandon _ _ _ => true
| .forceRelease => true
| .claim _ _ => false
| .task i t =>
    t.ofBeat || (t.ofBody && s.places[i]? = some .body)

def takes
    (s : Wrapped)
    (i : Nat) : Option TaskStep → World
| some t => s.world.step leaseSeconds (.task i t)
| none => s.world

def step
    (s : Wrapped) : WrapperAct → Wrapped
| .claim token time =>
    if token ∉ s.world.tokens ∧ token ∉ s.rolledBack ∧
        time ≤ s.world.now then
      { s with
        world := s.world.step leaseSeconds (.claim token time)
        places := s.places ++
          [.checking (claimLease leaseSeconds s.world.row
            (.plain token) time).2] }
    else
      s
| .claimRollsBack token =>
    if token ∉ s.world.tokens then
      { s with rolledBack := token :: s.rolledBack }
    else
      s
| .wrapper i meets =>
    match s.world.tasks[i]?, s.places[i]? with
    | some e, some place =>
        let next := place.advance s.world.now e meets
        { s with
          world := s.takes leaseSeconds i next.2
          places := s.places.set i next.1 }
    | _, _ => s
| .kill i =>
    match s.places[i]? with
    | some (.ended _ _) => s
    | some _ =>
        { s with
          world := s.takes leaseSeconds i (some .die)
          places := s.places.set i .killed }
    | none => s
| .other a =>
    if s.allowed a then
      { s with world := s.world.step leaseSeconds a }
    else
      s

end Wrapped

end Fencing

end TrueNorth

--------
-- Steps That No Wrapper Takes
--------

namespace TrueNorth

namespace Fencing

variable {leaseSeconds : Nat}

/- An execution may change, but stays where it is. -/
def StaysPut
    (w w' : World)
    (i : Nat)
    (e : Execution) : Prop :=
  w'.tasks = w.tasks ∨
    ∃ e', w'.tasks = w.tasks.set i e' ∧ e'.token = e.token ∧
      e'.place = e.place

namespace World

theorem put_staysPut
    {w w' : World}
    {i : Nat}
    {e e' : Execution}
    (hTasks : w'.tasks = w.tasks)
    (hToken : e'.token = e.token)
    (hPlace : e'.place = e.place) :
    StaysPut w (w'.put i e') i e :=
  .inr ⟨e', by rw [put_tasks, hTasks], hToken, hPlace⟩

theorem beatStep_staysPut
    (w : World)
    (i : Nat)
    (e : Execution)
    (t : TaskStep) :
    StaysPut w (beatStep leaseSeconds w i e t) i e := by
  cases t with
  | wake =>
      simp only [beatStep]
      split
      · exact put_staysPut rfl rfl rfl
      · exact .inl rfl
  | renew time =>
      simp only [beatStep]
      split
      · split
        · split
          · exact put_staysPut rfl rfl rfl
          · exact put_staysPut rfl rfl rfl
        · exact .inl rfl
      · exact .inl rfl
  | read =>
      simp only [beatStep]
      split
      · exact put_staysPut rfl rfl rfl
      · exact .inl rfl
  | classify =>
      simp only [beatStep]
      split
      · next seen hBeat =>
          have hSame := e.observe_unchanged seen
          cases hObserve : e.observe seen with
          | mk e' status =>
              rw [hObserve] at hSame
              cases status with
              | held => exact put_staysPut rfl hSame.1 hSame.2.1
              | abandoned => exact put_staysPut rfl hSame.1 hSame.2.1
              | lost => exact put_staysPut rfl hSame.1 hSame.2.1
      · exact .inl rfl
  | renewAgain time =>
      simp only [beatStep]
      split
      · split
        · exact put_staysPut rfl rfl rfl
        · exact .inl rfl
      · exact .inl rfl
  | blip =>
      simp only [beatStep]
      split <;>
        first
        | exact put_staysPut rfl rfl rfl
        | exact .inl rfl
  | _ => exact .inl rfl

theorem bodyStep_staysPut
    (w : World)
    (i : Nat)
    (e : Execution)
    (t : TaskStep) :
    StaysPut w (bodyStep w i e t) i e := by
  have hNow := e.observe_unchanged (leaseHolder w.row)
  cases t with
  | look =>
      simp only [bodyStep]
      split
      · exact put_staysPut rfl rfl rfl
      · exact .inl rfl
  | observe =>
      simp only [bodyStep]
      split
      · next seen hSight =>
          have hSame := e.observe_unchanged seen
          exact put_staysPut rfl hSame.1 hSame.2.1
      · exact .inl rfl
  | guardedRangeUpdate =>
      simp only [bodyStep]
      split
      · cases hObserve : e.observe (leaseHolder w.row) with
        | mk e' status =>
            rw [hObserve] at hNow
            cases status with
            | held => exact .inl rfl
            | abandoned => exact put_staysPut rfl hNow.1 hNow.2.1
            | lost => exact put_staysPut rfl hNow.1 hNow.2.1
      · exact .inl rfl
  | reserve =>
      simp only [bodyStep]
      split
      · cases hObserve : e.observe (leaseHolder w.row) with
        | mk e' status =>
            rw [hObserve] at hNow
            cases status with
            | held => exact .inl rfl
            | abandoned => exact put_staysPut rfl hNow.1 hNow.2.1
            | lost => exact put_staysPut rfl hNow.1 hNow.2.1
      · exact .inl rfl
  | commit =>
      simp only [bodyStep]
      split
      · split <;> exact .inl rfl
      · exact .inl rfl
  | rollback => exact .inl (unlock_tasks w i)
  | _ => exact .inl rfl

theorem taskStep_staysPut
    (leaseSeconds : Nat)
    (w : World)
    (i : Nat)
    (e : Execution)
    {t : TaskStep}
    (hOwn : t.ofBeat = true ∨ t.ofBody = true) :
    StaysPut w (w.taskStep leaseSeconds i e t) i e := by
  cases t <;>
    first
    | exact beatStep_staysPut w i e _
    | exact bodyStep_staysPut w i e _
    | rcases hOwn with hOwn | hOwn <;> cases hOwn

end World

/- No execution moves in a step that no wrapper takes. -/
theorem Wrapped.other_staysPut
    {s : Wrapped}
    {a : Step}
    (hAllowed : s.allowed a = true)
    {j : Nat}
    {f : Execution}
    (hTask : (s.world.step leaseSeconds a).tasks[j]? = some f) :
    ∃ e, s.world.tasks[j]? = some e ∧ f.token = e.token ∧
      f.place = e.place := by
  cases a with
  | tick seconds => exact ⟨f, hTask, rfl, rfl⟩
  | claim token time => cases hAllowed
  | task i t =>
      have hOwn : t.ofBeat = true ∨ t.ofBody = true := by
        rw [allowed, Bool.or_eq_true, Bool.and_eq_true] at hAllowed
        exact hAllowed.imp id And.left
      simp only [World.step] at hTask
      cases hActing : s.world.tasks[i]? with
      | none =>
          rw [hActing] at hTask
          exact ⟨f, hTask, rfl, rfl⟩
      | some e =>
          simp only [hActing] at hTask
          rcases World.taskStep_staysPut leaseSeconds s.world i e
            hOwn with
            hSame | ⟨e', hSet, hToken, hPlace⟩
          · rw [hSame] at hTask
            exact ⟨f, hTask, rfl, rfl⟩
          · rw [hSet] at hTask
            by_cases hij : i = j
            · rw [hij] at hActing hTask
              have hLength :=
                (List.getElem?_eq_some_iff.mp hActing).1
              rw [List.getElem?_set_self hLength] at hTask
              cases hTask
              exact ⟨e, hActing, hToken, hPlace⟩
            · rw [List.getElem?_set_ne hij] at hTask
              exact ⟨f, hTask, rfl, rfl⟩
  | abandon action legacy time =>
      simp only [World.step] at hTask
      split at hTask <;> exact ⟨f, hTask, rfl, rfl⟩
  | forceRelease =>
      simp only [World.step] at hTask
      split at hTask <;> exact ⟨f, hTask, rfl, rfl⟩

--------
-- Whose Row It Is
--------

variable {leaseSeconds : Nat}

/- The row is an execution's, and was renamed once at most. -/
def World.Known (w : World) : Prop :=
  ∀ r, w.row = some r →
    r.holder.owner ∈ w.tokens ∧
      (r.holder = .plain r.holder.owner ∨
        r.holder = tombstone (.plain r.holder.owner))

theorem World.Known.mono
    {w w' : World}
    (hKnown : w.Known)
    (hRow : leaseHolder w'.row = leaseHolder w.row ∨
      leaseHolder w'.row = none)
    (hTokens : w.tokens ⊆ w'.tokens) :
    w'.Known := by
  intro r' hRow'
  rw [hRow'] at hRow
  rcases hRow with hSame | hNone
  · cases hOld : w.row with
    | none =>
        rw [hOld] at hSame
        cases hSame
    | some r =>
        rw [hOld] at hSame
        have hHolder : r'.holder = r.holder := Option.some.inj hSame
        rcases hKnown r hOld with ⟨hMem, hName⟩
        rw [hHolder]
        exact ⟨hTokens hMem, hName⟩
  · cases hNone

theorem claimLease_cases
    (leaseSeconds : Nat)
    (row : Option LeaseRow)
    (holder : Holder)
    (time : Nat) :
    claimLease leaseSeconds row holder time =
        (some ⟨holder, time + leaseSeconds⟩, true) ∨
      claimLease leaseSeconds row holder time = (row, false) := by
  unfold claimLease
  split
  · exact .inl rfl
  · split
    · exact .inl rfl
    · exact .inr rfl

theorem fenceLease_known
    {w : World}
    (hKnown : w.Known)
    (action : TaskAction)
    (legacy : Bool)
    (time : Nat) :
    World.Known
      { w with
        row := fenceLease leaseSeconds w.row action legacy time }
    := by
  intro r' hRow'
  change fenceLease leaseSeconds w.row action legacy time = _
    at hRow'
  unfold fenceLease at hRow'
  cases hOld : w.row with
  | none =>
      rw [hOld] at hRow'
      cases hRow'
  | some r =>
      rcases hKnown r hOld with ⟨hMem, hName⟩
      simp only [hOld] at hRow'
      split at hRow'
      · next hFenced =>
          cases hRow'
          refine ⟨hMem, .inr ?_⟩
          rcases hName with hPlain | hTombstone
          · exact congrArg tombstone hPlain
          · rw [hTombstone] at hFenced
            cases hFenced
      · cases hRow'
        exact ⟨hMem, hName⟩

theorem leaseHolder_forceRelease
    (row : Option LeaseRow) :
    leaseHolder (forceReleaseTombstone row) = leaseHolder row ∨
      leaseHolder (forceReleaseTombstone row) = none := by
  unfold forceReleaseTombstone
  split
  · exact .inl rfl
  · split
    · exact .inr rfl
    · exact .inl rfl

theorem World.step_known
    {w : World}
    (a : Step)
    (hKnown : w.Known) :
    (w.step leaseSeconds a).Known := by
  have hTokens : w.tokens ⊆ (w.step leaseSeconds a).tokens := by
    have hEither : (w.step leaseSeconds a).tokens = w.tokens ∨ _ :=
      step_tokens w a
    rcases hEither with hSame | ⟨token, _, hMore⟩
    · rw [hSame]
      exact List.Subset.refl _
    · rw [hMore]
      exact List.subset_append_left _ _
  cases a with
  | tick seconds => exact hKnown
  | claim token time =>
      simp only [step] at hTokens ⊢
      split
      · next hGuard =>
          rcases claimLease_cases leaseSeconds w.row
            (.plain token) time with hTaken | hHeld
          · rw [hTaken]
            intro r hRow
            cases hRow
            refine ⟨?_, .inl rfl⟩
            simp [tokens, Holder.owner, Execution.claimed]
          · rw [hHeld]
            refine hKnown.mono (.inl rfl) ?_
            rwa [if_pos hGuard, hHeld] at hTokens
      · exact hKnown
  | task i t =>
      refine hKnown.mono ?_ hTokens
      simp only [step]
      split
      · exact (taskStep_effect leaseSeconds w i _ t).holder
      · exact .inl rfl
  | abandon action legacy time =>
      simp only [step]
      split
      · exact fenceLease_known hKnown action legacy time
      · exact hKnown
  | forceRelease =>
      refine hKnown.mono ?_ hTokens
      simp only [step]
      split
      · exact leaseHolder_forceRelease w.row
      · exact .inl rfl

theorem World.Known.not_owns
    {w : World}
    (hKnown : w.Known)
    {token : Token}
    (hNew : token ∉ w.tokens) :
    ¬Owns token w.row := by
  intro hOwns
  rcases owns_iff.mp hOwns with ⟨r, hRow, hOwner⟩
  exact hNew (hOwner ▸ (hKnown r hRow).1)

/- A release takes away the lease, and the tombstone. -/
theorem World.Known.not_owns_released
    {w : World}
    (hKnown : w.Known)
    (token : Token) :
    ¬Owns token (releaseLease w.row (.plain token)) := by
  intro hOwns
  rcases owns_iff.mp hOwns with ⟨r, hRow, hOwner⟩
  unfold releaseLease at hRow
  cases hOld : w.row with
  | none =>
      rw [hOld] at hRow
      cases hRow
  | some r' =>
      simp only [hOld] at hRow
      split at hRow
      · cases hRow
      · next hOther =>
          cases hRow
          rcases (hKnown r hOld).2 with hPlain | hTombstone
          · exact hOther (.inl (hOwner ▸ hPlain))
          · exact hOther (.inr (hOwner ▸ hTombstone))

/- What an execution's statement does to another's row. -/
theorem World.taskStep_other_row
    {w : World}
    {i : Nat}
    {e : Execution}
    {t : TaskStep}
    {r : LeaseRow}
    (hRow : w.row = some r)
    (hOther : r.holder.owner ≠ e.token) :
    leaseHolder (w.taskStep leaseSeconds i e t).row =
      some r.holder := by
  have hHolder : leaseHolder w.row = some r.holder := by
    rw [hRow]
    rfl
  have hEffect := taskStep_effect leaseSeconds w i e t
  generalize w.taskStep leaseSeconds i e t = w' at hEffect ⊢
  cases hEffect with
  | goesOn e' row hContinues hChange =>
      rw [put_row]
      cases hChange with
      | same => exact hHolder
      | extended holder time seconds =>
          rw [leaseHolder_extendLease]
          exact hHolder
      | released hPlace =>
          have hKept : releaseLease (some r) e.holder = some r := by
            refine if_neg ?_
            rintro (hSame | hSame) <;>
              exact hOther (congrArg Holder.owner hSame)
          rw [hRow, hKept]
          rfl
  | keeps holder time hStep hPlace hTime =>
      rw [put_row, leaseHolder_extendLease]
      exact hHolder
  | unlocks e' hContinues =>
      rw [unlock_row]
      exact hHolder
  | rollsBack =>
      rw [unlock_row]
      exact hHolder
  | _ => exact hHolder

--------
-- The Wrapper And Its Execution
--------

variable {leaseSeconds : Nat}

namespace At

/- Where the execution is, while its wrapper is here. -/
def Fits : At → Place → Prop
| .checking leased, place => place = .checking leased
| .body, place => place = .running
| .keeping, place => place = .keeping
| .extending, place => ∃ holder, place = .extending holder
| .failed _, place => place = .releasing
| .refreshing, place => place = .releasing
| .recording, place => place = .releasing
| .releasing _, place => place = .releasing
| .notifying _ _, place => place = .ended
| .ended _ _, place => place = .ended
| .killed, place => place = .ended

/- From here on the row is not the execution's. -/
def Settled : At → Prop
| .checking leased => leased = false
| .notifying _ reached => reached = true
| .ended exit reached => exit ≠ .kept ∧ reached = true
| _ => False

end At

/- What the wrapper's next statement leaves. -/
structure Advanced
    (leaseSeconds : Nat)
    (s : Wrapped)
    (i : Nat)
    (e : Execution)
    (place : At)
    (next : At × Option TaskStep) : Prop where
  task : ∃ e', (s.takes leaseSeconds i next.2).tasks =
      s.world.tasks.set i e' ∧
    e'.token = e.token ∧ next.1.Fits e'.place
  settled : next.1.Settled → place.Settled ∨
    ¬Owns e.token (s.takes leaseSeconds i next.2).row

namespace Wrapped

variable {s : Wrapped}
variable {i : Nat}
variable {e : Execution}

/- Nothing of the world changes. -/
theorem advanced_none
    (hTask : s.world.tasks[i]? = some e)
    {place place' : At}
    (hFits : place'.Fits e.place)
    (hSettled : place'.Settled → place.Settled) :
    Advanced leaseSeconds s i e place (place', none) := by
  rcases List.getElem?_eq_some_iff.mp hTask with ⟨hLength, hGet⟩
  refine ⟨⟨e, ?_, rfl, hFits⟩, fun hNow => .inl (hSettled hNow)⟩
  rw [← hGet, List.set_getElem_self]
  rfl

/- A step of the execution that leaves the row to its owner. -/
theorem advanced_some
    (hTask : s.world.tasks[i]? = some e)
    {place place' : At}
    {t : TaskStep}
    (e' : Execution)
    (hTasks : (s.world.taskStep leaseSeconds i e t).tasks =
      s.world.tasks.set i e')
    (hToken : e'.token = e.token)
    (hFits : place'.Fits e'.place)
    (hSettled : place'.Settled → place.Settled ∨
      ¬Owns e.token (s.world.taskStep leaseSeconds i e t).row) :
    Advanced leaseSeconds s i e place (place', some t) := by
  have hStep : s.takes leaseSeconds i (some t) =
      s.world.taskStep leaseSeconds i e t := by
    unfold takes World.step
    simp only [hTask]
  refine ⟨⟨e', ?_, hToken, hFits⟩, ?_⟩
  · rw [hStep]
    exact hTasks
  · rw [hStep]
    exact hSettled

theorem advanced_checking
    (hTask : s.world.tasks[i]? = some e)
    {leased : Bool}
    (hPlace : e.place = .checking leased)
    {meets : Meets} :
    Advanced leaseSeconds s i e (.checking leased)
      ((At.checking leased).advance s.world.now e meets) := by
  have hSame : Advanced leaseSeconds s i e (.checking leased)
      (.checking leased, none) :=
    advanced_none hTask hPlace id
  cases leased with
  | false =>
      have hEnds (exit : Exit)
          (b : Bool) :
          Advanced leaseSeconds s i e (.checking false)
            (.ended exit true, some (.checked b)) :=
        advanced_some hTask { e with place := .ended }
          (by simp [World.taskStep, World.wrapperStep, hPlace])
          rfl rfl (fun _ => .inl rfl)
      cases meets with
      | inState b => exact hEnds _ b
      | raises => exact hEnds _ false
      | _ => exact hSame
  | true =>
      have hGivesBack (exit : Exit) :
          Advanced leaseSeconds s i e (.checking true)
            (.releasing exit, some (.checked false)) :=
        advanced_some hTask { e with place := .releasing }
          (by simp [World.taskStep, World.wrapperStep, hPlace])
          rfl rfl (fun hNow => hNow.elim)
      cases meets with
      | inState b =>
          cases b with
          | false => exact hGivesBack .notInState
          | true =>
              exact advanced_some hTask
                { e with place := .running, beat := .waiting }
                (by simp [World.taskStep, World.wrapperStep,
                  hPlace])
                rfl rfl (fun hNow => hNow.elim)
      | raises => exact hGivesBack .checkRaised
      | _ => exact hSame

theorem advanced_body
    (hTask : s.world.tasks[i]? = some e)
    (hPlace : e.place = .running)
    {meets : Meets} :
    Advanced leaseSeconds s i e .body
      (At.body.advance s.world.now e meets) := by
  have hFinish (place' : At)
      (hFits : place'.Fits .releasing)
      (hNot : ¬place'.Settled) :
      Advanced leaseSeconds s i e .body
        (place', some .finish) :=
    advanced_some hTask
      { e with place := .releasing, stopped := true }
      (by simp [World.taskStep, World.wrapperStep, hPlace])
      rfl hFits (fun hNow => absurd hNow hNot)
  cases meets with
  | ends bodyEnd =>
      cases bodyEnd with
      | held => exact hFinish _ rfl id
      | returned leftover =>
          cases leftover with
          | false => exact hFinish _ rfl id
          | true => exact hFinish _ rfl id
      | softTimeLimit =>
          exact advanced_some hTask
            { e with
              place := .keeping
              stopped := true
              sight := none }
            (by simp [World.taskStep, World.wrapperStep, hPlace])
            rfl rfl (fun hNow => hNow.elim)
      | exception => exact hFinish _ rfl id
      | leaseLost => exact hFinish _ rfl id
      | baseException => exact hFinish _ rfl id
  | _ => exact advanced_none hTask hPlace id

theorem advanced_releasing
    (hKnown : s.world.Known)
    (hTask : s.world.tasks[i]? = some e)
    (hPlace : e.place = .releasing)
    (exit : Exit)
    {meets : Meets} :
    Advanced leaseSeconds s i e (.releasing exit)
      ((At.releasing exit).advance s.world.now e meets) := by
  have hFits (reached : Bool) :
      (At.released e exit reached).Fits .ended := by
    unfold At.released
    split <;> rfl
  cases meets with
  | database time =>
      refine advanced_some hTask { e with place := .ended }
        (by simp [World.taskStep, World.wrapperStep, hPlace])
        rfl (hFits true) (fun _ => .inr ?_)
      have hRow :
          (s.world.taskStep leaseSeconds i e .release).row =
            releaseLease s.world.row e.holder := by
        simp [World.taskStep, World.wrapperStep, hPlace]
      rw [hRow]
      exact hKnown.not_owns_released e.token
  | outage =>
      refine advanced_some hTask { e with place := .ended }
        (by simp [World.taskStep, World.wrapperStep, hPlace])
        rfl (hFits false) (fun hNow => ?_)
      unfold At.released at hNow
      split at hNow
      · cases hNow
      · cases hNow.2
  | _ => exact advanced_none hTask hPlace id

/- In the handler of an exception. -/
theorem advanced_failed
    (hTask : s.world.tasks[i]? = some e)
    (hPlace : e.place = .releasing)
    (leaseLost : Bool)
    {meets : Meets} :
    Advanced leaseSeconds s i e (.failed leaseLost)
      ((At.failed leaseLost).advance s.world.now e meets) := by
  cases meets with
  | database time =>
      simp only [At.advance]
      split
      · exact advanced_none hTask hPlace id
      · exact advanced_some hTask
          { e with sight := some (leaseHolder s.world.row) }
          (by simp [World.taskStep, World.bodyStep, hPlace])
          rfl hPlace (fun hNow => hNow.elim)
  | outage => exact advanced_none hTask hPlace id
  | _ => exact advanced_none hTask hPlace id

theorem advanced_refreshing
    (hTask : s.world.tasks[i]? = some e)
    (hPlace : e.place = .releasing)
    {meets : Meets} :
    Advanced leaseSeconds s i e .refreshing
      (At.refreshing.advance s.world.now e meets) := by
  cases meets with
  | database time =>
      simp only [At.advance]
      split
      · next seen hSight =>
          have hSame := e.observe_unchanged seen
          exact advanced_some hTask
            { (e.observe seen).1 with sight := none }
            (by simp [World.taskStep, World.bodyStep, hSight])
            hSame.1 (hSame.2.1.trans hPlace)
            (fun hNow => hNow.elim)
      · exact advanced_none hTask hPlace id
  | _ => exact advanced_none hTask hPlace id

theorem advanced_keeping
    (hTask : s.world.tasks[i]? = some e)
    {place : At}
    (hKeeps : place = .keeping ∨ place = .extending)
    (hFits : place.Fits e.place)
    {meets : Meets} :
    Advanced leaseSeconds s i e place
      (place.advance s.world.now e meets) := by
  rcases hKeeps with hKeeps | hKeeps
  · rw [hKeeps] at hFits ⊢
    have hPlace : e.place = .keeping := hFits
    cases meets with
    | database time =>
        exact advanced_some hTask
          { e with place := .extending e.current }
          (by simp [World.taskStep, World.wrapperStep, hPlace])
          rfl ⟨_, rfl⟩ (fun hNow => hNow.elim)
    | _ => exact advanced_none hTask hPlace id
  · rw [hKeeps] at hFits ⊢
    rcases hFits with ⟨holder, hPlace⟩
    cases meets with
    | database time =>
        simp only [At.advance]
        split
        · next hTime =>
            exact advanced_some hTask { e with place := .ended }
              (by simp [World.taskStep, World.wrapperStep, hPlace,
                hTime])
              rfl rfl (fun hNow => absurd rfl hNow.1)
        · exact advanced_none hTask ⟨holder, hPlace⟩ id
    | outage =>
        exact advanced_some hTask { e with place := .ended }
          (by simp [World.taskStep, World.wrapperStep, hPlace])
          rfl rfl (fun hNow => absurd rfl hNow.1)
    | _ => exact advanced_none hTask ⟨holder, hPlace⟩ id

/- Each statement moves the wrapper and its execution alike. -/
theorem advanced
    (hKnown : s.world.Known)
    (hTask : s.world.tasks[i]? = some e)
    {place : At}
    (hFits : place.Fits e.place)
    (meets : Meets) :
    Advanced leaseSeconds s i e place
      (place.advance s.world.now e meets) := by
  cases place with
  | checking leased => exact advanced_checking hTask hFits
  | body => exact advanced_body hTask hFits
  | keeping => exact advanced_keeping hTask (.inl rfl) hFits
  | extending => exact advanced_keeping hTask (.inr rfl) hFits
  | failed leaseLost => exact advanced_failed hTask hFits leaseLost
  | refreshing => exact advanced_refreshing hTask hFits
  | recording =>
      cases meets <;> exact advanced_none hTask hFits id
  | releasing exit =>
      exact advanced_releasing hKnown hTask hFits exit
  | notifying exit reached =>
      refine advanced_none hTask hFits (fun hNow => hNow.2)
  | ended exit reached =>
      cases meets <;> exact advanced_none hTask hFits id
  | killed =>
      cases meets <;> exact advanced_none hTask hFits id

end Wrapped

end Fencing

end TrueNorth

--------
-- No Lease Is Left Behind
--------

namespace TrueNorth

namespace Fencing

variable {leaseSeconds : Nat}

namespace Wrapped

/- Each wrapper is where its execution is. -/
structure Inv (s : Wrapped) : Prop where
  known : s.world.Known
  length : s.places.length = s.world.tasks.length
  fits : ∀ (i : Nat) (e : Execution) (place : At),
    s.world.tasks[i]? = some e → s.places[i]? = some place →
      place.Fits e.place
  settled : ∀ (i : Nat) (e : Execution) (place : At),
    s.world.tasks[i]? = some e → s.places[i]? = some place →
      place.Settled → ¬Owns e.token s.world.row
  rolledBack : ∀ token ∈ s.rolledBack,
    ¬Owns token s.world.row ∧ token ∉ s.world.tokens

theorem fresh_inv : fresh.Inv := by
  refine ⟨?_, rfl, ?_, ?_, ?_⟩
  · intro r hRow
    cases hRow
  · intro i e place hTask
    cases hTask
  · intro i e place hTask
    cases hTask
  · intro token hMem
    cases hMem

/- A token that is never taken never owns the row. -/
theorem rolledBack_step
    {s : Wrapped}
    (hInv : s.Inv)
    {a : Step}
    (hTokens : ∀ token ∈ s.rolledBack,
      token ∉ (s.world.step leaseSeconds a).tokens) :
    ∀ token ∈ s.rolledBack,
      ¬Owns token (s.world.step leaseSeconds a).row ∧
        token ∉ (s.world.step leaseSeconds a).tokens := by
  intro token hMem
  exact ⟨(World.step_known a hInv.known).not_owns
    (hTokens token hMem), hTokens token hMem⟩

theorem tokens_of_tasks
    {w w' : World}
    {i : Nat}
    {e e' : Execution}
    (hTask : w.tasks[i]? = some e)
    (hTasks : w'.tasks = w.tasks.set i e')
    (hToken : e'.token = e.token) :
    w'.tokens = w.tokens := by
  rcases List.getElem?_eq_some_iff.mp hTask with ⟨hLength, hGet⟩
  unfold World.tokens
  rw [hTasks, List.map_set, hToken, ← hGet,
    ← List.getElem_map Execution.token, List.set_getElem_self]
  rw [List.length_map]
  exact hLength

/- The wrapper and its execution after a step of the wrapper. -/
theorem step_wrapper
    {s : Wrapped}
    (hInv : s.Inv)
    {i : Nat}
    {e : Execution}
    {place place' : At}
    {t : Option TaskStep}
    (hTask : s.world.tasks[i]? = some e)
    (hPlace : s.places[i]? = some place)
    (hAdvanced : Advanced leaseSeconds s i e place (place', t)) :
    Inv
      { s with
        world := s.takes leaseSeconds i t
        places := s.places.set i place' } := by
  rcases hAdvanced with ⟨⟨e', hTasks, hToken, hFits⟩, hSettled⟩
  have hLength : i < s.places.length :=
    (List.getElem?_eq_some_iff.mp hPlace).1
  have hLength' : i < s.world.tasks.length :=
    (List.getElem?_eq_some_iff.mp hTask).1
  have hTokens := tokens_of_tasks hTask hTasks hToken
  have hOthers (f : Execution)
      (hMem : f ∈ s.world.tasks)
      (hNot : ¬Owns f.token s.world.row) :
      ¬Owns f.token (s.takes leaseSeconds i t).row := by
    cases t with
    | none => exact hNot
    | some t => exact World.step_not_owns _ hMem hNot
  have hKnown : (s.takes leaseSeconds i t).Known := by
    cases t with
    | none => exact hInv.known
    | some t => exact World.step_known _ hInv.known
  refine ⟨hKnown, ?_, ?_, ?_, ?_⟩
  · show (s.places.set i place').length =
      (s.takes leaseSeconds i t).tasks.length
    rw [hTasks, List.length_set, List.length_set]
    exact hInv.length
  · intro j f place'' hTask' hPlace'
    change (s.takes leaseSeconds i t).tasks[j]? = some f at hTask'
    change (s.places.set i place')[j]? = some place'' at hPlace'
    rw [hTasks] at hTask'
    by_cases hij : i = j
    · subst hij
      rw [List.getElem?_set_self hLength'] at hTask'
      rw [List.getElem?_set_self hLength] at hPlace'
      cases hTask'
      cases hPlace'
      exact hFits
    · rw [List.getElem?_set_ne hij] at hTask' hPlace'
      exact hInv.fits j f place'' hTask' hPlace'
  · intro j f place'' hTask' hPlace' hNow
    change (s.takes leaseSeconds i t).tasks[j]? = some f at hTask'
    change (s.places.set i place')[j]? = some place'' at hPlace'
    rw [hTasks] at hTask'
    by_cases hij : i = j
    · subst hij
      rw [List.getElem?_set_self hLength'] at hTask'
      rw [List.getElem?_set_self hLength] at hPlace'
      cases hTask'
      cases hPlace'
      rw [hToken]
      rcases hSettled hNow with hBefore | hGone
      · exact hOthers e (List.mem_of_getElem? hTask)
          (hInv.settled i e place hTask hPlace hBefore)
      · exact hGone
    · rw [List.getElem?_set_ne hij] at hTask' hPlace'
      exact hOthers f (List.mem_of_getElem? hTask')
        (hInv.settled j f place'' hTask' hPlace' hNow)
  · intro token hMem
    have hOut := (hInv.rolledBack token hMem).2
    rw [← hTokens] at hOut
    exact ⟨hKnown.not_owns hOut, hOut⟩

theorem step_kill
    {s : Wrapped}
    (hInv : s.Inv)
    {i : Nat}
    {place : At}
    (hPlace : s.places[i]? = some place) :
    Inv
      { s with
        world := s.takes leaseSeconds i (some .die)
        places := s.places.set i .killed } := by
  have hLength : i < s.world.tasks.length := by
    rw [← hInv.length]
    exact (List.getElem?_eq_some_iff.mp hPlace).1
  have hTask : s.world.tasks[i]? = some s.world.tasks[i] :=
    List.getElem?_eq_getElem hLength
  refine step_wrapper hInv hTask hPlace ?_
  exact advanced_some hTask
    { s.world.tasks[i] with
      place := .ended
      beat := .ended
      sight := none }
    (by simp [World.taskStep, World.wrapperStep])
    rfl rfl (fun hNow => hNow.elim)

theorem step_other
    {s : Wrapped}
    (hInv : s.Inv)
    {a : Step}
    (hAllowed : s.allowed a = true) :
    Inv { s with world := s.world.step leaseSeconds a } := by
  have hBefore (j : Nat)
      (f : Execution)
      (hTask : (s.world.step leaseSeconds a).tasks[j]? = some f) :=
    other_staysPut hAllowed hTask
  have hTokens :
      (s.world.step leaseSeconds a).tokens = s.world.tokens := by
    have hEither : (s.world.step leaseSeconds a).tokens =
        s.world.tokens ∨ _ :=
      World.step_tokens s.world a
    rcases hEither with hSame | ⟨token, _, hMore⟩
    · exact hSame
    · exfalso
      have hLast : (s.world.step leaseSeconds a).tokens[
          s.world.tokens.length]? = some token := by
        rw [hMore]
        exact List.getElem?_concat_length
      unfold World.tokens at hLast
      rw [List.getElem?_map, Option.map_eq_some_iff] at hLast
      rcases hLast with ⟨f, hTask, _⟩
      rcases hBefore _ f hTask with ⟨e, hOld, _⟩
      have hBound := (List.getElem?_eq_some_iff.mp hOld).1
      rw [List.length_map] at hBound
      exact Nat.lt_irrefl _ hBound
  refine ⟨World.step_known a hInv.known, ?_, ?_, ?_, ?_⟩
  · have hLength := congrArg List.length hTokens
    unfold World.tokens at hLength
    rw [List.length_map, List.length_map] at hLength
    exact hInv.length.trans hLength.symm
  · intro j f place hTask hPlace
    rcases hBefore j f hTask with ⟨e, hOld, _, hStays⟩
    rw [hStays]
    exact hInv.fits j e place hOld hPlace
  · intro j f place hTask hPlace hNow
    rcases hBefore j f hTask with ⟨e, hOld, hToken, _⟩
    rw [hToken]
    exact World.step_not_owns a (List.mem_of_getElem? hOld)
      (hInv.settled j e place hOld hPlace hNow)
  · refine rolledBack_step hInv ?_
    intro token hMem
    rw [hTokens]
    exact (hInv.rolledBack token hMem).2

theorem step_claim
    {s : Wrapped}
    (hInv : s.Inv)
    {token : Token}
    {time : Nat}
    (hNew : token ∉ s.world.tokens)
    (hUnused : token ∉ s.rolledBack)
    (hTime : time ≤ s.world.now) :
    Inv
      { s with
        world := s.world.step leaseSeconds (.claim token time)
        places := s.places ++
          [.checking (claimLease leaseSeconds s.world.row
            (.plain token) time).2] } := by
  have hTasks :
      (s.world.step leaseSeconds (.claim token time)).tasks =
        s.world.tasks ++
          [.claimed token (claimLease leaseSeconds s.world.row
            (.plain token) time).2] := by
    simp [World.step, hNew, hTime]
  have hTokens :
      (s.world.step leaseSeconds (.claim token time)).tokens =
        s.world.tokens ++ [token] := by
    unfold World.tokens
    rw [hTasks, List.map_append]
    rfl
  have hSplit (j : Nat)
      (f : Execution)
      (place : At)
      (hTask : (s.world.step leaseSeconds
        (.claim token time)).tasks[j]? = some f)
      (hPlace : (s.places ++
        [At.checking (claimLease leaseSeconds s.world.row
          (.plain token) time).2])[j]? = some place) :
      (s.world.tasks[j]? = some f ∧ s.places[j]? = some place) ∨
        (f = .claimed token (claimLease leaseSeconds s.world.row
            (.plain token) time).2 ∧
          place = .checking (claimLease leaseSeconds s.world.row
            (.plain token) time).2) := by
    rw [hTasks] at hTask
    by_cases hOld : j < s.world.tasks.length
    · rw [List.getElem?_append_left hOld] at hTask
      rw [List.getElem?_append_left (hInv.length ▸ hOld)] at hPlace
      exact .inl ⟨hTask, hPlace⟩
    · have hLast : j = s.world.tasks.length := by
        have hBound := (List.getElem?_eq_some_iff.mp hTask).1
        rw [List.length_append, List.length_singleton] at hBound
        omega
      rw [hLast, List.getElem?_concat_length] at hTask
      rw [hLast, ← hInv.length,
        List.getElem?_concat_length] at hPlace
      exact .inr ⟨(Option.some.inj hTask).symm,
        (Option.some.inj hPlace).symm⟩
  refine ⟨World.step_known _ hInv.known, ?_, ?_, ?_, ?_⟩
  · show (s.places ++ [_]).length = _
    rw [hTasks, List.length_append, List.length_append,
      hInv.length]
    rfl
  · intro j f place hTask hPlace
    rcases hSplit j f place hTask hPlace with
      ⟨hTask, hPlace⟩ | ⟨hNewTask, hNewPlace⟩
    · exact hInv.fits j f place hTask hPlace
    · rw [hNewTask, hNewPlace]
      exact rfl
  · intro j f place hTask hPlace hNow
    rcases hSplit j f place hTask hPlace with
      ⟨hTask, hPlace⟩ | ⟨hNewTask, hNewPlace⟩
    · exact World.step_not_owns _ (List.mem_of_getElem? hTask)
        (hInv.settled j f place hTask hPlace hNow)
    · rw [hNewPlace] at hNow
      rw [hNewTask]
      -- the upsert took nothing: the row is as it was
      have hSame :
          (s.world.step leaseSeconds (.claim token time)).row =
            s.world.row := by
        rcases claimLease_cases leaseSeconds s.world.row
          (.plain token) time with hTaken | hHeld
        · rw [hTaken] at hNow
          cases hNow
        · simp [World.step, hNew, hTime, hHeld]
      rw [hSame]
      exact hInv.known.not_owns hNew
  · refine rolledBack_step hInv ?_
    intro token' hMem
    rw [hTokens, List.mem_append, List.mem_singleton]
    rintro (hOld | hSame)
    · exact (hInv.rolledBack token' hMem).2 hOld
    · exact hUnused (hSame ▸ hMem)

theorem step_inv
    (s : Wrapped)
    (a : WrapperAct)
    (hInv : s.Inv) :
    (s.step leaseSeconds a).Inv := by
  cases a with
  | claim token time =>
      simp only [step]
      split
      · next hGuard =>
          exact step_claim hInv hGuard.1 hGuard.2.1 hGuard.2.2
      · exact hInv
  | claimRollsBack token =>
      simp only [step]
      split
      · next hNew =>
          refine ⟨hInv.known, hInv.length, hInv.fits,
            hInv.settled, ?_⟩
          intro token' hMem
          rcases List.mem_cons.mp hMem with hSame | hOld
          · rw [hSame]
            exact ⟨hInv.known.not_owns hNew, hNew⟩
          · exact hInv.rolledBack token' hOld
      · exact hInv
  | wrapper i meets =>
      simp only [step]
      split
      · next e place hTask hPlace =>
          exact step_wrapper hInv hTask hPlace
            (advanced hInv.known hTask
              (hInv.fits i e place hTask hPlace) meets)
      · exact hInv
  | kill i =>
      simp only [step]
      split
      · exact hInv
      · next place hPlace => exact step_kill hInv hPlace
      · exact hInv
  | other a =>
      simp only [step]
      split
      · next hAllowed => exact step_other hInv hAllowed
      · exact hInv

/- What a wrapper's own step does to another's row. -/
theorem wrapper_other_row
    {s : Wrapped}
    {i : Nat}
    {e : Execution}
    {r : LeaseRow}
    (hTask : s.world.tasks[i]? = some e)
    (hRow : s.world.row = some r)
    (hOther : r.holder.owner ≠ e.token)
    (meets : Meets) :
    leaseHolder (s.step leaseSeconds (.wrapper i meets)).world.row =
      some r.holder := by
  have hHolder : leaseHolder s.world.row = some r.holder := by
    rw [hRow]
    rfl
  simp only [step, hTask]
  cases hPlace : s.places[i]? with
  | none => exact hHolder
  | some place =>
      show leaseHolder (s.takes leaseSeconds i
        (place.advance s.world.now e meets).2).row = _
      cases (place.advance s.world.now e meets).2 with
      | none => exact hHolder
      | some t =>
          unfold takes World.step
          simp only [hTask]
          exact World.taskStep_other_row hRow hOther

/-
  In every interleaving: a wrapper that ended otherwise than
  by a soft time limit, and a claim that gave no holder, left
  no lease or tombstone of its own, if the database could be
  reached for the release; nor did a claim whose upsert was
  rolled back; and no wrapper's statement takes or renames
  the row of another.
-/
theorem leaves_no_lease
    (actions : List WrapperAct) :
    let s := Runs.run (step leaseSeconds) fresh actions
    (∀ (i : Nat) (e : Execution) (exit : Exit),
      s.world.tasks[i]? = some e →
      s.places[i]? = some (.ended exit true) →
      exit ≠ .kept →
        ¬Owns e.token s.world.row) ∧
    (∀ token ∈ s.rolledBack, ¬Owns token s.world.row) ∧
    ∀ (i : Nat) (e : Execution) (r : LeaseRow) (meets : Meets),
      s.world.tasks[i]? = some e →
      s.world.row = some r →
      r.holder.owner ≠ e.token →
        leaseHolder
            (s.step leaseSeconds (.wrapper i meets)).world.row =
          some r.holder := by
  intro s
  have hInv : s.Inv :=
    Runs.run_invariant Inv step_inv fresh_inv actions
  refine ⟨?_, ?_, ?_⟩
  · intro i e exit hTask hPlace hExit
    exact hInv.settled i e _ hTask hPlace ⟨hExit, rfl⟩
  · intro token hMem
    exact (hInv.rolledBack token hMem).1
  · intro i e r meets hTask hRow hOther
    exact wrapper_other_row hTask hRow hOther meets

/-
  The build fails, and is abandoned before its handler reads
  the row: what is released is the tombstone.
-/
example :
    let s := Runs.run (step 180) fresh
      [.claim ⟨some .provision, 1⟩ 0, .wrapper 0 (.inState true),
        .other (.tick 10), .wrapper 0 (.ends .exception),
        .other (.abandon .provision false 10),
        .wrapper 0 (.database 10), .wrapper 0 (.database 10),
        .wrapper 0 (.database 10), .wrapper 0 (.database 10)]
    s.places = [.ended (.fencedOut .abandoned) true] ∧
      s.world.row = none := by
  decide

end Wrapped

end Fencing

end TrueNorth
