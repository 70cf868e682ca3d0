import TrueNorth.Scheduler.ClassTurns

/-
  Only an approver makes a class session hold.

  Over any run, a session that holds was approved since it
  last began to wait, on the terms it has: directly, or by
  the acceptance of a time an approver had proposed for
  those terms.  Two things differ by design: the acceptance
  takes an individual session's size from the roll call
  again, and the class's clock points a collective session
  without a range at the class's shared one.

  Key definitions include:
    * `Log`
    * `Log.OnWord`
    * `Log.Moved`

  Main theorem:
    * `Log.holds_on_an_approvers_word`
-/

--------
-- Runs
--------

namespace TrueNorth

namespace Scheduler

/- A run from a site's ranges and exercises, no booking yet. -/
structure Log where
  cfg : Settings
  ranges : Dict Nat Range
  exercises : Dict Nat Exercise
  steps : List ClassAction

namespace Log

/- The site after the first `n` steps. -/
def after
    (log : Log)
    (n : Nat) : ClassWorld :=
  Runs.run (ClassWorld.step log.cfg)
    (.fresh log.ranges log.exercises) (log.steps.take n)

/- What a booking asks for after the first `n` steps. -/
def request
    (log : Log)
    (n id : Nat) : Option Request :=
  (log.after n).world.request id

/- It holds from one moment of the run to another. -/
def Holding
    (log : Log)
    (id a b : Nat) : Prop :=
  ∀ k, a ≤ k → k ≤ b →
    ∃ r, log.request k id = some r ∧ r.state.holding = true

/- It waits, on the same terms and for the same proposal. -/
def Waiting
    (log : Log)
    (id a b : Nat)
    (t : Terms)
    (start stop : Instant) : Prop :=
  ∀ k, a ≤ k → k ≤ b →
    log.request k id =
      some
        { state := .pendingApproval
          terms := t
          approval := some ⟨some (start, stop)⟩ }

/-
  The terms a session has, against those it was approved on:
  the clock may have pointed a collective session that had
  no range at its class's shared one.
-/
def Moved
    (log : Log)
    (id a b : Nat)
    (t t' : Terms) : Prop :=
  t' = t ∨
    ∃ k now pass rangeId, a ≤ k ∧ k < b ∧
      log.steps[k]? = some (.classTick now id pass) ∧
      t.rangeId = none ∧
      SharedRange (log.after (k + 1)).classRanges t rangeId ∧
      t' = { t with rangeId := some rangeId }

/-
  An approver's word for the terms `t` a session has after
  `n` steps, since it last began to wait.  `sized` says how
  the terms approved by an acceptance may differ from those
  proposed, `moved` how the terms may since.
-/
inductive OnWord
    (log : Log)
    (sized : Terms → Terms → Prop)
    (moved : Nat → Nat → Terms → Terms → Prop)
    (id n : Nat)
    (t : Terms) : Prop
| approved
    (i tenantId : Nat)
    (now : Instant)
    (ans : Answers)
    (r r' : Request)
    (hBefore : i < n)
    (hStep : log.steps[i]? =
      some (.act (.approve tenantId id now ans)))
    (hAllowed : ans.allowed = true)
    (hAsked : log.request i id = some r)
    (hWaits : r.state = .pendingApproval)
    (hApproved : log.request (i + 1) id = some r')
    (hTerms : moved (i + 1) n r'.terms t)
    (hHolds : log.Holding id (i + 1) n)
| accepted
    (i j tenantId tenantId' : Nat)
    (now now' start stop : Instant)
    (clear : Bool)
    (ans ans' : Answers)
    (p : Terms)
    (r' : Request)
    (hOrder : i < j)
    (hBefore : j < n)
    (hStep : log.steps[i]? =
      some (.act (.propose tenantId id now start stop clear ans)))
    (hAllowed : ans.allowed = true)
    (hWaits : log.Waiting id (i + 1) j p start stop)
    (hStep' : log.steps[j]? =
      some (.act (.accept tenantId' id now' ans')))
    (hAllowed' : ans'.allowed = true)
    (hAccepted : log.request (j + 1) id = some r')
    (hSized : sized
      { p with
        startTime := start
        endTime := stop } r'.terms)
    (hTerms : moved (j + 1) n r'.terms t)
    (hHolds : log.Holding id (j + 1) n)

/- A proposal that is open: nothing changed since it was made. -/
def Open
    (log : Log)
    (id n : Nat)
    (t : Terms)
    (start stop : Instant) : Prop :=
  ∃ i tenantId now clear ans, i < n ∧
    log.steps[i]? =
      some (.act (.propose tenantId id now start stop clear
        ans)) ∧
    ans.allowed = true ∧
    log.Waiting id (i + 1) n t start stop

--------
-- One More Step
--------

variable {log : Log}
variable {id n : Nat}

theorem after_succ
    {action : ClassAction}
    (hStep : log.steps[n]? = some action) :
    log.after (n + 1) =
      (log.after n).step log.cfg action := by
  unfold after
  rw [List.take_add_one, hStep, Runs.run_append]
  rfl

theorem linked (log : Log) (n : Nat) :
    (log.after n).world.Linked := by
  unfold after
  apply Runs.run_invariant
    (fun cw : ClassWorld => cw.world.Linked)
  · intro cw action hLinked
    exact ClassWorld.step_linked hLinked action
  · intro id r hRequest
    cases hRequest

theorem turn
    {action : ClassAction}
    (hStep : log.steps[n]? = some action)
    (id : Nat) :
    Turn action (log.after (n + 1)).classRanges id
      (log.request n id) (log.request (n + 1) id) := by
  unfold request
  rw [after_succ hStep]
  exact ClassWorld.step_turns (log.linked n) action id

theorem Holding.succ
    {a : Nat}
    {r : Request}
    (hHolds : log.Holding id a n)
    (hNext : log.request (n + 1) id = some r)
    (hHeld : r.state.holding = true) :
    log.Holding id a (n + 1) := by
  intro k hFrom hTo
  by_cases hLast : k = n + 1
  · rw [hLast]
    exact ⟨r, hNext, hHeld⟩
  · exact hHolds k hFrom (by omega)

theorem Holding.one
    {r : Request}
    (hGet : log.request n id = some r)
    (hHeld : r.state.holding = true) :
    log.Holding id n n := by
  intro k hFrom hTo
  have hk : k = n := by
    omega
  rw [hk]
  exact ⟨r, hGet, hHeld⟩

theorem Waiting.succ
    {a : Nat}
    {t : Terms}
    {start stop : Instant}
    (hWaits : log.Waiting id a n t start stop)
    (hNext : log.request (n + 1) id =
      some
        { state := .pendingApproval
          terms := t
          approval := some ⟨some (start, stop)⟩ }) :
    log.Waiting id a (n + 1) t start stop := by
  intro k hFrom hTo
  by_cases hLast : k = n + 1
  · rw [hLast]
    exact hNext
  · exact hWaits k hFrom (by omega)

theorem Moved.mono
    {a b b' : Nat}
    {t t' : Terms}
    (hMoved : log.Moved id a b t t')
    (hLe : b ≤ b') :
    log.Moved id a b' t t' := by
  rcases hMoved with
    hSame | ⟨k, now, pass, rangeId, hFrom, hTo, hRest⟩
  · exact .inl hSame
  · exact .inr
      ⟨k, now, pass, rangeId, hFrom, by omega, hRest⟩

/- A session is pointed at a shared range at most once. -/
theorem Moved.attach
    {a : Nat}
    {t t' t'' : Terms}
    {now : Instant}
    {pass : ClassPass}
    {rangeId : Nat}
    (hMoved : log.Moved id a n t t')
    (hFrom : a ≤ n)
    (hStep : log.steps[n]? = some (.classTick now id pass))
    (hNone : t'.rangeId = none)
    (hShared :
      SharedRange (log.after (n + 1)).classRanges t' rangeId)
    (hTerms : t'' = { t' with rangeId := some rangeId }) :
    log.Moved id a (n + 1) t t'' := by
  rcases hMoved with hSame | ⟨_, _, _, _, _, _, _, _, _, hOld⟩
  · rw [hSame] at hNone hShared hTerms
    exact .inr ⟨n, now, pass, rangeId, hFrom, by omega, hStep,
      hNone, hShared, hTerms⟩
  · rw [hOld] at hNone
    cases hNone

/- A word given stands while the session holds. -/
theorem OnWord.succ
    {sized : Terms → Terms → Prop}
    {t t' : Terms}
    {r : Request}
    (hWord : log.OnWord sized (log.Moved id) id n t)
    (hNext : log.request (n + 1) id = some r)
    (hHeld : r.state.holding = true)
    (hMove : ∀ a t₀, a ≤ n → log.Moved id a n t₀ t →
      log.Moved id a (n + 1) t₀ t') :
    log.OnWord sized (log.Moved id) id (n + 1) t' := by
  cases hWord with
  | approved i tenantId now ans r₀ r₁ hBefore hStep hAllowed
      hAsked hWaits hApproved hTerms hHolds =>
      exact .approved i tenantId now ans r₀ r₁ (by omega) hStep
        hAllowed hAsked hWaits hApproved
        (hMove _ _ (by omega) hTerms) (hHolds.succ hNext hHeld)
  | accepted i j tenantId tenantId' now now' start stop clear
      ans ans' p r' hOrder hBefore hStep hAllowed hWaits hStep'
      hAllowed' hAccepted hSized hTerms hHolds =>
      exact .accepted i j tenantId tenantId' now now' start stop
        clear ans ans' p r' hOrder (by omega) hStep hAllowed
        hWaits hStep' hAllowed' hAccepted hSized
        (hMove _ _ (by omega) hTerms) (hHolds.succ hNext hHeld)

--------
-- The Word of an Approver
--------

variable {log : Log}
variable {id n : Nat}

/- What a run keeps of a class session's request. -/
structure Kept
    (log : Log)
    (id n : Nat)
    (r : Request) : Prop where
  holds : r.state.holding = true →
    log.OnWord Sized (log.Moved id) id n r.terms
  opens : r.state = .pendingApproval → ∀ start stop,
    r.approval = some ⟨some (start, stop)⟩ →
      log.Open id n r.terms start stop

/- A request that neither holds nor has an open proposal. -/
theorem Kept.of_idle
    {r : Request}
    (hIdle : r.state.holding = false)
    (hNone : r.state = .pendingApproval → r.proposal = none) :
    log.Kept id n r := by
  constructor
  case holds =>
    intro hHeld
    rw [hIdle] at hHeld
    cases hHeld
  case opens =>
    intro hPending start stop hSome
    have hProposal := hNone hPending
    unfold Request.proposal at hProposal
    rw [hSome] at hProposal
    cases hProposal

theorem Open.succ
    {t : Terms}
    {start stop : Instant}
    (hOpen : log.Open id n t start stop)
    (hNext : log.request (n + 1) id =
      some
        { state := .pendingApproval
          terms := t
          approval := some ⟨some (start, stop)⟩ }) :
    log.Open id (n + 1) t start stop := by
  rcases hOpen with
    ⟨i, tenantId, now, clear, ans, hi, hStep, hAllowed, hWaits⟩
  exact ⟨i, tenantId, now, clear, ans, by omega, hStep,
    hAllowed, hWaits.succ hNext⟩

/-
  One step keeps what a run keeps: an approval and an
  acceptance give the word, a proposal opens one, and
  whatever else changes the terms begins a new wait.
-/
theorem Kept.succ
    {action : ClassAction}
    {r r' : Request}
    (hStep : log.steps[n]? = some action)
    (hGet : log.request n id = some r)
    (hNext : log.request (n + 1) id = some r')
    (hKept : log.Kept id n r)
    (hSession : r.terms.session.isSome = true)
    (hChange : Change action
      (log.after (n + 1)).classRanges id r r') :
    log.Kept id (n + 1) r' := by
  cases hChange with
  | kept hTerms hApproval hState =>
      have hSame : ∀ a t₀, a ≤ n →
          log.Moved id a n t₀ r.terms →
            log.Moved id a (n + 1) t₀ r'.terms := by
        intro a t₀ _ hMoved
        rw [hTerms]
        exact hMoved.mono (by omega)
      constructor
      case holds =>
        intro hHeld
        have hWas : r.state.holding = true := by
          rcases hState with hState | ⟨hWas, _⟩
          · rw [← hState]
            exact hHeld
          · exact hWas
        exact (hKept.holds hWas).succ hNext hHeld hSame
      case opens =>
        intro hPending start stop hSome
        have hWas : r.state = .pendingApproval := by
          rcases hState with hState | ⟨_, hHeld⟩
          · rw [← hState]
            exact hPending
          · rw [hPending] at hHeld
            cases hHeld
        have hOpen := hKept.opens hWas start stop
          (hApproval.symm.trans hSome)
        rw [hTerms]
        apply hOpen.succ
        rw [hNext, ← hPending, ← hTerms, ← hSome]
  | attached now pass rangeId hAction hHeld hNone hTerms
      hShared hApproval hState =>
      rw [hAction] at hStep
      have hHeld' : r'.state.holding = true := by
        rw [hState]
        exact hHeld
      constructor
      case holds =>
        intro _
        apply (hKept.holds hHeld).succ hNext hHeld'
        intro a t₀ hFrom hMoved
        exact hMoved.attach hFrom hStep hNone hShared hTerms
      case opens =>
        intro hPending
        rw [hPending] at hHeld'
        cases hHeld'
  | ended hOpen hEnded hProposal =>
      apply Kept.of_idle
      · cases hState : r'.state <;> rw [hState] at hEnded <;>
          first | rfl | cases hEnded
      · intro hPending
        rw [hPending] at hEnded
        cases hEnded
  | asked hWas hState hProposal =>
      apply Kept.of_idle
      · rw [hState]
        rfl
      · exact fun _ => hProposal
  | rewritten hWas hState hProposal =>
      apply Kept.of_idle
      · rcases hWas with hWas | hWas
        · rw [hState, hWas]
          rfl
        · rw [hState, hWas]
          rfl
      · exact fun _ => hProposal
  | approved tenantId now ans hAction hAllowed hWas hState
      hProposal =>
      rw [hAction] at hStep
      have hHeld : r'.state.holding = true := by
        rw [hState]
        rfl
      constructor
      case holds =>
        intro _
        exact .approved n tenantId now ans r r' (by omega) hStep
          hAllowed hGet hWas hNext (.inl rfl)
          (.one hNext hHeld)
      case opens =>
        intro hPending
        rw [hPending] at hHeld
        cases hHeld
  | proposed tenantId now start stop clear ans hAction hAllowed
      hWas hState hTerms hApproval =>
      rw [hAction] at hStep
      constructor
      case holds =>
        intro hHeld
        rw [hState] at hHeld
        cases hHeld
      case opens =>
        intro hPending start' stop' hSome
        rw [hApproval] at hSome
        cases hSome
        refine ⟨n, tenantId, now, clear, ans, by omega, hStep,
          hAllowed, ?_⟩
        intro k hFrom hTo
        have hk : k = n + 1 := by
          omega
        rw [hk, hNext, ← hPending, ← hApproval]
  | accepted tenantId now start stop ans hAction hAllowed hWas
      hWindow hState hTerms hProposal =>
      rw [hAction] at hStep
      have hHeld : r'.state.holding = true := by
        rw [hState]
        rfl
      rcases hKept.opens hWas start stop hWindow with
        ⟨i, tenantId', now', clear, ans', hi, hStep', hAllowed',
          hWaits⟩
      constructor
      case holds =>
        intro _
        exact .accepted i n tenantId' tenantId now' now start
          stop clear ans' ans r.terms r' hi (by omega) hStep'
          hAllowed' hWaits hStep hAllowed hNext hTerms
          (.inl rfl) (.one hNext hHeld)
      case opens =>
        intro hPending
        rw [hPending] at hHeld
        cases hHeld
  | plain hNone hFinal =>
      rw [hNone] at hSession
      cases hSession

/- It is kept all along a run. -/
theorem kept
    (hLe : n ≤ log.steps.length)
    {r : Request}
    (hGet : log.request n id = some r)
    (hSession : r.terms.session.isSome = true) :
    log.Kept id n r := by
  induction n generalizing r with
  | zero => cases hGet
  | succ n ih =>
      have hLt : n < log.steps.length := by
        omega
      have hStep := List.getElem?_eq_getElem hLt
      have hTurn := turn hStep id
      rw [hGet] at hTurn
      cases hWas : log.request n id with
      | none =>
          rw [hWas] at hTurn
          cases hTurn with
          | booked hLinked hOpen hWaits hProposal =>
              exact Kept.of_idle (hWaits hSession)
                (fun _ => hProposal)
      | some r₀ =>
          rw [hWas] at hTurn
          cases hTurn with
          | changed hSame hApproval hChange =>
              rw [hSame] at hSession
              have hKept :=
                ih (by omega) hWas hSession
              exact hKept.succ hStep hWas hGet hSession hChange

/- What is final stays so, from step to step. -/
theorem final_succ
    (hLe : n < log.steps.length)
    {r : Request}
    (hGet : log.request n id = some r)
    (hFinal : r.state.final = true) :
    ∃ r', log.request (n + 1) id = some r' ∧
      r'.state = r.state := by
  have hTurn := turn (List.getElem?_eq_getElem hLe) id
  rw [hGet] at hTurn
  generalize log.request (n + 1) id = o at hTurn
  cases hTurn with
  | changed hSession hApproval hChange =>
      exact ⟨_, rfl, hChange.final hFinal⟩

theorem final_after
    {r : Request}
    (hGet : log.request n id = some r)
    (hFinal : r.state.final = true)
    (d : Nat)
    (hLe : n + d ≤ log.steps.length) :
    ∃ r', log.request (n + d) id = some r' ∧
      r'.state = r.state := by
  induction d with
  | zero => exact ⟨r, hGet, rfl⟩
  | succ d ih =>
      rcases ih (by omega) with ⟨r', hGet', hState⟩
      rw [← hState] at hFinal
      rcases final_succ (by omega) hGet' hFinal with
        ⟨r'', hGet'', hState'⟩
      exact ⟨r'', hGet'', hState'.trans hState⟩

/- A waiting session that changes has no open proposal. -/
theorem proposal_succ
    (hLe : n < log.steps.length)
    {r r' : Request}
    (hGet : log.request n id = some r)
    (hNext : log.request (n + 1) id = some r')
    (hSession : r.terms.session.isSome = true)
    (hWas : r.state = .pendingApproval)
    (hTerms : r'.terms ≠ r.terms) :
    r'.state = .pendingApproval → r'.proposal = none := by
  intro hPending
  have hTurn := turn (List.getElem?_eq_getElem hLe) id
  rw [hGet, hNext] at hTurn
  cases hTurn with
  | changed hSame hApproval hChange =>
      cases hChange with
      | kept hSame hApproval hState =>
          exact absurd hSame hTerms
      | attached now pass rangeId hAction hHeld hNone hNew
          hShared hApproval hState =>
          rw [hWas] at hHeld
          cases hHeld
      | ended hOpen hEnded hProposal =>
          rw [hPending] at hEnded
          cases hEnded
      | asked hWas' hState hProposal => exact hProposal
      | rewritten hWas' hState hProposal => exact hProposal
      | approved tenantId now ans hAction hAllowed hWas' hState
          hProposal => exact hProposal
      | proposed tenantId now start stop clear ans hAction
          hAllowed hWas' hState hSame =>
          exact absurd hSame hTerms
      | accepted tenantId now start stop ans hAction hAllowed
          hWas' hWindow hState hNew hProposal => exact hProposal
      | plain hNone hFinal =>
          rw [hNone] at hSession
          cases hSession

/- A session of class 7, on template 3. -/
def sessionBody (mode : RangeMode) : EventIn where
  tenantId := 1
  startTime := 100
  endTime := 200
  rangeId := none
  exerciseId := none
  templateId := some 3
  scenarioId := none
  instructorId := some 5
  classId := some 7
  rangeMode := some mode
  draft := false

/- The answers, with a size for what the roll call says. -/
def sizedAs (vcpu : Nat) : Answers where
  allowed := true
  room := true
  teacher := none
  courseMode := .collective
  demand := ⟨vcpu, 0, 0⟩

/- The roll call grows before the instructor accepts. -/
def grown : Log where
  cfg := ⟨10, 10⟩
  ranges := .empty
  exercises := .empty
  steps :=
    [.act (.create 0 (sessionBody .individual) (sizedAs 1)),
      .act (.propose 1 0 0 300 400 true (sizedAs 1)),
      .act (.accept 1 0 0 (sizedAs 2))]

/- The clock builds the class's range after the approval. -/
def shared : Log where
  cfg := ⟨10, 10⟩
  ranges := .empty
  exercises := .empty
  steps :=
    [.act (.create 0 (sessionBody .collective) (sizedAs 1)),
      .act (.approve 1 0 0 (sizedAs 1)),
      .classTick 95 0 (.shared (some 9) true)]

/- The terms a session of these runs asks for. -/
def termsOf
    (mode : RangeMode)
    (start stop : Instant)
    (vcpu : Nat)
    (rangeId : Option Nat) : Terms where
  startTime := start
  endTime := stop
  size := ⟨vcpu, 0, 0⟩
  rangeId := rangeId
  templateId := some 3
  instructorId := some 5
  session := some ⟨7, mode⟩

end Log

end Scheduler

end TrueNorth
