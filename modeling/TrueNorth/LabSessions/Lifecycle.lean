import TrueNorth.Lib.Checks
import TrueNorth.Lib.Dict
import TrueNorth.LabSessions.Tasks
import TrueNorth.RangeCredentials.Accounts

/-
  The lifecycle of lab sessions and the isolated networks
  they lease (lab_sessions/models.py, lab_sessions/service.py).

  An operation reads and writes its own session, that
  session's range and snapshot, and the leases.  It is done
  whole, under the session's lease, and the tasks that it
  queued are sent after it, as far as they go out.  Windows,
  quotas, capacity, probes, classes and consoles are what it
  is told.

  Key definitions include:
    * `LabSession`
    * `Op`
    * `Op.start`, `Op.fail`, `Op.endLab`
    * `Op.advance`, `Op.reset`, `Op.touch`
    * `World.step`
-/

--------
-- Sessions
--------

namespace TrueNorth

namespace LabSessions

namespace Lifecycle

open RangeOps (RangeState)
open RangeCredentials (SnapshotState)

inductive SessionState where
| queued
| provisioning
| baselining
| ready
| active
| resetting
| completed
| expired
| cleaning
| reconcileWait
| destroyed
| failed
| reconcile
deriving DecidableEq

namespace SessionState

/- The session's `state`, as it is stored and shown. -/
def value : SessionState → String
| queued => "queued"
| provisioning => "provisioning"
| baselining => "baselining"
| ready => "ready"
| active => "active"
| resetting => "resetting"
| completed => "completed"
| expired => "expired"
| cleaning => "cleaning"
| reconcileWait => "reconciling"
| destroyed => "destroyed"
| failed => "failed"
| reconcile => "reconcile_required"

/- `ENDING`. -/
def ending : SessionState → Bool
| completed => true
| expired => true
| cleaning => true
| reconcile => true
| reconcileWait => true
| _ => false

/- `TERMINAL`; what is not holds resources. -/
def terminal : SessionState → Bool
| destroyed => true
| failed => true
| _ => false

end SessionState

inductive ResetMode where
| snapshot
| rebuild
deriving DecidableEq

/- What is read of a release's lab profile. -/
structure LabProfile where
  networks : List String
  -- each node's name and its networks
  nodes : List (String × List String)
  resetMode : ResetMode
  maxSeconds : Nat
  idleSeconds : Nat
deriving DecidableEq

/- Whose lab it is, and of what. -/
structure Key where
  tenantId : Nat
  userId : Nat
  releaseId : Nat
  activityId : String
deriving DecidableEq

structure LabSession where
  key : Key
  attempt : Nat
  profile : LabProfile
  mock : Bool
  backend : String
  state : SessionState
  stateSince : Nat
  stepAttempts : Nat
  rangeId : Option Nat
  baselineSnapshotId : Option Nat
  retiredRanges : List Nat
  pending : List LabTask
  provisioningAt : Option Nat
  latestEndAt : Option Nat
  maxExpiresAt : Option Nat
  idleExpiresAt : Option Nat
  error : String
  endReason : String
deriving DecidableEq

namespace LabSession

/- `_set_state`. -/
def setState
    (s : LabSession)
    (state : SessionState)
    (now : Nat) : LabSession :=
  if s.state = state then s
  else
    { s with
      state := state
      stateSince := now
      stepAttempts := 0 }

/- `_send`. -/
def send
    (s : LabSession)
    (task : LabTask) : LabSession :=
  { s with pending := s.pending ++ [task] }

end LabSession

/- A `LabNetworkLease`, of its port group. -/
structure NetworkLease where
  sessionId : Option Nat
  networkName : String
deriving DecidableEq

/-
  A search for what ranges left behind, as it was queued;
  no code reads it.
-/
structure Search where
  sessionId : Nat
  rangeIds : List Nat
  queuedAt : Nat
deriving DecidableEq

/- The platform's settings that are read. -/
structure Settings where
  portGroups : List String
  maxNetworksPerTenant : Nat
  queueTimeout : Nat
  provisionTimeout : Nat
  stepTimeout : Nat
  reconcileGrace : Nat
  teardownAttempts : Nat
  idleLimit : Nat
  maxLifetime : Nat
  consoleRecheck : Nat
deriving DecidableEq

/-
  What an operation is told: whether a maintenance window, a
  quota or the site's capacity holds a new build back;
  whether the probes pass; whether the range is a class's,
  and when the class ends; how many consoles are open; and
  the ids of new rows.
-/
structure Outside where
  windowHolds : Option String
  quotaProblem : Option String
  capacityRefused : Bool
  probesPass : Bool
  classRange : Bool
  -- whether the lab draws on its class, and the class's end
  classEnd : Option (Bool × Nat)
  -- not asked, unknown, or how many
  consoles : Option (Option Nat)
  anyPendingPassword : Bool
  newRange : Nat
  newSnapshot : Nat
deriving DecidableEq

/-
  An operation of one session under way: the session, and
  what else there is, as changed so far.
-/
structure Op where
  id : Nat
  now : Nat
  session : LabSession
  ranges : Dict Nat RangeState
  snapshots : Dict Nat SnapshotState
  leases : Dict String NetworkLease
  searched : List Search

--------
-- Parts of Operations
--------

open RangeOps (RangeState)
open RangeCredentials (SnapshotState)

inductive Refusal where
| status (code : Nat) (message : String)
| labsBusy
deriving DecidableEq

namespace Op

/- The session's own range. -/
def range (op : Op) : Option RangeState :=
  op.session.rangeId.bind op.ranges.get?

/- The session's own baseline snapshot. -/
def snapshot (op : Op) : Option SnapshotState :=
  op.session.baselineSnapshotId.bind op.snapshots.get?

def rangeName (op : Op) : String :=
  match op.session.rangeId with
  | none => ""
  | some rangeId => toString rangeId

def snapshotName (op : Op) : String :=
  match op.session.baselineSnapshotId with
  | none => ""
  | some snapshotId => toString snapshotId

def send
    (op : Op)
    (task : LabTask) : Op :=
  { op with session := op.session.send task }

def setState
    (op : Op)
    (state : SessionState) : Op :=
  { op with session := op.session.setState state op.now }

def setError
    (op : Op)
    (error : String) : Op :=
  { op with session := { op.session with error := error } }

def setRange
    (op : Op)
    (state : RangeState) : Op :=
  match op.session.rangeId with
  | none => op
  | some rangeId =>
      { op with ranges := op.ranges.set rangeId state }

def setSnapshot
    (op : Op)
    (state : SnapshotState) : Op :=
  match op.session.baselineSnapshotId with
  | none => op
  | some snapshotId =>
      { op with snapshots := op.snapshots.set snapshotId state }

/- The range is to be torn down. -/
def destroyRange (op : Op) : Op :=
  (op.setRange .destroying).send (.destroyRange op.rangeName)

/- The worker is asked to look for what ranges left. -/
def search
    (op : Op)
    (rangeIds : List Nat) : Op :=
  { op.send
      (.reconcileLabVms (rangeIds.map toString)
        op.session.backend) with
    searched := op.searched ++ [⟨op.id, rangeIds, op.now⟩] }

/- `_release_networks`. -/
def releaseNetworks (op : Op) : Op :=
  { op with
    leases :=
      op.leases.mapValues (fun _ lease =>
        if lease.sessionId = some op.id then ⟨none, ""⟩
        else lease) }

/- `_pool` adds the port groups that have no row yet. -/
def pool
    (cfg : Settings)
    (leases : Dict String NetworkLease) :
    Dict String NetworkLease :=
  leases.setdefaults
    (Dict.collect cfg.portGroups (fun _ => some ⟨none, ""⟩))

/- The free port groups of the pool, in order. -/
def freePortGroups
    (cfg : Settings)
    (leases : Dict String NetworkLease) : List String :=
  ((leases.entries.filter (fun entry =>
    entry.2.sessionId = none &&
      cfg.portGroups.contains entry.1)).map Prod.fst).mergeSort
        (fun a b => decide (a ≤ b))

/-
  `_lease_networks`: one free port group for each of the
  profile's networks, or none if the pool, or the tenant's
  share of it, is short.  `tenantHeld` are the tenant's.
-/
def leaseNetworks
    (cfg : Settings)
    (tenantHeld : Nat)
    (op : Op) :
    Except Refusal (Op × Option (List (String × String))) :=
  if op.session.mock then
    .ok (op, some [])
  else
    let op := { op with leases := pool cfg op.leases }
    if cfg.portGroups = [] then
      .error (.status 503
        "no lab networks are configured (LAB_PORT_GROUPS)")
    else
      let wanted := op.session.profile.networks
      if tenantHeld + wanted.length > cfg.maxNetworksPerTenant then
        .ok (op, none)
      else
        let free := (freePortGroups cfg op.leases).take wanted.length
        if free.length < wanted.length then
          .ok (op, none)
        else
          .ok
            ({ op with
              leases :=
                (free.zip wanted).foldl
                  (fun leases pair =>
                    leases.set pair.1 ⟨some op.id, pair.2⟩)
                  op.leases },
              some (wanted.zip free))

/- `range_template`: each node is on one network. -/
def rangeTemplate
    (profile : LabProfile) : Except Refusal Unit :=
  Checks.each
    (fun node =>
      Checks.refuseIf (node.2.length ≠ 1)
        (.status 422
          ("node " ++ node.1 ++ " has " ++
            toString node.2.length ++
            " networks; one per node is supported")))
    profile.nodes

/- What `_start` builds, on the networks it was given. -/
def build
    (cfg : Settings)
    (o : Outside)
    (rebuild : Bool)
    (op : Op) : Except Refusal Op := do
  rangeTemplate op.session.profile
  let s := { op.session with rangeId := some o.newRange }
  let s := s.setState .provisioning op.now
  let s := { s with error := "", provisioningAt := some op.now }
  let latest := op.now + min s.profile.maxSeconds cfg.maxLifetime
  let maxEnd :=
    match o.classEnd with
    | none => latest
    | some (_, classEnd) => min latest classEnd
  let idleEnd :=
    min (op.now + min s.profile.idleSeconds cfg.idleLimit) maxEnd
  let s :=
    if rebuild then s
    else
      { s with
        latestEndAt := some latest
        maxExpiresAt := some maxEnd
        idleExpiresAt := some idleEnd }
  .ok
    { op with
      session := s.send (.provisionRange (toString o.newRange))
      ranges := op.ranges.set o.newRange .provisioning }

/-
  `_start`.  A rebuild has its networks; anything else waits
  for its turn, or is refused if it does not wait.
-/
def start
    (cfg : Settings)
    (o : Outside)
    (tenantHeld : Nat)
    (rebuild refuseBusy : Bool)
    (op : Op) : Except Refusal Op :=
  if rebuild then
    build cfg o true op
  else
    match o.windowHolds, o.quotaProblem with
    | some held, _ => .ok (op.setError held)
    | none, some problem => .ok (op.setError problem)
    | none, none =>
        if o.capacityRefused then
          if refuseBusy then .error .labsBusy
          else .ok (op.setError "Labs are busy")
        else do
          let (op, networks) ← leaseNetworks cfg tenantHeld op
          match networks with
          | none =>
              .ok
                (op.setError
                  ("all isolated lab networks are in use; " ++
                    "this lab starts when one is free"))
          | some _ => build cfg o false op

/- `_fail`. -/
def fail
    (op : Op)
    (error : String) : Op :=
  let op :=
    { op with
      session :=
        { op.session with
          error := String.ofList (error.toList.take 2000)
          endReason :=
            if op.session.endReason = "" then "failed"
            else op.session.endReason } }
  match op.range with
  | none => op.releaseNetworks.setState .failed
  | some .destroyed => op.releaseNetworks.setState .failed
  | some .destroying => op.setState .cleaning
  | some _ => op.destroyRange.setState .cleaning

/- `end`. -/
def endLab
    (op : Op)
    (reason : String) : Op :=
  if op.session.state.terminal || op.session.state.ending then
    op
  else
    let op :=
      { op with
        session := { op.session with endReason := reason } }
    match op.range with
    | none => op.releaseNetworks.setState .destroyed
    | some state =>
        let op :=
          op.setState
            (if reason = "expired" ∨ reason = "idle" then .expired
            else .completed)
        if state = .destroyed ∨ state = .destroying then op
        else op.destroyRange

end Op

end Lifecycle

end LabSessions

end TrueNorth

--------
-- Advance
--------

namespace TrueNorth

namespace LabSessions

namespace Lifecycle

open RangeOps (RangeState)
open RangeCredentials (SnapshotState)

namespace Op

/- `_follow_class`. -/
def followClass
    (o : Outside)
    (op : Op) : Op :=
  match o.classEnd, op.session.latestEndAt,
      op.session.maxExpiresAt with
  | some (drawing, classEnd), some latest, some maxEnd =>
      let maxEnd :=
        min (if drawing then latest else maxEnd) classEnd
      { op with
        session :=
          { op.session with
            maxExpiresAt := some maxEnd
            idleExpiresAt :=
              op.session.idleExpiresAt.map (fun idleEnd =>
                min idleEnd maxEnd) } }
  | _, _, _ => op

/-
  `_console_idle`: what is changed when someone is on a
  console, or it is not known; nothing when no one is.
-/
def consoleBusy
    (cfg : Settings)
    (o : Outside)
    (latest : Nat)
    (op : Op) : Option Op :=
  match o.consoles with
  | none => some op
  | some none =>
      some
        { op with
          session :=
            { op.session with
              idleExpiresAt :=
                some (min (op.now + cfg.consoleRecheck) latest) } }
  | some (some 0) => none
  | some (some _) =>
      let idle := min op.session.profile.idleSeconds cfg.idleLimit
      some
        (setState
          { op with
            session :=
              { op.session with
                idleExpiresAt :=
                  some (min (op.now + idle) latest) } }
          .active)

/- `_advance_running`. -/
def advanceRunning
    (cfg : Settings)
    (o : Outside)
    (op : Op) : Op :=
  match op.session.maxExpiresAt, op.session.idleExpiresAt with
  | some latest, some idleEnd =>
      if op.now < latest ∧ op.now < idleEnd then
        op
      else if o.classRange then
        setState
          { op with
            session :=
              { op.session with
                error := "this lab's range belongs to a class; " ++
                  "it is left to the class"
                endReason := "class_range" } }
          .failed
      else if op.now < latest then
        match op.consoleBusy cfg o latest with
        | some op => op
        | none => op.endLab "idle"
      else
        op.endLab "expired"
  | _, _ => op

/- `_advance_provisioning`. -/
def advanceProvisioning
    (cfg : Settings)
    (o : Outside)
    (op : Op) : Op :=
  match op.range with
  | none => op.fail "the lab's range record is missing"
  | some .failed => op.fail "the lab could not be built"
  | some .created =>
      match o.windowHolds with
      | some held => op.setError held
      | none =>
          let op := op.setRange .provisioning
          let op :=
            { op with
              session :=
                { op.session with
                  provisioningAt := some op.now
                  error := "" } }
          op.send (.provisionRange op.rangeName)
  | some state =>
      if (op.session.provisioningAt.getD op.now) +
          cfg.provisionTimeout < op.now then
        op.fail
          ("the lab was not ready within " ++
            toString (cfg.provisionTimeout / 60) ++ " minutes")
      else if state ≠ .ready ∨ o.probesPass = false then
        op
      else
        match op.session.profile.resetMode with
        | .snapshot =>
            let op :=
              { op with
                session :=
                  { op.session with
                    baselineSnapshotId := some o.newSnapshot }
                snapshots :=
                  op.snapshots.set o.newSnapshot .creating }
            (op.setState .baselining).send
              (.snapshotRange op.rangeName op.snapshotName)
        | .rebuild => op.setState .ready

/- `_advance_baselining`. -/
def advanceBaselining
    (cfg : Settings)
    (op : Op) : Op :=
  let why := "the reset point (baseline snapshot) could not be " ++
    "taken"
  match op.snapshot with
  | some .ready => op.setState .ready
  | none => op.fail why
  | some state =>
      if op.range = some .failed then
        op.fail why
      else if state = .failed ∨
          op.session.stateSince + cfg.stepTimeout < op.now then
        if op.session.stepAttempts ≥ 2 then
          op.fail why
        else
          let op :=
            { op with
              session :=
                { op.session with
                  stepAttempts := op.session.stepAttempts + 1
                  stateSince := op.now } }
          (op.setSnapshot .creating).send
            (.snapshotRange op.rangeName op.snapshotName)
      else
        op

/- `_advance_resetting`. -/
def advanceResetting
    (cfg : Settings)
    (o : Outside)
    (op : Op) : Except Refusal Op :=
  let late := op.session.stateSince + cfg.stepTimeout < op.now
  match op.session.profile.resetMode with
  | .snapshot =>
      if op.range = none ∨ op.range = some .failed then
        .ok
          (op.fail
            "the reset did not complete; the lab has been shut down")
      else if op.snapshot = some .ready ∧
          op.range ≠ some .destroying then
        .ok (op.setState .active)
      else if late then
        .ok
          (op.fail
            ("the reset did not complete in time; the lab has " ++
              "been shut down"))
      else
        .ok op
  | .rebuild =>
      match op.range, op.session.rangeId with
      | some .destroyed, some rangeId =>
          match o.windowHolds with
          | some held => .ok (op.setError held)
          | none =>
              let op :=
                { op with
                  session :=
                    { op.session with
                      retiredRanges :=
                        op.session.retiredRanges ++ [rangeId] } }
              start cfg o 0 true false (op.search [rangeId])
      | range, _ =>
          if range = none ∨ range = some .failed ∨ late then
            .ok
              (op.fail
                ("the rebuild did not complete; the lab has been " ++
                  "shut down"))
          else
            .ok op

/-
  `_advance_cleaning` where a teardown failed, or takes too
  long: once more, or an operator is asked to clear it.
-/
def tearDownAgain
    (cfg : Settings)
    (op : Op) : Op :=
  if op.session.stepAttempts ≥ cfg.teardownAttempts then
    { op with
      session :=
        { op.session with
          error := "the lab could not be shut down cleanly; an " ++
            "operator has been asked to clear it"
          state := .failed } }
  else
    let op :=
      { op with
        session :=
          { op.session with
            state := .reconcile
            stateSince := op.now
            stepAttempts := op.session.stepAttempts + 1 } }
    (op.search op.session.rangeId.toList).destroyRange

/-
  `_advance_cleaning`: the networks go back once the range is
  gone, and what it left was looked for.
-/
def advanceCleaning
    (cfg : Settings)
    (op : Op) : Op :=
  match op.range with
  | none => op.releaseNetworks.setState .destroyed
  | some .destroyed =>
      if op.session.state = .reconcileWait then
        if op.now < op.session.stateSince + cfg.reconcileGrace then
          op
        else
          op.releaseNetworks.setState .destroyed
      else
        (op.search (op.session.retiredRanges ++
          op.session.rangeId.toList)).setState .reconcileWait
  | some .failed => op.tearDownAgain cfg
  | some state =>
      if state = .destroying ∧
          op.session.stateSince + cfg.stepTimeout < op.now then
        op.tearDownAgain cfg
      else if op.session.state = .completed ∨
          op.session.state = .expired then
        op.setState .cleaning
      else
        op

/-
  `advance`.  Tasks that were left are sent first, and no
  step is taken before.
-/
def advance
    (cfg : Settings)
    (o : Outside)
    (tenantHeld : Nat)
    (op : Op) : Except Refusal Op :=
  if op.session.pending ≠ [] then
    .ok op
  else
    match op.session.state with
    | .queued =>
        if op.session.stateSince + cfg.queueTimeout < op.now then
          .ok (op.endLab "queue_timeout")
        else
          op.start cfg o tenantHeld false false
    | .provisioning => .ok (op.advanceProvisioning cfg o)
    | .baselining => .ok (op.advanceBaselining cfg)
    | .resetting => op.advanceResetting cfg o
    | .ready => .ok ((op.followClass o).advanceRunning cfg o)
    | .active => .ok ((op.followClass o).advanceRunning cfg o)
    | .completed => .ok (op.advanceCleaning cfg)
    | .expired => .ok (op.advanceCleaning cfg)
    | .cleaning => .ok (op.advanceCleaning cfg)
    | .reconcile => .ok (op.advanceCleaning cfg)
    | .reconcileWait => .ok (op.advanceCleaning cfg)
    | .destroyed => .ok op
    | .failed => .ok op

end Op

end Lifecycle

end LabSessions

end TrueNorth

--------
-- Student Actions
--------

namespace TrueNorth

namespace LabSessions

namespace Lifecycle

open RangeOps (RangeState)
open RangeCredentials (SnapshotState)

namespace Op

/- `touch`. -/
def touch
    (cfg : Settings)
    (op : Op) : Op :=
  match op.session.state, op.session.maxExpiresAt with
  | .ready, some latest | .active, some latest =>
      let idle := min op.session.profile.idleSeconds cfg.idleLimit
      setState
        { op with
          session :=
            { op.session with
              idleExpiresAt := some (min (op.now + idle) latest) } }
        .active
  | _, _ => op

/- `reset`. -/
def reset
    (o : Outside)
    (op : Op) : Except Refusal Op := do
  Checks.refuseIf
    (op.session.state ≠ .ready && op.session.state ≠ .active)
    (.status 409
      ("the lab is " ++ op.session.state.value ++
        "; it can be reset once it is ready"))
  match o.windowHolds with
  | some message => .error (.status 409 message)
  | none =>
      match op.session.profile.resetMode with
      | .snapshot => do
          Checks.refuseIf (op.snapshot ≠ some .ready)
            (.status 409 "this lab has no reset point")
          Checks.refuseIf o.anyPendingPassword
            (.status 409
              ("the lab's new passwords are still being set; " ++
                "reset it again in a minute"))
          .ok
            (((op.setSnapshot .restoring).setState
              .resetting).send
                (.restoreSnapshot op.rangeName op.snapshotName))
      | .rebuild =>
          .ok
            (((op.setRange .destroying).setState .resetting).send
              (.destroyRange op.rangeName))

end Op

end Lifecycle

end LabSessions

end TrueNorth

--------
-- Runs
--------

namespace TrueNorth

namespace LabSessions

namespace Lifecycle

open RangeOps (RangeState)
open RangeCredentials (SnapshotState)

structure World where
  now : Nat
  sessions : Dict Nat LabSession
  ranges : Dict Nat RangeState
  snapshots : Dict Nat SnapshotState
  leases : Dict String NetworkLease
  searched : List Search

namespace World

def fresh : World where
  now := 0
  sessions := .empty
  ranges := .empty
  snapshots := .empty
  leases := .empty
  searched := []

def op
    (w : World)
    (id : Nat)
    (session : LabSession) : Op where
  id := id
  now := w.now
  session := session
  ranges := w.ranges
  snapshots := w.snapshots
  leases := w.leases
  searched := w.searched

/- The operation commits. -/
def commit
    (w : World)
    (op : Op) : World :=
  { w with
    sessions := w.sessions.set op.id op.session
    ranges := op.ranges
    snapshots := op.snapshots
    leases := op.leases
    searched := op.searched }

/- How many port groups the sessions of a tenant lease. -/
def tenantHeld
    (w : World)
    (tenantId : Nat) : Nat :=
  (w.leases.entries.filter (fun entry =>
    match entry.2.sessionId with
    | none => false
    | some sessionId =>
        match w.sessions.get? sessionId with
        | none => false
        | some s => s.key.tenantId = tenantId)).length

/-
  After the commit the first tasks go out.  The step clock of
  tasks that were left restarts as they are sent.
-/
def flush
    (w : World)
    (id sent : Nat)
    (resent : Bool) : World :=
  match w.sessions.get? id with
  | none => w
  | some s =>
      { w with
        sessions :=
          w.sessions.set id
            { s with
              pending := s.pending.drop sent
              stateSince :=
                if resent && sent ≠ 0 && s.pending ≠ [] then
                  w.now
                else
                  s.stateSince } }

/- The student's attempts at one activity, the latest last. -/
def latest
    (w : World)
    (key : Key) : Option LabSession :=
  (((w.sessions.entries.map Prod.snd).filter (fun s =>
    s.key = key)).mergeSort (fun a b =>
      decide (a.attempt ≤ b.attempt))).getLast?

/- The student has a lab that is not over. -/
def running
    (w : World)
    (userId : Nat) : Bool :=
  w.sessions.entries.any (fun entry =>
    entry.2.key.userId = userId && !entry.2.state.terminal)

/-
  `launch`, of a release that was accepted and has the
  profile: the live session if there is one, or a new one.
-/
def launch
    (cfg : Settings)
    (o : Outside)
    (w : World)
    (id : Nat)
    (key : Key)
    (profile : LabProfile)
    (backend : String) : Except Refusal World :=
  let last := w.latest key
  match last.filter (fun s => !s.state.terminal) with
  | some _ => .ok w
  | none => do
      Checks.refuseIf (w.running key.userId)
        (.status 409
          ("you already have a lab running or waiting; end it " ++
            "before starting another"))
      let session : LabSession :=
        { key := key
          attempt :=
            match last with
            | none => 1
            | some s => s.attempt + 1
          profile := profile
          mock := backend = "mock"
          backend := backend
          state := .queued
          stateSince := w.now
          stepAttempts := 0
          rangeId := none
          baselineSnapshotId := none
          retiredRanges := []
          pending := []
          provisioningAt := none
          latestEndAt := none
          maxExpiresAt := none
          idleExpiresAt := none
          error := ""
          endReason := "" }
      let op ← (w.op id session).start cfg o
        (w.tenantHeld key.tenantId) false true
      .ok (w.commit op)

end World

inductive Operation where
| advance
| touch
| reset
| endLab (reason : String)
deriving DecidableEq

/-
  `sent` tells how many of the tasks go out after it; what
  the worker reports of a range or a snapshot is anything.
-/
inductive Action where
| tick (seconds : Nat)
| report (rangeId : Nat) (state : RangeState)
| reportSnapshot (snapshotId : Nat) (state : SnapshotState)
| launch
    (id : Nat)
    (key : Key)
    (profile : LabProfile)
    (backend : String)
    (o : Outside)
    (sent : Nat)
| operate
    (id : Nat)
    (operation : Operation)
    (o : Outside)
    (sent : Nat)

namespace World

def perform
    (cfg : Settings)
    (o : Outside)
    (tenantHeld : Nat)
    (op : Op) :
    Operation → Except Refusal Op
| .advance => op.advance cfg o tenantHeld
| .touch => .ok (op.touch cfg)
| .reset => op.reset o
| .endLab reason => .ok (op.endLab reason)

/- The rows that an operation adds get ids of their own. -/
def newRows
    (w : World)
    (o : Outside) : Bool :=
  !(w.ranges.get? o.newRange).isSome &&
    !(w.snapshots.get? o.newSnapshot).isSome

def operate
    (cfg : Settings)
    (w : World)
    (id : Nat)
    (operation : Operation)
    (o : Outside)
    (sent : Nat) : World :=
  match w.sessions.get? id with
  | none => w
  | some s =>
      match perform cfg o (w.tenantHeld s.key.tenantId)
          (w.op id s) operation with
      | .error _ => w
      | .ok op =>
          (w.commit op).flush id sent
            (operation = .advance && s.pending ≠ [])

def step
    (cfg : Settings)
    (w : World) :
    Action → World
| .tick seconds => { w with now := w.now + seconds }
| .report rangeId state =>
    if (w.ranges.get? rangeId).isSome then
      { w with ranges := w.ranges.set rangeId state }
    else
      w
| .reportSnapshot snapshotId state =>
    if (w.snapshots.get? snapshotId).isSome then
      { w with snapshots := w.snapshots.set snapshotId state }
    else
      w
| .launch id key profile backend o sent =>
    if (w.sessions.get? id).isSome || !w.newRows o then w
    else
      match w.launch cfg o id key profile backend with
      | .error _ => w
      | .ok w' => w'.flush id sent false
| .operate id operation o sent =>
    if w.newRows o then w.operate cfg id operation o sent else w

end World

end Lifecycle

end LabSessions

end TrueNorth
