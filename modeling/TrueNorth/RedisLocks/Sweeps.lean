import TrueNorth.Lib.Runs

/-
  The Redis lock of a periodic sweep (worker/redis_lock.py),
  and sweeps that overlap: holders, their renewals and a
  Redis that may not be reached, or may do what it was asked
  without its answer coming back.

  Key definitions include:
    * `RedisLock`
    * `World.step`
    * `World.Inv`

  Main theorems:
    * `World.Inv.step`
    * `one_sweep_at_a_time`
-/

--------
-- Locks
--------

namespace TrueNorth

namespace RedisLocks

/-
  One `RedisLock`; its token is its place among the locks.
  Its thread renews it if it was acquired.  `renewed` is when
  Redis last set the key for it: no code reads that.
-/
structure RedisLock where
  acquired : Bool
  held : Bool
  lost : Bool
  renewed : Option Nat
deriving DecidableEq

/- What becomes of a command to Redis. -/
inductive Sent where
| answered
-- done, but the answer is lost
| unanswered
| unreached
deriving DecidableEq

/- The key: whose token it holds, and when it expires. -/
structure Key where
  token : Nat
  expiresAt : Nat
deriving DecidableEq

/- Milliseconds since some start. -/
structure World where
  now : Nat
  key : Option Key
  locks : List RedisLock
deriving DecidableEq

/-
  A renewal may be under way when its lock is released, and a
  worker that is killed renews and releases nothing more.
-/
inductive Action where
| tick (ms : Nat)
| acquire (sent : Sent)
| renew (i : Nat) (sent : Sent)
| release (i : Nat) (sent : Sent)
deriving DecidableEq

namespace World

def fresh : World where
  now := 0
  key := none
  locks := []

/- `GET key`, which is nothing once the key has expired. -/
def get (w : World) : Option Nat :=
  (w.key.filter (fun key => w.now < key.expiresAt)).map Key.token

/- `SET key token NX PX ttl`, and whether it was set. -/
def setNx
    (ttl : Nat)
    (w : World)
    (token : Nat) : Option Key × Bool :=
  match w.get with
  | none => (some ⟨token, w.now + ttl⟩, true)
  | some _ => (w.key, false)

/- A new lock, for which the key was set or not. -/
def join
    (w : World)
    (key : Option Key)
    (set held : Bool) : World :=
  { w with
    key := key
    locks := w.locks ++
      [{ acquired := held
         held := held
         lost := false
         renewed := if set then some w.now else none }] }

/- `acquire`, by a new lock. -/
def acquire
    (ttl : Nat)
    (w : World)
    (sent : Sent) : World :=
  let (key, set) := w.setNx ttl w.locks.length
  match sent with
  | .answered => w.join key set set
  | .unanswered => w.join key set false
  | .unreached => w.join w.key false false

/- `renew`: `RENEW`, and what its answer comes to. -/
def renew
    (ttl : Nat)
    (w : World)
    (i : Nat)
    (lock : RedisLock)
    (sent : Sent) : World :=
  if sent = .unreached || !lock.acquired || lock.lost then w
  else if w.get = some i then
    { w with
      key := some ⟨i, w.now + ttl⟩
      locks := w.locks.set i { lock with renewed := some w.now } }
  else if sent = .answered then
    { w with locks := w.locks.set i { lock with lost := true } }
  else w

/- `release`: `RELEASE` is sent by a lock that is held. -/
def release
    (w : World)
    (i : Nat)
    (lock : RedisLock)
    (sent : Sent) : World :=
  if lock.held then
    { w with
      key :=
        if sent ≠ .unreached ∧ w.get = some i then none
        else w.key
      locks := w.locks.set i { lock with held := false } }
  else w

def step
    (ttl : Nat)
    (w : World) : Action → World
| .tick ms => { w with now := w.now + ms }
| .acquire sent => w.acquire ttl sent
| .renew i sent =>
    match w.locks[i]? with
    | some lock => w.renew ttl i lock sent
    | none => w
| .release i sent =>
    match w.locks[i]? with
    | some lock => w.release i lock sent
    | none => w

--------
-- Whose Key It Is
--------

/-
  The key expires as long after it was set as a lock lasts,
  and is a holder's until then.
-/
structure Inv
    (ttl : Nat)
    (w : World) : Prop where
  key : ∀ key, w.key = some key → ∃ lock at',
    w.locks[key.token]? = some lock ∧
      lock.renewed = some at' ∧ key.expiresAt = at' + ttl
  held : ∀ (i : Nat) lock, w.locks[i]? = some lock →
    lock.held = true → ∃ at', lock.renewed = some at' ∧
      (w.now < at' + ttl → w.key = some ⟨i, at' + ttl⟩)

variable {ttl : Nat}
variable {w : World}
variable {i : Nat}
variable {lock : RedisLock}

theorem get_eq_some :
    w.get = some i ↔
      ∃ key, w.key = some key ∧ key.token = i ∧
        w.now < key.expiresAt := by
  simp only [get, Option.map_eq_some_iff,
    Option.filter_eq_some_iff, decide_eq_true_eq]
  constructor
  · rintro ⟨key, ⟨hKey, hNow⟩, hToken⟩
    exact ⟨key, hKey, hToken, hNow⟩
  · rintro ⟨key, hKey, hToken, hNow⟩
    exact ⟨key, ⟨hKey, hNow⟩, hToken⟩

/- A key that is set has its token until it expires. -/
theorem get_of_key
    {at' : Nat}
    (hKey : w.key = some ⟨i, at' + ttl⟩)
    (hNow : w.now < at' + ttl) :
    w.get = some i :=
  get_eq_some.mpr ⟨_, hKey, rfl, hNow⟩

theorem setNx_cases
    (ttl : Nat)
    (w : World)
    (token : Nat) :
    (w.get = none ∧
      w.setNx ttl token = (some ⟨token, w.now + ttl⟩, true)) ∨
    ((∃ i, w.get = some i) ∧
      w.setNx ttl token = (w.key, false)) := by
  unfold setNx
  cases hGet : w.get with
  | none => exact .inl ⟨rfl, rfl⟩
  | some i => exact .inr ⟨⟨i, rfl⟩, rfl⟩

/- A place among the locks, or the new one's. -/
theorem join_cases
    {key : Option Key}
    {set held : Bool}
    (hLock : (w.join key set held).locks[i]? = some lock) :
    w.locks[i]? = some lock ∨
      (i = w.locks.length ∧ lock.held = held ∧
        lock.renewed = if set then some w.now else none) := by
  unfold join at hLock
  rw [List.getElem?_append] at hLock
  split at hLock
  · exact .inl hLock
  · next hNot =>
      right
      have hLast : i - w.locks.length = 0 := by
        by_contra hMore
        rw [List.getElem?_eq_none (by
          simp only [List.length_singleton]
          omega)] at hLock
        cases hLock
      rw [hLast] at hLock
      cases hLock
      exact ⟨by omega, rfl, rfl⟩

/- A lock that is not set leaves the others as they were. -/
theorem Inv.join_unset
    (hInv : w.Inv ttl) :
    (w.join w.key false false).Inv ttl := by
  constructor
  · intro key hKey
    rcases hInv.key key hKey with ⟨lock, at', hLock, hRest⟩
    refine ⟨lock, at', ?_, hRest⟩
    unfold join
    rw [List.getElem?_append_left
      (List.getElem?_eq_some_iff.mp hLock).1]
    exact hLock
  · intro i lock hLock hHeld
    rcases join_cases hLock with hOld | ⟨_, hNot, _⟩
    · exact hInv.held i lock hOld hHeld
    · rw [hNot] at hHeld
      cases hHeld

/- The key is set where no one has it. -/
theorem Inv.join_set
    (hInv : w.Inv ttl)
    (hFree : w.get = none)
    (held : Bool) :
    (w.join (some ⟨w.locks.length, w.now + ttl⟩) true held).Inv
      ttl := by
  constructor
  · intro key hKey
    cases hKey
    refine ⟨⟨held, held, false, some w.now⟩, w.now, ?_, rfl,
      rfl⟩
    simp [join]
  · intro i lock hLock hHeld
    rcases join_cases hLock with hOld | ⟨hLast, _, hRenewed⟩
    · rcases hInv.held i lock hOld hHeld with
        ⟨at', hRenewed, hKey⟩
      refine ⟨at', hRenewed, ?_⟩
      intro hNow
      have hGet := get_of_key (hKey hNow) hNow
      rw [hFree] at hGet
      cases hGet
    · exact ⟨w.now, hRenewed, fun _ => hLast ▸ rfl⟩

theorem Inv.acquire
    (hInv : w.Inv ttl)
    (sent : Sent) :
    (w.acquire ttl sent).Inv ttl := by
  unfold World.acquire
  rcases setNx_cases ttl w w.locks.length with
    ⟨hFree, hSet⟩ | ⟨_, hSet⟩
  · rw [hSet]
    cases sent with
    | answered => exact hInv.join_set hFree true
    | unanswered => exact hInv.join_set hFree false
    | unreached => exact hInv.join_unset
  · rw [hSet]
    cases sent with
    | answered => exact hInv.join_unset
    | unanswered => exact hInv.join_unset
    | unreached => exact hInv.join_unset

theorem set_cases
    {lock' : RedisLock}
    {j : Nat}
    (hSet : (w.locks.set i lock')[j]? = some lock) :
    (j = i ∧ lock = lock') ∨
      (j ≠ i ∧ w.locks[j]? = some lock) := by
  rw [List.getElem?_set] at hSet
  by_cases hSame : i = j
  · rw [if_pos hSame] at hSet
    split at hSet
    · exact .inl ⟨hSame.symm, (Option.some.inj hSet).symm⟩
    · cases hSet
  · rw [if_neg hSame] at hSet
    exact .inr ⟨Ne.symm hSame, hSet⟩

/- A lock may let go, or learn that it is lost. -/
theorem Inv.set
    (hInv : w.Inv ttl)
    (hLock : w.locks[i]? = some lock)
    {lock' : RedisLock}
    (hRenewed : lock'.renewed = lock.renewed)
    (hHeld : lock'.held = true → lock.held = true) :
    World.Inv ttl { w with locks := w.locks.set i lock' } := by
  constructor
  · intro key hKey
    rcases hInv.key key hKey with ⟨old, at', hOld, hAt, hTill⟩
    by_cases hSame : key.token = i
    · rw [hSame] at hOld ⊢
      cases hOld.symm.trans hLock
      refine ⟨lock', at', ?_, hRenewed.trans hAt, hTill⟩
      exact List.getElem?_set_self
        (List.getElem?_eq_some_iff.mp hLock).1
    · refine ⟨old, at', ?_, hAt, hTill⟩
      exact (List.getElem?_set_ne (Ne.symm hSame)).trans hOld
  · intro j other hOther hHolds
    rcases set_cases hOther with ⟨rfl, rfl⟩ | ⟨_, hOld⟩
    · rcases hInv.held j lock hLock (hHeld hHolds) with
        ⟨at', hAt, hKey⟩
      exact ⟨at', hRenewed.trans hAt, hKey⟩
    · exact hInv.held j other hOld hHolds

theorem Inv.renew
    (hInv : w.Inv ttl)
    (hLock : w.locks[i]? = some lock)
    (sent : Sent) :
    (w.renew ttl i lock sent).Inv ttl := by
  unfold World.renew
  split
  · exact hInv
  · split
    · next hGet =>
        constructor
        · intro key hKey
          cases hKey
          refine ⟨{ lock with renewed := some w.now }, w.now, ?_,
            rfl, rfl⟩
          exact List.getElem?_set_self
            (List.getElem?_eq_some_iff.mp hLock).1
        · intro j other hOther hHolds
          rcases set_cases hOther with ⟨rfl, rfl⟩ | ⟨hNe, hOld⟩
          · exact ⟨w.now, rfl, fun _ => rfl⟩
          · rcases hInv.held j other hOld hHolds with
              ⟨at', hAt, hKey⟩
            refine ⟨at', hAt, ?_⟩
            intro hNow
            have hOwn := get_of_key (hKey hNow) hNow
            rw [hGet] at hOwn
            exact absurd (Option.some.inj hOwn).symm hNe
    · split
      · exact hInv.set hLock rfl id
      · exact hInv

theorem Inv.release
    (hInv : w.Inv ttl)
    (hLock : w.locks[i]? = some lock)
    (sent : Sent) :
    (w.release i lock sent).Inv ttl := by
  unfold World.release
  split
  · have hSet : World.Inv ttl
        { w with
          locks := w.locks.set i { lock with held := false } } :=
      hInv.set hLock rfl (by rintro ⟨⟩)
    split
    · next hOwn =>
        constructor
        · rintro _ ⟨⟩
        · intro j other hOther hHolds
          rcases hSet.held j other hOther hHolds with
            ⟨at', hAt, hKey⟩
          refine ⟨at', hAt, ?_⟩
          intro hNow
          have hGet := get_of_key (hKey hNow) hNow
          change w.get = some j at hGet
          rw [hOwn.2] at hGet
          cases hGet
          rcases set_cases hOther with ⟨_, rfl⟩ | ⟨hNe, _⟩
          · cases hHolds
          · exact absurd rfl hNe
    · exact hSet
  · exact hInv

theorem Inv.step
    (w : World)
    (a : Action)
    (hInv : w.Inv ttl) :
    (w.step ttl a).Inv ttl := by
  cases a with
  | tick ms =>
      refine ⟨hInv.key, ?_⟩
      intro i lock hLock hHeld
      rcases hInv.held i lock hLock hHeld with ⟨at', hAt, hKey⟩
      refine ⟨at', hAt, ?_⟩
      intro (hNow : w.now + ms < at' + ttl)
      exact hKey (by omega)
  | acquire sent => exact hInv.acquire sent
  | renew i sent =>
      unfold World.step
      dsimp only
      split
      · next lock hLock => exact hInv.renew hLock sent
      · exact hInv
  | release i sent =>
      unfold World.step
      dsimp only
      split
      · next lock hLock => exact hInv.release hLock sent
      · exact hInv

/- A command of one lock leaves a key that another has. -/
theorem renew_other
    {j : Nat}
    (hGet : w.get = some i)
    (hNe : j ≠ i)
    (sent : Sent) :
    (w.step ttl (.renew j sent)).key = w.key ∧
      (w.step ttl (.release j sent)).key = w.key := by
  have hNot : w.get ≠ some j := by
    rw [hGet]
    exact fun hSame => hNe (Option.some.inj hSame).symm
  unfold World.step
  dsimp only
  cases w.locks[j]? with
  | none => exact ⟨rfl, rfl⟩
  | some lock =>
      dsimp only
      constructor
      · unfold World.renew
        rw [if_neg hNot]
        split
        · rfl
        · split <;> rfl
      · unfold World.release
        split
        · exact if_neg (fun hOwn => hNot hOwn.2)
        · rfl

end World

/-
  Whatever sweeps start, renew, release or die, and whatever
  becomes of what they send to Redis: of two holders one has
  not been renewed for as long as the lock lasts, and learns
  at its next answered renewal that it is lost; a key that is
  a lock's is left by all others, and a key that no lock
  renewed for so long is free for the next.
-/
theorem one_sweep_at_a_time
    (ttl : Nat)
    (actions : List Action) :
    let w := Runs.run (World.step ttl) World.fresh actions
    (∀ (i j : Nat) lock lock' at' at'',
      w.locks[i]? = some lock → w.locks[j]? = some lock' →
      lock.held = true → lock'.held = true →
      lock.renewed = some at' → lock'.renewed = some at'' →
      w.now < at' + ttl → w.now < at'' + ttl → i = j) ∧
    (∀ (i j : Nat) sent, w.get = some i → j ≠ i →
      (w.step ttl (.renew j sent)).key = w.key ∧
        (w.step ttl (.release j sent)).key = w.key) ∧
    (∀ (j : Nat) lock, w.locks[j]? = some lock →
      lock.acquired = true → w.get ≠ some j →
      ∃ lock', (w.step ttl (.renew j .answered)).locks[j]? =
        some lock' ∧ lock'.lost = true) ∧
    ((∀ lock ∈ w.locks, ∀ at', lock.renewed = some at' →
        at' + ttl ≤ w.now) →
      ∃ lock, (w.step ttl (.acquire .answered)).locks.getLast? =
        some lock ∧ lock.held = true) := by
  intro w
  have hInv : w.Inv ttl := by
    refine Runs.run_invariant (World.Inv ttl) World.Inv.step ?_
      actions
    exact ⟨by rintro _ ⟨⟩, by rintro _ _ ⟨⟩⟩
  refine ⟨?_, ?_, ?_, ?_⟩
  · intro i j lock lock' at' at'' hLock hLock' hHeld hHeld' hAt
      hAt' hNow hNow'
    rcases hInv.held i lock hLock hHeld with ⟨_, hSame, hKey⟩
    rcases hInv.held j lock' hLock' hHeld' with
      ⟨_, hSame', hKey'⟩
    cases hSame.symm.trans hAt
    cases hSame'.symm.trans hAt'
    have hSameKey := (hKey hNow).symm.trans (hKey' hNow')
    exact congrArg Key.token (Option.some.inj hSameKey)
  · intro i j sent hGet hNe
    exact World.renew_other hGet hNe sent
  · intro j lock hLock hAcquired hNot
    have hLt := (List.getElem?_eq_some_iff.mp hLock).1
    simp only [World.step, hLock, World.renew]
    by_cases hLost : lock.lost = true
    · refine ⟨lock, ?_, hLost⟩
      simpa [hLost] using hLock
    · refine ⟨{ lock with lost := true }, ?_, rfl⟩
      simp [hAcquired, hLost, hNot, hLt]
  · intro hStale
    have hFree : w.get = none := by
      cases hGet : w.get with
      | none => rfl
      | some i =>
          rcases World.get_eq_some.mp hGet with
            ⟨key, hKey, _, hNow⟩
          rcases hInv.key key hKey with
            ⟨lock, at', hLock, hAt, hTill⟩
          have hPast := hStale lock
            (List.mem_of_getElem? hLock) at' hAt
          omega
    refine ⟨⟨true, true, false, some w.now⟩, ?_, rfl⟩
    simp [World.step, World.acquire, World.setNx, hFree,
      World.join]

end RedisLocks

end TrueNorth
