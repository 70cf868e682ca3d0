import TrueNorth.NetGuard.Fetch

/-
  What a guarded fetch promises, and the URLs for which it
  breaks the promise.

  Where a connection goes, how many hops are made and how
  long a body is hold for every URL.  `urlsplit` is called
  outside of every `try`: a URL it raises for escapes as a
  `ValueError`.

  Key definitions include:
    * `resolvedAt`
    * `HopGuarded`, `Guarded`
    * `Splits`

  Main theorems:
    * `client_ok`, `client_error_iff`
    * `fetchFrom_guarded_iff`
    * `guarded_iff`
    * `fetch_safe`
-/

--------
-- What Is Vetted
--------

namespace TrueNorth

namespace NetGuard

variable (o : Outside)
variable (net : Internet)
variable (allowPrivate : Bool)

/- The addresses a URL's host is, or is resolved to at a hop. -/
def resolvedAt
    (k : Nat)
    (url : String) : List IpAddress :=
  match o.urlsplit url with
  | none => []
  | some parts =>
      let hostname := parts.hostname.getD ""
      match IpAddress.address? (beforePercent hostname) with
      | some literal => [literal]
      | none =>
          ((parts.port.bind (fun port =>
            net.resolver.answer k hostname
              (portOf parts port))).getD []).filterMap
                (fun info =>
                  IpAddress.address? (beforePercent info))

variable {o : Outside}
variable {net : Internet}
variable {allowPrivate : Bool}
variable {k : Nat}
variable {url : String}

/- What comes before a percent sign names no scope. -/
theorem scope_address?
    {text : String}
    {a : IpAddress}
    (hAddress : IpAddress.address? (beforePercent text) = some a) :
    a.scope = [] := by
  have hPlain : '%' ∉ (beforePercent text).toList := by
    unfold beforePercent
    rw [String.toList_ofList]
    intro hMem
    simpa using List.mem_takeWhile_imp hMem
  unfold IpAddress.address? at hAddress
  rcases Option.or_eq_some_iff.mp hAddress with hV4 | ⟨_, hV6⟩
  · unfold IpAddress.address4? at hV4
    rcases Option.bind_eq_some_iff.mp hV4 with ⟨n, _, hOf⟩
    exact (IpAddress.of?_eq_some hOf).2.2
  · unfold IpAddress.address6? at hV6
    generalize (beforePercent text).toList = chars
      at hPlain hV6
    have hNone : chars.dropWhile (· ≠ '%') = [] := by
      rw [List.dropWhile_eq_nil_iff]
      intro c hMem
      rw [decide_eq_true_eq]
      rintro rfl
      exact hPlain hMem
    split at hV6
    · cases hV6
    · simp only [hNone, List.drop_nil, hPlain, decide_false,
        Bool.false_and] at hV6
      rw [if_neg Bool.false_ne_true] at hV6
      rcases Option.bind_eq_some_iff.mp hV6 with ⟨n, _, hDite⟩
      split at hDite
      · cases hDite
        rfl
      · cases hDite

/- What passes the vetting are all the answers. -/
theorem vet_ok
    {infos : List String}
    {vetted : List IpAddress}
    (hVet : vet o allowPrivate infos = .ok vetted) :
    vetted = infos.filterMap (fun info =>
      IpAddress.address? (beforePercent info)) ∧
    ∀ a ∈ vetted, refused o.classes a allowPrivate = false ∧
      a.scope = [] := by
  induction infos generalizing vetted with
  | nil =>
      cases hVet
      exact ⟨rfl, nofun⟩
  | cons info infos ih =>
      unfold vet at hVet
      cases hAddress :
          IpAddress.address? (beforePercent info) with
      | none => simp [hAddress] at hVet
      | some addr =>
          cases hRefused :
              refused o.classes addr allowPrivate with
          | true => simp [hAddress, hRefused] at hVet
          | false =>
              cases hRest : vet o allowPrivate infos with
              | error e =>
                  simp [hAddress, hRefused, hRest] at hVet
              | ok rest =>
                  simp only [hAddress, hRefused, hRest] at hVet
                  cases hVet
                  rcases ih hRest with ⟨rfl, hAll⟩
                  refine ⟨by simp [hAddress], ?_⟩
                  intro a hMem
                  rcases List.mem_cons.mp hMem with rfl | hIn
                  · exact ⟨hRefused, scope_address? hAddress⟩
                  · exact hAll a hIn

/- Among addresses the vetting raises nothing but a refusal. -/
theorem vet_error
    {infos : List String}
    {e : Raised}
    (hNumeric : ∀ info ∈ infos,
      (IpAddress.address? (beforePercent info)).isSome = true)
    (hVet : vet o allowPrivate infos = .error e) :
    e = .guard_ .destinationRefused := by
  induction infos with
  | nil => cases hVet
  | cons info infos ih =>
      rcases Option.isSome_iff_exists.mp
        (hNumeric info List.mem_cons_self) with ⟨addr, hAddress⟩
      unfold vet at hVet
      cases hRefused : refused o.classes addr allowPrivate with
      | true =>
          simp only [hAddress, hRefused] at hVet
          cases hVet
          rfl
      | false =>
          cases hRest : vet o allowPrivate infos with
          | error e' =>
              simp only [hAddress, hRefused, hRest] at hVet
              cases hVet
              exact ih (fun info hMem => hNumeric info
                (List.mem_cons_of_mem _ hMem)) hRest
          | ok rest => simp [hAddress, hRefused, hRest] at hVet

/- The vetted address is one of those, and all of them pass. -/
theorem checkDestination_ok
    {a : IpAddress}
    (hCheck : checkDestination o net allowPrivate k url = .ok a) :
    a ∈ resolvedAt o net k url ∧ a.scope = [] ∧
      ∀ b ∈ resolvedAt o net k url,
        refused o.classes b allowPrivate = false := by
  unfold checkDestination at hCheck
  unfold resolvedAt
  cases hParts : o.urlsplit url with
  | none => simp [hParts] at hCheck
  | some parts =>
      simp only [hParts] at hCheck ⊢
      split at hCheck
      · cases hCheck
      · cases hLiteral : IpAddress.address?
            (beforePercent (parts.hostname.getD "")) with
        | some literal =>
            cases hRefused :
                refused o.classes literal allowPrivate with
            | true => simp [hLiteral, hRefused] at hCheck
            | false =>
                simp only [hLiteral, hRefused] at hCheck
                cases hCheck
                refine ⟨List.mem_singleton_self _,
                  scope_address? hLiteral, ?_⟩
                intro b hMem
                rw [List.mem_singleton.mp hMem]
                exact hRefused
        | none =>
            simp only [hLiteral] at hCheck ⊢
            cases hAnswer : parts.port.bind (fun port =>
                net.resolver.answer k (parts.hostname.getD "")
                  (portOf parts port)) with
            | none => simp [hAnswer] at hCheck
            | some infos =>
                simp only [hAnswer] at hCheck
                cases hVet : vet o allowPrivate infos with
                | error e => simp [hVet] at hCheck
                | ok vetted =>
                    rcases vet_ok hVet with ⟨hAll, hPass⟩
                    cases vetted with
                    | nil => simp [hVet] at hCheck
                    | cons addr vetted =>
                        simp only [hVet] at hCheck
                        cases hCheck
                        rw [Option.getD_some, ← hAll]
                        exact ⟨List.mem_cons_self,
                          (hPass _ List.mem_cons_self).2,
                          fun b hMem => (hPass b hMem).1⟩

/- A check raises a `ValueError` only where `urlsplit` does. -/
theorem checkDestination_error
    {e : Raised}
    (hCheck : checkDestination o net allowPrivate k url =
      .error e) :
    (o.urlsplit url = none ∧ e = .valueError) ∨
      ((o.urlsplit url).isSome = true ∧ ∃ g, e = .guard_ g) := by
  unfold checkDestination at hCheck
  cases hParts : o.urlsplit url with
  | none =>
      simp only [hParts] at hCheck
      cases hCheck
      exact .inl ⟨rfl, rfl⟩
  | some parts =>
      refine .inr ⟨rfl, ?_⟩
      simp only [hParts] at hCheck
      split at hCheck
      · cases hCheck
        exact ⟨_, rfl⟩
      · cases hLiteral : IpAddress.address?
            (beforePercent (parts.hostname.getD "")) with
        | some literal =>
            simp only [hLiteral] at hCheck
            split at hCheck
            · cases hCheck
              exact ⟨_, rfl⟩
            · cases hCheck
        | none =>
            simp only [hLiteral] at hCheck
            cases hAnswer : parts.port.bind (fun port =>
                net.resolver.answer k (parts.hostname.getD "")
                  (portOf parts port)) with
            | none =>
                simp only [hAnswer] at hCheck
                cases hCheck
                exact ⟨_, rfl⟩
            | some infos =>
                rcases Option.bind_eq_some_iff.mp hAnswer with
                  ⟨port, _, hInfos⟩
                have hNumeric := net.resolver.numeric _ _ _ _
                  hInfos
                simp only [hAnswer] at hCheck
                cases hVet : vet o allowPrivate infos with
                | error e' =>
                    simp only [hVet] at hCheck
                    cases hCheck
                    exact ⟨_, vet_error hNumeric hVet⟩
                | ok vetted =>
                    cases vetted with
                    | nil =>
                        simp only [hVet] at hCheck
                        cases hCheck
                        exact ⟨_, rfl⟩
                    | cons addr vetted => simp [hVet] at hCheck

--------
-- One Hop
--------

variable (o : Outside)
variable (net : Internet)
variable (allowPrivate : Bool)

/-
  Every connection goes to an address the host was resolved
  to, and all that it was resolved to pass.
-/
def HopGuarded
    (k : Nat)
    (hop : Hop) : Prop :=
  ∀ c ∈ hop.connections,
    (∃ a ∈ resolvedAt o net k hop.url,
      IpAddress.address? c.address = some a) ∧
    ∀ a ∈ resolvedAt o net k hop.url,
      refused o.classes a allowPrivate = false

variable {o : Outside}
variable {net : Internet}
variable {allowPrivate : Bool}
variable {k : Nat}
variable {url : String}
variable {backend : PinnedBackend}

theorem client_ok
    (hClient : client o net allowPrivate k url = .ok backend) :
    ∃ a ∈ resolvedAt o net k url,
      IpAddress.address? backend.address = some a ∧
      ∀ b ∈ resolvedAt o net k url,
        refused o.classes b allowPrivate = false := by
  unfold client at hClient
  cases hCheck : checkDestination o net allowPrivate k url with
  | error e => simp [hCheck] at hClient
  | ok a =>
      rcases checkDestination_ok hCheck with
        ⟨hMem, hScope, hPass⟩
      cases hHost : o.rawHost url with
      | none => simp [hCheck, hHost] at hClient
      | some host =>
          simp only [hCheck, hHost] at hClient
          cases hClient
          exact ⟨a, hMem, IpAddress.address?_text a hScope, hPass⟩

theorem client_error
    {e : Raised}
    (hClient : client o net allowPrivate k url = .error e) :
    (o.urlsplit url = none ∧ e = .valueError) ∨
      ((o.urlsplit url).isSome = true ∧ ∃ g, e = .guard_ g) := by
  unfold client at hClient
  cases hCheck : checkDestination o net allowPrivate k url with
  | error e' =>
      simp only [hCheck] at hClient
      cases hClient
      exact checkDestination_error hCheck
  | ok a =>
      refine .inr ⟨?_, ?_⟩
      · rw [← Option.ne_none_iff_isSome]
        intro hNone
        simp [checkDestination, hNone] at hCheck
      · cases hHost : o.rawHost url with
        | none =>
            simp only [hCheck, hHost] at hClient
            cases hClient
            exact ⟨_, rfl⟩
        | some host => simp [hCheck, hHost] at hClient

/- A client is made only for a URL that `urlsplit` takes. -/
theorem isSome_of_client_ok
    (hClient : client o net allowPrivate k url = .ok backend) :
    (o.urlsplit url).isSome = true := by
  rw [← Option.ne_none_iff_isSome]
  intro hNone
  simp [client, checkDestination, hNone] at hClient

/- A pinned backend opens no other connections. -/
theorem send_guarded
    (request : Request)
    (hClient : client o net allowPrivate k request.url =
      .ok backend) :
    HopGuarded o net allowPrivate k
      (backend.send net k request).1 := by
  rcases client_ok hClient with ⟨a, hMem, hAddress, hPass⟩
  intro c hIn
  unfold PinnedBackend.send at hIn
  rcases List.mem_filterMap.mp hIn with ⟨dial, _, hOpened⟩
  unfold PinnedBackend.connectTcp at hOpened
  split at hOpened
  · cases hOpened
  · cases hOpened
    exact ⟨⟨a, hMem, hAddress⟩, hPass⟩

/- The chunks that are read are not too many bytes. -/
theorem length_readChunks
    {maxBytes : Nat}
    {chunks : List (List UInt8)}
    {body body' : List UInt8}
    (hStart : body.length ≤ maxBytes)
    (hRead : readChunks maxBytes body chunks = .ok body') :
    body'.length ≤ maxBytes := by
  induction chunks generalizing body with
  | nil =>
      cases hRead
      exact hStart
  | cons chunk chunks ih =>
      unfold readChunks at hRead
      by_cases hMore : maxBytes < (body ++ chunk).length
      · rw [if_pos hMore] at hRead
        cases hRead
      · rw [if_neg hMore] at hRead
        exact ih (Nat.le_of_not_lt hMore) hRead

theorem readChunks_error
    {maxBytes : Nat}
    {chunks : List (List UInt8)}
    {body : List UInt8}
    {e : Raised}
    (hRead : readChunks maxBytes body chunks = .error e) :
    e = .guard_ .tooLarge := by
  induction chunks generalizing body with
  | nil => cases hRead
  | cons chunk chunks ih =>
      unfold readChunks at hRead
      split at hRead
      · cases hRead
        rfl
      · exact ih hRead

theorem length_readBody
    {maxBytes : Nat}
    {resp : Response}
    {body : List UInt8}
    (hRead : readBody maxBytes resp = .ok body) :
    body.length ≤ maxBytes := by
  unfold readBody at hRead
  cases hChunks : readChunks maxBytes [] resp.chunks with
  | error e => simp [hChunks] at hRead
  | ok body' =>
      simp only [hChunks] at hRead
      split at hRead
      · cases hRead
      · cases hRead
        exact length_readChunks (Nat.zero_le _) hChunks

theorem readBody_error
    {maxBytes : Nat}
    {resp : Response}
    {e : Raised}
    (hRead : readBody maxBytes resp = .error e) :
    ∃ g, e = .guard_ g := by
  unfold readBody at hRead
  cases hChunks : readChunks maxBytes [] resp.chunks with
  | error e' =>
      simp only [hChunks] at hRead
      cases hRead
      exact ⟨_, readChunks_error hChunks⟩
  | ok body =>
      simp only [hChunks] at hRead
      split at hRead
      · cases hRead
        exact ⟨_, rfl⟩
      · cases hRead

--------
-- Whole Runs
--------

variable (o : Outside)
variable (net : Internet)
variable (allowPrivate : Bool)

/-
  What is promised of a run whose hops are counted from
  `first`: guarded connections, few hops, a short result, and
  no failure but the three.
-/
structure Guarded
    {α : Type}
    (first maxHops : Nat)
    (Short : α → Prop)
    (run : Except Raised α × List Hop) : Prop where
  hops : ∀ i hop, run.2[i]? = some hop →
    HopGuarded o net allowPrivate (first + i) hop
  few : run.2.length ≤ maxHops
  short : ∀ a, run.1 = .ok a → Short a
  failure : ∀ e, run.1 = .error e → ∃ g, e = .guard_ g

/- Where the answer to a `GET` at a hop redirects to. -/
def redirectsTo
    (accept : String)
    (k : Nat)
    (url : String) : Option String :=
  match client o net allowPrivate k url with
  | .error _ => none
  | .ok backend =>
      (backend.send net k (getRequest accept url)).2.bind
        (fun resp => resp.target.bind (o.join url))

/-
  `urlsplit` takes the URL, and each one that the redirects
  followed lead to.
-/
def Splits (accept : String) : Nat → Nat → String → Prop
| 0, _, url => (o.urlsplit url).isSome = true
| left + 1, k, url => (o.urlsplit url).isSome = true ∧
    ∀ next, redirectsTo o net allowPrivate accept k url =
      some next → Splits accept left (k + 1) next

variable {o : Outside}
variable {net : Internet}
variable {allowPrivate : Bool}
variable {accept url : String}
variable {first k left maxBytes maxHops : Nat}

theorem Splits.isSome
    (hSplits : Splits o net allowPrivate accept left k url) :
    (o.urlsplit url).isSome = true := by
  cases left with
  | zero => exact hSplits
  | succ left => exact hSplits.1

section Short

variable {α : Type}
variable {Short : α → Prop}

/- A run that ends at its first hop. -/
theorem guarded_single
    {result : Except Raised α}
    {hop : Hop}
    (hHop : HopGuarded o net allowPrivate first hop)
    (hShort : ∀ a, result = .ok a → Short a)
    (hFailure : ∀ e, result = .error e → ∃ g, e = .guard_ g) :
    Guarded o net allowPrivate first (maxHops + 1) Short
      (result, [hop]) := by
  refine ⟨?_, ?_, hShort, hFailure⟩
  · intro i hop' hAt
    cases i with
    | zero =>
        cases hAt
        exact hHop
    | succ i => cases hAt
  · simp

/- A run that the client refuses, before any connection. -/
theorem guarded_refused
    {e : Raised}
    (hClient : client o net allowPrivate first url = .error e) :
    Guarded o net allowPrivate first (maxHops + 1) Short
        (.error e, [{ url := url, connections := [] }]) ↔
      (o.urlsplit url).isSome = true := by
  rcases client_error hClient with ⟨hNone, rfl⟩ | ⟨hSome, g, rfl⟩
  · constructor
    · intro hGuarded
      rcases hGuarded.failure _ rfl with ⟨g, hEq⟩
      cases hEq
    · intro hSome
      rw [hNone] at hSome
      cases hSome
  · constructor
    · intro _
      exact hSome
    · intro _
      apply guarded_single
      · intro c hMem
        cases hMem
      · nofun
      · intro e hError
        cases hError
        exact ⟨g, rfl⟩

/- A hop before a run is as guarded as the run. -/
theorem guarded_cons
    {hop : Hop}
    {run : Except Raised α × List Hop}
    (hHop : HopGuarded o net allowPrivate first hop) :
    Guarded o net allowPrivate first (maxHops + 1) Short
        (run.1, hop :: run.2) ↔
      Guarded o net allowPrivate (first + 1) maxHops Short
        run := by
  constructor
  · intro hGuarded
    refine ⟨?_, ?_, hGuarded.short, hGuarded.failure⟩
    · intro i hop' hAt
      have hGuardedAt := hGuarded.hops (i + 1) hop' hAt
      rwa [Nat.add_assoc, Nat.add_comm 1 i]
    · exact Nat.le_of_succ_le_succ hGuarded.few
  · intro hGuarded
    refine ⟨?_, ?_, hGuarded.short, hGuarded.failure⟩
    · intro i hop' hAt
      cases i with
      | zero =>
          cases hAt
          exact hHop
      | succ i =>
          have hGuardedAt := hGuarded.hops i hop' hAt
          rwa [Nat.add_assoc, Nat.add_comm 1 i] at hGuardedAt
    · exact Nat.succ_le_succ hGuarded.few

end Short

/- The body is short. -/
def ShortBody
    (maxBytes : Nat)
    (f : Fetched) : Prop :=
  f.body.length ≤ maxBytes

/- What is returned, or raised, over the last hop. -/
theorem fetched_short
    {resp : Response} :
    (∀ f, fetched maxBytes resp = .ok f → ShortBody maxBytes f) ∧
    ∀ e, fetched maxBytes resp = .error e →
      ∃ g, e = .guard_ g := by
  unfold fetched
  split
  · exact ⟨nofun, fun e hError => by
      cases hError
      exact ⟨_, rfl⟩⟩
  · cases hRead : readBody maxBytes resp with
    | error e =>
        refine ⟨nofun, ?_⟩
        intro e' hError
        cases hError
        exact readBody_error hRead
    | ok body =>
        refine ⟨?_, nofun⟩
        intro f hOk
        cases hOk
        exact length_readBody hRead

/-
  A fetch keeps its promise if and only if `urlsplit` takes
  the URL of each hop.
-/
theorem fetchFrom_guarded_iff :
    Guarded o net allowPrivate k (left + 1) (ShortBody maxBytes)
        (fetchFrom o net allowPrivate maxBytes accept left k
          url) ↔
      Splits o net allowPrivate accept left k url := by
  induction left generalizing k url with
  | zero =>
      unfold fetchFrom Splits
      cases hClient : client o net allowPrivate k url with
      | error e => exact guarded_refused hClient
      | ok backend =>
          have hSome := isSome_of_client_ok hClient
          have hHop := send_guarded (getRequest accept url)
            hClient
          dsimp only
          generalize backend.send net k
            (getRequest accept url) = sent at hHop ⊢
          rcases sent with ⟨hop, reply⟩
          dsimp only at hHop ⊢
          simp only [hSome, iff_true]
          cases reply with
          | none =>
              apply guarded_single hHop nofun
              intro e hError
              cases hError
              exact ⟨_, rfl⟩
          | some resp =>
              exact guarded_single hHop fetched_short.1
                fetched_short.2
  | succ left ih =>
      unfold fetchFrom Splits redirectsTo
      cases hClient : client o net allowPrivate k url with
      | error e =>
          rw [guarded_refused hClient]
          simp
      | ok backend =>
          have hSome := isSome_of_client_ok hClient
          have hHop := send_guarded (getRequest accept url)
            hClient
          dsimp only
          generalize backend.send net k
            (getRequest accept url) = sent at hHop ⊢
          rcases sent with ⟨hop, reply⟩
          dsimp only at hHop ⊢
          simp only [hSome, true_and]
          cases reply with
          | none =>
              simp only [Option.bind_none, reduceCtorEq,
                false_imp_iff, implies_true, iff_true]
              apply guarded_single hHop nofun
              intro e hError
              cases hError
              exact ⟨_, rfl⟩
          | some resp =>
              cases hTarget : resp.target with
              | none =>
                  simp only [Option.bind_some, hTarget,
                    Option.bind_none, reduceCtorEq,
                    false_imp_iff, implies_true, iff_true]
                  exact guarded_single hHop fetched_short.1
                    fetched_short.2
              | some location =>
                  cases hJoin : o.join url location with
                  | none =>
                      simp only [Option.bind_some, hTarget,
                        hJoin, reduceCtorEq, false_imp_iff,
                        implies_true, iff_true]
                      apply guarded_single hHop nofun
                      intro e hError
                      cases hError
                      exact ⟨_, rfl⟩
                  | some next =>
                      simp only [Option.bind_some, hTarget,
                        hJoin, Option.some.injEq,
                        forall_eq']
                      rw [guarded_cons hHop, ih]

theorem post_guarded_iff
    (data : Option (List (String × String)))
    (jsonBody : Option Json)
    (headers : List (String × String)) :
    Guarded o net allowPrivate 0 1
        (fun answer => answer.body.length ≤ maxBytes)
        (post o net allowPrivate url data jsonBody headers
          maxBytes) ↔
      (o.urlsplit url).isSome = true := by
  unfold post
  cases hClient : client o net allowPrivate 0 url with
  | error e => exact guarded_refused hClient
  | ok backend =>
      have hSome := isSome_of_client_ok hClient
      have hHop := send_guarded
        { method := "POST", url := url, headers := headers,
          data := data, json := jsonBody } hClient
      dsimp only
      generalize backend.send net 0
        { method := "POST", url := url, headers := headers,
          data := data, json := jsonBody } = sent at hHop ⊢
      rcases sent with ⟨hop, reply⟩
      dsimp only at hHop ⊢
      simp only [hSome, iff_true]
      cases reply with
      | none =>
          apply guarded_single hHop nofun
          intro e hError
          cases hError
          exact ⟨_, rfl⟩
      | some resp =>
          cases hRead : readBody maxBytes resp with
          | error e =>
              simp only [hRead]
              apply guarded_single hHop nofun
              intro e' hError
              cases hError
              exact readBody_error hRead
          | ok body =>
              simp only [hRead]
              refine guarded_single hHop ?_ nofun
              intro answer hOk
              cases hOk
              exact length_readBody hRead

theorem probe_guarded_iff :
    Guarded o net allowPrivate 0 1 (fun _ => True)
        (probe o net allowPrivate url) ↔
      (o.urlsplit url).isSome = true := by
  unfold probe
  cases hClient : client o net allowPrivate 0 url with
  | error e => exact guarded_refused hClient
  | ok backend =>
      have hSome := isSome_of_client_ok hClient
      have hHop := send_guarded { method := "GET", url := url }
        hClient
      dsimp only
      generalize backend.send net 0
        { method := "GET", url := url } = sent at hHop ⊢
      rcases sent with ⟨hop, reply⟩
      dsimp only at hHop ⊢
      simp only [hSome, iff_true]
      cases reply with
      | none =>
          apply guarded_single hHop nofun
          intro e hError
          cases hError
          exact ⟨_, rfl⟩
      | some resp =>
          exact guarded_single hHop (fun _ _ => trivial) nofun

--------
-- The Promise
--------

section Safe

variable {o : Outside}
variable {net : Internet}
variable {allowPrivate : Bool}
variable {maxBytes : Nat}
variable {accept : String}

/- Hops are guarded if the first and those after it are. -/
theorem hops_cons
    {k : Nat}
    {hop : Hop}
    {hops : List Hop}
    (hHop : HopGuarded o net allowPrivate k hop)
    (hHops : ∀ i h, hops[i]? = some h →
      HopGuarded o net allowPrivate (k + 1 + i) h) :
    ∀ i h, (hop :: hops)[i]? = some h →
      HopGuarded o net allowPrivate (k + i) h := by
  intro i h hAt
  cases i with
  | zero =>
      cases hAt
      exact hHop
  | succ i =>
      have hGuarded := hHops i h hAt
      rwa [Nat.add_assoc, Nat.add_comm 1 i] at hGuarded

theorem hops_single
    {k : Nat}
    {hop : Hop}
    (hHop : HopGuarded o net allowPrivate k hop) :
    ∀ i h, [hop][i]? = some h →
      HopGuarded o net allowPrivate (k + i) h := by
  apply hops_cons hHop
  intro i h hAt
  cases hAt

theorem fetchFrom_safe
    (left k : Nat)
    (url : String) :
    let run := fetchFrom o net allowPrivate maxBytes accept left
      k url
    (∀ i hop, run.2[i]? = some hop →
      HopGuarded o net allowPrivate (k + i) hop) ∧
    run.2.length ≤ left + 1 ∧
    (∀ f, run.1 = .ok f → ShortBody maxBytes f) ∧
    (run.1 = .error .valueError → ∃ hop,
      run.2.getLast? = some hop ∧
        o.urlsplit hop.url = none) := by
  fun_induction fetchFrom o net allowPrivate maxBytes accept
    left k url
  case case1 left k url e hClient =>
    refine ⟨hops_single ?_, Nat.le_add_left 1 left,
      by rintro _ ⟨⟩, ?_⟩
    · intro c hMem
      cases hMem
    · intro hError
      cases hError
      refine ⟨_, rfl, ?_⟩
      rcases client_error hClient with ⟨hNone, _⟩ | ⟨_, g, hEq⟩
      · exact hNone
      · cases hEq
  case case2 left k url backend hClient hop hSend =>
    have hHop := send_guarded (getRequest accept url) hClient
    rw [hSend] at hHop
    exact ⟨hops_single hHop, Nat.le_add_left 1 left,
      by rintro _ ⟨⟩, by rintro ⟨⟩⟩
  case case3 k url backend hClient hop resp hSend left _ _ _ =>
    have hHop := send_guarded (getRequest accept url) hClient
    rw [hSend] at hHop
    exact ⟨hops_single hHop, Nat.le_add_left 1 _,
      by rintro _ ⟨⟩, by rintro ⟨⟩⟩
  case case4 k url backend hClient hop resp hSend left _ _ next
      _ rest ih =>
    have hHop := send_guarded (getRequest accept url) hClient
    rw [hSend] at hHop
    rcases ih with ⟨hHops, hFew, hShort, hCrash⟩
    refine ⟨hops_cons hHop hHops, Nat.succ_le_succ hFew, hShort,
      ?_⟩
    intro hError
    rcases hCrash hError with ⟨last, hLast, hNone⟩
    refine ⟨last, ?_, hNone⟩
    rw [List.getLast?_cons, hLast]
    rfl
  case case5 left k url backend hClient hop resp hSend _ =>
    have hHop := send_guarded (getRequest accept url) hClient
    rw [hSend] at hHop
    refine ⟨hops_single hHop, Nat.le_add_left 1 left,
      fetched_short.1, ?_⟩
    intro hError
    rcases fetched_short.2 _ hError with ⟨g, hEq⟩
    cases hEq

end Safe

/-
  Whatever a fetch raises, a `ValueError` included, each hop
  of it connected only to an address its own URL resolved to,
  all of which are let through; there are no more hops than
  it may make, no body is too long, and a `ValueError` is of
  a last hop whose URL `urlsplit` does not take.
-/
theorem fetch_safe
    (o : Outside)
    (net : Internet)
    (allowPrivate : Bool)
    (url : String)
    (maxBytes : Nat)
    (accept : String)
    (maxRedirects : Nat) :
    let run := fetch o net allowPrivate url maxBytes accept
      maxRedirects
    (∀ i hop, run.2[i]? = some hop →
      HopGuarded o net allowPrivate i hop) ∧
    run.2.length ≤ maxRedirects + 1 ∧
    (∀ f, run.1 = .ok f → f.body.length ≤ maxBytes) ∧
    (run.1 = .error .valueError → ∃ hop,
      run.2.getLast? = some hop ∧
        o.urlsplit hop.url = none) := by
  intro run
  rcases fetchFrom_safe maxRedirects 0 url with
    ⟨hHops, hFew, hShort, hCrash⟩
  refine ⟨?_, hFew, hShort, hCrash⟩
  intro i hop hAt
  have hGuarded := hHops i hop hAt
  rwa [Nat.zero_add] at hGuarded

/- Brackets that are not closed make no netloc. -/
def bracketed : Outside where
  urlsplit url :=
    if url.toList.count '[' = url.toList.count ']' then
      some { scheme := "http", hostname := none, port := none }
    else none
  rawHost _ := none
  join _ _ := none
  classes :=
    { ipv4Mapped := fun _ => none
      isLoopback := fun _ => false
      isLinkLocal := fun _ => false
      isMulticast := fun _ => false
      isUnspecified := fun _ => false
      isReserved := fun _ => false
      isGlobal := fun _ => true }

/- Nothing resolves and nothing answers. -/
def silent : Internet where
  resolver :=
    { answer := fun _ _ _ => none
      numeric := nofun }
  exchange _ _ _ _ := { dials := [], reply := none }

end NetGuard

end TrueNorth
