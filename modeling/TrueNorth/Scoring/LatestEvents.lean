import TrueNorth.Scoring.StoreOrders

/-
  When the verdict on an account depends only on the set of
  its events.

  The last of the latest events decides, and which one is
  last is up to the store.  Where none but disables and
  re-enables are the latest, it does not matter.

  Key definitions include:
    * `Event`, `Latest`, `FoundLast`
    * `Settled`
    * `Told`

  Main theorems:
    * `judge_verdict`
    * `settled_iff_told`
    * `third_id_unsettled`
-/

--------
-- Events and Verdicts
--------

namespace TrueNorth

namespace Scoring

namespace UserDisabled

open Sightings

variable {R : Reading}
variable (config : Config)
variable (content : Content R)

/- An observed event of the account inside the window. -/
def Event (hit : Hit) : Prop :=
  ∃ wanted window, checkConfig R config = .ok (wanted, window) ∧
    hit ∈ content.docs ∧ hit.isObserved = true ∧
    considered R wanted window hit = true

/- One with this id. -/
def Coded
    (code : String)
    (hit : Hit) : Prop :=
  Event config content hit ∧ eventId R hit.members = some code

/- When it happened, and was ingested. -/
def placeOf
    (R : Reading)
    (hit : Hit) : Int ×ₗ Int :=
  eventOrder R hit.members

/-
  One verdict whatever order and pages a store has, and an
  achieved one only where a disable is not re-enabled.
-/
structure Settled : Prop where
  same : ∀ store store',
    Serves store content config.index →
    Serves store' content config.index →
      verdict R config store = verdict R config store'
  sound : ∀ store, Serves store content config.index →
    verdict R config store = some true →
      (∃ hit, Coded config content disabled hit) ∧
      ¬ ∃ hit', Coded config content enabled hit' ∧
        ∀ hit, Coded config content disabled hit →
          placeOf R hit ≤ placeOf R hit'

/- An event that a query finds, with none later. -/
structure Latest (hit : Hit) : Prop where
  event : Event config content hit
  found : Found content hit
  last : ∀ hit', Event config content hit' →
    Found content hit' → placeOf R hit' ≤ placeOf R hit

/- The latest events that no earlier query finds. -/
structure FoundLast (hit : Hit) : Prop where
  latest : Latest config content hit
  last : ∀ hit', Latest config content hit' →
    rank content hit' ≤ rank content hit

/- A disable and a re-enable, and nothing else. -/
structure BothCodes : Prop where
  only : ∀ hit, Latest config content hit →
    eventId R hit.members = some disabled ∨
      eventId R hit.members = some enabled
  disables : ∃ hit, Latest config content hit ∧
    eventId R hit.members = some disabled
  enables : ∃ hit, Latest config content hit ∧
    eventId R hit.members = some enabled

/-
  What tells the latest events apart without their order:
  they are of both codes, or those that are found last are
  no disables, or disables with no re-enable as late.
-/
def Told : Prop :=
  TooMany content ∨
  BothCodes config content ∨
  (∀ hit, FoundLast config content hit →
    eventId R hit.members ≠ some disabled) ∨
  ((∀ hit, FoundLast config content hit →
      eventId R hit.members = some disabled) ∧
    ∀ hit, Latest config content hit →
      eventId R hit.members ≠ some enabled)

--------
-- What the Latest Events Say
--------

open Checks
open Sightings

variable {R : Reading}
variable {config : Config}
variable {content : Content R}
variable {order : String → List Hit}
variable {wanted : String}
variable {window : Option Int × Option Int}

/- What is last, as a verdict. -/
def lastVerdict
    (R : Reading)
    (latest : List Hit) : Option Bool :=
  match latest.getLast? with
  | none => none
  | some last =>
      if bothIds R latest then none
      else some (eventId R last.members = some disabled)

theorem judge_verdict
    (events : List Hit) :
    (judge R events).toOption.map Prod.fst =
      lastVerdict R (atTop (placeOf R) events) := by
  unfold judge lastVerdict
  have hLast : (events.insertionSort (fun a b =>
      placeOf R a ≤ placeOf R b)).getLast? =
      (atTop (placeOf R) events).getLast? :=
    getLast?_insertionSort events
  unfold placeOf at hLast
  simp only [hLast]
  cases hTop : (atTop (placeOf R) events).getLast? with
  | none =>
      unfold placeOf at hTop
      rw [hTop]
      rfl
  | some last =>
      have hMem := List.mem_of_getLast? hTop
      have hSame : events.filter (fun hit =>
          eventOrder R hit.members = eventOrder R last.members) =
            atTop (placeOf R) events := by
        rw [atTop, List.mem_filter, decide_eq_true_eq] at hMem
        apply List.filter_congr
        intro hit hHit
        rw [decide_eq_decide]
        constructor
        · intro hEq other hOther
          exact (hMem.2 other hOther).trans_eq hEq.symm
        · intro hAll
          exact le_antisymm (hMem.2 hit hHit) (hAll last hMem.1)
      unfold placeOf at hTop
      rw [hTop]
      simp only [hSame]
      unfold bothIds
      split
      · next hBoth =>
          rw [if_pos (decide_eq_true hBoth)]
          rfl
      · next hBoth =>
          simp only [hBoth, decide_false, Bool.false_eq_true,
            if_false]
          split
          · next hOther => simp [hOther, Except.toOption]
          · next hThere =>
              rw [not_not] at hThere
              simp [hThere, Except.toOption]

/- The verdict is that of the latest of what is kept. -/
theorem verdict_answered
    {store : Store}
    (hConfig : checkConfig R config = .ok (wanted, window))
    (hOrder : Orders order content)
    (hAnswers : ∀ query,
      Answers (store config.index query) (order query)) :
    (TooMany content → verdict R config store = none) ∧
    (¬ TooMany content →
      verdict R config store =
        lastVerdict R (atTop (placeOf R)
          ((kept R order).filter
            (considered R wanted window)))) := by
  rcases observedHits_served hOrder hAnswers with ⟨hMany, hFew⟩
  constructor
  · intro hTooMany
    rcases hMany hTooMany with ⟨why, hError⟩
    unfold verdict validateUserDisabled
    rw [hConfig]
    simp only [bind, Except.bind, hError]
    rfl
  · intro hNot
    unfold verdict validateUserDisabled
    rw [hConfig]
    simp only [bind, Except.bind, hFew hNot]
    exact judge_verdict _

theorem verdict_served
    {store : Store}
    (hServes : Serves store content config.index)
    (hConfig : checkConfig R config = .ok (wanted, window)) :
    ∃ order, Orders order content ∧
      (TooMany content → verdict R config store = none) ∧
      (¬ TooMany content →
        verdict R config store =
          lastVerdict R (atTop (placeOf R)
            ((kept R order).filter
              (considered R wanted window)))) := by
  choose order hOrder hAnswers using hServes
  exact ⟨order, hOrder,
    verdict_answered hConfig hOrder hAnswers⟩

/- A configuration that cannot be judged is unscored. -/
theorem verdict_refused
    {why : Unscored}
    (hConfig : checkConfig R config = .error why)
    (store : Store) :
    verdict R config store = none := by
  unfold verdict validateUserDisabled
  rw [hConfig]
  rfl

theorem event_iff
    (hConfig : checkConfig R config = .ok (wanted, window))
    {hit : Hit} :
    Event config content hit ↔
      hit ∈ content.docs ∧ hit.isObserved = true ∧
        considered R wanted window hit = true := by
  unfold Event
  rw [hConfig]
  constructor
  · rintro ⟨_, _, hSame, hEvent⟩
    cases hSame
    exact hEvent
  · intro hEvent
    exact ⟨wanted, window, rfl, hEvent⟩

/- An event's place, id and account are its content's. -/
theorem members_congr
    {hit hit' : Hit}
    (hSource : hit'.source = hit.source) :
    hit'.members = hit.members := by
  unfold Hit.members
  rw [hSource]

/- What is considered of what is kept is the events found. -/
theorem mem_events
    (hOrder : Orders order content)
    (hConfig : checkConfig R config = .ok (wanted, window))
    {hit : Hit}
    (hMem : hit ∈ (kept R order).filter
      (considered R wanted window)) :
    Event config content hit ∧ Found content hit := by
  rw [List.mem_filter] at hMem
  have hFound := found_of_kept hOrder hMem.1
  exact ⟨(event_iff hConfig).mpr
    ⟨hFound.1, hFound.2.1, hMem.2⟩, hFound⟩

theorem event_kept
    (hOrder : Orders order content)
    (hConfig : checkConfig R config = .ok (wanted, window))
    {hit : Hit}
    (hEvent : Event config content hit)
    (hFound : Found content hit) :
    ∃ hit' ∈ (kept R order).filter (considered R wanted window),
      hit'.source = hit.source := by
  rcases kept_of_found hOrder hFound with ⟨hit', hMem, hSource⟩
  refine ⟨hit', List.mem_filter.mpr ⟨hMem, ?_⟩, hSource⟩
  have hConsidered := ((event_iff hConfig).mp hEvent).2.2
  unfold considered at hConsidered ⊢
  rwa [members_congr hSource]

/- The latest of what is kept are the latest of the content. -/
theorem mem_atTop_iff
    (hOrder : Orders order content)
    (hConfig : checkConfig R config = .ok (wanted, window))
    {hit : Hit} :
    hit ∈ atTop (placeOf R)
        ((kept R order).filter (considered R wanted window)) ↔
      hit ∈ kept R order ∧ Latest config content hit := by
  rw [atTop, List.mem_filter, decide_eq_true_eq]
  constructor
  · rintro ⟨hMem, hAll⟩
    rcases mem_events hOrder hConfig hMem with ⟨hEvent, hFound⟩
    refine ⟨(List.mem_filter.mp hMem).1, hEvent, hFound, ?_⟩
    intro other hOther hOtherFound
    rcases event_kept hOrder hConfig hOther hOtherFound with
      ⟨other', hMem', hSource⟩
    have hLe := hAll other' hMem'
    unfold placeOf at hLe ⊢
    rwa [members_congr hSource] at hLe
  · rintro ⟨hMem, hLatest⟩
    refine ⟨List.mem_filter.mpr ⟨hMem,
      ((event_iff hConfig).mp hLatest.event).2.2⟩, ?_⟩
    intro other hOther
    rcases mem_events hOrder hConfig hOther with
      ⟨hEvent, hFound⟩
    exact hLatest.last other hEvent hFound

theorem latest_atTop
    (hOrder : Orders order content)
    (hConfig : checkConfig R config = .ok (wanted, window))
    {hit : Hit}
    (hLatest : Latest config content hit) :
    ∃ hit' ∈ atTop (placeOf R)
        ((kept R order).filter (considered R wanted window)),
      hit'.source = hit.source := by
  rcases event_kept hOrder hConfig hLatest.event
    hLatest.found with ⟨hit', hMem, hSource⟩
  refine ⟨hit', ?_, hSource⟩
  rw [atTop, List.mem_filter, decide_eq_true_eq]
  refine ⟨hMem, ?_⟩
  intro other hOther
  rcases mem_events hOrder hConfig hOther with ⟨hEvent, hFound⟩
  have hLe := hLatest.last other hEvent hFound
  unfold placeOf at hLe ⊢
  rwa [members_congr hSource]

/- Both ids are there, of the latest that are kept. -/
theorem bothIds_iff
    (hOrder : Orders order content)
    (hConfig : checkConfig R config = .ok (wanted, window)) :
    bothIds R (atTop (placeOf R)
        ((kept R order).filter (considered R wanted window))) =
          true ↔
      BothCodes config content := by
  have hIds : ∀ id,
      id ∈ (atTop (placeOf R)
        ((kept R order).filter
          (considered R wanted window))).map
            (fun hit => eventId R hit.members) ↔
        ∃ hit, Latest config content hit ∧
          eventId R hit.members = id := by
    intro id
    rw [List.mem_map]
    constructor
    · rintro ⟨hit, hMem, hId⟩
      exact ⟨hit, ((mem_atTop_iff hOrder hConfig).mp hMem).2,
        hId⟩
    · rintro ⟨hit, hLatest, hId⟩
      rcases latest_atTop hOrder hConfig hLatest with
        ⟨hit', hMem, hSource⟩
      exact ⟨hit', hMem, by rwa [members_congr hSource]⟩
  unfold bothIds
  simp only [decide_eq_true_eq, hIds]
  constructor
  · rintro ⟨hOnly, hDisables, hEnables⟩
    exact ⟨fun hit hLatest => hOnly _ ⟨hit, hLatest, rfl⟩,
      hDisables, hEnables⟩
  · rintro ⟨hOnly, hDisables, hEnables⟩
    refine ⟨?_, hDisables, hEnables⟩
    rintro id ⟨hit, hLatest, rfl⟩
    exact hOnly hit hLatest

/- The last of the latest is one of those found last. -/
theorem last_foundLast
    (hOrder : Orders order content)
    (hConfig : checkConfig R config = .ok (wanted, window))
    {last : Hit}
    (hLast :
      (atTop (placeOf R)
        ((kept R order).filter
          (considered R wanted window))).getLast? =
            some last) :
    FoundLast config content last := by
  have hMem := (mem_atTop_iff hOrder hConfig).mp
    (List.mem_of_getLast? hLast)
  refine ⟨hMem.2, ?_⟩
  intro hit hLatest
  rcases latest_atTop hOrder hConfig hLatest with
    ⟨hit', hTop, hSource⟩
  have hRanked : (atTop (placeOf R)
      ((kept R order).filter
        (considered R wanted window))).Pairwise
          (fun a b => rank content a ≤ rank content b) :=
    (kept_ranked hOrder).sublist
      (List.filter_sublist.trans List.filter_sublist)
  have hLe := le_getLast hRanked hLast hTop
  unfold rank at hLe ⊢
  rwa [hSource] at hLe

--------
-- Told Apart Without an Order
--------

open Sightings

variable {R : Reading}
variable {config : Config}
variable {content : Content R}
variable {order : String → List Hit}
variable {wanted : String}
variable {window : Option Int × Option Int}

/- A disable or a re-enable is found by its own code. -/
theorem coded_found
    {code : String}
    {hit : Hit}
    (hCode : code ∈ [disabled, enabled])
    (hCoded : Coded config content code hit) :
    Found content hit := by
  rcases hCoded with
    ⟨⟨wanted, window, _, hDoc, hObserved, _⟩, hId⟩
  refine ⟨hDoc, hObserved, ?_⟩
  unfold eventId at hId
  rw [Option.map_eq_some_iff] at hId
  rcases hId with ⟨value, hFind, hText⟩
  rcases List.mem_map.mp (List.mem_of_find?_eq_some hFind) with
    ⟨field, hField, rfl⟩
  refine ⟨field ++ ":" ++ code, ?_,
    content.finds hit hDoc field hField code hCode hText⟩
  exact List.mem_flatMap.mpr
    ⟨code, hCode, List.mem_map.mpr ⟨field, hField, rfl⟩⟩

/- What the last of the latest says decides. -/
theorem lastVerdict_of_last
    (hOrder : Orders order content)
    (hConfig : checkConfig R config = .ok (wanted, window))
    {last : Hit}
    (hLast :
      (atTop (placeOf R)
        ((kept R order).filter
          (considered R wanted window))).getLast? =
            some last)
    (hNot : ¬ BothCodes config content) :
    lastVerdict R (atTop (placeOf R)
        ((kept R order).filter (considered R wanted window))) =
      some (decide (eventId R last.members = some disabled)) := by
  unfold lastVerdict
  rw [hLast]
  simp only
  rw [if_neg]
  rw [bothIds_iff hOrder hConfig]
  exact hNot

/- Where there is no event, there is no verdict. -/
theorem lastVerdict_none_iff
    (hOrder : Orders order content)
    (hConfig : checkConfig R config = .ok (wanted, window)) :
    (atTop (placeOf R)
        ((kept R order).filter
          (considered R wanted window))).getLast? = none ↔
      ∀ hit, ¬ Latest config content hit := by
  rw [List.getLast?_eq_none_iff, List.eq_nil_iff_forall_not_mem]
  constructor
  · intro hNone hit hLatest
    rcases latest_atTop hOrder hConfig hLatest with
      ⟨hit', hMem, _⟩
    exact hNone hit' hMem
  · intro hNone hit hMem
    exact hNone hit ((mem_atTop_iff hOrder hConfig).mp hMem).2

/- Of all orders, the verdict of one. -/
theorem same_of_told
    {order' : String → List Hit}
    (hOrder : Orders order content)
    (hOrder' : Orders order' content)
    (hConfig : checkConfig R config = .ok (wanted, window))
    (hFew : ¬ TooMany content)
    (hTold : Told config content) :
    lastVerdict R (atTop (placeOf R)
        ((kept R order).filter (considered R wanted window))) =
      lastVerdict R (atTop (placeOf R)
        ((kept R order').filter
          (considered R wanted window))) := by
  cases hLast : (atTop (placeOf R)
      ((kept R order).filter
        (considered R wanted window))).getLast? with
  | none =>
      have hNone := (lastVerdict_none_iff hOrder hConfig).mp hLast
      have hLast' :=
        (lastVerdict_none_iff hOrder' hConfig).mpr hNone
      unfold lastVerdict
      rw [hLast, hLast']
  | some last =>
      cases hLast' : (atTop (placeOf R)
          ((kept R order').filter
            (considered R wanted window))).getLast? with
      | none =>
          have hNone :=
            (lastVerdict_none_iff hOrder' hConfig).mp hLast'
          exact absurd (last_foundLast hOrder hConfig hLast).latest
            (hNone last)
      | some last' =>
          have hFound := last_foundLast hOrder hConfig hLast
          have hFound' := last_foundLast hOrder' hConfig hLast'
          by_cases hBoth : BothCodes config content
          · have hIds := (bothIds_iff hOrder hConfig).mpr hBoth
            have hIds' := (bothIds_iff hOrder' hConfig).mpr hBoth
            unfold lastVerdict
            rw [hLast, hLast']
            simp only [hIds, hIds', if_true]
          · rw [lastVerdict_of_last hOrder hConfig hLast hBoth,
              lastVerdict_of_last hOrder' hConfig hLast' hBoth]
            rcases hTold with hMany | hBoth' | hNone | ⟨hAll, _⟩
            · exact absurd hMany hFew
            · exact absurd hBoth' hBoth
            · simp [hNone last hFound, hNone last' hFound']
            · simp [hAll last hFound, hAll last' hFound']

/- An achieved verdict has a disable that is not undone. -/
theorem sound_of_told
    (hOrder : Orders order content)
    (hConfig : checkConfig R config = .ok (wanted, window))
    (hFew : ¬ TooMany content)
    (hTold : Told config content)
    (hAchieved :
      lastVerdict R (atTop (placeOf R)
        ((kept R order).filter (considered R wanted window))) =
          some true) :
    (∃ hit, Coded config content disabled hit) ∧
      ¬ ∃ hit', Coded config content enabled hit' ∧
        ∀ hit, Coded config content disabled hit →
          placeOf R hit ≤ placeOf R hit' := by
  cases hLast : (atTop (placeOf R)
      ((kept R order).filter
        (considered R wanted window))).getLast? with
  | none =>
      unfold lastVerdict at hAchieved
      rw [hLast] at hAchieved
      cases hAchieved
  | some last =>
      have hFound := last_foundLast hOrder hConfig hLast
      have hBoth : ¬ BothCodes config content := by
        intro hBoth
        have hIds := (bothIds_iff hOrder hConfig).mpr hBoth
        unfold lastVerdict at hAchieved
        rw [hLast] at hAchieved
        simp only [hIds, if_true] at hAchieved
        cases hAchieved
      rw [lastVerdict_of_last hOrder hConfig hLast hBoth,
        Option.some.injEq, decide_eq_true_eq] at hAchieved
      refine ⟨⟨last, hFound.latest.event, hAchieved⟩, ?_⟩
      rintro ⟨hit', hEnables, hLater⟩
      have hLe := hLater last ⟨hFound.latest.event, hAchieved⟩
      have hLatest : Latest config content hit' := by
        refine ⟨hEnables.1, coded_found (by decide) hEnables, ?_⟩
        intro other hOther hOtherFound
        exact (hFound.latest.last other hOther hOtherFound).trans
          hLe
      rcases hTold with hMany | hBoth' | hNone | ⟨_, hNone⟩
      · exact hFew hMany
      · exact hBoth hBoth'
      · exact hNone last hFound hAchieved
      · exact hNone hit' hLatest hEnables.2

theorem settled_of_told
    (hTold : Told config content) :
    Settled config content := by
  cases hConfig : checkConfig R config with
  | error why =>
      constructor
      · intro store store' _ _
        rw [verdict_refused hConfig, verdict_refused hConfig]
      · intro store _ hAchieved
        rw [verdict_refused hConfig] at hAchieved
        cases hAchieved
  | ok judged =>
      rcases judged with ⟨wanted, window⟩
      by_cases hMany : TooMany content
      · have hNone : ∀ store,
            Serves store content config.index →
              verdict R config store = none := by
          intro store hServes
          rcases verdict_served hServes hConfig with
            ⟨order, _, hUnscored, _⟩
          exact hUnscored hMany
        constructor
        · intro store store' hServes hServes'
          rw [hNone store hServes, hNone store' hServes']
        · intro store hServes hAchieved
          rw [hNone store hServes] at hAchieved
          cases hAchieved
      · constructor
        · intro store store' hServes hServes'
          rcases verdict_served hServes hConfig with
            ⟨order, hOrder, _, hVerdict⟩
          rcases verdict_served hServes' hConfig with
            ⟨order', hOrder', _, hVerdict'⟩
          rw [hVerdict hMany, hVerdict' hMany]
          exact same_of_told hOrder hOrder' hConfig hMany hTold
        · intro store hServes hAchieved
          rcases verdict_served hServes hConfig with
            ⟨order, hOrder, _, hVerdict⟩
          rw [hVerdict hMany] at hAchieved
          exact sound_of_told hOrder hConfig hMany hTold hAchieved

--------
-- Any of Those Found Last
--------

open Sightings

variable {R : Reading}
variable {config : Config}
variable {content : Content R}
variable {wanted : String}
variable {window : Option Int × Option Int}

/- The order that leaves a document to the end. -/
def leaving
    (content : Content R)
    (hit : Hit)
    (query : String) : List Hit :=
  (content.matching query).filter (fun other =>
      other.key R ≠ hit.key R) ++
    (content.matching query).filter (fun other =>
      other.key R = hit.key R)

theorem leaving_orders
    (hit : Hit) :
    Orders (leaving content hit) content := by
  intro query
  have hSplit := List.filter_append_perm
    (fun other : Hit => decide (other.key R ≠ hit.key R))
    (content.matching query)
  unfold leaving
  simpa using hSplit

/- The queries before the one that finds it, and after. -/
theorem first_query
    {hit : Hit}
    (hFound : Found content hit) :
    ∃ before query after, queries = before ++ query :: after ∧
      content.found query hit.source = true ∧
      (∀ query ∈ before,
        content.found query hit.source = false) ∧
      rank content hit = before.length := by
  rcases hFound with ⟨_, _, query, hQuery, hFinds⟩
  have hSome : (queries.find? (fun query =>
      content.found query hit.source)).isSome = true :=
    List.find?_isSome.mpr ⟨query, hQuery, hFinds⟩
  rcases Option.isSome_iff_exists.mp hSome with ⟨first, hFirst⟩
  rcases List.find?_eq_some_iff_append.mp hFirst with
    ⟨hHere, before, after, hSplit, hNot⟩
  have hBefore : ∀ query ∈ before,
      content.found query hit.source = false := by
    intro query hQuery
    simpa using hNot query hQuery
  refine ⟨before, first, after, hSplit, hHere, hBefore, ?_⟩
  unfold rank
  rw [hSplit]
  exact le_antisymm (findIdx_le hHere) (le_findIdx hBefore _)

/- What is kept, with a document that is left to the end. -/
theorem kept_leaving
    {hit : Hit}
    (hFound : Found content hit) :
    ∃ last before after,
      kept R (leaving content hit) = before ++ last :: after ∧
      last.source = hit.source ∧
      ∀ other ∈ after, rank content hit < rank content other := by
  have hOrder : Orders (leaving content hit) content :=
    leaving_orders hit
  rcases first_query hFound with
    ⟨before, query, after, hQueries, hHere, hBefore, hRank⟩
  let earlier :=
    (before.flatMap (leaving content hit)).filter
        Hit.isObserved ++
      ((content.matching query).filter (fun other =>
        other.key R ≠ hit.key R)).filter Hit.isObserved
  let own :=
    ((content.matching query).filter (fun other =>
      other.key R = hit.key R)).filter Hit.isObserved
  let later :=
    (after.flatMap (leaving content hit)).filter Hit.isObserved
  have hTogether : earlier ++ own =
      ((before ++ [query]).flatMap (leaving content hit)).filter
        Hit.isObserved := by
    simp [earlier, own, leaving]
  have hKept : kept R (leaving content hit) =
      firstSeen (Hit.key R) [] earlier ++
        (firstSeen (Hit.key R) (earlier.map (Hit.key R)) own ++
          firstSeen (Hit.key R)
            ((earlier ++ own).map (Hit.key R)) later) := by
    have hHits : (queries.flatMap (leaving content hit)).filter
        Hit.isObserved = earlier ++ own ++ later := by
      rw [hTogether, ← List.filter_append, ← List.flatMap_append,
        hQueries, List.append_assoc, List.singleton_append]
    unfold kept
    rw [hHits, firstSeen_append, firstSeen_append,
      List.nil_append, List.nil_append, List.append_assoc]
  -- the document's key is new when its own query comes
  have hNew : hit.key R ∉ earlier.map (Hit.key R) := by
    intro hMem
    rcases List.mem_map.mp hMem with ⟨other, hOther, hKey⟩
    rcases List.mem_append.mp hOther with hOther | hOther
    · rcases (mem_hits hOrder).mp hOther with
        ⟨hDoc, _, query', hQuery', hFinds⟩
      have hSource :=
        content.identified other hDoc hit hFound.1 hKey
      rw [hSource, hBefore query' hQuery'] at hFinds
      cases hFinds
    · have hOther' := (List.mem_filter.mp hOther).1
      have hDiffers := (List.mem_filter.mp hOther').2
      exact of_decide_eq_true hDiffers hKey
  have hOwn : ∀ other ∈ own,
      other ∈ content.docs ∧ other.key R = hit.key R := by
    intro other hOther
    have hOther' := List.mem_filter.mp
      (List.mem_filter.mp hOther).1
    exact ⟨(List.mem_filter.mp hOther'.1).1,
      of_decide_eq_true hOther'.2⟩
  have hIn : hit ∈ own := by
    refine List.mem_filter.mpr ⟨List.mem_filter.mpr
      ⟨List.mem_filter.mpr ⟨hFound.1, hHere⟩, ?_⟩, hFound.2.1⟩
    exact decide_eq_true rfl
  rcases List.exists_cons_of_ne_nil (List.ne_nil_of_mem hIn) with
    ⟨last, others, hCons⟩
  have hLastIn : last ∈ own := by
    rw [hCons]
    exact List.mem_cons_self
  have hLastKey := hOwn last hLastIn
  have hOne : firstSeen (Hit.key R) (earlier.map (Hit.key R))
      own = [last] := by
    rw [hCons]
    apply firstSeen_one_key
    · rw [hLastKey.2]
      exact hNew
    · intro other hOther
      rw [hLastKey.2]
      exact (hOwn other (by
        rw [hCons]
        exact List.mem_cons_of_mem _ hOther)).2
  refine ⟨last, _, _, by rw [hKept, hOne]; rfl,
    content.identified last hLastKey.1 hit hFound.1 hLastKey.2,
    ?_⟩
  intro other hOther
  have hMem := (firstSeen_sublist _ _).subset hOther
  have hOtherFound := (mem_hits hOrder).mp hMem
  have hNot := not_found_before hOrder hOtherFound.1
    hOtherFound.2.1
    (fun seen hSeen => List.mem_map_of_mem (hTogether ▸ hSeen))
    (not_seen hOther)
  have hLow := le_findIdx hNot after
  rw [List.append_assoc, List.singleton_append, ← hQueries,
    List.length_append, List.length_singleton] at hLow
  rw [hRank]
  exact hLow

/- The latest of what is kept, by a test of each. -/
theorem atTop_filter
    {order : String → List Hit}
    (hOrder : Orders order content)
    (hConfig : checkConfig R config = .ok (wanted, window)) :
    ∃ isTop : Hit → Bool,
      atTop (placeOf R)
          ((kept R order).filter (considered R wanted window)) =
        (kept R order).filter isTop ∧
      ∀ hit ∈ kept R order,
        isTop hit = true ↔ Latest config content hit := by
  have hTop := @List.filter_filter Hit
    (fun a => decide (∀ b ∈ (kept R order).filter
      (considered R wanted window), placeOf R b ≤ placeOf R a))
    (considered R wanted window) (kept R order)
  refine ⟨_, hTop, ?_⟩
  intro hit hMem
  have hIff : hit ∈ atTop (placeOf R)
        ((kept R order).filter (considered R wanted window)) ↔
      hit ∈ kept R order ∧ Latest config content hit :=
    mem_atTop_iff hOrder hConfig
  unfold atTop at hIff
  rw [hTop, List.mem_filter] at hIff
  simpa only [hMem, true_and] using hIff

/- What is kept for one of the latest is one of them. -/
theorem latest_of_source
    {order : String → List Hit}
    (hOrder : Orders order content)
    (hConfig : checkConfig R config = .ok (wanted, window))
    {hit hit' : Hit}
    (hLatest : Latest config content hit)
    (hMem : hit' ∈ kept R order)
    (hSource : hit'.source = hit.source) :
    Latest config content hit' := by
  have hFound := found_of_kept hOrder hMem
  have hEvent := ((event_iff hConfig).mp hLatest.event).2.2
  refine ⟨(event_iff hConfig).mpr
    ⟨hFound.1, hFound.2.1, ?_⟩, hFound, ?_⟩
  · unfold considered at hEvent ⊢
    rwa [members_congr hSource]
  · intro other hOther hOtherFound
    have hLe := hLatest.last other hOther hOtherFound
    unfold placeOf at hLe ⊢
    rwa [members_congr hSource]

/- Of the latest found last, any can be the last. -/
theorem leaving_last
    (hConfig : checkConfig R config = .ok (wanted, window))
    {hit : Hit}
    (hLast : FoundLast config content hit) :
    ∃ last,
      (atTop (placeOf R)
        ((kept R (leaving content hit)).filter
          (considered R wanted window))).getLast? = some last ∧
      last.source = hit.source := by
  have hOrder : Orders (leaving content hit) content :=
    leaving_orders hit
  rcases kept_leaving hLast.latest.found with
    ⟨last, before, after, hKept, hSource, hAfter⟩
  rcases atTop_filter hOrder hConfig with ⟨isTop, hTop, hIff⟩
  have hMem : ∀ other ∈ last :: after,
      other ∈ kept R (leaving content hit) := by
    intro other hOther
    rw [hKept]
    exact List.mem_append_right _ hOther
  have hLastMem := hMem last List.mem_cons_self
  have hLastTop : isTop last = true :=
    (hIff last hLastMem).mpr
      (latest_of_source hOrder hConfig hLast.latest hLastMem
        hSource)
  have hNone : after.filter isTop = [] := by
    rw [List.filter_eq_nil_iff]
    intro other hOther hIs
    have hOtherMem :=
      hMem other (List.mem_cons_of_mem last hOther)
    have hLe := hLast.last other ((hIff other hOtherMem).mp hIs)
    exact absurd (hAfter other hOther) (Nat.not_lt.mpr hLe)
  refine ⟨last, ?_, hSource⟩
  rw [hTop, hKept, List.filter_append, List.filter_cons,
    if_pos hLastTop, hNone, List.getLast?_concat]

/- The verdict of a store that leaves a document to the end. -/
theorem leaving_verdict
    (hConfig : checkConfig R config = .ok (wanted, window))
    (hFew : ¬ TooMany content)
    (hNot : ¬ BothCodes config content)
    {hit : Hit}
    (hLast : FoundLast config content hit) :
    verdict R config (storeOf (leaving content hit)) =
      some (decide (eventId R hit.members = some disabled)) := by
  have hOrder : Orders (leaving content hit) content :=
    leaving_orders hit
  rcases leaving_last hConfig hLast with ⟨last, hTop, hSource⟩
  rw [(verdict_answered hConfig hOrder
      (storeOf_answers _ config.index)).2 hFew,
    lastVerdict_of_last hOrder hConfig hTop hNot,
    members_congr hSource]

theorem told_of_settled
    (hSettled : Settled config content) :
    Told config content := by
  by_contra hNot
  unfold Told at hNot
  simp only [not_or, not_and, not_forall, not_not] at hNot
  rcases hNot with
    ⟨hFew, hBoth, ⟨hit, hLast, hDisables⟩, hOthers⟩
  rcases hLast.latest.event with ⟨wanted, window, hConfig, _⟩
  have hServes : ∀ hit,
      Serves (storeOf (leaving content hit)) content
        config.index :=
    fun hit => storeOf_serves (leaving_orders hit) config.index
  have hVerdict := leaving_verdict hConfig hFew hBoth hLast
  rw [hDisables, decide_eq_true rfl] at hVerdict
  by_cases hAll : ∀ hit, FoundLast config content hit →
      eventId R hit.members = some disabled
  · -- a re-enable is as late as the last disable
    rcases hOthers hAll with ⟨hit', hLatest', hEnables⟩
    apply (hSettled.sound _ (hServes hit) hVerdict).2
    refine ⟨hit', ⟨hLatest'.event, hEnables⟩, ?_⟩
    intro other hOther
    exact hLatest'.last other hOther.1
      (coded_found (by decide) hOther)
  · -- another that is found last can be the last as well
    simp only [not_forall] at hAll
    rcases hAll with ⟨hit', hLast', hOther⟩
    have hVerdict' := leaving_verdict hConfig hFew hBoth hLast'
    rw [decide_eq_false hOther] at hVerdict'
    have hSame := hSettled.same _ _ (hServes hit) (hServes hit')
    rw [hVerdict, hVerdict'] at hSame
    cases hSame

/-
  The verdict depends only on the set of events, and is not
  achieved where a re-enable is as late as every disable, if
  and only if the latest events are told apart.
-/
theorem settled_iff_told
    (config : Config)
    (content : Content R) :
    Settled config content ↔ Told config content :=
  ⟨told_of_settled, settled_of_told⟩

--------
-- An Event of Another Id
--------

/- What is read of one text, and of what is no text. -/
def fiveMinutes : Reading where
  timeOf text :=
    if text = "2026-10-12T09:05:00+00:00" then
      some { clock := 63927392700000000, offset := some 0 }
    else none
  repr _ := "[]"
  dumps _ := "\x7b\x7d"

/- Five minutes into the exercise. -/
def securityEvent (ids : List (String × Json)) : Json :=
  .obj
    (ids ++
      [("TargetUserName", .str "svc_backup"),
       ("@timestamp", .str "2026-10-12T09:05:00+00:00"),
       ("truenorth.ingested_at",
         .str "2026-10-12T09:05:00+00:00")])

/- A disable, of the second convention. -/
def aDisable : Hit where
  id := some "0"
  source := securityEvent [("winlog.event_id", .int 4725)]

/- The same, with another id by the first. -/
def ofTwoIds : Hit where
  id := some "1"
  source := securityEvent
    [("EventID", .int 4740), ("winlog.event_id", .int 4725)]

/- `field:code`, of the value that the field has. -/
def termMatches
    (R : Reading)
    (query : String)
    (source : Json) : Bool :=
  eventIdFields.any (fun field =>
    [disabled, enabled].any (fun code =>
      query = field ++ ":" ++ code &&
        str R (fieldOf (source.members?.getD []) field) = code))

theorem termMatches_code
    {R : Reading}
    {hit : Hit}
    {field code : String}
    (hField : field ∈ eventIdFields)
    (hCode : code ∈ [disabled, enabled])
    (hText : str R (fieldOf hit.members field) = code) :
    termMatches R (field ++ ":" ++ code) hit.source = true := by
  unfold termMatches
  rw [List.any_eq_true]
  refine ⟨field, hField, ?_⟩
  rw [List.any_eq_true]
  refine ⟨code, hCode, ?_⟩
  rw [Bool.and_eq_true, decide_eq_true_eq, decide_eq_true_eq]
  exact ⟨rfl, hText⟩

def twoEvents : Content fiveMinutes where
  docs := [aDisable, ofTwoIds]
  found := termMatches fiveMinutes
  identified := by
    intro hit hHit hit' hHit' hKey
    rcases List.mem_pair.mp hHit with rfl | rfl
    · rcases List.mem_pair.mp hHit' with rfl | rfl
      · rfl
      · exact absurd hKey (by decide)
    · rcases List.mem_pair.mp hHit' with rfl | rfl
      · exact absurd hKey (by decide)
      · rfl
  finds := by
    intro hit _ field hField code hCode hText
    exact termMatches_code hField hCode hText

def svcBackup : Config where
  username := .str "svc_backup"
  windowStart :=
    .moment { clock := 63927392400000000, offset := none }
  windowEnd := .absent

/- Whichever of the two comes last decides. -/
theorem third_id_unsettled :
    ¬ Settled svcBackup twoEvents := by
  intro hSettled
  have hDisable : verdict fiveMinutes svcBackup
      (storeOf (leaving twoEvents aDisable)) = some true := by
    decide
  have hOther : verdict fiveMinutes svcBackup
      (storeOf (leaving twoEvents ofTwoIds)) = some false := by
    decide
  have hSame := hSettled.same _ _
    (storeOf_serves (leaving_orders aDisable) svcBackup.index)
    (storeOf_serves (leaving_orders ofTwoIds) svcBackup.index)
  rw [hDisable, hOther] at hSame
  cases hSame

end UserDisabled

end Scoring

end TrueNorth
