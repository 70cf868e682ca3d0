import TrueNorth.Scoring.UserDisabled

/-
  What is kept of a store's answers, in whatever order and
  pages it gives them.

  A store serves a content: the documents of an index, and
  which of them a query finds.

  Key definitions include:
    * `Content`, `Serves`
    * `Kept`, `kept`

  Main theorems:
    * `pages_kept`
    * `observedHits_served`
    * `kept_ranked`
-/

--------
-- Contents
--------

namespace TrueNorth

namespace Scoring

namespace UserDisabled

/-
  The documents of the index, and which of them a query
  finds.  What is known by one key is one document, and a
  document is found by the code that its field has.
-/
structure Content (R : Reading) where
  docs : List Hit
  found : String → Json → Bool
  identified : ∀ hit ∈ docs, ∀ hit' ∈ docs,
    hit.key R = hit'.key R → hit.source = hit'.source
  finds : ∀ hit ∈ docs, ∀ field ∈ eventIdFields,
    ∀ code ∈ [disabled, enabled],
      str R (fieldOf hit.members field) = code →
        found (field ++ ":" ++ code) hit.source = true

variable {R : Reading}

/- What a query finds. -/
def Content.matching
    (content : Content R)
    (query : String) : List Hit :=
  content.docs.filter (fun hit =>
    content.found query hit.source)

/- A page of hits, of as many as the store likes. -/
def Answers
    (search : Nat → Nat → Option EventHits)
    (hits : List Hit) : Prop :=
  ∀ size offset, 0 < size → ∃ page,
    (offset < hits.length → 0 < page) ∧ page ≤ size ∧
      search size offset =
        some
          { total := hits.length
            hits := (hits.drop offset).take page }

/- The store gives what is found, in some order and pages. -/
def Serves
    (store : Store)
    (content : Content R)
    (index : String) : Prop :=
  ∀ query, ∃ hits, hits.Perm (content.matching query) ∧
    Answers (store index query) hits

/- An order of what every query finds. -/
def Orders
    (order : String → List Hit)
    (content : Content R) : Prop :=
  ∀ query, (order query).Perm (content.matching query)

/- The store of an order, with pages as long as asked for. -/
def storeOf (order : String → List Hit) : Store :=
  fun _ query size offset =>
    some
      { total := (order query).length
        hits := ((order query).drop offset).take size }

theorem storeOf_answers
    (order : String → List Hit)
    (index query : String) :
    Answers (storeOf order index query) (order query) := by
  intro size offset hSize
  exact ⟨size, fun _ => hSize, le_rfl, rfl⟩

theorem storeOf_serves
    {content : Content R}
    {order : String → List Hit}
    (hOrder : Orders order content)
    (index : String) :
    Serves (storeOf order) content index :=
  fun query => ⟨order query, hOrder query,
    storeOf_answers order index query⟩

theorem mem_order
    {content : Content R}
    {order : String → List Hit}
    (hOrder : Orders order content)
    {query : String}
    {hit : Hit} :
    hit ∈ order query ↔
      hit ∈ content.docs ∧
        content.found query hit.source = true := by
  rw [(hOrder query).mem_iff, Content.matching,
    List.mem_filter]

--------
-- Scans
--------

open Sightings

variable {R : Reading}

/- A scan of the hits: the first observed under each key. -/
structure Kept
    (R : Reading)
    (hits : List Hit)
    (scan : Scan) : Prop where
  keys : ∀ key, key ∈ scan.1 ↔
    key ∈ (hits.filter Hit.isObserved).map (Hit.key R)
  hits : scan.2 =
    firstSeen (Hit.key R) [] (hits.filter Hit.isObserved)

theorem Kept.nil : Kept R [] ([], []) where
  keys _ := Iff.rfl
  hits := rfl

theorem Kept.note
    {hits : List Hit}
    {scan : Scan}
    (hKept : Kept R hits scan)
    (hit : Hit) :
    Kept R (hits ++ [hit]) (note R scan hit) := by
  have hFirst : firstSeen (Hit.key R) []
      ((hits ++ [hit]).filter Hit.isObserved) =
        scan.2 ++ firstSeen (Hit.key R) scan.1
          ([hit].filter Hit.isObserved) := by
    rw [List.filter_append, firstSeen_append, List.nil_append,
      hKept.hits]
    congr 1
    exact firstSeen_congr (fun key => (hKept.keys key).symm) _
  unfold UserDisabled.note
  cases hObserved : hit.isObserved with
  | false =>
      simp only [Bool.and_false, Bool.false_eq_true, if_false]
      constructor
      · intro key
        simp [hKept.keys, hObserved]
      · rw [hFirst]
        simp [hObserved, firstSeen_nil]
  | true =>
      by_cases hSeen : hit.key R ∈ scan.1
      · simp only [hSeen, not_true_eq_false, decide_false,
          Bool.false_and, Bool.false_eq_true, if_false]
        constructor
        · intro key
          rw [List.filter_append, List.map_append,
            List.mem_append, ← hKept.keys]
          simp only [List.filter_cons, hObserved, if_true,
            List.filter_nil, List.map_cons, List.map_nil,
            List.mem_singleton]
          constructor
          · exact .inl
          · rintro (hMem | rfl)
            · exact hMem
            · exact hSeen
        · rw [hFirst]
          simp [hObserved, firstSeen_cons, firstSeen_nil, hSeen]
      · simp only [hSeen, not_false_eq_true, decide_true,
          Bool.and_true, if_true]
        constructor
        · intro key
          simp [hKept.keys, hObserved]
        · rw [hFirst]
          simp [hObserved, firstSeen_cons, firstSeen_nil, hSeen]

theorem Kept.foldl
    {hits : List Hit}
    {scan : Scan}
    (hKept : Kept R hits scan)
    (page : List Hit) :
    Kept R (hits ++ page)
      (page.foldl (UserDisabled.note R) scan) := by
  induction page generalizing hits scan with
  | nil => simpa using hKept
  | cons hit page ih =>
      have hNext := ih (hKept.note hit)
      rw [List.append_assoc] at hNext
      exact hNext

/- All pages of a query, of no more than are classified. -/
theorem pages_kept
    {search : Nat → Nat → Option EventHits}
    {found before : List Hit}
    {scan : Scan}
    {fuel offset : Nat}
    (hAnswers : Answers search found)
    (hFew : found.length ≤ maxScan)
    (hOffset : offset ≤ found.length)
    (hFuel : found.length < offset + fuel)
    (hKept : Kept R (before ++ found.take offset) scan) :
    ∃ next, pages R (search pageSize) fuel offset scan = .ok next ∧
      Kept R (before ++ found) next := by
  induction fuel generalizing offset scan with
  | zero => omega
  | succ fuel ih =>
      rcases hAnswers pageSize offset (by decide) with
        ⟨page, hPage, _, hSearch⟩
      have hNext := hKept.foldl ((found.drop offset).take page)
      rw [List.append_assoc, ← List.take_add] at hNext
      have hLength : ((found.drop offset).take page).length =
          min page (found.length - offset) := by
        rw [List.length_take, List.length_drop]
      unfold pages
      rw [hSearch]
      simp only [Nat.not_lt.mpr hFew, if_false]
      split
      · next hEnd =>
          refine ⟨_, rfl, ?_⟩
          have hAll : found.length ≤ offset + page := by
            rw [Bool.or_eq_true, List.isEmpty_iff_length_eq_zero,
              decide_eq_true_eq, hLength] at hEnd
            omega
          rwa [List.take_of_length_le hAll] at hNext
      · next hMore =>
          rw [Bool.or_eq_true, List.isEmpty_iff_length_eq_zero,
            decide_eq_true_eq, hLength] at hMore
          have hWhole : min page (found.length - offset) = page := by
            omega
          rw [hLength, hWhole]
          exact ih (by omega) (by omega) hNext

/- More than are classified are refused at the first page. -/
theorem pages_many
    {search : Nat → Nat → Option EventHits}
    {found : List Hit}
    {scan : Scan}
    (hAnswers : Answers search found)
    (hMany : maxScan < found.length) :
    pages R (search pageSize) (maxScan + 1) 0 scan =
      .error (.tooMany found.length) := by
  rcases hAnswers pageSize 0 (by decide) with ⟨page, _, _, hSearch⟩
  unfold pages
  rw [hSearch]
  simp only [gt_iff_lt, hMany, if_true]

/- The pages of one query after those of another. -/
theorem observedFrom_kept
    {search : String → Nat → Nat → Option EventHits}
    {order : String → List Hit}
    {queries : List String}
    {before : List Hit}
    {scan : Scan}
    (hAnswers : ∀ query, Answers (search query) (order query))
    (hFew : ∀ query ∈ queries, (order query).length ≤ maxScan)
    (hKept : Kept R before scan) :
    ∃ next,
      observedFrom R (fun query => search query pageSize) queries
        scan = .ok next ∧
      Kept R (before ++ queries.flatMap order) next := by
  induction queries generalizing before scan with
  | nil => exact ⟨scan, rfl, by simpa using hKept⟩
  | cons query queries ih =>
      have hStart : Kept R (before ++ (order query).take 0) scan := by
        simpa using hKept
      rcases pages_kept (hAnswers query)
        (hFew query List.mem_cons_self) (Nat.zero_le _)
        (by
          have hLength := hFew query List.mem_cons_self
          omega : (order query).length < 0 + (maxScan + 1))
        hStart with ⟨next, hPages, hNext⟩
      rcases ih (fun query hQuery =>
          hFew query (List.mem_cons_of_mem _ hQuery)) hNext with
        ⟨last, hRest, hLast⟩
      refine ⟨last, ?_, ?_⟩
      · unfold observedFrom
        rw [hPages]
        exact hRest
      · rw [List.flatMap_cons, ← List.append_assoc]
        exact hLast

theorem observedFrom_many
    {search : String → Nat → Nat → Option EventHits}
    {order : String → List Hit}
    {queries : List String}
    {before : List Hit}
    {scan : Scan}
    (hAnswers : ∀ query, Answers (search query) (order query))
    (hMany : ∃ query ∈ queries, maxScan < (order query).length)
    (hKept : Kept R before scan) :
    ∃ why,
      observedFrom R (fun query => search query pageSize) queries
        scan = .error why := by
  induction queries generalizing before scan with
  | nil =>
      rcases hMany with ⟨query, hMem, _⟩
      cases hMem
  | cons query queries ih =>
      unfold observedFrom
      by_cases hHere : maxScan < (order query).length
      · rw [pages_many (hAnswers query) hHere]
        exact ⟨_, rfl⟩
      · have hStart :
            Kept R (before ++ (order query).take 0) scan := by
          simpa using hKept
        rcases pages_kept (hAnswers query) (Nat.not_lt.mp hHere)
          (Nat.zero_le _)
          (by omega : (order query).length < 0 + (maxScan + 1))
          hStart with ⟨next, hPages, hNext⟩
        rw [hPages]
        apply ih ?_ hNext
        rcases hMany with ⟨other, hMem, hLength⟩
        rcases List.mem_cons.mp hMem with rfl | hMem
        · exact absurd hLength hHere
        · exact ⟨other, hMem, hLength⟩

--------
-- What Is Kept
--------

open Sightings

variable {R : Reading}
variable {content : Content R}
variable {order : String → List Hit}

/- The observed hits of the queries, in an order of each. -/
def kept
    (R : Reading)
    (order : String → List Hit) : List Hit :=
  firstSeen (Hit.key R) []
    ((queries.flatMap order).filter Hit.isObserved)

/- More documents match a query than are classified. -/
def TooMany (content : Content R) : Prop :=
  ∃ query ∈ queries, maxScan < (content.matching query).length

/- What a store that serves the content has for the scan. -/
theorem observedHits_served
    {store : Store}
    {index : String}
    (hOrder : Orders order content)
    (hAnswers : ∀ query,
      Answers (store index query) (order query)) :
    (TooMany content →
      ∃ why, observedHits R store index queries = .error why) ∧
    (¬ TooMany content →
      observedHits R store index queries =
        .ok (kept R order)) := by
  constructor
  · intro hMany
    have hOrderMany :
        ∃ query ∈ queries, maxScan < (order query).length := by
      rcases hMany with ⟨query, hQuery, hLength⟩
      rw [← (hOrder query).length_eq] at hLength
      exact ⟨query, hQuery, hLength⟩
    rcases observedFrom_many hAnswers hOrderMany Kept.nil with
      ⟨why, hError⟩
    refine ⟨why, ?_⟩
    unfold observedHits
    rw [hError]
    rfl
  · intro hFew
    have hOrderFew :
        ∀ query ∈ queries, (order query).length ≤ maxScan := by
      intro query hQuery
      rw [(hOrder query).length_eq]
      exact Nat.not_lt.mp (fun hLength =>
        hFew ⟨query, hQuery, hLength⟩)
    rcases observedFrom_kept hAnswers hOrderFew Kept.nil with
      ⟨next, hOk, hKept⟩
    unfold observedHits
    rw [hOk]
    exact congrArg Except.ok hKept.hits

/- An observed document that a query finds. -/
def Found
    (content : Content R)
    (hit : Hit) : Prop :=
  hit ∈ content.docs ∧ hit.isObserved = true ∧
    ∃ query ∈ queries, content.found query hit.source = true

theorem mem_hits
    (hOrder : Orders order content)
    {queries : List String}
    {hit : Hit} :
    hit ∈ (queries.flatMap order).filter Hit.isObserved ↔
      hit ∈ content.docs ∧ hit.isObserved = true ∧
        ∃ query ∈ queries,
          content.found query hit.source = true := by
  rw [List.mem_filter, List.mem_flatMap]
  constructor
  · rintro ⟨⟨query, hQuery, hMem⟩, hObserved⟩
    rw [mem_order hOrder] at hMem
    exact ⟨hMem.1, hObserved, query, hQuery, hMem.2⟩
  · rintro ⟨hDoc, hObserved, query, hQuery, hFound⟩
    exact ⟨⟨query, hQuery, (mem_order hOrder).mpr
      ⟨hDoc, hFound⟩⟩, hObserved⟩

theorem found_of_kept
    (hOrder : Orders order content)
    {hit : Hit}
    (hMem : hit ∈ kept R order) :
    Found content hit :=
  (mem_hits hOrder).mp ((firstSeen_sublist _ _).subset hMem)

/- Of every document that is found, the content is kept. -/
theorem kept_of_found
    (hOrder : Orders order content)
    {hit : Hit}
    (hFound : Found content hit) :
    ∃ hit' ∈ kept R order, hit'.source = hit.source := by
  have hNew : hit.key R ∉ ([] : List String) := List.not_mem_nil
  rcases exists_firstSeen ((mem_hits hOrder).mpr hFound) hNew with
    ⟨hit', hMem, hKey⟩
  exact ⟨hit', hMem,
    content.identified hit' (found_of_kept hOrder hMem).1 hit
      hFound.1 hKey⟩

--------
-- The Query That Finds First
--------

open Sightings

variable {R : Reading}
variable {content : Content R}
variable {order : String → List Hit}

/- The place of the first query that finds the document. -/
def rank
    (content : Content R)
    (hit : Hit) : Nat :=
  queries.findIdx (fun query => content.found query hit.source)

theorem le_findIdx
    {A : Type}
    {p : A → Bool}
    {before : List A}
    (hNot : ∀ a ∈ before, p a = false)
    (after : List A) :
    before.length ≤ (before ++ after).findIdx p := by
  rw [List.findIdx_append,
    List.findIdx_eq_length_of_false hNot, if_neg (lt_irrefl _)]
  exact Nat.le_add_left _ _

theorem findIdx_le
    {A : Type}
    {p : A → Bool}
    {before after : List A}
    {a : A}
    (hHere : p a = true) :
    (before ++ a :: after).findIdx p ≤ before.length := by
  rw [List.findIdx_append, List.findIdx_cons, hHere]
  split
  · next hBefore => exact hBefore.le
  · exact (Nat.zero_add _).le

/- What is new after some queries is found by none of them. -/
theorem not_found_before
    (hOrder : Orders order content)
    {before : List String}
    {seen : List String}
    {hit : Hit}
    (hDoc : hit ∈ content.docs)
    (hObserved : hit.isObserved = true)
    (hSeen : ∀ hit ∈
      (before.flatMap order).filter Hit.isObserved,
        hit.key R ∈ seen)
    (hNew : hit.key R ∉ seen) :
    ∀ query ∈ before,
      content.found query hit.source = false := by
  intro query hQuery
  by_contra hFound
  rw [Bool.not_eq_false] at hFound
  exact hNew (hSeen hit
    ((mem_hits hOrder).mpr ⟨hDoc, hObserved, query, hQuery,
      hFound⟩))

/- What is kept comes by the query that finds it first. -/
theorem ranked_from
    (hOrder : Orders order content)
    (before after : List String) :
    (firstSeen (Hit.key R)
        (((before.flatMap order).filter Hit.isObserved).map
          (Hit.key R))
        ((after.flatMap order).filter Hit.isObserved)).Pairwise
      (fun a b =>
        (before ++ after).findIdx
            (fun query => content.found query a.source) ≤
          (before ++ after).findIdx
            (fun query => content.found query b.source)) := by
  induction after generalizing before with
  | nil => exact List.Pairwise.nil
  | cons query after ih =>
      have hSplit : before ++ query :: after =
          (before ++ [query]) ++ after := by simp
      have hSeen : ∀ before : List String,
          ∀ hit ∈ (before.flatMap order).filter Hit.isObserved,
            hit.key R ∈
              ((before.flatMap order).filter Hit.isObserved).map
                (Hit.key R) :=
        fun before hit hMem => List.mem_map_of_mem hMem
      have hKeys :
          ((before.flatMap order).filter Hit.isObserved).map
              (Hit.key R) ++
            ((order query).filter Hit.isObserved).map
              (Hit.key R) =
          (((before ++ [query]).flatMap order).filter
            Hit.isObserved).map (Hit.key R) := by
        simp
      rw [List.flatMap_cons, List.filter_append,
        firstSeen_append, hKeys]
      have hHere : ∀ hit ∈ firstSeen (Hit.key R)
          (((before.flatMap order).filter Hit.isObserved).map
            (Hit.key R))
          ((order query).filter Hit.isObserved),
          (before ++ query :: after).findIdx
            (fun query => content.found query hit.source) ≤
              before.length := by
        intro hit hMem
        have hFound := (firstSeen_sublist _ _).subset hMem
        rw [List.mem_filter, mem_order hOrder] at hFound
        exact findIdx_le hFound.1.2
      have hLater : ∀ hit ∈ firstSeen (Hit.key R)
          ((((before ++ [query]).flatMap order).filter
            Hit.isObserved).map (Hit.key R))
          ((after.flatMap order).filter Hit.isObserved),
          before.length ≤
            (before ++ query :: after).findIdx
              (fun query => content.found query hit.source) := by
        intro hit hMem
        have hFound := (mem_hits hOrder).mp
          ((firstSeen_sublist _ _).subset hMem)
        have hNot := not_found_before hOrder hFound.1 hFound.2.1
          (hSeen (before ++ [query])) (not_seen hMem)
        exact le_findIdx (fun other hOther =>
          hNot other (List.mem_append_left _ hOther)) _
      have hHereLow : ∀ hit ∈ firstSeen (Hit.key R)
          (((before.flatMap order).filter Hit.isObserved).map
            (Hit.key R))
          ((order query).filter Hit.isObserved),
          before.length ≤
            (before ++ query :: after).findIdx
              (fun query => content.found query hit.source) := by
        intro hit hMem
        have hFound := (firstSeen_sublist _ _).subset hMem
        rw [List.mem_filter, mem_order hOrder] at hFound
        exact le_findIdx (not_found_before hOrder hFound.1.1
          hFound.2 (hSeen before) (not_seen hMem)) _
      rw [List.pairwise_append]
      refine ⟨?_, ?_, ?_⟩
      · refine List.pairwise_of_forall_mem_list ?_
        intro a ha b hb
        exact (hHere a ha).trans (hHereLow b hb)
      · rw [hSplit]
        exact ih (before ++ [query])
      · intro a ha b hb
        exact (hHere a ha).trans (hLater b hb)

theorem kept_ranked
    (hOrder : Orders order content) :
    (kept R order).Pairwise (fun a b =>
      rank content a ≤ rank content b) :=
  ranked_from hOrder [] queries

end UserDisabled

end Scoring

end TrueNorth
