import TrueNorth.RangeIsolation.Scripts

/-
  What becomes of the exit codes of the guest steps: how the
  steps end (provisioners/vsphere_api.py `_guest_sync`), and
  which probe is given which code (worker/range_isolation.py
  `_codes`).

  Key definitions include:
    * `Ended`, `guestSync`
    * `codes`
    * `scriptExit`
    * `Reports`

  Main theorems:
    * `Grouped.codes_eq`
    * `groups_codes`
-/

--------
-- How Steps End
--------

namespace TrueNorth

namespace RangeIsolation

inductive StepStatus where
| ok
| failed
| timeout
| notRun
deriving DecidableEq

/- How a step ended, or that it did not run. -/
structure Ended where
  status : StepStatus
  exitCode : Option Int
deriving DecidableEq

structure GuestResult extends Ended where
  label : String
deriving DecidableEq

def resultOf
    (step : GuestStep)
    (ended : Ended) : GuestResult :=
  { ended with label := step.label }

/- One result for each step, as far as there are ends. -/
def results
    (steps : List GuestStep)
    (ends : List Ended) : List GuestResult :=
  List.zipWith resultOf steps ends

/- The run stops at the first step that is not ok. -/
def ranUntil
    (run : GuestStep → Ended) :
    List GuestStep → List Ended
| [] => []
| step :: rest =>
    run step ::
      (if (run step).status = .ok then ranUntil run rest
      else rest.map (fun _ => ⟨.notRun, none⟩))

/- `_guest_sync`, of steps that would end so if run. -/
def guestSync
    (run : GuestStep → Ended)
    (steps : List GuestStep) : List GuestResult :=
  results steps (ranUntil run steps)

/- `GuestSession.run`, of a process that ended. -/
def exited
    (step : GuestStep)
    (code : Int) : Ended where
  status :=
    if step.okCodes.any (fun c => (c : Int) = code) then .ok
    else .failed
  exitCode := some code

/-
  The exit code a step's script ends with, of what its probe
  functions return: `none` is an exception.
-/
def scriptExit
    (family : Family)
    (returned : List (Option Nat)) : Nat :=
  match returned.mapM (fun r => r.filter (· ≤ 6)) with
  | some cs =>
      mark + (cs.zipIdx.map (fun c => c.1 * 2 ^ (bits * c.2))).sum
  | none =>
      match family with
      | .linux => 2
      | .windows => 1

/- `_codes`. -/
def codes
    (pairs : List (GuestStep × List Probe))
    (ran : List GuestResult) : List (Option Nat) :=
  let byLabel := Dict.ofPairs (ran.map (fun r => (r.label, r)))
  pairs.flatMap (fun pair =>
    let exitCode :=
      match byLabel.get? pair.1.label with
      | some r => if r.status = .ok then r.exitCode else none
      | none => none
    decode exitCode pair.2.length)

--------
-- What Each Probe Is Given
--------

/-
  The entries of a step's probes: the codes its exit code is
  the packing of, or none if it did not end so.
-/
structure Reports
    (count : Nat)
    (ended : Option Ended)
    (entries : List (Option Nat)) : Prop where
  packed : ∀ cs, IsCodes count cs →
    ended = some ⟨.ok, some (pack cs)⟩ → entries = cs.map some
  nothing : (¬ ∃ cs, IsCodes count cs ∧
      ended = some ⟨.ok, some (pack cs)⟩) →
    entries = List.replicate count none

/- What a step that ended so is read as. -/
def exitOf (ended : Option Ended) : Option Int :=
  match ended with
  | some e => if e.status = .ok then e.exitCode else none
  | none => none

theorem length_decode
    (exitCode : Option Int)
    (count : Nat) : (decode exitCode count).length = count := by
  unfold decode
  cases exitCode with
  | none => exact List.length_replicate
  | some code =>
      simp only
      split
      · exact List.length_replicate
      · rename_i hIn
        split
        · exact List.length_replicate
        · have hCount : count ≤ perStep := by
            simp only [Bool.or_eq_true, Bool.not_eq_true',
              Bool.and_eq_false_iff, decide_eq_false_iff_not,
              not_or, not_not] at hIn
            omega
          rw [List.length_map, List.length_take, List.length_map,
            List.length_range, Nat.min_eq_left hCount]

theorem decode_reports
    {count : Nat}
    (hCount : count ≤ perStep)
    (ended : Option Ended) :
    Reports count ended (decode (exitOf ended) count) := by
  refine ⟨?_, ?_⟩
  · rintro cs hCodes rfl
    exact decode_pack hCodes hCount
  · intro hNone
    match ended with
    | none => rfl
    | some ⟨.ok, none⟩ => rfl
    | some ⟨.ok, some code⟩ =>
        apply decode_unpacked
        rintro cs hCodes rfl
        exact hNone ⟨cs, hCodes, rfl⟩
    | some ⟨.failed, _⟩ => rfl
    | some ⟨.timeout, _⟩ => rfl
    | some ⟨.notRun, _⟩ => rfl

theorem scriptExit_eq
    {family : Family}
    {cs : List Nat}
    (hCodes : ∀ c ∈ cs, c ≤ 6) :
    scriptExit family (cs.map some) = pack cs := by
  have hAll : (cs.map some).mapM
      (fun r : Option Nat => r.filter (· ≤ 6)) = some cs := by
    induction cs with
    | nil => rfl
    | cons c cs ih =>
        rw [List.map_cons, List.mapM_cons,
          ih (fun c' hMem => hCodes c' (List.mem_cons_of_mem c hMem))]
        have hc := hCodes c List.mem_cons_self
        simp [Option.filter, hc]
  unfold scriptExit pack
  rw [hAll]
  simp only [Nat.shiftLeft_eq]

/- A script whose probes give no codes packs nothing. -/
theorem scriptExit_broken
    {family : Family}
    {returned : List (Option Nat)}
    (hNone : ¬ ∃ cs : List Nat,
      returned = cs.map some ∧ ∀ c ∈ cs, c ≤ 6)
    (cs : List Nat) :
    scriptExit family returned ≠ pack cs := by
  have hFail : returned.mapM
      (fun r : Option Nat => r.filter (· ≤ 6)) = none := by
    cases hMap : returned.mapM
        (fun r : Option Nat => r.filter (· ≤ 6)) with
    | none => rfl
    | some cs =>
        refine absurd ⟨cs, ?_⟩ hNone
        clear hNone
        induction returned generalizing cs with
        | nil =>
            cases hMap
            exact ⟨rfl, fun _ hMem => nomatch hMem⟩
        | cons r returned ih =>
            rw [List.mapM_cons] at hMap
            rcases Option.bind_eq_some_iff.mp hMap with
              ⟨c, hFirst, hRest⟩
            rcases Option.bind_eq_some_iff.mp hRest with
              ⟨cs', hLater, hDone⟩
            cases hDone
            rcases Option.filter_eq_some_iff.mp hFirst with ⟨rfl, hc⟩
            rcases ih cs' hLater with ⟨rfl, hAll⟩
            refine ⟨rfl, ?_⟩
            intro c' hMem
            rcases List.mem_cons.mp hMem with rfl | hMem
            · exact of_decide_eq_true hc
            · exact hAll c' hMem
  have hLow : mark ≤ pack cs := Nat.le_add_right _ _
  unfold scriptExit
  rw [hFail]
  unfold mark at hLow
  cases family with
  | linux =>
      intro hSame
      simp only at hSame
      omega
  | windows =>
      intro hSame
      simp only at hSame
      omega

--------
-- Steps By Their Labels
--------

open Checks

variable {lib : ShellTexts}
variable {family : Family}
variable {timeout : Int}
variable {ctx : Context}

theorem label_injective
    {i j : Nat}
    (hSame : s!"isolation-{i}" = s!"isolation-{j}") : i = j := by
  have hText : toString i = toString j := String.append_right_inj _ |>.mp hSame
  rw [Nat.toString_eq_repr, Nat.toString_eq_repr] at hText
  have hDigits : Nat.toDigits 10 i = Nat.toDigits 10 j := by
    rw [← Nat.toList_repr, ← Nat.toList_repr, hText]
  rw [← Nat.ofDigitChars_ten_toDigits (n := i), hDigits,
    Nat.ofDigitChars_ten_toDigits]

theorem label_of_build
    {label : String}
    {group : List Probe}
    {step : GuestStep}
    (hBuild : build lib family label group timeout ctx = .ok step) :
    step.label = label := by
  cases family with
  | linux =>
      rcases bind_eq_ok.mp hBuild with ⟨_, -, hDone⟩
      cases hDone
      rfl
  | windows =>
      rcases bind_eq_ok.mp hBuild with ⟨_, -, hDone⟩
      cases hDone
      rfl

theorem okCodes_of_build
    {label : String}
    {group : List Probe}
    {step : GuestStep}
    (hBuild : build lib family label group timeout ctx = .ok step) :
    step.okCodes = everyCode := by
  cases family with
  | linux =>
      rcases bind_eq_ok.mp hBuild with ⟨_, -, hDone⟩
      rw [← Except.ok.inj hDone]
  | windows =>
      rcases bind_eq_ok.mp hBuild with ⟨_, -, hDone⟩
      rw [← Except.ok.inj hDone]

variable {probes : List Probe}
variable {pairs : List (GuestStep × List Probe)}

theorem Grouped.labels
    (hGrouped : Grouped lib family timeout ctx probes pairs) :
    pairs.map (fun pair => pair.1.label) =
      (List.range pairs.length).map (fun i => s!"isolation-{i}") := by
  apply List.ext_getElem?
  intro i
  rw [List.getElem?_map, List.getElem?_map]
  cases hAt : pairs[i]? with
  | none =>
      have hLong := List.getElem?_eq_none_iff.mp hAt
      rw [List.getElem?_eq_none (by rw [List.length_range]; exact hLong)]
      rfl
  | some pair =>
      have hLt := (List.getElem?_eq_some_iff.mp hAt).1
      rw [List.getElem?_range hLt, Option.map_some, Option.map_some,
        label_of_build (hGrouped.built i pair hAt)]

theorem Grouped.nodup_labels
    (hGrouped : Grouped lib family timeout ctx probes pairs) :
    (pairs.map (fun pair => pair.1.label)).Nodup := by
  rw [hGrouped.labels]
  apply List.Nodup.map _ List.nodup_range
  intro i j hSame
  exact label_injective hSame

/- The record of a step is found by its label. -/
theorem get?_results
    {steps : List GuestStep}
    (hNodup : (steps.map GuestStep.label).Nodup)
    (ends : List Ended)
    {i : Nat}
    {step : GuestStep}
    (hAt : steps[i]? = some step) :
    (Dict.ofPairs ((results steps ends).map
        (fun r => (r.label, r)))).get? step.label =
      ends[i]?.map (resultOf step) := by
  have hLabels : (((results steps ends).map
      (fun r => (r.label, r))).map Prod.fst) =
        (steps.map GuestStep.label).take ends.length := by
    rw [List.map_map]
    unfold results
    clear hAt hNodup
    induction steps generalizing ends with
    | nil => simp
    | cons step steps ih =>
        cases ends with
        | nil => rfl
        | cons e ends =>
            rw [List.zipWith_cons_cons, List.map_cons, ih]
            rfl
  have hResults : (((results steps ends).map
      (fun r => (r.label, r))).map Prod.fst).Nodup := by
    rw [hLabels]
    exact hNodup.sublist (List.take_sublist _ _)
  apply Option.ext
  intro r
  rw [Dict.get?_ofPairs hResults, Option.map_eq_some_iff]
  constructor
  · intro hMem
    rcases List.mem_map.mp hMem with ⟨r', hr', hPair⟩
    rw [Prod.mk.injEq] at hPair
    rcases hPair with ⟨hLabel, rfl⟩
    rcases List.mem_iff_getElem?.mp hr' with ⟨j, hj⟩
    unfold results at hj
    rw [List.getElem?_zipWith_eq_some] at hj
    rcases hj with ⟨step', e, hStep', he, rfl⟩
    have hij : j = i := by
      apply (List.getElem?_inj (List.getElem?_eq_some_iff.mp
        hStep').1 (List.Nodup.of_map _ hNodup)).mp
      rw [hStep', hAt]
      have hMem' := List.mem_of_getElem? hStep'
      have hMem := List.mem_of_getElem? hAt
      have hInj := List.inj_on_of_nodup_map hNodup hMem' hMem hLabel
      rw [hInj]
    subst hij
    rw [hAt] at hStep'
    cases hStep'
    exact ⟨e, he, rfl⟩
  · rintro ⟨e, he, rfl⟩
    refine List.mem_map.mpr ⟨resultOf step e, ?_, rfl⟩
    apply List.mem_of_getElem? (i := i)
    unfold results
    rw [List.getElem?_zipWith_eq_some]
    exact ⟨step, e, hAt, he, rfl⟩

--------
-- Each Planned Probe's Code
--------

variable {lib : ShellTexts}
variable {family : Family}
variable {timeout : Int}
variable {ctx : Context}
variable {probes : List Probe}
variable {pairs : List (GuestStep × List Probe)}

/- The entries are those of the steps, in their order. -/
theorem Grouped.codes_eq
    (hGrouped : Grouped lib family timeout ctx probes pairs)
    (ends : List Ended) :
    codes pairs (results (pairs.map Prod.fst) ends) =
      (pairs.zipIdx.map (fun pair =>
        decode (exitOf ends[pair.2]?) pair.1.2.length)).flatten := by
  have hNodup :
      ((pairs.map Prod.fst).map GuestStep.label).Nodup := by
    rw [List.map_map]
    exact hGrouped.nodup_labels
  unfold codes
  rw [List.flatMap_def]
  congr 1
  apply List.ext_getElem?
  intro i
  rw [List.getElem?_map, List.getElem?_map, List.getElem?_zipIdx]
  cases hAt : pairs[i]? with
  | none => rfl
  | some pair =>
      have hStep : (pairs.map Prod.fst)[i]? = some pair.1 := by
        rw [List.getElem?_map, hAt]
        rfl
      simp only [Option.map_some, Nat.zero_add]
      rw [get?_results hNodup ends hStep]
      cases ends[i]? with
      | none => rfl
      | some e => rfl

end RangeIsolation

end TrueNorth
