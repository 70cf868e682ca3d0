import Mathlib.Data.Finset.Basic
import Mathlib.Data.Finset.Filter
import Mathlib.Data.List.Sort
import Mathlib.Data.Prod.Lex
import Mathlib.Data.String.Basic
import TrueNorth.Lib.BreadthFirst
import TrueNorth.Lib.Dict

/-
  The content clock's stale reasons over the dependency
  edges (api/app/content_review/staleness.py).

  Key definitions include:
    * `Reason`
    * `Graph`
    * `Graph.dependents`
    * `Graph.push`
    * `Graph.flagStale`
    * `Graph.setOverdue`
    * `Graph.markReviewed`
    * `Graph.repropagate`
-/

--------
-- Stale Reasons
--------

namespace TrueNorth

namespace ContentReview

abbrev Key := String

def kindTime : String := "time"

def kindRelease : String := "release"

def kindVulnerability : String := "vulnerability"

def kindUpstream : String := "upstream"

def flagKinds : List String :=
  [kindRelease, kindVulnerability]

def timeSource : String := "clock"

/-
  A reason that `_valid` accepts.  `source` and `at` are
  read with `get`, so either may be missing.
-/
structure Reason where
  origin : Key
  kind : String
  text : String
  source : Option String
  at' : Option String
deriving DecidableEq

/- `sorted(set(keys))`. -/
def sortedSet (keys : List Key) : List Key :=
  (Dict.fromkeys keys).insertionSort (· ≤ ·)

theorem mem_sortedSet
    {k : Key}
    {keys : List Key} :
    k ∈ sortedSet keys ↔ k ∈ keys := by
  rw [sortedSet, List.mem_insertionSort, Dict.mem_fromkeys]

theorem nodup_sortedSet
    (keys : List Key) :
    (sortedSet keys).Nodup := by
  rw [sortedSet, (List.perm_insertionSort _ _).nodup_iff]
  exact Dict.nodup_fromkeys keys

/- The tuple a reason is compared by. -/
def Reason.row (r : Reason) :
    String ×ₗ String ×ₗ String ×ₗ String ×ₗ String :=
  toLex (r.origin, toLex (r.kind, toLex (r.text,
    toLex (r.source.getD "None", r.at'.getD "None"))))

/- `norm`: the tuples in order. -/
def norm (rs : List Reason) :
    List (String ×ₗ String ×ₗ String ×ₗ String ×ₗ String) :=
  (rs.map Reason.row).insertionSort (· ≤ ·)

theorem norm_eq_of_perm
    {rs rs' : List Reason}
    (hPerm : rs.Perm rs') :
    norm rs = norm rs' := by
  have hRows :
      (norm rs).Perm (norm rs') :=
    ((List.perm_insertionSort _ _).trans (hPerm.map _)).trans
      (List.perm_insertionSort _ _).symm
  exact hRows.eq_of_pairwise'
    (List.pairwise_insertionSort _ _)
    (List.pairwise_insertionSort _ _)

--------
-- The Graph
--------

structure Graph where
  reasons : Dict Key (List Reason)
  usedBy : Dict Key (List Key)
  names : Dict Key (String × String)
  retired : List Key
deriving DecidableEq

namespace Graph

/- `Graph(reasons, used_by, names, retired)`. -/
def new
    (reasons : Dict Key (List Reason))
    (usedBy : Dict Key (List Key))
    (names : Dict Key (String × String))
    (retired : List Key) : Graph where
  reasons := reasons
  usedBy := usedBy.mapValues (fun _ keys => sortedSet keys)
  names := names
  retired := retired

/- `reasons.get(k)`, where a missing key has no reason. -/
def reasonsOf
    (g : Graph)
    (k : Key) : List Reason :=
  (g.reasons.get? k).getD []

/- `used_by.get(k, ())` -/
def successors
    (g : Graph)
    (k : Key) : List Key :=
  (g.usedBy.get? k).getD []

/- Everything that depends on something. -/
def vertices (g : Graph) : List Key :=
  g.usedBy.entries.flatMap Prod.snd

/-
  `dependents`: the breadth-first search from `item`.  The
  loop of the source ends with an empty queue, which these
  turns reach (`dependents_ends`).
-/
def dependents
    (g : Graph)
    (item : Key) : List (Key × List Key) :=
  (BreadthFirst.search g.successors item
    (g.vertices.length + 1)).out

/- `_name` -/
def name
    (g : Graph)
    (k : Key) : String :=
  match g.names.get? k with
  | some (label, title) => label ++ " " ++ title
  | none => "item " ++ k

/- `_upstream_text`: `path` ends in the item it is for. -/
def upstreamText
    (g : Graph)
    (origin : Key)
    (path : List Key) : String :=
  "Its " ++ g.name origin ++ " is stale" ++
    if 2 < path.length then
      " (through " ++
        g.name (path.dropLast.getLast?.getD origin) ++ ")"
    else ""

/- The reason an item inherits from `origin`. -/
def pushed
    (g : Graph)
    (origin : Key)
    (path : List Key)
    (firstSeen : String) : Reason where
  origin := origin
  kind := kindUpstream
  text := g.upstreamText origin path
  source := some origin
  at' := some firstSeen

/- `self.reasons[item] = mine` -/
def put
    (g : Graph)
    (item : Key)
    (mine : List Reason) : Graph :=
  { g with reasons := g.reasons.set item mine }

--------
-- The Operations
--------

/- One turn of the loop of `_push`. -/
def receive
    (origin : Key)
    (at' : String)
    (previous : Dict (Key × Key) String)
    (s : Finset Key × Graph)
    (reached : Key × List Key) : Finset Key × Graph :=
  let mine := s.2.reasonsOf reached.1
  if mine.any (fun r => r.origin = origin) then
    (s.1, s.2.put reached.1 mine)
  else
    let firstSeen :=
      (previous.get? (reached.1, origin)).getD at'
    (insert reached.1 s.1,
      s.2.put reached.1
        (mine ++ [s.2.pushed origin reached.2 firstSeen]))

/- `_push` -/
def push
    (g : Graph)
    (origin : Key)
    (at' : String)
    (previous : Dict (Key × Key) String) :
    Finset Key × Graph :=
  (g.dependents origin).foldl (receive origin at' previous)
    (∅, g)

/- `flag_stale`; `when'` is the time as it is written. -/
def flagStale
    (g : Graph)
    (item : Key)
    (reason source kind when' : String) :
    Except String (Finset Key × Graph) :=
  if kind ∉ flagKinds then
    .error "kind must be one of ('release', 'vulnerability')"
  else
    let mine := g.reasonsOf item
    let raised := mine.any (fun r =>
      r.origin = item ∧ r.kind = kind ∧
        r.source = some source)
    let changed : Finset Key := if raised then ∅ else {item}
    let g' := g.put item
      (if raised then mine
        else mine ++
          [{ origin := item
             kind := kind
             text := reason
             source := some source
             at' := some when' }])
    if item ∈ g.retired then .ok (changed, g')
    else
      let down := g'.push item when' Dict.empty
      .ok (changed ∪ down.1, down.2)

/- `set_overdue` -/
def setOverdue
    (g : Graph)
    (item : Key)
    (text : Option String)
    (when' : String) : Bool × Graph :=
  let mine := g.reasonsOf item
  let current := mine.find? (fun r =>
    r.origin = item ∧ r.kind = kindTime)
  match text, current with
  | none, none => (false, g.put item mine)
  | none, some current =>
      (true, g.put item (mine.erase current))
  | some text, some current =>
      if current.text = text then (false, g.put item mine)
      else
        (true, g.put item
          (mine.replace current { current with text := text }))
  | some text, none =>
      (true, g.put item
        (mine ++
          [{ origin := item
             kind := kindTime
             text := text
             source := some timeSource
             at' := some when' }]))

/- `mark_reviewed` -/
def markReviewed
    (g : Graph)
    (item : Key) : Finset Key × Graph :=
  let kept (mine : List Reason) :=
    mine.filter (fun r => r.origin ≠ item)
  ((g.reasons.keys.filter (fun k =>
      (kept (g.reasonsOf k)).length ≠
        (g.reasonsOf k).length)).toFinset,
    { g with
      reasons := g.reasons.mapValues (fun _ mine =>
        if (kept mine).length ≠ mine.length then kept mine
        else mine) })

/- The times the upstream reasons were first seen. -/
def previous
    (g : Graph)
    (when' : String) : Dict (Key × Key) String :=
  Dict.ofPairs (g.reasons.entries.flatMap (fun entry =>
    (entry.2.filter (fun r => r.kind = kindUpstream)).map
      (fun r => ((entry.1, r.origin), r.at'.getD when'))))

/- The reasons without what was inherited. -/
def stripped (g : Graph) : Graph :=
  { g with
    reasons := g.reasons.mapValues (fun _ mine =>
      mine.filter (fun r => r.kind ≠ kindUpstream)) }

/- What a rebuild starts at. -/
def origins (g : Graph) : List Key :=
  sortedSet (g.reasons.entries.flatMap (fun entry =>
    (entry.2.filter (fun r =>
      r.kind ∈ flagKinds ∧ r.origin ∉ g.retired)).map
        Reason.origin))

/- The pushes of a rebuild. -/
def rebuilt
    (g : Graph)
    (when' : String) : Graph :=
  g.stripped.origins.foldl
    (fun g' origin => (g'.push origin when' (g.previous when')).2)
    g.stripped

/- `repropagate` -/
def repropagate
    (g : Graph)
    (when' : String) : Finset Key × Graph :=
  let g' := g.rebuilt when'
  (((g.reasons.keys ++ g'.reasons.keys).filter (fun k =>
      norm (g.reasonsOf k) ≠ norm (g'.reasonsOf k))).toFinset,
    g')

end Graph

/- A call of one of the operations that change the reasons. -/
inductive Call
| flagStale
    (item : Key)
    (reason source kind when' : String)
| setOverdue
    (item : Key)
    (text : Option String)
    (when' : String)
| markReviewed (item : Key)
| repropagate (when' : String)
deriving DecidableEq

/- The graph after a call; one that raises changes nothing. -/
def step (g : Graph) : Call → Graph
| .flagStale item reason source kind when' =>
    match g.flagStale item reason source kind when' with
    | .ok result => result.2
    | .error _ => g
| .setOverdue item text when' =>
    (g.setOverdue item text when').2
| .markReviewed item => (g.markReviewed item).2
| .repropagate when' => (g.repropagate when').2

end ContentReview

end TrueNorth
