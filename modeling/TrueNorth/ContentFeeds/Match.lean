import Mathlib.Data.List.Sort
import TrueNorth.Lib.Calendar
import TrueNorth.Lib.Offers
import TrueNorth.Rendering.Template

/-
  Which feed entries make which content stale
  (worker/content_feeds/match.py), with the products as the
  feeds name them (worker/feed_backends/base.py).

  Key definitions include:
    * `FeedProduct`, `FeedProduct.productKeys`
    * `newer`
    * `textFor`
    * `flagsFor`
    * `Numbered`

  Main theorems:
    * `mem_flagged`
    * `newer_irrefl`, `newer_asymm`, `newer_trans`
    * `flags_any_order`
-/

--------
-- Products
--------

namespace TrueNorth

namespace ContentFeeds

open Texts

/- `str.lower` and `str.title`. -/
structure Cases where
  lower : String → String
  title : String → String

/- A product, by the names the feeds have for it. -/
structure FeedProduct where
  name : String
  eolProduct : Option String
  eolCycle : Option String
  release : Option String
  cpe : Option String
  kev : List (String × String)
deriving DecidableEq

/- `str.split()`. -/
def split (text : String) : List String :=
  ((text.toList.splitOnP isSpace).filter (· ≠ [])).map
    String.ofList

/- `value or ""`. -/
def orEmpty (value : Option String) : String :=
  value.getD ""

variable (cs : Cases)

/- `_norm`. -/
def norm (value : Option String) : String :=
  " ".intercalate (split (cs.lower (strip (orEmpty value))))

def eolKey (product cycle : String) : String :=
  "eol:" ++ norm cs (some product) ++ ":" ++ norm cs (some cycle)

def kevKey (vendor product : String) : String :=
  "kev:" ++ norm cs (some vendor) ++ ":" ++ norm cs (some product)

def cpeKey (cpe : String) : String :=
  "cpe:" ++ norm cs (some cpe)

def starred (pattern : String) : Bool :=
  pattern.toList.getLast? = some '*'

/- `kev_pattern`, and whether it is a prefix. -/
def kevPattern (vendor pattern : String) : String × Bool :=
  if !starred pattern then (kevKey cs vendor pattern, false)
  else
    let stem := String.ofList pattern.toList.dropLast
    (kevKey cs vendor stem ++
      (if stem.toList.getLast? = some ' ' then " " else ""), true)

namespace FeedProduct

/- `product_keys`: the exact keys it is known by. -/
def productKeys (p : FeedProduct) : List String :=
  Dict.fromkeys
    ((if orEmpty p.eolProduct ≠ "" && orEmpty p.eolCycle ≠ "" then
        [eolKey cs (orEmpty p.eolProduct) (orEmpty p.eolCycle)]
      else []) ++
    (if orEmpty p.cpe ≠ "" then [cpeKey cs (orEmpty p.cpe)] else []) ++
    (p.kev.filter (fun k => !starred k.2)).map (fun k =>
      kevKey cs k.1 k.2))

/- `kev_prefixes`. -/
def kevPrefixes (p : FeedProduct) : List String :=
  (p.kev.filter (fun k => starred k.2)).map (fun k =>
    (kevPattern cs k.1 k.2).1)

end FeedProduct

/- An item the feeds may flag. -/
structure Tracked where
  products : List FeedProduct
  since : Datetime
deriving DecidableEq

/-
  A value of an entry's `data`: what `str` makes of it, and
  whether it is true and whether it is `None`.
-/
structure Datum where
  text : String
  truthy : Bool
  isNone : Bool
deriving DecidableEq

structure FeedEntry where
  key : String
  kind : String
  products : List String
  effective : Datetime
  data : Dict String Datum
deriving DecidableEq

structure Flag where
  item : String
  entryKey : String
  kind : String
  text : String
deriving DecidableEq

--------
-- Versions
--------

open Texts

/- `re.findall(r"\d+", value)`, each run of digits read. -/
def numbers (value : String) : List Nat :=
  ((value.toList.splitOnP (fun c =>
      (Rendering.decimalValue? c).isNone)).filter (· ≠ [])).map
    (fun run => (run.filterMap Rendering.decimalValue?).foldl
      (fun n d => 10 * n + d) 0)

/- `_version`. -/
def version (value : String) : Option (List Nat) :=
  if numbers value = [] then none else some (numbers value)

/- Tuples as Python compares them: in the order of a list. -/
def newer
    (cs : Cases)
    (latest pinned : String) : Bool :=
  match version latest, version pinned with
  | some a, some b => b < a
  | _, _ => cs.lower (strip latest) ≠ cs.lower (strip pinned)

--------
-- Reasons
--------

open Texts

def maxText : Nat := 240

/- `_clip`. -/
def clip (text : String) : String :=
  let joined := " ".intercalate (split text)
  if joined.length ≤ maxText then joined
  else String.ofList (joined.toList.take (maxText - 1)) ++ "…"

/- `data.get(name) or ""`, as text. -/
def dataText
    (data : Dict String Datum)
    (name : String) : String :=
  match data.get? name with
  | some d => if d.truthy then d.text else ""
  | none => ""

variable (cs : Cases)

/- `_kev_name`. -/
def kevName
    (data : Dict String Datum)
    (productKey : String) : String :=
  let vendor := strip (dataText data "vendor")
  let name := strip (dataText data "product")
  if vendor ≠ "" && name ≠ "" then vendor ++ " " ++ name
  else
    cs.title (" ".intercalate
      (((productKey.toList.splitOn ':').drop 1).map String.ofList))

def startsWith (pre text : String) : Bool :=
  pre.toList.isPrefixOf text.toList

/- `key.split(":", 1)[-1]`. -/
def afterColon (key : String) : String :=
  if key.toList.contains ':' then
    String.ofList ((key.toList.dropWhile (· ≠ ':')).drop 1)
  else key

/- Microseconds since 1970; a time without a zone is in UTC. -/
def instant (t : Datetime) : Int :=
  t.wall - t.offset.getD 0 * Datetime.microsPerMinute

/- `date()`, in days since 1970. -/
def date (t : Datetime) : Int :=
  t.wall / 86400000000

def isoDate (days : Int) : String :=
  let (year, month, day) := Calendar.civil days
  String.ofList
    (Calendar.padded 4 year ++ '-' :: Calendar.padded 2 month ++
      '-' :: Calendar.padded 2 day)

/- `text_for`. -/
def textFor
    (entry : FeedEntry)
    (product : FeedProduct)
    (productKey : String) : Option String :=
  let key := entry.key
  let data := entry.data
  if startsWith "eol:" key then
    let eol := dataText data "eol"
    some (product.name ++ " reached EOL " ++
      (if eol ≠ "" then eol else isoDate (date entry.effective)))
  else if startsWith "release:" key then
    let latest := dataText data "latest"
    let pinned := orEmpty product.release
    if pinned = "" || latest = "" || !newer cs latest pinned then
      none
    else
      some (product.name ++ ": " ++ latest ++ " released (the " ++
        "template is built from " ++ pinned ++ ")")
  else
    let named := dataText data "cve"
    let cve := if named ≠ "" then named else afterColon key
    if startsWith "kev:" key then
      some (clip (cve ++ ": a " ++ kevName cs data productKey ++
        " KEV entry (may affect " ++ product.name ++ ")"))
    else if startsWith "nvd:" key then
      match (data.get? "cvss").filter (fun d => !d.isNone) with
      | some cvss =>
          some (clip (cve ++ " in NVD, CVSS " ++ cvss.text ++ " (" ++
            product.name ++ ")"))
      | none =>
          some (clip (cve ++ " in NVD (" ++ product.name ++ ")"))
    else none

--------
-- Flags
--------

open Offers

variable (cs : Cases)
variable (items : Dict String Tracked)

/- An item, one of its products, and since when. -/
structure Candidate where
  item : String
  product : FeedProduct
  since : Datetime
deriving DecidableEq

/- Each product of each item, in order. -/
def tracked : List Candidate :=
  items.entries.flatMap (fun entry =>
    entry.2.products.map (fun product =>
      ⟨entry.1, product, entry.2.since⟩))

/- `by_product` and `by_prefix`, looked up for a key. -/
def candidates (pk : String) : List Candidate :=
  (tracked items).filter (fun c =>
    (c.product.productKeys cs).contains pk) ++
  (tracked items).flatMap (fun c =>
    ((c.product.kevPrefixes cs).filter (fun pre =>
      startsWith pre pk)).map (fun _ => c))

/- `KINDS`. -/
def kinds : List String := ["release", "vulnerability"]

/- What an entry gives for one candidate, if anything. -/
def offer
    (entry : FeedEntry)
    (pk : String)
    (c : Candidate) : (String × String) × Option Flag :=
  ((c.item, entry.key),
    if entry.kind = "vulnerability" &&
        date entry.effective < date c.since then none
    else
      ((textFor cs entry c.product pk).filter (· ≠ "")).map
        (fun text => ⟨c.item, entry.key, entry.kind, text⟩))

/- The body of the loop over the entries. -/
def entryOffers
    (now : Datetime)
    (entry : FeedEntry) :
    List ((String × String) × Option Flag) :=
  if !kinds.contains entry.kind then []
  else if instant now < instant entry.effective then []
  else
    ((Dict.fromkeys entry.products).insertionSort (· ≤ ·)).flatMap
      (fun pk => (candidates cs items pk).map (offer cs entry pk))

/- `flags_for`. -/
def flagsFor
    (entries : List FeedEntry)
    (raised : List (String × String))
    (now : Datetime) : List Flag :=
  let ordered := entries.insertionSort (fun e e' => e.key ≤ e'.key)
  let out := accepted raised
    (ordered.flatMap (entryOffers cs items now))
  (out.entries.map Prod.snd).insertionSort (fun f f' =>
    f.item < f'.item ∨ f.item = f'.item ∧ f.entryKey ≤ f'.entryKey)

/- The (item, entry) pairs of flags. -/
def flagged (flags : List Flag) : List (String × String) :=
  flags.map (fun f => (f.item, f.entryKey))

--------
-- The Set Of Flags
--------

open Offers

variable {cs : Cases}
variable {items items' : Dict String Tracked}
variable {entries : List FeedEntry}
variable {raised : List (String × String)}
variable {now : Datetime}

/- What is offered for a pair is a flag of that pair. -/
theorem entryOffers_pair
    {entry : FeedEntry}
    {pair : String × String}
    {flag : Flag}
    (hMem : (pair, some flag) ∈ entryOffers cs items now entry) :
    (flag.item, flag.entryKey) = pair := by
  unfold entryOffers at hMem
  split at hMem
  · cases hMem
  split at hMem
  · cases hMem
  rcases List.mem_flatMap.mp hMem with ⟨pk, -, hMap⟩
  rcases List.mem_map.mp hMap with ⟨c, -, hOffer⟩
  unfold offer at hOffer
  rw [Prod.mk.injEq] at hOffer
  rcases hOffer with ⟨rfl, hFlag⟩
  split at hFlag
  · cases hFlag
  · rcases Option.map_eq_some_iff.mp hFlag with ⟨text, -, rfl⟩
    rfl

theorem mem_candidates
    (hItems : items'.entries.Perm items.entries)
    {pk : String}
    {c : Candidate} :
    c ∈ candidates cs items' pk ↔ c ∈ candidates cs items pk := by
  have hTracked (c : Candidate) :
      c ∈ tracked items' ↔ c ∈ tracked items := by
    unfold tracked
    rw [List.mem_flatMap, List.mem_flatMap]
    simp only [hItems.mem_iff]
  unfold candidates
  rw [List.mem_append, List.mem_append, List.mem_filter,
    List.mem_filter, List.mem_flatMap, List.mem_flatMap]
  simp only [hTracked]

/- The order of the items changes no offer. -/
theorem mem_entryOffers
    (hItems : items'.entries.Perm items.entries)
    {entry : FeedEntry}
    {o : (String × String) × Option Flag} :
    o ∈ entryOffers cs items' now entry ↔
      o ∈ entryOffers cs items now entry := by
  unfold entryOffers
  split
  · exact Iff.rfl
  split
  · exact Iff.rfl
  rw [List.mem_flatMap, List.mem_flatMap]
  simp only [List.mem_map, mem_candidates hItems]

/- The pairs that some entry gives a flag for. -/
def Raises
    (cs : Cases)
    (items : Dict String Tracked)
    (now : Datetime)
    (entries : List FeedEntry)
    (pair : String × String) : Prop :=
  ∃ entry ∈ entries, Offered (entryOffers cs items now entry) pair

theorem flagged_perm_keys
    (cs : Cases)
    (items : Dict String Tracked)
    (entries : List FeedEntry)
    (raised : List (String × String))
    (now : Datetime) :
    (flagged (flagsFor cs items entries raised now)).Perm
      (accepted raised ((entries.insertionSort (fun e e' =>
        e.key ≤ e'.key)).flatMap (entryOffers cs items now))).keys := by
  unfold flagged flagsFor
  refine ((List.perm_insertionSort _ _).map _).trans ?_
  rw [List.map_map]
  unfold Dict.keys
  apply List.Perm.of_eq
  apply List.map_congr_left
  rintro ⟨pair, flag⟩ hMem
  have hOffer := get?_accepted (Dict.get?_eq_some_iff.mpr hMem)
  rcases List.mem_flatMap.mp hOffer with ⟨entry, -, hEntry⟩
  exact entryOffers_pair hEntry

/- What is flagged is what was not and has a reason. -/
theorem mem_flagged
    {pair : String × String} :
    pair ∈ flagged (flagsFor cs items entries raised now) ↔
      pair ∉ raised ∧ Raises cs items now entries pair := by
  rw [(flagged_perm_keys cs items entries raised now).mem_iff,
    mem_keys_accepted]
  apply and_congr_right
  intro _
  unfold Offered Raises
  simp only [List.mem_flatMap, List.mem_insertionSort]
  constructor
  · rintro ⟨flag, entry, hEntry, hOffer⟩
    exact ⟨entry, hEntry, flag, hOffer⟩
  · rintro ⟨entry, hEntry, flag, hOffer⟩
    exact ⟨flag, entry, hEntry, hOffer⟩

theorem nodup_flagged
    (cs : Cases)
    (items : Dict String Tracked)
    (entries : List FeedEntry)
    (raised : List (String × String))
    (now : Datetime) :
    (flagged (flagsFor cs items entries raised now)).Nodup :=
  (flagged_perm_keys cs items entries raised now).nodup_iff.mpr
    (Dict.nodup _)

/- Batches flag what all their entries flag, each pair once. -/
theorem flagged_batches
    (cs : Cases)
    (hItems : items'.entries.Perm items.entries)
    {batches : List (List FeedEntry)}
    (hBatches : batches.flatten.Perm entries)
    (raised : List (String × String))
    (now : Datetime) :
    (inBatches (fun held batch =>
        flagged (flagsFor cs items' batch held now)) raised
        batches).Perm
      (flagged (flagsFor cs items entries raised now)) := by
  have hTake : ∀ held batch pair,
      pair ∈ flagged (flagsFor cs items' batch held now) ↔
        pair ∉ held ∧ Raises cs items' now batch pair :=
    fun held batch pair => mem_flagged
  refine inBatches_perm ?_ hTake raised batches ?_ ?_
  · intro held batch
    exact nodup_flagged cs items' batch held now
  · exact nodup_flagged cs items entries raised now
  · intro pair
    rw [mem_flagged]
    apply and_congr_right
    intro _
    unfold Raises Offered
    simp only [mem_entryOffers hItems]
    constructor
    · rintro ⟨entry, hMem, hOffer⟩
      rcases List.mem_flatten.mp (hBatches.mem_iff.mpr hMem) with
        ⟨batch, hBatch, hIn⟩
      exact ⟨batch, hBatch, entry, hIn, hOffer⟩
    · rintro ⟨batch, hBatch, entry, hIn, hOffer⟩
      exact ⟨entry, hBatches.mem_iff.mp
        (List.mem_flatten_of_mem hBatch hIn), hOffer⟩

--------
-- The Order Of Versions
--------

open Offers

variable {cs : Cases}

/- A version that has a number in it. -/
def Numbered (value : String) : Prop :=
  numbers value ≠ []

theorem newer_numbered
    {a b : String}
    (ha : Numbered a)
    (hb : Numbered b) :
    newer cs a b = true ↔ numbers b < numbers a := by
  unfold newer version
  rw [if_neg ha, if_neg hb]
  exact decide_eq_true_iff

/- Without numbers, what is not the same is newer. -/
theorem newer_unnumbered
    {a b : String}
    (hNone : ¬ (Numbered a ∧ Numbered b)) :
    newer cs a b = true ↔
      cs.lower (Texts.strip a) ≠ cs.lower (Texts.strip b) := by
  unfold newer version
  by_cases ha : numbers a = []
  · rw [if_pos ha]
    exact decide_eq_true_iff
  · have hb : numbers b = [] := by
      by_contra hb
      exact hNone ⟨ha, hb⟩
    rw [if_neg ha, if_pos hb]
    exact decide_eq_true_iff

theorem newer_irrefl
    (cs : Cases)
    (a : String) : newer cs a a = false := by
  rw [← Bool.not_eq_true]
  intro hNewer
  by_cases ha : Numbered a
  · rw [newer_numbered ha ha] at hNewer
    exact List.lt_irrefl _ hNewer
  · rw [newer_unnumbered (fun h => ha h.1)] at hNewer
    exact hNewer rfl

theorem newer_asymm
    {a b : String}
    (ha : Numbered a)
    (hb : Numbered b)
    (hNewer : newer cs a b = true) : newer cs b a = false := by
  rw [← Bool.not_eq_true]
  intro hBack
  rw [newer_numbered ha hb] at hNewer
  rw [newer_numbered hb ha] at hBack
  exact List.lt_irrefl _ (List.lt_trans hNewer hBack)

theorem newer_trans
    {a b c : String}
    (ha : Numbered a)
    (hb : Numbered b)
    (hc : Numbered c)
    (hFirst : newer cs a b = true)
    (hThen : newer cs b c = true) : newer cs a c = true := by
  rw [newer_numbered ha hb] at hFirst
  rw [newer_numbered hb hc] at hThen
  rw [newer_numbered ha hc]
  exact List.lt_trans hThen hFirst

/-
  The same pairs are flagged, each once, in every order of
  the items and the entries and however the entries come in
  batches; and `newer` is a strict order on the versions that
  have a number in them.
-/
theorem flags_any_order
    (cs : Cases)
    (items : Dict String Tracked)
    (entries : List FeedEntry)
    (raised : List (String × String))
    (now : Datetime) :
    (∀ items' batches,
      items'.entries.Perm items.entries →
      batches.flatten.Perm entries →
      (inBatches (fun held batch =>
          flagged (flagsFor cs items' batch held now)) raised
          batches).Perm
        (flagged (flagsFor cs items entries raised now))) ∧
    (flagged (flagsFor cs items entries raised now)).Nodup ∧
    (∀ a, newer cs a a = false) ∧
    (∀ a b, Numbered a → Numbered b →
      newer cs a b = true → newer cs b a = false) ∧
    (∀ a b c, Numbered a → Numbered b → Numbered c →
      newer cs a b = true → newer cs b c = true →
      newer cs a c = true) ∧
    ∀ a b, ¬ (Numbered a ∧ Numbered b) →
      (newer cs a b = true ↔
        cs.lower (Texts.strip a) ≠ cs.lower (Texts.strip b)) := by
  refine ⟨?_, nodup_flagged cs items entries raised now,
    newer_irrefl cs, ?_, ?_, ?_⟩
  · intro items' batches hItems hBatches
    exact flagged_batches cs hItems hBatches raised now
  · intro a b ha hb hNewer
    exact newer_asymm ha hb hNewer
  · intro a b c ha hb hc hFirst hThen
    exact newer_trans ha hb hc hFirst hThen
  · intro a b hNone
    exact newer_unnumbered hNone

/- Of two names without a number each is newer. -/
theorem newer_names :
    let cs : Cases := ⟨String.toLower, id⟩
    newer cs "rolling" "stable" = true ∧
      newer cs "stable" "rolling" = true := by
  decide +kernel

end ContentFeeds

end TrueNorth
