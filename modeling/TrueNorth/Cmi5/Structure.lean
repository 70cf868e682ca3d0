import TrueNorth.Lib.Dict
import TrueNorth.Cmi5.Rules

/-
  cmi5 course structures (cmi5/structure.py): the AUs and
  blocks of a `cmi5.xml`, numbered in document order.

  XML text becomes an element, and a number's text the
  number, outside the source.  Both come as parameters.

  Key definitions include:
    * `Element`, `AU`, `Block`, `CourseStructure`
    * `walk`, `parse`
    * `CourseStructure.WellNumbered`
    * `parse_wellNumbered`
-/

--------
-- Elements
--------

namespace TrueNorth

namespace Cmi5

namespace Structure

/- An XML element: its tag has the namespace in braces. -/
inductive Element where
| node
    (tag : String)
    (attributes : List (String × String))
    (text : Option String)
    (children : List Element)

namespace Element

def tag :
    Element → String
| .node tag _ _ _ => tag

def text :
    Element → Option String
| .node _ _ text _ => text

def children :
    Element → List Element
| .node _ _ _ children => children

/- `el.get`. -/
def get
    (el : Element)
    (name : String) : Option String :=
  match el with
  | .node _ attributes _ _ =>
      (attributes.find? (fun a => a.1 = name)).map Prod.snd

/- `el.find`. -/
def find
    (el : Element)
    (tag : String) : Option Element :=
  el.children.find? (fun child => child.tag = tag)

/- `el.findall`. -/
def findall
    (el : Element)
    (tag : String) : List Element :=
  el.children.filter (fun child => child.tag = tag)

end Element

/- `NS`. -/
def ns : String :=
  "https://w3id.org/xapi/profiles/cmi5/v1/CourseStructure.xsd"

/- `Q` before a name. -/
def q (name : String) : String :=
  "\x7b" ++ ns ++ "\x7d" ++ name

/- `str.strip`. -/
def strip (text : String) : String :=
  String.ofList
    (rstrip isSpace (text.toList.dropWhile isSpace))

/- `text or default`. -/
def orText
    (text : Option String)
    (default : String) : String :=
  match text with
  | none => default
  | some text => if text = "" then default else text

--------
-- Structures
--------

/- `MOVE_ON`. -/
inductive MoveOn where
| notApplicable
| passed
| completed
| completedAndPassed
| completedOrPassed
deriving DecidableEq

def MoveOn.ofText? : String → Option MoveOn
| "NotApplicable" => some .notApplicable
| "Passed" => some .passed
| "Completed" => some .completed
| "CompletedAndPassed" => some .completedAndPassed
| "CompletedOrPassed" => some .completedOrPassed
| _ => none

structure AU where
  index : Nat
  publisherId : String
  title : Dict String String
  description : Dict String String
  url : String
  moveOn : MoveOn
  masteryScore : Option Double
  launchMethod : String
  launchParameters : Option String
  entitlementKey : Option String
  -- the blocks it sits in, outermost first
  blocks : List Nat
deriving DecidableEq

/- `("au", index)` or `("block", index)`. -/
inductive Child where
| au (index : Nat)
| block (index : Nat)
deriving DecidableEq

structure Block where
  index : Nat
  publisherId : String
  title : Dict String String
  children : List Child
deriving DecidableEq

structure CourseStructure where
  publisherId : String
  title : Dict String String
  description : Dict String String
  children : List Child
  aus : List AU
  blocks : List Block
deriving DecidableEq

inductive StructureError where
| notWellFormed (reason : String)
| otherRoot (tag : String)
| noCourse
| moveOn
    (id : Option String)
    (value : String)
| masteryNumber
    (id : Option String)
    (mastery : String)
| masteryRange
    (id : Option String)
    (mastery : Double)
| auNeeds
| blockNeeds
| emptyBlock (publisherId : String)
| noAu
| repeated
deriving DecidableEq

/- The text, with Python's own way to show a value. -/
def StructureError.message
    (repr : Option String → String)
    (str : Double → String) :
    StructureError → String
| .notWellFormed reason =>
    "cmi5.xml is not well-formed XML: " ++ reason
| .otherRoot tag =>
    "cmi5.xml root is " ++ repr (some tag) ++
      ", not courseStructure in the cmi5 namespace"
| .noCourse => "cmi5.xml has no <course id=...>"
| .moveOn id value =>
    "AU " ++ repr id ++ ": moveOn " ++ repr (some value) ++
      " is not a cmi5 value"
| .masteryNumber id mastery =>
    "AU " ++ repr id ++ ": masteryScore " ++
      repr (some mastery) ++ " is not a number"
| .masteryRange id mastery =>
    "AU " ++ repr id ++ ": masteryScore " ++ str mastery ++
      " is outside 0..1"
| .auNeeds => "every AU needs an id and a url"
| .blockNeeds => "every block needs an id"
| .emptyBlock publisherId =>
    "block " ++ repr (some publisherId) ++
      " has no AU or block"
| .noAu => "cmi5.xml has no AU"
| .repeated => "cmi5.xml repeats a course, block or AU id"

--------
-- Parsing
--------

open Checks

/- `_langstrings`. -/
def langstrings (el : Option Element) : Dict String String :=
  match el with
  | none => Dict.empty
  | some el =>
      (el.findall (q "langstring")).foldl
        (fun out ls =>
          out.set (strip (orText (ls.get "lang") "und"))
            (strip (orText ls.text "")))
        Dict.empty

/- `_text`. -/
def textOf (el : Option Element) : Option String :=
  (el.bind Element.text).map strip

/- `0.0 <= score <= 1.0`. -/
def inUnit :
    Double → Bool
| .finite value => 0 ≤ value ∧ value ≤ 1
| _ => false

/- The `masteryScore` attribute of an AU. -/
def readMastery
    (float : String → Option Double)
    (el : Element) :
    Except StructureError (Option Double) :=
  match el.get "masteryScore" with
  | none => .ok none
  | some mastery =>
      if mastery = "" then .ok none
      else
        match float mastery with
        | none => .error (.masteryNumber (el.get "id") mastery)
        | some score => do
            refuseIf (!inUnit score)
              (.masteryRange (el.get "id") score)
            .ok (some score)

/- The AU an element gives. -/
def readAu
    (float : String → Option Double)
    (path : List Nat)
    (index : Nat)
    (el : Element) : Except StructureError AU := do
  let moveOn := strip (orText (el.get "moveOn") "NotApplicable")
  match MoveOn.ofText? moveOn with
  | none => .error (.moveOn (el.get "id") moveOn)
  | some moveOn =>
      let masteryScore ← readMastery float el
      let url := orText (textOf (el.find (q "url"))) ""
      let id := strip (orText (el.get "id") "")
      refuseIf (id = "" || url = "") .auNeeds
      .ok {
        index := index
        publisherId := id
        title := langstrings (el.find (q "title"))
        description := langstrings (el.find (q "description"))
        url := url
        moveOn := moveOn
        masteryScore := masteryScore
        launchMethod :=
          strip (orText (el.get "launchMethod") "AnyWindow")
        launchParameters :=
          textOf (el.find (q "launchParameters"))
        entitlementKey := textOf (el.find (q "entitlementKey"))
        blocks := path }

/- The AUs and blocks numbered so far. -/
structure Numbered where
  aus : List AU
  blocks : List Block

/- A block, before its children are known. -/
def Numbered.addBlock
    (n : Numbered)
    (publisherId : String)
    (title : Dict String String) : Numbered :=
  { n with
    blocks := n.blocks ++
      [⟨n.blocks.length, publisherId, title, []⟩] }

/- `block.children = children`. -/
def Numbered.setChildren
    (n : Numbered)
    (index : Nat)
    (children : List Child) : Numbered :=
  { n with
    blocks := n.blocks.modify index (fun block =>
      { block with children := children }) }

mutual

/- `walk`, over the children of an element. -/
def walk
    (float : String → Option Double)
    (path : List Nat) :
    List Element → Numbered →
      Except StructureError (List Child × Numbered)
| [], n => .ok ([], n)
| el :: els, n => do
    let (own, n) ← walkElement float path el n
    let (others, n) ← walk float path els n
    .ok (own ++ others, n)

/- One of them: an AU, a block or neither. -/
def walkElement
    (float : String → Option Double)
    (path : List Nat) :
    Element → Numbered →
      Except StructureError (List Child × Numbered)
| .node tag attributes text children, n =>
    let el := Element.node tag attributes text children
    if tag = q "au" then do
      let au ← readAu float path n.aus.length el
      .ok ([.au n.aus.length], { n with aus := n.aus ++ [au] })
    else if tag = q "block" then do
      let id := strip (orText (el.get "id") "")
      refuseIf (id = "") .blockNeeds
      let index := n.blocks.length
      let (inside, n) ← walk float (path ++ [index]) children
        (n.addBlock id (langstrings (el.find (q "title"))))
      refuseIf inside.isEmpty (.emptyBlock id)
      .ok ([.block index], n.setChildren index inside)
    else .ok ([], n)

end

/- `parse`. -/
def parse
    (fromstring : List UInt8 → Except String Element)
    (float : String → Option Double)
    (data : List UInt8) :
    Except StructureError CourseStructure :=
  match fromstring data with
  | .error reason => .error (.notWellFormed reason)
  | .ok root => do
      refuseIf (root.tag ≠ q "courseStructure")
        (.otherRoot root.tag)
      match root.find (q "course") with
      | none => .error .noCourse
      | some course =>
          let id := strip (orText (course.get "id") "")
          refuseIf (id = "") .noCourse
          let (top, n) ← walk float [] root.children ⟨[], []⟩
          refuseIf n.aus.isEmpty .noAu
          let ids := n.aus.map AU.publisherId ++
            n.blocks.map Block.publisherId ++ [id]
          refuseIf (!decide ids.Nodup) .repeated
          .ok {
            publisherId := id
            title := langstrings (course.find (q "title"))
            description :=
              langstrings (course.find (q "description"))
            children := top
            aus := n.aus
            blocks := n.blocks }

--------
-- The Numbering
--------

open Checks

/- A child that has been numbered, a block from `low` on. -/
def Child.Within
    (low : Nat)
    (aus : List AU)
    (blocks : List Block) :
    Child → Prop
| .au i => i < aus.length
| .block i => low ≤ i ∧ i < blocks.length

theorem Child.Within.mono
    {low low' : Nat}
    {aus aus' : List AU}
    {blocks blocks' : List Block}
    {c : Child}
    (hWithin : c.Within low aus blocks)
    (hLow : low' ≤ low)
    (hAus : aus.length ≤ aus'.length)
    (hBlocks : blocks.length ≤ blocks'.length) :
    c.Within low' aus' blocks' := by
  cases c with
  | au i => exact Nat.lt_of_lt_of_le hWithin hAus
  | block i =>
      exact ⟨Nat.le_trans hLow hWithin.1,
        Nat.lt_of_lt_of_le hWithin.2 hBlocks⟩

/- The blocks in a block are numbered after it. -/
def Forward
    (aus : List AU)
    (blocks : List Block) : Prop :=
  ∀ (i : Nat) (block : Block), blocks[i]? = some block →
    ∀ c ∈ block.children, c.Within (i + 1) aus blocks

/- Every child of a structure is one of its AUs or blocks. -/
structure CourseStructure.WellNumbered
    (s : CourseStructure) : Prop where
  top : ∀ c ∈ s.children, c.Within 0 s.aus s.blocks
  forward : Forward s.aus s.blocks

/- What a walk leaves: more numbered, and its children. -/
structure Walked
    (n : Numbered)
    (children : List Child)
    (n' : Numbered) : Prop where
  aus : n.aus.length ≤ n'.aus.length
  blocks : n.blocks.length ≤ n'.blocks.length
  forward : Forward n'.aus n'.blocks
  children : ∀ c ∈ children,
    c.Within n.blocks.length n'.aus n'.blocks

theorem Forward.mono
    {aus aus' : List AU}
    {blocks : List Block}
    (hForward : Forward aus blocks)
    (hAus : aus.length ≤ aus'.length) :
    Forward aus' blocks :=
  fun i block hGet c hMem =>
    (hForward i block hGet c hMem).mono
      (Nat.le_refl _) hAus (Nat.le_refl _)

/- A block without children, appended. -/
theorem Forward.addBlock
    {n : Numbered}
    (hForward : Forward n.aus n.blocks)
    (publisherId : String)
    (title : Dict String String) :
    Forward (n.addBlock publisherId title).aus
      (n.addBlock publisherId title).blocks := by
  intro i block hGet c hMem
  rw [Numbered.addBlock, List.getElem?_append] at hGet
  split at hGet
  · refine (hForward i block hGet c hMem).mono
      (Nat.le_refl _) (Nat.le_refl _) ?_
    simp [Numbered.addBlock]
  · rcases List.mem_singleton.mp
      (List.mem_of_getElem? hGet) with rfl
    cases hMem

/- Children numbered after the block they are put into. -/
theorem Forward.setChildren
    {n : Numbered}
    (hForward : Forward n.aus n.blocks)
    {index : Nat}
    {children : List Child}
    (hChildren : ∀ c ∈ children,
      c.Within (index + 1) n.aus n.blocks) :
    Forward (n.setChildren index children).aus
      (n.setChildren index children).blocks := by
  have hLength :
      (n.setChildren index children).blocks.length =
        n.blocks.length := by
    simp [Numbered.setChildren]
  intro i block hGet c hMem
  have hWithin : c.Within (i + 1) n.aus n.blocks := by
    rw [Numbered.setChildren, List.getElem?_modify] at hGet
    cases hOld : n.blocks[i]? with
    | none => simp [hOld] at hGet
    | some old =>
        by_cases hHere : index = i
        · simp only [hOld, hHere, if_pos, Option.map_eq_map,
            Option.map_some, Option.some.injEq] at hGet
          rw [← hGet] at hMem
          exact hHere ▸ hChildren c hMem
        · simp only [hOld, hHere, if_false, Option.map_eq_map,
            Option.map_some, Option.some.injEq] at hGet
          rw [← hGet] at hMem
          exact hForward i old hOld c hMem
  exact hWithin.mono (Nat.le_refl _) (Nat.le_refl _)
    (Nat.le_of_eq hLength.symm)

/- Two walks in a row. -/
theorem Walked.append
    {n n₁ n₂ : Numbered}
    {own others : List Child}
    (hOwn : Walked n own n₁)
    (hOthers : Walked n₁ others n₂) :
    Walked n (own ++ others) n₂ where
  aus := Nat.le_trans hOwn.aus hOthers.aus
  blocks := Nat.le_trans hOwn.blocks hOthers.blocks
  forward := hOthers.forward
  children := by
    intro c hMem
    rcases List.mem_append.mp hMem with hMem | hMem
    · exact (hOwn.children c hMem).mono
        (Nat.le_refl _) hOthers.aus hOthers.blocks
    · exact (hOthers.children c hMem).mono
        hOwn.blocks (Nat.le_refl _) (Nat.le_refl _)

mutual

/- Induction on the document. -/
theorem walk_walked
    (float : String → Option Double)
    (path : List Nat)
    (els : List Element)
    {n n' : Numbered}
    {children : List Child}
    (hForward : Forward n.aus n.blocks)
    (hWalk : walk float path els n = .ok (children, n')) :
    Walked n children n' := by
  cases els with
  | nil =>
      rw [walk] at hWalk
      cases hWalk
      exact ⟨Nat.le_refl _, Nat.le_refl _, hForward,
        fun c hMem => nomatch hMem⟩
  | cons el els =>
      rw [walk] at hWalk
      rcases bind_eq_ok.mp hWalk with ⟨⟨own, n₁⟩, hOwn, hWalk⟩
      rcases bind_eq_ok.mp hWalk with
        ⟨⟨others, n₂⟩, hOthers, hWalk⟩
      cases hWalk
      have hFirst :=
        walkElement_walked float path el hForward hOwn
      exact hFirst.append
        (walk_walked float path els hFirst.forward hOthers)

theorem walkElement_walked
    (float : String → Option Double)
    (path : List Nat)
    (el : Element)
    {n n' : Numbered}
    {children : List Child}
    (hForward : Forward n.aus n.blocks)
    (hWalk :
      walkElement float path el n = .ok (children, n')) :
    Walked n children n' := by
  rcases el with ⟨tag, attributes, text, inner⟩
  rw [walkElement] at hWalk
  split at hWalk
  · rcases bind_eq_ok.mp hWalk with ⟨au, _, hWalk⟩
    cases hWalk
    refine ⟨by simp, Nat.le_refl _, hForward.mono (by simp), ?_⟩
    intro c hMem
    rw [List.mem_singleton.mp hMem]
    simp [Child.Within]
  · split at hWalk
    · rcases bind_eq_ok.mp hWalk with ⟨_, _, hWalk⟩
      rcases bind_eq_ok.mp hWalk with
        ⟨⟨inside, n₁⟩, hInside, hWalk⟩
      rcases bind_eq_ok.mp hWalk with ⟨_, _, hWalk⟩
      cases hWalk
      have hInner :=
        walk_walked float _ inner (hForward.addBlock _ _) hInside
      have hAdded : n.blocks.length + 1 ≤ n₁.blocks.length := by
        have hBlocks := hInner.blocks
        simpa [Numbered.addBlock] using hBlocks
      refine ⟨hInner.aus, ?_, ?_, ?_⟩
      · simp only [Numbered.setChildren, List.length_modify]
        exact Nat.le_of_succ_le hAdded
      · apply hInner.forward.setChildren
        intro c hMem
        have hWithin := hInner.children c hMem
        simpa [Numbered.addBlock] using hWithin
      · intro c hMem
        rw [List.mem_singleton.mp hMem]
        refine ⟨Nat.le_refl _, ?_⟩
        simp only [Numbered.setChildren, List.length_modify]
        exact hAdded
    · cases hWalk
      exact ⟨Nat.le_refl _, Nat.le_refl _, hForward,
        fun c hMem => nomatch hMem⟩

end

/- A structure that was parsed is well numbered. -/
theorem parse_wellNumbered
    {fromstring : List UInt8 → Except String Element}
    {float : String → Option Double}
    {data : List UInt8}
    {s : CourseStructure}
    (hParse : parse fromstring float data = .ok s) :
    s.WellNumbered := by
  unfold parse at hParse
  split at hParse
  · cases hParse
  · rcases bind_eq_ok.mp hParse with ⟨_, _, hParse⟩
    split at hParse
    · cases hParse
    · rcases bind_eq_ok.mp hParse with ⟨_, _, hParse⟩
      rcases bind_eq_ok.mp hParse with ⟨⟨top, n⟩, hTop, hParse⟩
      rcases bind_eq_ok.mp hParse with ⟨_, _, hParse⟩
      rcases bind_eq_ok.mp hParse with ⟨_, _, hParse⟩
      cases hParse
      have hEmpty : Forward [] [] := by
        intro i block hGet
        cases hGet
      have hWalked := walk_walked float [] _ hEmpty hTop
      exact ⟨hWalked.children, hWalked.forward⟩

end Structure

end Cmi5

end TrueNorth
