import TrueNorth.ResultTransfer.Media

/-
  What a receipt says when it is read: the digest it was
  written with, as soon as all of the digest is there, and
  nothing before.

  Key definitions include:
    * `Holds`

  Main theorems:
    * `check_holds`
    * `check_empty`
-/

--------
-- Digests As Bytes
--------

namespace TrueNorth

namespace ResultTransfer

namespace Media

open Texts

/- The characters of a receipt. -/
def receiptChars : List Char :=
  "0123456789abcdef\n".toList

theorem receiptChars_ascii :
    ∀ c ∈ receiptChars,
      String.utf8EncodeChar c = [UInt8.ofNat c.toNat] ∧
        UInt8.ofNat c.toNat < 128 ∧
        Char.ofNat (UInt8.ofNat c.toNat).toNat = c :=
  @of_decide_eq_true _ (List.decidableBAll _ _) rfl

theorem digitChar_mem :
    ∀ d < 16, Nat.digitChar d ∈ receiptChars ∧
      isSpace (Nat.digitChar d) = false := by
  decide

theorem utf8_receiptChars
    {text : List Char}
    (hText : ∀ c ∈ text, c ∈ receiptChars) :
    utf8 text = text.map (fun c => UInt8.ofNat c.toNat) := by
  unfold utf8
  induction text with
  | nil => rfl
  | cons c text ih =>
      rw [List.flatMap_cons, List.map_cons,
        (receiptChars_ascii c (hText c List.mem_cons_self)).1,
        ih (fun c' h => hText c' (List.mem_cons_of_mem c h))]
      rfl

theorem ascii?_receiptChars
    {text : List Char}
    (hText : ∀ c ∈ text, c ∈ receiptChars) :
    ascii? (text.map (fun c => UInt8.ofNat c.toNat)) =
      some text := by
  have hAll : (text.map (fun c => UInt8.ofNat c.toNat)).all
      (fun b => b < 128) = true := by
    rw [List.all_map, List.all_eq_true]
    intro c hMem
    exact decide_eq_true
      (receiptChars_ascii c (hText c hMem)).2.1
  unfold ascii?
  rw [if_pos hAll, List.map_map]
  refine congrArg some ?_
  calc
    text.map _ = text.map id := by
      apply List.map_congr_left
      intro c hMem
      exact (receiptChars_ascii c (hText c hMem)).2.2
    _ = text := List.map_id text

/- A digest that is long enough. -/
structure Hex (sha256 : String) : Prop where
  hLength : sha256.toList.length = 64
  hChars : ∀ c ∈ sha256.toList,
    c ∈ receiptChars ∧ isSpace c = false

theorem hex_hexDigest
    {bytes : Bytes}
    (hLength : bytes.length = 32) :
    Hex (hexDigest bytes) where
  hLength := by
    unfold hexDigest
    rw [String.toList_ofList, List.length_flatMap]
    simp [hLength]
  hChars := by
    intro c hMem
    unfold hexDigest at hMem
    rw [String.toList_ofList] at hMem
    rcases List.mem_flatMap.mp hMem with ⟨b, _, hDigit⟩
    have hByte : b.toNat < 256 := b.toNat_lt
    simp only [List.mem_cons, List.not_mem_nil, or_false]
      at hDigit
    rcases hDigit with rfl | rfl
    · exact digitChar_mem _ (by omega)
    · exact digitChar_mem _ (by omega)

--------
-- Reading Receipts
--------

open Texts

/- A receipt with all of a digest. -/
def Holds
    (sha256 : String)
    (entry : Entry) : Prop :=
  ∃ kept, 64 ≤ kept ∧
    entry = .regular ((receiptBytes sha256).take kept)

theorem trimmed_append
    {p : Char → Bool}
    {text tail : List Char}
    (hNot : ∀ c ∈ text, p c = false)
    (hTail : ∀ c ∈ tail, p c = true) :
    trimmed p (text ++ tail) = text := by
  cases text with
  | nil =>
      have hNone : (tail ++ []).dropWhile p = [] :=
        List.dropWhile_append_of_pos hTail
      rw [List.append_nil] at hNone
      unfold trimmed
      rw [List.nil_append, hNone]
      rfl
  | cons c cs =>
      have hFirst : (c :: cs ++ tail).dropWhile p =
          c :: cs ++ tail :=
        List.dropWhile_cons_of_neg
          (by simp [hNot c List.mem_cons_self])
      have hLast := trimmed_eq hNot
      unfold trimmed at hLast ⊢
      rw [hFirst, List.reverse_append,
        List.dropWhile_append_of_pos
          (fun c' h => hTail c' (List.mem_reverse.mp h))]
      rw [List.dropWhile_cons_of_neg
        (by simp [hNot c List.mem_cons_self])] at hLast
      exact hLast

/- A receipt with all of a digest is compared with it. -/
theorem check_holds
    {sha256 sha256' : String}
    {entry : Entry}
    (hHex : Hex sha256)
    (hHolds : Holds sha256 entry) :
    check (some entry) sha256' =
      if sha256 = sha256' then
        .ok true
      else
        refusal ("package_id was already consumed with " ++
          "different content") := by
  rcases hHolds with ⟨kept, hKept, rfl⟩
  have hChars : ∀ c ∈ sha256.toList ++ ['\n'],
      c ∈ receiptChars := by
    intro c hMem
    rcases List.mem_append.mp hMem with hDigit | hEnd
    · exact (hHex.hChars c hDigit).1
    · rw [List.mem_singleton.mp hEnd]
      decide
  have hTake : (sha256.toList ++ ['\n']).take kept =
      sha256.toList ++ ['\n'].take (kept - 64) := by
    rw [List.take_append, hHex.hLength,
      List.take_of_length_le (by rw [hHex.hLength]; exact hKept)]
  have hBytes : (receiptBytes sha256).take kept =
      (sha256.toList ++ ['\n'].take (kept - 64)).map
        (fun c => UInt8.ofNat c.toNat) := by
    unfold receiptBytes
    rw [utf8_receiptChars hChars, ← List.map_take, hTake]
  have hEnd : ∀ c ∈ ['\n'].take (kept - 64), c = '\n' := by
    intro c hMem
    exact List.mem_singleton.mp (List.mem_of_mem_take hMem)
  have hText : ascii? ((sha256.toList ++
      ['\n'].take (kept - 64)).map
        (fun c => UInt8.ofNat c.toNat)) =
      some (sha256.toList ++ ['\n'].take (kept - 64)) := by
    apply ascii?_receiptChars
    rw [← hTake]
    exact fun c h => hChars c (List.mem_of_mem_take h)
  have hShort : ¬ 65 < ((sha256.toList ++
      ['\n'].take (kept - 64)).map
        (fun c => UInt8.ofNat c.toNat)).length := by
    rw [List.length_map, List.length_append, hHex.hLength,
      List.length_take]
    simp
    omega
  have hTrimmed : trimmed isSpace
      (sha256.toList ++ ['\n'].take (kept - 64)) =
        sha256.toList := by
    apply trimmed_append
    · exact fun c h => (hHex.hChars c h).2
    · intro c hMem
      rw [hEnd c hMem]
      decide
  unfold check
  simp only [hBytes, if_neg hShort, hText, hTrimmed,
    String.ofList_toList, ne_eq, ite_not]

/- An empty receipt is no digest's. -/
theorem check_empty
    {sha256 : String}
    (hHex : Hex sha256) :
    check (some (.regular [])) sha256 =
      refusal ("package_id was already consumed with " ++
        "different content") := by
  have hNot : String.ofList (trimmed isSpace []) ≠ sha256 := by
    rintro rfl
    have hLength := hHex.hLength
    cases hLength
  exact if_pos hNot

end Media

end ResultTransfer

end TrueNorth
