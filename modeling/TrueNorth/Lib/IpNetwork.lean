import Mathlib.Data.List.TakeWhile
import TrueNorth.Lib.IpText

/-
  IP addresses of both versions, and the networks that a
  text in CIDR form stands for.

  Key definitions include:
    * `IpAddress`
    * `IpAddress.ofInt?`
    * `IpAddress.address?`
    * `IpAddress.address?_text`
    * `IpNetwork`
    * `IpNetwork.network?`
    * `IpNetwork.Host`
-/

--------
-- Addresses
--------

inductive IpVersion where
  | v4
  | v6
deriving DecidableEq

namespace IpVersion

def bits : IpVersion → Nat
| .v4 => 32
| .v6 => 128

end IpVersion

structure IpAddress where
  version : IpVersion
  value : Nat
  scope : List Char
  bounded : value < 2 ^ version.bits
  unscoped : version = .v4 → scope = []
deriving DecidableEq

namespace IpAddress

open IpText

/- An address of a version, if the number is one. -/
def of?
    (version : IpVersion)
    (n : Nat) : Option IpAddress :=
  if h : n < 2 ^ version.bits then
    some ⟨version, n, [], h, fun _ => rfl⟩
  else none

/- `ip_address(n)`: of version 4 as long as that has room. -/
def ofInt? (n : Nat) : Option IpAddress :=
  (of? .v4 n).or (of? .v6 n)

def text (a : IpAddress) : String :=
  match a.version with
  | .v4 => String.ofList (v4Text a.value)
  | .v6 =>
      if a.scope = [] then String.ofList (v6Text a.value)
      else String.ofList (v6Text a.value ++ '%' :: a.scope)

/- `address + 1`, without the scope. -/
def successor? (a : IpAddress) : Option IpAddress :=
  of? a.version (a.value + 1)

def address4? (text : List Char) : Option IpAddress :=
  (v4? text).bind (of? .v4)

/- A scope is named after a percent sign, and has none. -/
def address6? (text : List Char) : Option IpAddress :=
  if '/' ∈ text then none
  else
    let scope := (text.dropWhile (· ≠ '%')).drop 1
    if '%' ∈ text && (scope = [] || '%' ∈ scope) then none
    else do
      let n ← v6? (text.takeWhile (· ≠ '%'))
      if h : n < 2 ^ 128 then
        some ⟨.v6, n, scope, h, fun hV4 => nomatch hV4⟩
      else none

/- `ip_address(text)` -/
def address? (text : String) : Option IpAddress :=
  (address4? text.toList).or (address6? text.toList)

theorem of?_eq_some
    {version : IpVersion}
    {n : Nat}
    {a : IpAddress}
    (hOf : of? version n = some a) :
    a.version = version ∧ a.value = n ∧ a.scope = [] := by
  unfold of? at hOf
  by_cases hn : n < 2 ^ version.bits
  · rw [dif_pos hn, Option.some.injEq] at hOf
    rw [← hOf]
    exact ⟨rfl, rfl, rfl⟩
  · rw [dif_neg hn] at hOf
    cases hOf

theorem ofInt?_eq_some
    {n : Nat}
    {a : IpAddress}
    (hOf : ofInt? n = some a) :
    a.value = n ∧ a.scope = [] ∧
      (a.version = .v4 ↔ n < 2 ^ 32) := by
  unfold ofInt? at hOf
  cases hV4 : of? .v4 n with
  | some b =>
      rw [hV4, Option.some_or, Option.some.injEq] at hOf
      rw [hOf] at hV4
      rcases of?_eq_some hV4 with ⟨hVersion, hValue, hScope⟩
      have hBound := a.bounded
      rw [hVersion, hValue] at hBound
      exact ⟨hValue, hScope, fun _ => hBound, fun _ => hVersion⟩
  | none =>
      rw [hV4, Option.none_or] at hOf
      rcases of?_eq_some hOf with ⟨hVersion, hValue, hScope⟩
      have hLarge : ¬n < 2 ^ 32 := by
        intro hn
        unfold of? at hV4
        rw [dif_pos (show n < 2 ^ IpVersion.bits .v4 from hn)]
          at hV4
        cases hV4
      refine ⟨hValue, hScope, ?_, fun hn => absurd hn hLarge⟩
      intro hSame
      rw [hVersion] at hSame
      cases hSame

theorem of?_self
    (a : IpAddress)
    (hScope : a.scope = []) :
    of? a.version a.value = some a := by
  rcases a with ⟨version, value, scope, hBound, hPlain⟩
  unfold of?
  rw [dif_pos hBound]
  simp only at hScope
  simp only [hScope]

/- No address of version 4 is written with colons. -/
theorem v4?_v6Text (n : Nat) : v4? (v6Text n) = none := by
  have hDot : '.' ∉ v6Text n :=
    not_mem_v6Text (by decide) (by decide) n
  unfold v4?
  rw [List.splitOn_eq_singleton hDot]

/- An address without a scope is read as it was written. -/
theorem address?_text
    (a : IpAddress)
    (hScope : a.scope = []) :
    address? a.text = some a := by
  have hSelf := of?_self a hScope
  have hBound := a.bounded
  unfold address? text
  cases hVersion : a.version with
  | v4 =>
      rw [hVersion] at hSelf hBound
      simp only [String.toList_ofList]
      unfold address4?
      rw [v4?_v4Text hBound, Option.bind_some, hSelf]
      rfl
  | v6 =>
      rw [hVersion] at hSelf hBound
      have hPercent : '%' ∉ v6Text a.value :=
        not_mem_v6Text (by decide) (by decide) _
      have hSlash : '/' ∉ v6Text a.value :=
        not_mem_v6Text (by decide) (by decide) _
      have hAll : ∀ c ∈ v6Text a.value, decide (c ≠ '%') = true := by
        intro c hMem
        rw [decide_eq_true_eq]
        intro hSame
        rw [hSame] at hMem
        exact hPercent hMem
      have hWhole := List.takeWhile_eq_self_iff.mpr hAll
      have hNone := List.dropWhile_eq_nil_iff.mpr hAll
      rw [if_pos hScope]
      simp only [String.toList_ofList]
      unfold address4? address6?
      rw [v4?_v6Text, Option.bind_none, Option.none_or,
        if_neg hSlash]
      simp only [hPercent, decide_false, Bool.false_and]
      rw [if_neg Bool.false_ne_true, hWhole, v6?_v6Text hBound,
        ← hSelf]
      simp only [hNone]
      rfl

end IpAddress

--------
-- Networks
--------

/- A block of addresses of one version, aligned to its size. -/
structure IpNetwork where
  address : IpAddress
  prefixLen : Nat
  fits : prefixLen ≤ address.version.bits
  aligned : address.value % 2 ^
    (address.version.bits - prefixLen) = 0
deriving DecidableEq

namespace IpNetwork

open IpText IpAddress

/- How many addresses the block has. -/
def size (net : IpNetwork) : Nat :=
  2 ^ (net.address.version.bits - net.prefixLen)

/- The last address of the block. -/
def broadcast (net : IpNetwork) : Nat :=
  net.address.value + (net.size - 1)

def Contains
    (net : IpNetwork)
    (a : IpAddress) : Prop :=
  a.version = net.address.version ∧
    net.address.value ≤ a.value ∧ a.value ≤ net.broadcast

/- An address that is neither the first nor the last one. -/
structure Host
    (net : IpNetwork)
    (a : IpAddress) : Prop where
  version : a.version = net.address.version
  first : net.address.value < a.value
  last : a.value < net.broadcast

/- A block lies within the addresses of its version. -/
theorem broadcast_lt (net : IpNetwork) :
    net.broadcast < 2 ^ net.address.version.bits := by
  have hBound := net.address.bounded
  have hSize : net.size ∣ 2 ^ net.address.version.bits :=
    Nat.pow_dvd_pow 2 (Nat.sub_le _ _)
  have hStart : net.size ∣ net.address.value :=
    Nat.dvd_of_mod_eq_zero net.aligned
  have hPos : 0 < net.size := Nat.pow_pos (by omega)
  rcases hSize with ⟨blocks, hBlocks⟩
  rcases hStart with ⟨index, hIndex⟩
  rw [hBlocks, hIndex] at hBound
  have hLess : index < blocks :=
    Nat.lt_of_mul_lt_mul_left hBound
  have hNext : net.size * (index + 1) ≤ net.size * blocks :=
    Nat.mul_le_mul_left _ hLess
  unfold broadcast
  rw [hBlocks, hIndex]
  rw [Nat.mul_succ] at hNext
  omega

/- The mask of so many bits, of so many in all. -/
def mask (bits prefixLen : Nat) : Nat :=
  2 ^ bits - 2 ^ (bits - prefixLen)

def netmask (net : IpNetwork) : String :=
  match net.address.version with
  | .v4 => String.ofList (v4Text (mask 32 net.prefixLen))
  | .v6 => String.ofList (v6Text (mask 128 net.prefixLen))

def text (net : IpNetwork) : String :=
  net.address.text ++ "/" ++ toString net.prefixLen

/- A prefix length in digits; so many are read at most. -/
def prefixDigits?
    (bits : Nat)
    (text : List Char) : Option Nat :=
  if isDecimal text && text.length ≤ 4300 then
    let n := Nat.ofDigitChars 10 text 0
    if n ≤ bits then some n else none
  else none

/- A mask, or what it leaves free, in four octets. -/
def prefixMask? (text : List Char) : Option Nat := do
  let n ← v4? text
  ((List.range 33).find? (fun p => mask 32 p = n)).or
    ((List.range 33).find? (fun p => mask 32 p = 2 ^ 32 - 1 - n))

/- The network of an address: its host bits are dropped. -/
def of
    (a : IpAddress)
    (prefixLen : Nat)
    (hFits : prefixLen ≤ a.version.bits) : IpNetwork :=
  let size := 2 ^ (a.version.bits - prefixLen)
  if hHost : a.value % size = 0 then
    { address := a, prefixLen := prefixLen,
      fits := hFits, aligned := hHost }
  else
    { address :=
        { version := a.version
          value := a.value - a.value % size
          scope := []
          bounded := Nat.lt_of_le_of_lt (Nat.sub_le _ _) a.bounded
          unscoped := fun _ => rfl }
      prefixLen := prefixLen
      fits := hFits
      aligned := Nat.sub_mod_eq_zero_of_mod_eq (by
        rw [Nat.mod_mod]) }

def of?
    (a : IpAddress)
    (prefixLen : Nat) : Option IpNetwork :=
  if hFits : prefixLen ≤ a.version.bits then
    some (of a prefixLen hFits)
  else none

def network4? (parts : List (List Char)) : Option IpNetwork :=
  match parts with
  | [addr] => (address4? addr).bind (of? · 32)
  | [addr, mask] => do
      let a ← address4? addr
      let prefixLen ← (prefixDigits? 32 mask).or (prefixMask? mask)
      of? a prefixLen
  | _ => none

def network6? (parts : List (List Char)) : Option IpNetwork :=
  match parts with
  | [addr] => (address6? addr).bind (of? · 128)
  | [addr, mask] => do
      let a ← address6? addr
      let prefixLen ← prefixDigits? 128 mask
      of? a prefixLen
  | _ => none

/- `ip_network(text, strict=False)` -/
def network? (text : String) : Option IpNetwork :=
  let parts := text.toList.splitOn '/'
  (network4? parts).or (network6? parts)

end IpNetwork
