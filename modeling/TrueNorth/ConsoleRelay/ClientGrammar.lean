import TrueNorth.Lib.Framing
import TrueNorth.ConsoleRelay.RfbSteps

/-
  The RFB 3.7/3.8 client grammar, stated without the filter:
  how a hypervisor cuts the client's stream, and which units
  a view-only console may send it, given what the server has
  said.

  Key definitions include:
    * `hypervisor`
    * `offeredTypes`
    * `ChallengeSent`
    * `Permitted`
    * `permitted_reads`
-/

--------
-- The Hypervisor's Reading
--------

namespace TrueNorth

namespace ConsoleRelay

open BigEndian Framing

/- What the hypervisor expects of the client next. -/
inductive Phase where
| version
| choice
| response
| shared
| messages
deriving DecidableEq

/- The length of the client message at the head. -/
def messageLength (stream : Bytes) : Option Nat :=
  match stream.head? with
  | none => none
  | some kind =>
      if kind = 0 then some 20
      else if kind = 2 then
        some (4 + 4 * natAt 2 2 stream)
      else if kind = 3 then some 10
      else if kind = 4 then some 8
      else if kind = 5 then some 6
      else if kind = 6 then some (8 + natAt 4 4 stream)
      else none

/-
  All of the grammar, the input messages (types 4, 5 and 6)
  included: what a hypervisor does with any stream.
-/
def hypervisor : Framer Phase where
  length
  | .version, _ => some 12
  | .choice, _ => some 1
  | .response, _ => some vncAuthResponse
  | .shared, _ => some 1
  | .messages, stream => messageLength stream
  next
  | .version, _ => .choice
  | .choice, unit =>
      if unit = [securityVnc] then .response else .shared
  | .response, _ => .shared
  | .shared, _ => .messages
  | .messages, _ => .messages

--------
-- What the Server Has Said
--------

open BigEndian

/- The security types of the server's list, once whole. -/
def offeredTypes (served : Bytes) : Option (List UInt8) :=
  match served.drop 12 with
  | [] => none
  | count :: types =>
      if types.length < count.toNat then
        none
      else
        some (types.take count.toNat)

/- The 16 bytes after the list have been sent. -/
def ChallengeSent (served : Bytes) : Prop :=
  ∃ types,
    offeredTypes served = some types ∧
      13 + types.length + vncAuthResponse ≤ served.length

theorem offeredTypes_append
    {served : Bytes}
    {types : List UInt8}
    (hOffered : offeredTypes served = some types)
    (data : Bytes) :
    offeredTypes (served ++ data) = some types := by
  unfold offeredTypes at hOffered ⊢
  cases hDrop : served.drop 12 with
  | nil =>
      rw [hDrop] at hOffered
      cases hOffered
  | cons count rest =>
      have hLength : 12 ≤ served.length := by
        have hLengthDrop := congrArg List.length hDrop
        rw [List.length_drop, List.length_cons]
          at hLengthDrop
        omega
      rw [List.drop_append_of_le_length hLength, hDrop,
        List.cons_append]
      rw [hDrop] at hOffered
      simp only at hOffered ⊢
      split at hOffered
      · cases hOffered
      · next hEnough =>
          rw [if_neg (by rw [List.length_append]; omega),
            List.take_append_of_le_length (by omega)]
          exact hOffered

theorem ChallengeSent.append
    {served : Bytes}
    (hSent : ChallengeSent served)
    (data : Bytes) :
    ChallengeSent (served ++ data) := by
  rcases hSent with ⟨types, hOffered, hLength⟩
  refine ⟨types, offeredTypes_append hOffered data, ?_⟩
  rw [List.length_append]
  omega

--------
-- What a View-Only Console May Send
--------

open BigEndian Framing

/-
  The units a view-only console may send, in each phase,
  once the server has said `served`.
-/
inductive Permitted
    (served : Bytes) :
    Phase → Bytes → Phase → Prop where
-- a version line no higher than the server's
| version
    (line : Bytes)
    (hLine : line ∈ versions)
    (hServed : served.take 12 ∈ versions)
    (hMinor :
      minorVersion line ≤ minorVersion (served.take 12)) :
    Permitted served .version line .choice
-- one of the choices the server offered
| none
    (types : List UInt8)
    (hOffered : offeredTypes served = some types)
    (hChoice : securityNone ∈ types) :
    Permitted served .choice [securityNone] .shared
| vnc
    (types : List UInt8)
    (hOffered : offeredTypes served = some types)
    (hChoice : securityVnc ∈ types) :
    Permitted served .choice [securityVnc] .response
| response
    (response : Bytes)
    (hLength : response.length = vncAuthResponse)
    (hChallenge : ChallengeSent served) :
    Permitted served .response response .shared
| shared :
    Permitted served .shared [1] .messages
| setPixelFormat
    (message : Bytes)
    (hKind : message.head? = some 0)
    (hLength : message.length = 20) :
    Permitted served .messages message .messages
| setEncodings
    (message : Bytes)
    (hKind : message.head? = some 2)
    (hLength :
      message.length = 4 + 4 * natAt 2 2 message)
    (hStripped :
      ∀ code ∈
          ints32 (natAt 2 2 message) (message.drop 4),
        stripped code = false) :
    Permitted served .messages message .messages
| framebufferUpdateRequest
    (message : Bytes)
    (hKind : message.head? = some 3)
    (hLength : message.length = 10) :
    Permitted served .messages message .messages

/- More from the server forbids nothing. -/
theorem Permitted.append
    {served unit : Bytes}
    {p q : Phase}
    (hPermitted : Permitted served p unit q)
    (data : Bytes) :
    Permitted (served ++ data) p unit q := by
  cases hPermitted with
  | version line hLine hServed hMinor =>
      have hLength : 12 ≤ served.length := by
        have hTwelve : (served.take 12).length = 12 :=
          length_of_mem_versions hServed
        rw [List.length_take] at hTwelve
        omega
      refine .version unit hLine ?_ ?_ <;>
        rwa [List.take_append_of_le_length hLength]
  | none types hOffered hChoice =>
      exact .none types (offeredTypes_append hOffered data)
        hChoice
  | vnc types hOffered hChoice =>
      exact .vnc types (offeredTypes_append hOffered data)
        hChoice
  | response _ hLength hChallenge =>
      exact .response unit hLength (hChallenge.append data)
  | shared => exact .shared
  | setPixelFormat _ hKind hLength =>
      exact .setPixelFormat unit hKind hLength
  | setEncodings _ hKind hLength hStripped =>
      exact .setEncodings unit hKind hLength hStripped
  | framebufferUpdateRequest _ hKind hLength =>
      exact .framebufferUpdateRequest unit hKind hLength

private theorem head?_append
    {message : Bytes}
    {kind : UInt8}
    (hKind : message.head? = some kind)
    (rest : Bytes) :
    (message ++ rest).head? = some kind := by
  rw [List.head?_append, hKind, Option.some_or]

private theorem nonempty_of_head?
    {message : Bytes}
    {kind : UInt8}
    (hKind : message.head? = some kind) :
    message ≠ [] := by
  intro hEmpty
  rw [hEmpty] at hKind
  cases hKind

/-
  A hypervisor reading at a permitted unit takes that unit
  and is then in the phase the grammar gives: a permitted
  stream has no other boundaries.
-/
theorem permitted_reads
    {served unit : Bytes}
    {p q : Phase}
    (hPermitted : Permitted served p unit q) :
    hypervisor.Reads p unit q := by
  cases hPermitted with
  | version _ hLine hServed hMinor =>
      have hLength : unit.length = 12 :=
        length_of_mem_versions hLine
      refine ⟨?_, ?_, rfl⟩
      · intro hEmpty
        rw [hEmpty] at hLength
        cases hLength
      · intro rest
        rw [hLength]
        rfl
  | none types hOffered hChoice =>
      exact ⟨by simp, fun _ => rfl, rfl⟩
  | vnc types hOffered hChoice =>
      exact ⟨by simp, fun _ => rfl, rfl⟩
  | response _ hLength hChallenge =>
      refine ⟨?_, ?_, rfl⟩
      · intro hEmpty
        rw [hEmpty] at hLength
        cases hLength
      · intro rest
        rw [hLength]
        rfl
  | shared => exact ⟨by simp, fun _ => rfl, rfl⟩
  | setPixelFormat _ hKind hLength =>
      refine ⟨nonempty_of_head? hKind, ?_, rfl⟩
      intro rest
      simp [hypervisor, messageLength,
        head?_append hKind rest, hLength]
  | setEncodings _ hKind hLength hStripped =>
      refine ⟨nonempty_of_head? hKind, ?_, rfl⟩
      intro rest
      have hCount :
          natAt 2 2 (unit ++ rest) = natAt 2 2 unit :=
        natAt_append (by omega) rest
      simp [hypervisor, messageLength,
        head?_append hKind rest, hCount, hLength]
  | framebufferUpdateRequest _ hKind hLength =>
      refine ⟨nonempty_of_head? hKind, ?_, rfl⟩
      intro rest
      simp [hypervisor, messageLength,
        head?_append hKind rest, hLength]

end ConsoleRelay

end TrueNorth
