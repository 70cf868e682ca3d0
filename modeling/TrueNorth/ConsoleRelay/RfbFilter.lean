import TrueNorth.Lib.BigEndian

/-
  The view-only console filter (console_relay/rfb_filter.py).

  The client's and the server's bytes arrive in pieces cut
  anywhere.  `feed` returns the whole client messages that
  may go to the hypervisor, one entry per RFB message;
  `feedServer` only observes.  A violation carries the
  object as it was when the exception left it, since the
  relay keeps the object.

  Key definitions include:
    * `ViewOnlyFilter`
    * `ViewOnlyFilter.advanceServer`
    * `ViewOnlyFilter.next`
    * `ViewOnlyFilter.run`
    * `ViewOnlyFilter.feed`
    * `ViewOnlyFilter.feedServer`
-/

--------
-- Constants
--------

namespace TrueNorth

namespace ConsoleRelay

open BigEndian

/- Close codes the relay sends for a violation. -/
def closePolicy : Nat := 1008

def closeTooBig : Nat := 1009

/- `RFB 003.007\n` and `RFB 003.008\n`. -/
def versions : List Bytes :=
  [[82, 70, 66, 32, 48, 48, 51, 46, 48, 48, 55, 10],
    [82, 70, 66, 32, 48, 48, 51, 46, 48, 48, 56, 10]]

theorem length_of_mem_versions
    {version : Bytes}
    (hVersion : version ∈ versions) :
    version.length = 12 := by
  simp only [versions, List.mem_cons, List.not_mem_nil,
    or_false] at hVersion
  rcases hVersion with rfl | rfl <;> rfl

/- `VERSIONS.index(version) + 7`. -/
def minorVersion (version : Bytes) : Nat :=
  versions.idxOf version + 7

def securityNone : UInt8 := 1

def securityVnc : UInt8 := 2

def vncAuthResponse : Nat := 16

def maxEncodings : Nat := 1024

def maxCutText : Nat := 1024 * 1024

def maxFramed : Nat := 4 + 4 * maxEncodings

def maxName : Nat := 4096

def maxServerBuf : Nat := 24 + maxName + 64

/- Pseudo-encodings removed from a forwarded SetEncodings. -/
def stripped (code : Int) : Bool :=
  [-258, -259, -305, -308, -309, -310, -312, -313,
    -1063131698].contains code ||
    (0x574D5600 ≤ code && code ≤ 0x574D56FF)

/- Where the client's side of the handshake is. -/
inductive ClientState where
| version
| security
| auth
| init
| messages
deriving DecidableEq

/- Where the server's side of the handshake is. -/
inductive ServerState where
| version
| versionWait
| list
| choiceWait
| challenge
| result
| initWait
| init
| done
deriving DecidableEq

/- The place of a server state in the handshake's order. -/
def ServerState.rank : ServerState → Nat
| .version => 0
| .versionWait => 1
| .list => 2
| .choiceWait => 3
| .challenge => 4
| .result => 5
| .initWait => 6
| .init => 7
| .done => 8

structure Violation where
  code : Nat
  reason : String
deriving DecidableEq

structure ViewOnlyFilter where
  buf : Bytes
  state : ClientState
  skip : Nat
  dead : Bool
  dropped : Nat
  sbuf : Bytes
  sstate : ServerState
  sver : Nat
  cver : Nat
  offered : Option (List UInt8)
  choice : Nat
  challengeSeen : Bool
  securityDone : Bool
  serverinitSeen : Bool
deriving DecidableEq

/- A violation and the filter as the exception left it. -/
structure Fault where
  violation : Violation
  filter : ViewOnlyFilter

namespace ViewOnlyFilter

def fresh : ViewOnlyFilter :=
  { buf := []
    state := .version
    skip := 0
    dead := false
    dropped := 0
    sbuf := []
    sstate := .version
    sver := 0
    cver := 0
    offered := none
    choice := 0
    challengeSeen := false
    securityDone := false
    serverinitSeen := false }

def held (f : ViewOnlyFilter) : Nat :=
  f.buf.length

def handshaken (f : ViewOnlyFilter) : Bool :=
  f.state == .messages && f.serverinitSeen

def refuse
    {α : Type}
    (f : ViewOnlyFilter)
    (code : Nat)
    (reason : String) : Except Fault α :=
  .error ⟨⟨code, reason⟩, f⟩

--------
-- The Server's Side
--------

open BigEndian

/-
  One turn of the loop in `_advance_server`: the filter
  after it, and whether the loop goes round again.
-/
def serverItem
    (f : ViewOnlyFilter) :
    Except Fault (ViewOnlyFilter × Bool) :=
  match f.sstate with
  | .version =>
      if f.sbuf.length < 12 then
        .ok (f, false)
      else if f.sbuf.take 12 ∉ versions then
        refuse f closePolicy
          "This console speaks a protocol version that is not supported"
      else
        .ok
          ({ f with
              sver := minorVersion (f.sbuf.take 12)
              sbuf := f.sbuf.drop 12
              sstate := .versionWait }, true)
  | .list =>
      match f.sbuf with
      | [] => .ok (f, false)
      | count :: types =>
          if count = 0 then
            refuse f closePolicy
              "The machine refused the console connection"
          else if types.length < count.toNat then
            .ok (f, false)
          else
            .ok
              ({ f with
                  offered := some (types.take count.toNat)
                  sbuf := types.drop count.toNat
                  sstate := .choiceWait }, true)
  | .challenge =>
      if f.sbuf.length < vncAuthResponse then
        .ok (f, false)
      else
        .ok
          ({ f with
              sbuf := f.sbuf.drop vncAuthResponse
              challengeSeen := true
              sstate := .result }, true)
  | .result =>
      if f.sbuf.length < 4 then
        .ok (f, false)
      else if f.sbuf.take 4 ≠ [0, 0, 0, 0] then
        refuse f closePolicy
          "The machine refused the console connection"
      else
        .ok
          ({ f with
              sbuf := f.sbuf.drop 4
              securityDone := true
              sstate := .initWait }, true)
  | .init =>
      if f.sbuf.length < 24 then
        .ok (f, false)
      else
        let nameLen := natAt 4 20 f.sbuf
        if nameLen > maxName then
          refuse f closeTooBig
            "The machine's console announced an oversize name"
        else if f.sbuf.length < 24 + nameLen then
          .ok (f, false)
        else
          -- what follows is the framebuffer stream
          .ok
            ({ f with
                serverinitSeen := true
                sstate := .done
                sbuf := [] }, false)
  | .versionWait => .ok (f, false)
  | .choiceWait => .ok (f, false)
  | .initWait => .ok (f, false)
  | .done => .ok (f, false)

/-
  The loop of `_advance_server`.  A turn that goes round
  again moves `sstate` on, so as many turns as there are
  server states are always enough
  (`advanceServer_settled`).
-/
def serverLoop :
    Nat → ViewOnlyFilter → Except Fault ViewOnlyFilter
| 0, f => .ok f
| turns + 1, f =>
    match serverItem f with
    | .error fault => .error fault
    | .ok (f', false) => .ok f'
    | .ok (f', true) => serverLoop turns f'

def advanceServer
    (f : ViewOnlyFilter) : Except Fault ViewOnlyFilter :=
  serverLoop 9 f

/- Observe bytes the hypervisor sent. -/
def feedServer
    (f : ViewOnlyFilter)
    (data : Bytes) :
    ViewOnlyFilter × Except Violation Unit :=
  if f.dead then
    (f, .error ⟨closePolicy,
      "Input is not allowed on a view-only console"⟩)
  else if f.sstate = .done then
    (f, .ok ())
  else
    match advanceServer { f with sbuf := f.sbuf ++ data } with
    | .error fault =>
        ({ fault.filter with dead := true },
          .error fault.violation)
    | .ok f' =>
        if f'.sbuf.length > maxServerBuf then
          ({ f' with dead := true }, .error ⟨closeTooBig,
            "The machine's console sent more than a handshake allows"⟩)
        else
          (f', .ok ())

--------
-- The Client's Side
--------

open BigEndian

/-
  One unit at the head of the buffer: the filter after it,
  the units appended to the output, and the number of bytes
  the source reports taken (0: more input is needed).
-/
abbrev Taken := ViewOnlyFilter × List Bytes × Nat

def notReady
    {α : Type}
    (f : ViewOnlyFilter) : Except Fault α :=
  refuse f closePolicy
    "The console is not ready for that yet"

/- `_pass`: forward `n` bytes of the buffer as one unit. -/
def pass
    (f : ViewOnlyFilter)
    (n : Nat)
    (nextState : ClientState) :
    ViewOnlyFilter × Bytes :=
  ({ f with
      buf := f.buf.drop n
      state := nextState }, f.buf.take n)

/- The rewritten SetEncodings, its stripped codes removed. -/
def setEncodings (codes : List Int) : Bytes :=
  [2, 0] ++ ofNat16 codes.length ++ ofInts32 codes

/- Forward a message of `n` bytes once it is complete. -/
def forwardMessage
    (f : ViewOnlyFilter)
    (n : Nat) : Taken :=
  if f.buf.length < n then
    (f, [], 0)
  else
    ({ f with buf := f.buf.drop n }, [f.buf.take n], n)

/- Progress: the skip loop discards the message. -/
def dropMessage
    (f : ViewOnlyFilter)
    (n : Nat) : Taken :=
  ({ f with skip := n, dropped := f.dropped + 1 }, [], 1)

/- `_message`, for a SetEncodings at the head. -/
def encodingsMessage
    (f : ViewOnlyFilter) : Except Fault Taken :=
  if f.buf.length < 4 then
    .ok (f, [], 0)
  else
    let count := natAt 2 2 f.buf
    if count > maxEncodings then
      refuse f closeTooBig "Too many encodings offered"
    else if f.buf.length < 4 + 4 * count then
      .ok (f, [], 0)
    else
      let codes :=
        (ints32 count (f.buf.drop 4)).filter
          (fun code => !stripped code)
      .ok
        ({ f with buf := f.buf.drop (4 + 4 * count) },
          [setEncodings codes], 4 + 4 * count)

/- `_message`, for a ClientCutText at the head. -/
def cutTextMessage
    (f : ViewOnlyFilter) : Except Fault Taken :=
  if f.buf.length < 8 then
    .ok (f, [], 0)
  else
    let length := natAt 4 4 f.buf
    if length > maxCutText then
      refuse f closeTooBig "Clipboard text is too large"
    else
      .ok (dropMessage f (8 + length))

/- `_message`: one client message after the handshake. -/
def message
    (f : ViewOnlyFilter) : Except Fault Taken :=
  match f.buf with
  | [] => .ok (f, [], 0)
  | kind :: _ =>
      if kind = 0 then
        .ok (forwardMessage f 20)
      else if kind = 3 then
        .ok (forwardMessage f 10)
      else if kind = 2 then
        encodingsMessage f
      else if kind = 4 then
        .ok (dropMessage f 8)
      else if kind = 5 then
        .ok (dropMessage f 6)
      else if kind = 6 then
        cutTextMessage f
      else
        refuse f closePolicy
          "That input is not allowed on a view-only console"

/-
  After the unit `out` was forwarded: `_advance_server`, for
  the server item the client's step may have opened.
-/
def thenAdvance
    (f : ViewOnlyFilter)
    (out : Bytes)
    (taken : Nat) : Except Fault Taken :=
  match advanceServer f with
  | .error fault => .error fault
  | .ok f' => .ok (f', [out], taken)

/- `_next`, in the state `_VERSION`. -/
def nextVersion
    (f : ViewOnlyFilter) : Except Fault Taken :=
  if f.sstate.rank < ServerState.versionWait.rank then
    notReady f
  else if f.buf.length < 12 then
    .ok (f, [], 0)
  else if f.buf.take 12 ∉ versions then
    refuse f closePolicy
      "This console speaks a protocol version that is not supported"
  else
    let g := { f with cver := minorVersion (f.buf.take 12) }
    if g.cver > g.sver then
      refuse g closePolicy
        "That protocol version is newer than the console's"
    else
      let p := pass { g with sstate := .list } 12 .security
      thenAdvance p.1 p.2 12

/- The choice a client may make among the types offered. -/
def choosable
    (offered : List UInt8)
    (choice : UInt8) : Bool :=
  (choice == securityNone || choice == securityVnc) &&
    offered.contains choice

/- What the client's choice opens on the server's side. -/
def choose
    (f : ViewOnlyFilter)
    (choice : UInt8) : ViewOnlyFilter :=
  if choice = securityVnc then
    { f with choice := choice.toNat, sstate := .challenge }
  else if f.cver ≥ 8 then
    -- 3.8 answers None with a SecurityResult too
    { f with choice := choice.toNat, sstate := .result }
  else
    -- 3.7 and None: the security phase is over
    { f with
      choice := choice.toNat
      securityDone := true
      sstate := .initWait }

/- `_next`, in the state `_SECURITY`. -/
def nextSecurity
    (f : ViewOnlyFilter)
    (choice : UInt8) : Except Fault Taken :=
  match f.offered with
  | none => notReady f
  | some offered =>
      if !choosable offered choice then
        refuse f closePolicy
          "This console's security type is not supported"
      else
        let p :=
          pass (f.choose choice) 1
            (if choice = securityVnc then .auth else .init)
        thenAdvance p.1 p.2 1

/- `_next`: one unit at the head of the buffer. -/
def next
    (f : ViewOnlyFilter) : Except Fault Taken :=
  match f.buf with
  | [] => .ok (f, [], 0)
  | head :: rest =>
      match f.state with
      | .version => nextVersion f
      | .security => nextSecurity f head
      | .auth =>
          if !f.challengeSeen then
            notReady f
          else if f.buf.length < vncAuthResponse then
            .ok (f, [], 0)
          else
            let p := pass f vncAuthResponse .init
            .ok (p.1, [p.2], vncAuthResponse)
      | .init =>
          if !f.securityDone then
            notReady f
          else
            -- the shared flag, whatever the client sent
            thenAdvance
              { f with
                buf := rest
                state := .messages
                sstate := .init } [1] 1
      | .messages =>
          if !f.serverinitSeen then
            notReady f
          else
            message f

/-
  One turn of the loop in `_run`: the filter, the units it
  appended, and whether the loop goes round again.
-/
def turn
    (f : ViewOnlyFilter) :
    Except Fault (ViewOnlyFilter × List Bytes × Bool) :=
  if f.skip ≠ 0 then
    let n := min f.skip f.buf.length
    let f' :=
      { f with
        buf := f.buf.drop n
        skip := f.skip - n }
    .ok (f', [], f'.skip = 0)
  else
    match next f with
    | .error fault => .error fault
    | .ok (f', out, taken) => .ok (f', out, taken ≠ 0)

/- What is left to do: a turn that goes round lowers it. -/
def work (f : ViewOnlyFilter) : Nat :=
  2 * f.buf.length + if f.skip = 0 then 1 else 0

/-
  The loop of `_run`.  One turn more than `work` is always
  enough (`run_settled`).
-/
def clientLoop :
    Nat → ViewOnlyFilter →
      Except Fault (ViewOnlyFilter × List Bytes)
| 0, f => .ok (f, [])
| turns + 1, f =>
    match turn f with
    | .error fault => .error fault
    | .ok (f', out, false) => .ok (f', out)
    | .ok (f', out, true) =>
        match clientLoop turns f' with
        | .error fault => .error fault
        | .ok (f'', rest) => .ok (f'', out ++ rest)

/- `_run`: everything the buffer and `data` complete. -/
def run
    (f : ViewOnlyFilter)
    (data : Bytes) :
    Except Fault (ViewOnlyFilter × List Bytes) :=
  let g := { f with buf := f.buf ++ data }
  clientLoop (g.work + 1) g

/- The whole messages that may go to the hypervisor. -/
def feed
    (f : ViewOnlyFilter)
    (data : Bytes) :
    ViewOnlyFilter × Except Violation (List Bytes) :=
  if f.dead then
    (f, .error ⟨closePolicy,
      "Input is not allowed on a view-only console"⟩)
  else
    match run f data with
    | .error fault =>
        -- fail closed: nothing passes after any error
        ({ fault.filter with dead := true },
          .error fault.violation)
    | .ok (f', out) => (f', .ok out)

end ViewOnlyFilter

end ConsoleRelay

end TrueNorth
