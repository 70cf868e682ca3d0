import TrueNorth.Lib.IpNetwork
import TrueNorth.Lib.Texts

/-
  The address a request came from (client_address.py): a
  forwarded chain is believed from our own proxies only, and
  is read from its right end.

  Key definitions include:
    * `parse`
    * `clientIp`

  Main theorems:
    * `clientIp_unforged`
-/

--------
-- The Client's Address
--------

namespace TrueNorth

namespace NetGuard

/- The parts of a text with commas that are not blank. -/
def commaParts (text : String) : List String :=
  ((text.toList.splitOn ',').map (fun part =>
    Texts.strip (String.ofList part))).filter (fun part =>
      part ≠ "")

/- `_parse`; nothing where it raises a `ValueError`. -/
def parse (raw : String) : Option (List IpNetwork) :=
  if (Texts.strip raw).toLower ∈ ["", "none"] then some []
  else (commaParts raw).mapM IpNetwork.network?

/- `TRUSTED_PROXY_CIDRS`, where it is not set. -/
def defaultTrustedProxies : String :=
  "127.0.0.0/8,::1/128,172.16.0.0/12"

/- The IPv4 address of one that is mapped to IPv6. -/
def ipv4Mapped (a : IpAddress) : Option IpAddress :=
  if a.version = .v6 ∧ a.value / 2 ^ 32 = 0xFFFF then
    IpAddress.of? .v4 (a.value % 2 ^ 32)
  else none

/- `_ip`. -/
def ip (value : String) : Option IpAddress :=
  (IpAddress.address? (Texts.strip value)).map (fun addr =>
    (ipv4Mapped addr).getD addr)

/- `_trusted`. -/
def trusted
    (proxies : List IpNetwork)
    (addr : Option IpAddress) : Bool :=
  addr.any (fun a => proxies.any (fun net =>
    a.version = net.address.version &&
      net.address.value ≤ a.value && a.value ≤ net.broadcast))

/- The first of the hops, from the right, that is not ours. -/
def firstUntrusted
    (proxies : List IpNetwork)
    (peer : String)
    (last : Option IpAddress) : List String → Option String
| [] => last.map IpAddress.text
| hop :: hops =>
    match ip hop with
    | none => some peer
    | some addr =>
        if trusted proxies (some addr) then
          firstUntrusted proxies peer (some addr) hops
        else some addr.text

/- `client_ip`, of a peer and its `X-Forwarded-For`. -/
def clientIp
    (proxies : List IpNetwork)
    (peer : Option String)
    (forwarded : String) : Option String :=
  if proxies.isEmpty || !trusted proxies (ip (peer.getD "")) then
    peer
  else
    match (commaParts forwarded).reverse with
    | [] => peer
    | hop :: hops =>
        firstUntrusted proxies (peer.getD "") none (hop :: hops)

--------
-- What a Client Cannot Choose
--------

theorem commaParts_append (first rest : String) :
    commaParts (first ++ "," ++ rest) =
      commaParts first ++ commaParts rest := by
  have hText : (first ++ "," ++ rest).toList =
      first.toList ++ ',' :: rest.toList := by
    simp
  unfold commaParts
  rw [hText, List.splitOn_append_cons_self, List.map_append,
    List.filter_append]

theorem firstUntrusted_trusted
    {proxies : List IpNetwork}
    {peer client : String}
    {addr : IpAddress}
    (hClient : ip client = some addr)
    (hNot : trusted proxies (some addr) = false)
    {via : List String}
    (hVia : ∀ hop ∈ via, trusted proxies (ip hop) = true)
    (last : Option IpAddress)
    (forged : List String) :
    firstUntrusted proxies peer last (via ++ client :: forged) =
      some addr.text := by
  induction via generalizing last with
  | nil => simp [firstUntrusted, hClient, hNot]
  | cons hop via ih =>
      have hHop := hVia hop List.mem_cons_self
      rw [List.cons_append]
      unfold firstUntrusted
      cases hIp : ip hop with
      | none =>
          rw [hIp] at hHop
          cases hHop
      | some hopAddr =>
          rw [hIp] at hHop
          simp only [hHop, if_true]
          exact ih (fun h hMem =>
            hVia h (List.mem_cons_of_mem hop hMem)) _

/-
  A client cannot choose its address: of a peer that is not
  one of the proxies the header is not read; and where the
  proxies have added the address the client came from, and
  then each other's, the answer is that address, whatever
  text the client itself sent before them.
-/
theorem clientIp_unforged
    (proxies : List IpNetwork) :
    (∀ peer forged, trusted proxies (ip peer) = false →
      clientIp proxies (some peer) forged = some peer) ∧
    ∀ peer forged added client via addr,
      trusted proxies (ip peer) = true →
      commaParts added = client :: via →
      ip client = some addr →
      trusted proxies (some addr) = false →
      (∀ hop ∈ via, trusted proxies (ip hop) = true) →
      clientIp proxies (some peer) (forged ++ "," ++ added) =
          some addr.text ∧
        clientIp proxies (some peer) added = some addr.text := by
  constructor
  · intro peer forged hNot
    simp [clientIp, hNot]
  · intro peer forged added client via addr hPeer hAdded hClient
      hNot hVia
    have hSome : proxies.isEmpty = false := by
      cases proxies with
      | nil => simp [trusted] at hPeer
      | cons net nets => rfl
    have hReversed : ∀ hop ∈ via.reverse,
        trusted proxies (ip hop) = true :=
      fun hop hMem => hVia hop (List.mem_reverse.mp hMem)
    have hRead (header : String) (front : List String)
        (hHeader : commaParts header = front ++ client :: via) :
        clientIp proxies (some peer) header = some addr.text := by
      have hHops : (commaParts header).reverse =
          via.reverse ++ client :: front.reverse := by
        simp [hHeader]
      have hFirst : firstUntrusted proxies peer none
          (via.reverse ++ client :: front.reverse) =
            some addr.text :=
        firstUntrusted_trusted hClient hNot hReversed none _
      unfold clientIp
      simp only [hSome, Option.getD_some, hPeer, Bool.not_true,
        Bool.or_self, Bool.false_eq_true, if_false]
      split
      · next hNil =>
          rw [hHops] at hNil
          simp at hNil
      · next hCons =>
          rw [← hCons, hHops]
          exact hFirst
    constructor
    · exact hRead _ (commaParts forged) (by
        rw [commaParts_append, hAdded])
    · exact hRead added [] hAdded

end NetGuard

end TrueNorth
