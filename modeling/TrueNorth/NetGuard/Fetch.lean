import TrueNorth.Lib.IpNetwork
import TrueNorth.Lib.Json

/-
  Fetching a URL that someone else chose (net_guard.py).

  The URL parsers, the classes of an address, the resolver
  and the HTTP client are outside: a resolver and a server
  may answer every hop differently, and the client may ask
  its backend for any connections at all.

  Key definitions include:
    * `Outside`, `Internet`
    * `refused`, `checkDestination`
    * `PinnedBackend`, `client`
    * `fetch`, `post`, `probe`
-/

--------
-- What Is Outside
--------

namespace TrueNorth

namespace NetGuard

/- What `urlsplit` makes of a URL; a port may be no number. -/
structure SplitResult where
  scheme : String
  hostname : Option String
  port : Option (Option Nat)

/- The classes of an address in `ipaddress`. -/
structure AddressClasses where
  ipv4Mapped : IpAddress → Option IpAddress
  isLoopback : IpAddress → Bool
  isLinkLocal : IpAddress → Bool
  isMulticast : IpAddress → Bool
  isUnspecified : IpAddress → Bool
  isReserved : IpAddress → Bool
  isGlobal : IpAddress → Bool

/- What comes before the first percent sign. -/
def beforePercent (text : String) : String :=
  String.ofList (text.toList.takeWhile (· ≠ '%'))

/-
  A resolver: each call fails, or gives texts which but for a
  scope are addresses.
-/
structure Resolver where
  answer : Nat → String → Nat → Option (List String)
  numeric : ∀ k host port infos,
    answer k host port = some infos → ∀ info ∈ infos,
      (IpAddress.address? (beforePercent info)).isSome = true

structure Request where
  method : String
  url : String
  headers : List (String × String) := []
  data : Option (List (String × String)) := none
  json : Option Json := none

/- A body that is broken off ends in an error of the client. -/
structure Response where
  status : Nat
  isRedirect : Bool
  location : Option String
  contentType : Option String
  chunks : List (List UInt8)
  broken : Bool

/-
  What the client does with a request: the hosts and ports it
  asks its backend for, and a response or an error of its own.
-/
structure Exchange where
  dials : List (String × Nat)
  reply : Option Response

/-
  The parsers: `urlsplit` raises or not, as do
  `httpx.URL(url).raw_host` and `str(resp.url.join(location))`.
-/
structure Outside where
  urlsplit : String → Option SplitResult
  rawHost : String → Option String
  join : String → String → Option String
  classes : AddressClasses

/- The resolver and the servers, at each hop. -/
structure Internet where
  resolver : Resolver
  exchange : Nat → Request → String → String → Exchange

--------
-- Vetting
--------

inductive GuardError
| destinationRefused
| unreachable
| tooLarge
deriving DecidableEq

/- What is raised: one of the three, or a `ValueError`. -/
inductive Raised
| guard_ (e : GuardError)
| valueError
deriving DecidableEq

variable (o : Outside)
variable (net : Internet)
variable (allowPrivate : Bool)

/- `refused`. -/
def refused
    (classes : AddressClasses)
    (addr : IpAddress)
    (allowPrivate : Bool) : Bool :=
  if addr.version = .v6 ∧ (classes.ipv4Mapped addr).isSome then
    true
  else if classes.isLoopback addr || classes.isLinkLocal addr ||
      classes.isMulticast addr || classes.isUnspecified addr ||
      classes.isReserved addr then true
  else if classes.isGlobal addr then false
  else !allowPrivate

/- Every one of the answers must pass. -/
def vet : List String → Except Raised (List IpAddress)
| [] => .ok []
| info :: infos =>
    match IpAddress.address? (beforePercent info) with
    | none => .error .valueError
    | some addr =>
        if refused o.classes addr allowPrivate then
          .error (.guard_ .destinationRefused)
        else
          match vet infos with
          | .error e => .error e
          | .ok vetted => .ok (addr :: vetted)

/- The port that is resolved for; 0 counts as none. -/
def portOf
    (parts : SplitResult)
    (port : Option Nat) : Nat :=
  match port with
  | some (n + 1) => n + 1
  | _ => if parts.scheme.toLower = "https" then 443 else 80

/- `check_destination`, at the `k`-th hop. -/
def checkDestination
    (k : Nat)
    (url : String) : Except Raised IpAddress :=
  match o.urlsplit url with
  | none => .error .valueError
  | some parts =>
      let hostname := parts.hostname.getD ""
      if parts.scheme.toLower ∉ ["http", "https"] ∨
          hostname = "" then
        .error (.guard_ .destinationRefused)
      else
        match IpAddress.address? (beforePercent hostname) with
        | some literal =>
            if refused o.classes literal allowPrivate then
              .error (.guard_ .destinationRefused)
            else .ok literal
        | none =>
            match parts.port.bind (fun port =>
                net.resolver.answer k hostname
                  (portOf parts port)) with
            | none => .error (.guard_ .unreachable)
            | some infos =>
                match vet o allowPrivate infos with
                | .error e => .error e
                | .ok [] => .error (.guard_ .unreachable)
                | .ok (addr :: _) => .ok addr

--------
-- One Hop
--------

/- Connections for one host only, and to one address only. -/
structure PinnedBackend where
  host : String
  address : String

/- A connection that was opened. -/
structure Connection where
  address : String
  port : Nat
deriving DecidableEq

/- `connect_tcp`; for another host there is a `ConnectError`. -/
def PinnedBackend.connectTcp
    (backend : PinnedBackend)
    (host : String)
    (port : Nat) : Option Connection :=
  if host.toLower ≠ backend.host then none
  else some { address := backend.address, port := port }

/- A hop that was made. -/
structure Hop where
  url : String
  connections : List Connection

structure Fetched where
  body : List UInt8
  contentType : String

structure Answer where
  status : Nat
  body : List UInt8
  contentType : String

variable (o : Outside)
variable (net : Internet)
variable (allowPrivate : Bool)

/- `_client`. -/
def client
    (k : Nat)
    (url : String) : Except Raised PinnedBackend :=
  match checkDestination o net allowPrivate k url with
  | .error e => .error e
  | .ok address =>
      match o.rawHost url with
      | none => .error (.guard_ .destinationRefused)
      | some host =>
          .ok { host := host.toLower, address := address.text }

/- What the client does over a pinned backend. -/
def PinnedBackend.send
    (net : Internet)
    (backend : PinnedBackend)
    (k : Nat)
    (request : Request) : Hop × Option Response :=
  let exchange :=
    net.exchange k request backend.host backend.address
  ({ url := request.url
     connections := exchange.dials.filterMap (fun dial =>
       backend.connectTcp dial.1 dial.2) }, exchange.reply)

/- The chunks, as long as they are not too many bytes. -/
def readChunks
    (maxBytes : Nat) :
    List UInt8 → List (List UInt8) → Except Raised (List UInt8)
| body, [] => .ok body
| body, chunk :: chunks =>
    if maxBytes < (body ++ chunk).length then
      .error (.guard_ .tooLarge)
    else readChunks maxBytes (body ++ chunk) chunks

/- The body, unless it is broken off. -/
def readBody
    (maxBytes : Nat)
    (resp : Response) : Except Raised (List UInt8) :=
  match readChunks maxBytes [] resp.chunks with
  | .error e => .error e
  | .ok body =>
      if resp.broken then .error (.guard_ .unreachable)
      else .ok body

/- The location of a redirect. -/
def Response.target (resp : Response) : Option String :=
  if resp.isRedirect then
    resp.location.filter (fun location => location ≠ "")
  else none

--------
-- Fetch, Post, Probe
--------

variable (o : Outside)
variable (net : Internet)
variable (allowPrivate : Bool)

/- What `fetch` asks for at each hop. -/
def getRequest (accept url : String) : Request where
  method := "GET"
  url := url
  headers := [("Accept", accept)]

/- The answer to the last hop that is made. -/
def fetched
    (maxBytes : Nat)
    (resp : Response) : Except Raised Fetched :=
  if 300 ≤ resp.status then .error (.guard_ .unreachable)
  else
    match readBody maxBytes resp with
    | .error e => .error e
    | .ok body => .ok
        { body := body
          contentType := resp.contentType.getD "" }

/-
  The hops from the `k`-th on, of which `left` may be
  redirects.
-/
def fetchFrom
    (maxBytes : Nat)
    (accept : String) :
    Nat → Nat → String → Except Raised Fetched × List Hop
| left, k, url =>
    match client o net allowPrivate k url with
    | .error e => (.error e, [{ url := url, connections := [] }])
    | .ok backend =>
        match backend.send net k (getRequest accept url) with
        | (hop, none) => (.error (.guard_ .unreachable), [hop])
        | (hop, some resp) =>
            match left, resp.target with
            | left + 1, some location =>
                match o.join url location with
                | none => (.error (.guard_ .unreachable), [hop])
                | some next =>
                    let rest :=
                      fetchFrom maxBytes accept left (k + 1) next
                    (rest.1, hop :: rest.2)
            | _, _ => (fetched maxBytes resp, [hop])

/- `fetch`, and the hops it makes. -/
def fetch
    (url : String)
    (maxBytes : Nat)
    (accept : String)
    (maxRedirects : Nat) : Except Raised Fetched × List Hop :=
  fetchFrom o net allowPrivate maxBytes accept maxRedirects 0 url

/- `post`. -/
def post
    (url : String)
    (data : Option (List (String × String)))
    (jsonBody : Option Json)
    (headers : List (String × String))
    (maxBytes : Nat) : Except Raised Answer × List Hop :=
  match client o net allowPrivate 0 url with
  | .error e => (.error e, [{ url := url, connections := [] }])
  | .ok backend =>
      match backend.send net 0
          { method := "POST"
            url := url
            headers := headers
            data := data
            json := jsonBody } with
      | (hop, none) => (.error (.guard_ .unreachable), [hop])
      | (hop, some resp) =>
          match readBody maxBytes resp with
          | .error e => (.error e, [hop])
          | .ok body =>
              (.ok
                { status := resp.status
                  body := body
                  contentType := resp.contentType.getD "" },
                [hop])

/- `probe`. -/
def probe
    (url : String) : Except Raised Nat × List Hop :=
  match client o net allowPrivate 0 url with
  | .error e => (.error e, [{ url := url, connections := [] }])
  | .ok backend =>
      match backend.send net 0 { method := "GET", url := url } with
      | (hop, none) => (.error (.guard_ .unreachable), [hop])
      | (hop, some resp) => (.ok resp.status, [hop])

end NetGuard

end TrueNorth
