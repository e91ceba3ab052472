import ImagegenBridge.Artifacts.Inspect
import ImagegenBridge.Core.Text

/-!
# Remote inputs, `crates/artifacts/src/remote.rs`

URLs, name resolution and the HTTP client are outside the repository: they are the answers of a
network, which may change from one request to the next. A fetch is a function of them and lists
the requests it sends.
-/

namespace ImagegenBridge.Remote

open Inspect Materialize Outcome

/-! ## Addresses -/

structure Ipv4Addr where
  a : UInt8
  b : UInt8
  c : UInt8
  d : UInt8
  deriving DecidableEq, Repr

/-- The eight segments. -/
structure Ipv6Addr where
  s0 : UInt16
  s1 : UInt16
  s2 : UInt16
  s3 : UInt16
  s4 : UInt16
  s5 : UInt16
  s6 : UInt16
  s7 : UInt16
  deriving DecidableEq, Repr

inductive IpAddr where
  | v4 (address : Ipv4Addr)
  | v6 (address : Ipv6Addr)
  deriving DecidableEq, Repr

/-- The address whose octets two segments hold. -/
def octetsOf (high low : UInt16) : Ipv4Addr :=
  ⟨(high >>> 8).toUInt8, high.toUInt8, (low >>> 8).toUInt8, low.toUInt8⟩

namespace Ipv4Addr

variable (address : Ipv4Addr)

def isPrivate : Bool :=
  address.a == 10 || (address.a == 172 && decide (16 ≤ address.b) && decide (address.b ≤ 31))
    || (address.a == 192 && address.b == 168)

def isLoopback : Bool := address.a == 127

def isLinkLocal : Bool := address.a == 169 && address.b == 254

def isBroadcast : Bool := address == ⟨255, 255, 255, 255⟩

def isDocumentation : Bool :=
  (address.a == 192 && address.b == 0 && address.c == 2)
    || (address.a == 198 && address.b == 51 && address.c == 100)
    || (address.a == 203 && address.b == 0 && address.c == 113)

def isUnspecified : Bool := address == ⟨0, 0, 0, 0⟩

def isMulticast : Bool := decide (224 ≤ address.a) && decide (address.a ≤ 239)

end Ipv4Addr

def isPublicIpv4 (address : Ipv4Addr) : Bool :=
  !address.isPrivate && !address.isLoopback && !address.isLinkLocal && !address.isBroadcast
    && !address.isDocumentation && !address.isUnspecified && !address.isMulticast
    && !(address.a == 100 && decide (64 ≤ address.b) && decide (address.b ≤ 127))
    && !(address.a == 192 && address.b == 0 && address.c == 0)
    && !(address.a == 198 && (address.b == 18 || address.b == 19))
    && decide (address.a < 240)

namespace Ipv6Addr

variable (address : Ipv6Addr)

/-- An address of the form `::ffff:a.b.c.d`. -/
def toIpv4Mapped : Option Ipv4Addr :=
  if address.s0 = 0 ∧ address.s1 = 0 ∧ address.s2 = 0 ∧ address.s3 = 0 ∧ address.s4 = 0
      ∧ address.s5 = 0xFFFF then some (octetsOf address.s6 address.s7)
  else none

def isLoopback : Bool := address == ⟨0, 0, 0, 0, 0, 0, 0, 1⟩

def isUnspecified : Bool := address == ⟨0, 0, 0, 0, 0, 0, 0, 0⟩

def isMulticast : Bool := address.s0 &&& 0xFF00 == 0xFF00

def isUniqueLocal : Bool := address.s0 &&& 0xFE00 == 0xFC00

def isUnicastLinkLocal : Bool := address.s0 &&& 0xFFC0 == 0xFE80

end Ipv6Addr

def isIpv6Documentation (address : Ipv6Addr) : Bool := address.s0 == 0x2001 && address.s1 == 0x0DB8

def isPublicIp : IpAddr → Bool
  | .v4 address => isPublicIpv4 address
  | .v6 address =>
    match address.toIpv4Mapped with
    | some mapped => isPublicIpv4 mapped
    | none => !address.isLoopback && !address.isUnspecified && !address.isMulticast
        && !address.isUniqueLocal && !address.isUnicastLinkLocal && !isIpv6Documentation address

/-! ## URLs and the network -/

/-- Explicit policy controlling remote image access. -/
structure RemoteInputPolicy where
  enabled : Bool := false
  /-- Exact lower-case hostnames permitted. Empty allows any public hostname. -/
  allowedHosts : List String := []
  allowedPorts : List Nat := [80, 443]
  allowPrivateNetworks : Bool := false
  maxRedirects : UInt8 := 3
  maxUrlBytes : Nat := 8 * 1024

/-- The parts of a parsed URL. -/
structure Url where
  scheme : String
  username : String
  password : Option String
  hostStr : Option String
  port : Option Nat
  path : String
  deriving DecidableEq, Repr

/-- `port_or_known_default`. -/
def Url.portOrKnownDefault (url : Url) : Option Nat :=
  url.port.orElse fun _ =>
    if url.scheme = "http" ∨ url.scheme = "ws" then some 80
    else if url.scheme = "https" ∨ url.scheme = "wss" then some 443
    else if url.scheme = "ftp" then some 21
    else none

structure SocketAddr where
  ip : IpAddr
  port : Nat
  deriving DecidableEq, Repr

/-- A header that may be absent, or not be text. -/
inductive Header where
  | absent
  | unreadable
  | text (value : String)
  deriving DecidableEq, Repr

structure Response where
  status : Nat
  location : Header := .absent
  contentLength : Option Nat := none
  contentType : Header := .absent
  /-- The parts of the body, up to the first that fails. -/
  body : List (Option Bytes) := []

/-- The code around the fetcher. Name resolution and the peers are asked once for each request,
which is counted. -/
structure Network where
  parse : String → Option Url
  join : Url → String → Option Url
  lookupHost : Nat → String → Nat → Option (List SocketAddr)
  /-- Whether a client with pinned addresses can be built. -/
  build : String → List SocketAddr → Bool
  /-- The addresses the client connects to. -/
  connect : Nat → Url → List SocketAddr → List SocketAddr
  respond : Nat → Url → List SocketAddr → Option Response

structure LoadedImage where
  bytes : Bytes
  metadata : ImageMetadata
  filename : Option String

def remoteError (message : String) : BridgeError := .new .input message

def required {α : Type} (value : Option α) (message : String) : Outcome α :=
  value.elim (.error (remoteError message)) .ok

/-! ## Checks -/

def asciiLowercase (text : String) : String := String.ofList (Text.lowercase text.toList)

def validateUrl (policy : RemoteInputPolicy) (url : Url) : Outcome Unit := do
  failIf (url.scheme ≠ "http" ∧ url.scheme ≠ "https")
    (remoteError "remote image URL must use http or https")
  failIf (url.username ≠ "" ∨ url.password.isSome = true)
    (remoteError "remote image URL must not contain credentials")
  let host ← required (url.hostStr.map asciiLowercase) "remote image URL has no hostname"
  failIf (policy.allowedHosts ≠ [] ∧ host ∉ policy.allowedHosts)
    (remoteError "remote image hostname is not allowed")
  let port ← required url.portOrKnownDefault "remote image URL has no usable port"
  failIf (port ∉ policy.allowedPorts) (remoteError "remote image port is not allowed")

/-- The addresses a client for the URL is pinned to. -/
def pinnedClient (policy : RemoteInputPolicy) (network : Network) (count : Nat) (url : Url) :
    Outcome (List SocketAddr) := do
  let host ← required url.hostStr "remote image URL has no hostname"
  let port ← required url.portOrKnownDefault "remote image URL has no usable port"
  let addresses ← required (network.lookupHost count host port)
    "remote image hostname could not be resolved"
  failIf (addresses = []) (remoteError "remote image hostname resolved to no addresses")
  failIf (policy.allowPrivateNetworks = false ∧
      addresses.any (fun address => !isPublicIp address.ip) = true)
    (remoteError "remote image hostname resolves to a private or reserved address")
  failIf (network.build host addresses = false)
    (remoteError "remote image client could not be initialized")
  .ok addresses

/-- The statuses of a redirect that is followed. -/
def redirects : List Nat := [301, 302, 303, 307, 308]

def checkedRedirect (network : Network) (current : Url) (response : Response) : Outcome Url := do
  failIf (response.status ∉ redirects) (remoteError "unsupported redirect response")
  match response.location with
  | .absent => .error (remoteError "redirect response has no location")
  | .unreadable => .error (remoteError "redirect location is invalid")
  | .text location => required (network.join current location) "redirect location is invalid"

/-- `split(';').next()`, trimmed and in lower case. -/
def essence (contentType : String) : String :=
  asciiLowercase (Text.trim (String.ofList (contentType.toList.takeWhile (· ≠ ';'))))

def enabledTypes : List String :=
  ["image/png", "image/jpeg", "image/webp", "application/octet-stream"]

def validateContentHeaders (limits : ImageLimits) (response : Response) : Outcome Unit := do
  failIf (response.contentLength.any (fun length => decide (length > limits.maxEncodedBytes)) = true)
    (remoteError "remote image content length exceeds the configured limit")
  match response.contentType with
  | .absent => .ok ()
  | .unreadable => .error (remoteError "remote image content type is invalid")
  | .text contentType =>
    failIf (essence contentType ∉ enabledTypes)
      (remoteError "remote response does not declare a supported image content type")

/-- The loop over the parts of the body. -/
def readBody (limits : ImageLimits) : Bytes → List (Option Bytes) → Outcome Bytes
  | bytes, [] => .ok bytes
  | _, none :: _ => .error (remoteError "remote image body failed")
  | bytes, some chunk :: rest =>
    if bytes.length + chunk.length > limits.maxEncodedBytes then
      .error (remoteError "remote image exceeds the configured byte limit")
    else readBody limits (bytes ++ chunk) rest

/-- What becomes of a response that is no redirect. -/
def loadResponse (decoders : Decoders) (limits : ImageLimits) (response : Response) :
    Outcome LoadedImage := do
  failIf (¬(200 ≤ response.status ∧ response.status < 300))
    (remoteError ("remote image returned HTTP " ++ toString response.status))
  validateContentHeaders limits response
  let bytes ← readBody limits [] response.body
  let metadata ← inspectImage decoders limits bytes
  .ok { bytes, metadata, filename := none }

/-! ## Fetching -/

/-- One request that was sent. -/
structure Request where
  count : Nat
  url : Url
  /-- The addresses its client was pinned to. -/
  pinned : List SocketAddr
  /-- The addresses it connected to. -/
  contacted : List SocketAddr

structure RemoteImageFetcher where
  policy : RemoteInputPolicy
  limits : ImageLimits
  decoders : Decoders

namespace RemoteImageFetcher

variable (fetcher : RemoteImageFetcher) (network : Network)

/-- The checks before a request, with the addresses its client is pinned to. -/
def prepare (count : Nat) (url : Url) : Outcome (List SocketAddr) := do
  validateUrl fetcher.policy url
  pinnedClient fetcher.policy network count url

def request (count : Nat) (url : Url) (pinned : List SocketAddr) : Request :=
  { count, url, pinned, contacted := network.connect count url pinned }

/-- Where a response leads: to an image or an error, or on to the next request. -/
inductive Reply where
  | finished (outcome : Outcome LoadedImage)
  | redirected (url : Url)

def answered (left : Nat) (url : Url) : Option Response → Reply
  | none => .finished (.error (remoteError "remote image request failed"))
  | some response =>
    if 300 ≤ response.status ∧ response.status < 400 then
      if left = 0 then .finished (.error (remoteError "remote image redirect limit exceeded"))
      else match checkedRedirect network url response with
        | .error e => .finished (.error e)
        | .ok next => .redirected next
    else .finished (loadResponse fetcher.decoders fetcher.limits response)

/-- The loop over the redirects, with the rounds that are left and those already done. -/
def follow : Nat → Nat → Url → Outcome LoadedImage × List Request
  | 0, _, _ => (.error (remoteError "remote image redirect limit exceeded"), [])
  | left + 1, count, url =>
    match prepare fetcher network count url with
    | .error e => (.error e, [])
    | .ok pinned =>
      match answered fetcher network left url (network.respond count url pinned) with
      | .finished outcome => (outcome, [request network count url pinned])
      | .redirected next =>
        let (outcome, later) := follow left (count + 1) next
        (outcome, request network count url pinned :: later)

/-- The checks of the URL's text. -/
def parseUrl (value : String) : Outcome Url := do
  failIf (fetcher.policy.enabled = false) (remoteError "remote image inputs are disabled")
  failIf (Text.len value > fetcher.policy.maxUrlBytes)
    (remoteError "remote image URL exceeds the configured limit")
  required (network.parse value) "remote image URL is invalid"

/-- Fetches and verifies one HTTP(S) image. -/
def fetch (value : String) : Outcome LoadedImage × List Request :=
  match parseUrl fetcher network value with
  | .error e => (.error e, [])
  | .ok url => follow fetcher network (fetcher.policy.maxRedirects.toNat + 1) 0 url

end RemoteImageFetcher

end ImagegenBridge.Remote
