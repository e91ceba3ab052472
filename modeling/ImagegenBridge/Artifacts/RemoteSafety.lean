import ImagegenBridge.Artifacts.Remote

/-!
# Where a fetch connects to

Every request goes to the checked answer of the resolver, for a host and a port of the policy.
The check of the addresses leaves out one IPv4 block and three of the ways in which an IPv6
address embeds an IPv4 address.
-/

namespace ImagegenBridge.Remote

variable {fetcher : RemoteImageFetcher} {network : Network} {policy : RemoteInputPolicy}

/-! ## Addresses that are not public -/

/-- The IPv4 blocks that are reserved as not globally reachable. -/
def Reserved (address : Ipv4Addr) : Prop :=
  address.a = 0 ∨ address.a = 10 ∨ (address.a = 100 ∧ 64 ≤ address.b ∧ address.b ≤ 127)
    ∨ address.a = 127 ∨ (address.a = 169 ∧ address.b = 254)
    ∨ (address.a = 172 ∧ 16 ≤ address.b ∧ address.b ≤ 31)
    ∨ (address.a = 192 ∧ address.b = 0 ∧ (address.c = 0 ∨ address.c = 2))
    ∨ (address.a = 192 ∧ address.b = 168) ∨ (address.a = 198 ∧ (address.b = 18 ∨ address.b = 19))
    ∨ (address.a = 198 ∧ address.b = 51 ∧ address.c = 100)
    ∨ (address.a = 203 ∧ address.b = 0 ∧ address.c = 113) ∨ 224 ≤ address.a

/-- The IPv4 address in an IPv6 address: mapped, compatible, 6to4 or NAT64. -/
inductive Embeds : Ipv6Addr → Ipv4Addr → Prop
  | mapped (high low : UInt16) : Embeds ⟨0, 0, 0, 0, 0, 0xFFFF, high, low⟩ (octetsOf high low)
  | compatible (high low : UInt16) : Embeds ⟨0, 0, 0, 0, 0, 0, high, low⟩ (octetsOf high low)
  | sixToFour (high low s3 s4 s5 s6 s7 : UInt16) :
      Embeds ⟨0x2002, high, low, s3, s4, s5, s6, s7⟩ (octetsOf high low)
  | nat64 (high low : UInt16) : Embeds ⟨0x64, 0xFF9B, 0, 0, 0, 0, high, low⟩ (octetsOf high low)

/-- The IPv6 blocks for one machine, one network, groups and documentation. -/
def Special (address : Ipv6Addr) : Prop :=
  address.isLoopback = true ∨ address.isUnspecified = true ∨ address.isMulticast = true
    ∨ address.isUniqueLocal = true ∨ address.isUnicastLinkLocal = true
    ∨ isIpv6Documentation address = true

def NonPublic : IpAddr → Prop
  | .v4 address => Reserved address
  | .v6 address => Special address ∨ ∃ embedded, Embeds address embedded ∧ Reserved embedded

/-- An address of `0.0.0.0/8` other than its first. -/
def ThisNetwork (address : Ipv4Addr) : Prop := address.a = 0 ∧ address.isUnspecified = false

/-- The addresses that are not public and that the check lets through. -/
def Missed : IpAddr → Prop
  | .v4 address => ThisNetwork address
  | .v6 address =>
    match address.toIpv4Mapped with
    | some mapped => ThisNetwork mapped
    | none => address.isLoopback = false ∧ address.isUnspecified = false ∧
        ∃ embedded, Embeds address embedded ∧ Reserved embedded

/-- Of the reserved blocks only the first is let through, without its first address. -/
theorem thisNetwork_iff (address : Ipv4Addr) :
    ThisNetwork address ↔ isPublicIpv4 address = true ∧ Reserved address := by
  unfold ThisNetwork isPublicIpv4
  simp only [Ipv4Addr.isPrivate, Ipv4Addr.isLoopback, Ipv4Addr.isLinkLocal,
    Ipv4Addr.isDocumentation, Ipv4Addr.isMulticast]
  constructor
  · rintro ⟨zero, differs⟩
    have last : address.isBroadcast = false := by
      rw [Ipv4Addr.isBroadcast, beq_eq_false_iff_ne]
      rintro rfl
      cases zero
    refine ⟨?_, .inl zero⟩
    rw [zero, differs, last]
    rfl
  · rintro ⟨checked, reserved⟩
    simp only [Bool.and_eq_true, Bool.not_eq_true', Bool.or_eq_false_iff, Bool.and_eq_false_iff,
      beq_eq_false_iff_ne, decide_eq_false_iff_not, decide_eq_true_eq] at checked
    obtain ⟨⟨⟨⟨⟨⟨⟨⟨⟨⟨privates, loopback⟩, link⟩, _⟩, documentation⟩, some⟩, multicast⟩, shared⟩, protocols⟩,
      benchmark⟩, future⟩ := checked
    refine ⟨?_, some⟩
    unfold Reserved at reserved
    simp only [UInt8.le_iff_toNat_le, UInt8.lt_iff_toNat_lt] at *
    rcases reserved with zero | reserved
    · exact zero
    · exfalso
      grind

/-- An address that embeds another is in none of the wide blocks. -/
theorem Embeds.narrow {address : Ipv6Addr} {embedded : Ipv4Addr} (embeds : Embeds address embedded) :
    address.isMulticast = false ∧ address.isUniqueLocal = false ∧
      address.isUnicastLinkLocal = false ∧ isIpv6Documentation address = false := by
  have first : address.s0 = 0 ∨ address.s0 = 0x2002 ∨ address.s0 = 0x64 := by
    cases embeds <;> simp
  unfold Ipv6Addr.isMulticast Ipv6Addr.isUniqueLocal Ipv6Addr.isUnicastLinkLocal isIpv6Documentation
  rcases first with same | same | same <;> rw [same] <;>
    exact ⟨by decide, by decide, by decide, rfl⟩

theorem Embeds.special {address : Ipv6Addr} {embedded : Ipv4Addr} (embeds : Embeds address embedded) :
    Special address ↔ address.isLoopback = true ∨ address.isUnspecified = true := by
  obtain ⟨multicast, unique, link, documentation⟩ := embeds.narrow
  simp [Special, multicast, unique, link, documentation]

/-- A mapped address is in no special block and embeds one address. -/
theorem mapped_parts {address : Ipv6Addr} {mapped : Ipv4Addr}
    (found : address.toIpv4Mapped = some mapped) :
    ¬Special address ∧ ∀ embedded, Embeds address embedded ↔ embedded = mapped := by
  unfold Ipv6Addr.toIpv4Mapped at found
  split at found
  · rename_i form
    obtain ⟨s0, s1, s2, s3, s4, s5, s6, s7⟩ := address
    obtain ⟨rfl, rfl, rfl, rfl, rfl, rfl⟩ := form
    cases found
    have embeds := Embeds.mapped s6 s7
    constructor
    · rw [embeds.special]
      simp [Ipv6Addr.isLoopback, Ipv6Addr.isUnspecified]
    · intro embedded
      constructor
      · intro also
        cases also
        rfl
      · rintro rfl
        exact embeds
  · cases found

/-- The check lets through exactly these of the addresses that are not public. -/
theorem missed_iff (address : IpAddr) :
    Missed address ↔ isPublicIp address = true ∧ NonPublic address := by
  cases address with
  | v4 address => exact thisNetwork_iff address
  | v6 address =>
    unfold Missed isPublicIp NonPublic
    dsimp only
    cases found : address.toIpv4Mapped with
    | some mapped =>
      obtain ⟨plain, only⟩ := mapped_parts found
      dsimp only
      rw [thisNetwork_iff]
      constructor
      · rintro ⟨checked, reserved⟩
        exact ⟨checked, .inr ⟨mapped, (only mapped).mpr rfl, reserved⟩⟩
      · rintro ⟨checked, special | ⟨embedded, embeds, reserved⟩⟩
        · exact absurd special plain
        · exact ⟨checked, (only embedded).mp embeds ▸ reserved⟩
    | none =>
      have blocks : ¬Special address ↔ (!address.isLoopback && !address.isUnspecified
          && !address.isMulticast && !address.isUniqueLocal && !address.isUnicastLinkLocal
          && !isIpv6Documentation address) = true := by
        simp [Special, and_assoc]
      dsimp only
      rw [← blocks]
      constructor
      · rintro ⟨loopback, unspecified, embedded, embeds, reserved⟩
        refine ⟨?_, .inr ⟨embedded, embeds, reserved⟩⟩
        rw [embeds.special, loopback, unspecified]
        simp
      · rintro ⟨plain, special | ⟨embedded, embeds, reserved⟩⟩
        · exact absurd special plain
        · refine ⟨?_, ?_, embedded, embeds, reserved⟩
          · exact Bool.eq_false_iff.mpr fun own => plain (.inl own)
          · exact Bool.eq_false_iff.mpr fun none => plain (.inr (.inl none))

/-! ## Requests -/

/-- The client connects to the addresses it is pinned to. -/
def Network.Pins (network : Network) : Prop :=
  ∀ count url pinned, ∀ address ∈ network.connect count url pinned, address ∈ pinned

/-- A request for a host and a port of the policy, pinned to the checked answer of the resolver. -/
structure Guarded (policy : RemoteInputPolicy) (network : Network) (request : Request) : Prop where
  answered : ∃ host port, request.url.hostStr = some host ∧
    request.url.portOrKnownDefault = some port ∧
    (policy.allowedHosts = [] ∨ asciiLowercase host ∈ policy.allowedHosts) ∧
    port ∈ policy.allowedPorts ∧
    network.lookupHost request.count host port = some request.pinned
  validated : ∀ address ∈ request.pinned, isPublicIp address.ip = true
  pinned : ∀ address ∈ request.contacted, address ∈ request.pinned

open Outcome

theorem required_ok {α : Type} {value : Option α} {message : String} {result : α} :
    required value message = .ok result ↔ value = some result := by
  cases value <;> simp [required]

theorem prepare_guarded {count : Nat} {url : Url} {pinned : List SocketAddr}
    (off : fetcher.policy.allowPrivateNetworks = false) (pins : network.Pins)
    (prepared : fetcher.prepare network count url = .ok pinned) :
    Guarded fetcher.policy network (RemoteImageFetcher.request network count url pinned) := by
  obtain ⟨_, checked, resolved⟩ := bind_ok.mp prepared
  unfold validateUrl at checked
  unfold pinnedClient at resolved
  simp only [bind_ok, failIf_ok, required_ok] at checked resolved
  obtain ⟨_, _, _, _, _, named, _, permitted, port, known, open_port⟩ := checked
  obtain ⟨host, present, port', known', addresses, answer, _, _, _, validated, _, _, last⟩ := resolved
  cases last
  obtain rfl := Option.some.inj (known.symm.trans known')
  rw [present] at named
  cases named
  refine ⟨⟨host, port, present, known, ?_, by simpa using open_port, answer⟩, ?_, ?_⟩
  · by_cases any : fetcher.policy.allowedHosts = []
    · exact .inl any
    · exact .inr (by simpa [any] using permitted)
  · intro address among
    have all : ∀ address ∈ pinned, isPublicIp address.ip = true := by
      simpa [off] using validated
    exact all address among
  · exact pins count url pinned

/-- What a round of the loop says of all its requests. The induction is on the rounds left. -/
theorem follow_guarded (off : fetcher.policy.allowPrivateNetworks = false) (pins : network.Pins)
    (left count : Nat) (url : Url) :
    (∀ request ∈ (fetcher.follow network left count url).2,
      Guarded fetcher.policy network request) ∧
    (fetcher.follow network left count url).2.length ≤ left := by
  induction left generalizing count url with
  | zero => exact ⟨nofun, Nat.le_refl _⟩
  | succ left ih =>
    unfold RemoteImageFetcher.follow
    cases prepared : fetcher.prepare network count url with
    | error e => exact ⟨nofun, Nat.zero_le _⟩
    | ok pinned =>
      have here := prepare_guarded off pins prepared
      dsimp only
      split
      · refine ⟨?_, Nat.succ_le_succ (Nat.zero_le _)⟩
        intro request among
        cases List.mem_singleton.mp among
        exact here
      · rename_i next _
        obtain ⟨later, short⟩ := ih (count + 1) next
        refine ⟨?_, Nat.succ_le_succ short⟩
        intro request among
        obtain rfl | among := List.mem_cons.mp among
        · exact here
        · exact later request among

theorem fetch_guarded (off : fetcher.policy.allowPrivateNetworks = false) (pins : network.Pins)
    (value : String) :
    (∀ request ∈ (fetcher.fetch network value).2, Guarded fetcher.policy network request) ∧
    (fetcher.fetch network value).2.length ≤ fetcher.policy.maxRedirects.toNat + 1 := by
  unfold RemoteImageFetcher.fetch
  split
  · exact ⟨nofun, Nat.zero_le _⟩
  · exact follow_guarded off pins ..

/-! ## Internal networks -/

/-- The requests of a fetch are guarded, bounded in number, and reach public addresses only. -/
structure Contained (policy : RemoteInputPolicy) (network : Network) (requests : List Request) :
    Prop where
  guarded : ∀ request ∈ requests, Guarded policy network request
  bounded : requests.length ≤ policy.maxRedirects.toNat + 1
  outside : ∀ request ∈ requests, ∀ address ∈ request.contacted, ¬NonPublic address.ip

/-- A fetch stays outside of internal networks if and only if no address it connects to is one of
those the check misses. -/
theorem contained_iff (fetcher : RemoteImageFetcher) (network : Network) (value : String)
    (off : fetcher.policy.allowPrivateNetworks = false) (pins : network.Pins) :
    Contained fetcher.policy network (fetcher.fetch network value).2 ↔
      ∀ request ∈ (fetcher.fetch network value).2, ∀ address ∈ request.contacted,
        ¬Missed address.ip := by
  obtain ⟨guarded, bounded⟩ := fetch_guarded off pins value
  constructor
  · intro contained request among address contacted missed
    exact contained.outside request among address contacted ((missed_iff _).mp missed).2
  · intro hits
    refine ⟨guarded, bounded, ?_⟩
    intro request among address contacted internal
    have here := guarded request among
    have checked := here.validated address (here.pinned address contacted)
    exact hits request among address contacted ((missed_iff _).mpr ⟨checked, internal⟩)

/-- A network in which one name resolves to one address, whose server does not answer. -/
def namedNetwork (ip : IpAddr) : Network where
  parse := fun _ => some ⟨"https", "", none, some "cdn.example", none, "/image.png"⟩
  join := fun _ _ => none
  lookupHost := fun _ _ port => some [⟨ip, port⟩]
  build := fun _ _ => true
  connect := fun _ _ pinned => pinned
  respond := fun _ _ _ => none

def noDecoders : Inspect.Decoders where
  imageType := fun _ => none
  blobSize := fun _ => none
  decode := fun _ _ _ => none
  sha256 := fun _ => ""

def defaultFetcher : RemoteImageFetcher where
  policy := { enabled := true }
  limits := .default
  decoders := noDecoders

/-- The one request for an address. -/
def namedRequest (ip : IpAddr) : Request where
  count := 0
  url := ⟨"https", "", none, some "cdn.example", none, "/image.png"⟩
  pinned := [⟨ip, 443⟩]
  contacted := [⟨ip, 443⟩]

theorem namedNetwork_pins (ip : IpAddr) : (namedNetwork ip).Pins :=
  fun _ _ _ _ among => among

theorem public_contained :
    Contained defaultFetcher.policy (namedNetwork (.v4 ⟨93, 184, 216, 34⟩))
      (defaultFetcher.fetch (namedNetwork (.v4 ⟨93, 184, 216, 34⟩))
        "https://cdn.example/image.png").2 := by
  have sent : (defaultFetcher.fetch (namedNetwork (.v4 ⟨93, 184, 216, 34⟩))
      "https://cdn.example/image.png").2 = [namedRequest (.v4 ⟨93, 184, 216, 34⟩)] := rfl
  refine (contained_iff defaultFetcher _ _ rfl (namedNetwork_pins _)).mpr ?_
  rw [sent]
  intro request among address contacted missed
  cases List.mem_singleton.mp among
  cases List.mem_singleton.mp contacted
  exact absurd missed.1 (by decide)

/-- A name that resolves to `64:ff9b::10.0.0.1` passes the checks. -/
theorem translated_reached : ∃ (fetcher : RemoteImageFetcher) (network : Network) (value : String),
    fetcher.policy.allowPrivateNetworks = false ∧ network.Pins ∧
      ¬Contained fetcher.policy network (fetcher.fetch network value).2 := by
  refine ⟨defaultFetcher, namedNetwork (.v6 ⟨0x64, 0xFF9B, 0, 0, 0, 0, 0x0A00, 1⟩),
    "https://cdn.example/image.png", rfl, namedNetwork_pins _, ?_⟩
  have sent : (defaultFetcher.fetch (namedNetwork (.v6 ⟨0x64, 0xFF9B, 0, 0, 0, 0, 0x0A00, 1⟩))
      "https://cdn.example/image.png").2 =
      [namedRequest (.v6 ⟨0x64, 0xFF9B, 0, 0, 0, 0, 0x0A00, 1⟩)] := rfl
  rw [sent]
  intro contained
  refine contained.outside _ (List.mem_singleton.mpr rfl) _ (List.mem_singleton.mpr rfl) (.inr ?_)
  exact ⟨_, .nat64 0x0A00 1, .inr (.inl (by decide))⟩

end ImagegenBridge.Remote
