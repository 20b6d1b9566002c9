import TriAI.Storage.Calls

/-!
Contract: the addresses a download may contact (`SafeResolver`, `is_globally_routable`).

Owns: addresses with the ranges of `std::net` that the code asks for; the filter of addresses;
the resolver, which answers only with addresses that pass it; the standard embeddings of an
IPv4 address into IPv6; and which of them the filter sees through.

Does not own: name resolution itself, and the connection.

The filter looks into an IPv4-mapped address only. The other embeddings of a private address
pass as public IPv6 addresses, which is the defect.
-/

set_option autoImplicit false

namespace TriAI.Download

open TriAI.Storage

/-! ## Addresses -/

/-- `Ipv4Addr`, by its octets. -/
structure Ipv4Addr where
  a : UInt8
  b : UInt8
  c : UInt8
  d : UInt8
deriving DecidableEq, Repr

/-- `Ipv6Addr`, by its segments. -/
structure Ipv6Addr where
  s0 : UInt16
  s1 : UInt16
  s2 : UInt16
  s3 : UInt16
  s4 : UInt16
  s5 : UInt16
  s6 : UInt16
  s7 : UInt16
deriving DecidableEq, Repr

inductive IpAddr where
  | v4 (ip : Ipv4Addr)
  | v6 (ip : Ipv6Addr)
deriving DecidableEq, Repr

structure SocketAddr where
  ip : IpAddr
  port : UInt16
deriving DecidableEq, Repr

/-- The segment with these octets. -/
def segment (high low : UInt8) : UInt16 := UInt16.ofNat (high.toNat * 256 + low.toNat)

def highOctet (segment : UInt16) : UInt8 := UInt8.ofNat (segment.toNat / 256)

def lowOctet (segment : UInt16) : UInt8 := UInt8.ofNat segment.toNat

private theorem toNat_segment (high low : UInt8) :
    (segment high low).toNat = high.toNat * 256 + low.toNat := by
  have highLt := high.toNat_lt
  have lowLt := low.toNat_lt
  exact UInt16.toNat_ofNat_of_lt' (by unfold UInt16.size; omega)

@[simp] theorem highOctet_segment (high low : UInt8) : highOctet (segment high low) = high := by
  have lowLt := low.toNat_lt
  have quotient : (high.toNat * 256 + low.toNat) / 256 = high.toNat := by omega
  unfold highOctet
  rw [toNat_segment, quotient, UInt8.ofNat_toNat]

@[simp] theorem lowOctet_segment (high low : UInt8) : lowOctet (segment high low) = low := by
  have lowLt := low.toNat_lt
  have remainder : (high.toNat * 256 + low.toNat) % 256 = low.toNat := by omega
  unfold lowOctet
  rw [toNat_segment, ← UInt8.toNat_inj, UInt8.toNat_ofNat', remainder]

theorem segment_inj {high low high' low' : UInt8} :
    segment high low = segment high' low' ↔ high = high' ∧ low = low' := by
  constructor
  · intro same
    exact ⟨by simpa using congrArg highOctet same, by simpa using congrArg lowOctet same⟩
  · intro same
    rw [same.1, same.2]

namespace Ipv4Addr

variable (ip : Ipv4Addr)

def isPrivate : Bool :=
  ip.a = 10 ∨ (ip.a = 172 ∧ 16 ≤ ip.b ∧ ip.b ≤ 31) ∨ (ip.a = 192 ∧ ip.b = 168)

def isLoopback : Bool := ip.a = 127

def isLinkLocal : Bool := ip.a = 169 ∧ ip.b = 254

def isBroadcast : Bool := ip = ⟨255, 255, 255, 255⟩

def isDocumentation : Bool :=
  (ip.a = 192 ∧ ip.b = 0 ∧ ip.c = 2) ∨ (ip.a = 198 ∧ ip.b = 51 ∧ ip.c = 100) ∨
    (ip.a = 203 ∧ ip.b = 0 ∧ ip.c = 113)

def isUnspecified : Bool := ip = ⟨0, 0, 0, 0⟩

def isMulticast : Bool := 224 ≤ ip.a ∧ ip.a ≤ 239

/-- The text of an address. -/
def display : String :=
  ".".intercalate ([ip.a, ip.b, ip.c, ip.d].map fun octet => toString octet.toNat)

end Ipv4Addr

namespace Ipv6Addr

variable (ip : Ipv6Addr)

def isLoopback : Bool := ip = ⟨0, 0, 0, 0, 0, 0, 0, 1⟩

def isUnspecified : Bool := ip = ⟨0, 0, 0, 0, 0, 0, 0, 0⟩

def isMulticast : Bool := ip.s0 &&& 0xff00 = 0xff00

/-- `to_ipv4_mapped`. -/
def toIpv4Mapped : Option Ipv4Addr :=
  if ip.s0 = 0 ∧ ip.s1 = 0 ∧ ip.s2 = 0 ∧ ip.s3 = 0 ∧ ip.s4 = 0 ∧ ip.s5 = 0xffff then
    some ⟨highOctet ip.s6, lowOctet ip.s6, highOctet ip.s7, lowOctet ip.s7⟩
  else none

def segments : List UInt16 := [ip.s0, ip.s1, ip.s2, ip.s3, ip.s4, ip.s5, ip.s6, ip.s7]

/-- The first of the longest runs of zeros: where it begins and how long it is. -/
def longestZeros : Nat × Nat :=
  (List.range 8).foldl (fun best start =>
    let length := ((ip.segments.drop start).takeWhile (· = 0)).length
    if best.2 < length then (start, length) else best) (0, 0)

def hexText (segments : List UInt16) : String :=
  ":".intercalate (segments.map fun segment => String.ofList (Nat.toDigits 16 segment.toNat))

/-- The text of an address: the longest run of at least two zeros is left out. -/
def display : String :=
  match ip.toIpv4Mapped with
  | some v4 => "::ffff:" ++ v4.display
  | none =>
      let (start, length) := ip.longestZeros
      if 1 < length then
        hexText (ip.segments.take start) ++ "::" ++ hexText (ip.segments.drop (start + length))
      else hexText ip.segments

end Ipv6Addr

def IpAddr.display : IpAddr → String
  | .v4 ip => ip.display
  | .v6 ip => ip.display

/-! ## The filter -/

/-- `ipv4_is_globally_routable`. -/
def ipv4IsGloballyRoutable (ip : Ipv4Addr) : Bool :=
  if ip.isPrivate || ip.isLoopback || ip.isLinkLocal || ip.isBroadcast || ip.isDocumentation ||
      ip.isUnspecified || ip.isMulticast then false
  else if ip.a = 0 then false
  else if ip.a = 100 ∧ 64 ≤ ip.b ∧ ip.b ≤ 127 then false
  else if ip.a = 192 ∧ ip.b = 0 ∧ ip.c = 0 then false
  else if ip.a = 192 ∧ ip.b = 88 ∧ ip.c = 99 then false
  else if ip.a = 198 ∧ (ip.b = 18 ∨ ip.b = 19) then false
  else if 240 ≤ ip.a then false
  else true

/-- `ipv6_is_globally_routable`. -/
def ipv6IsGloballyRoutable (ip : Ipv6Addr) : Bool :=
  if ip.isLoopback || ip.isUnspecified || ip.isMulticast then false
  else
    match ip.toIpv4Mapped with
    | some v4 => ipv4IsGloballyRoutable v4
    | none =>
        if ip.s0 &&& 0xffc0 = 0xfe80 then false
        else if ip.s0 &&& 0xfe00 = 0xfc00 then false
        else if ip.s0 = 0x2001 ∧ ip.s1 = 0x0db8 then false
        else true

/-- `is_globally_routable`. -/
def isGloballyRoutable : IpAddr → Bool
  | .v4 ip => ipv4IsGloballyRoutable ip
  | .v6 ip => ipv6IsGloballyRoutable ip

/-- `SafeResolver::resolve`, given what the name resolution answers. -/
def SafeResolver.resolve (netloc : String) (answer : Except IoFailure (List SocketAddr)) :
    Except IoFailure (List SocketAddr) :=
  match answer with
  | .error error => .error error
  | .ok addrs =>
      if addrs = [] then
        .error ⟨.notFound, some ("keine Adresse fuer '" ++ netloc ++ "' aufloesbar")⟩
      else
        match addrs.find? fun addr => !isGloballyRoutable addr.ip with
        | some addr =>
            .error ⟨.other "PermissionDenied", some ("Ziel '" ++ netloc ++
              "' loest auf die nicht-oeffentliche Adresse " ++ addr.ip.display ++
              " auf (SSRF-Schutz)")⟩
        | none => .ok addrs

theorem SafeResolver.resolve_eq_ok {netloc : String} {answer : Except IoFailure (List SocketAddr)}
    {addrs : List SocketAddr} :
    SafeResolver.resolve netloc answer = .ok addrs ↔
      answer = .ok addrs ∧ addrs ≠ [] ∧ ∀ addr ∈ addrs, isGloballyRoutable addr.ip = true := by
  unfold SafeResolver.resolve
  cases answer with
  | error error => simp
  | ok found =>
      by_cases empty : found = []
      · subst empty
        simp only [if_true, reduceCtorEq, false_iff]
        rintro ⟨same, nonempty, _⟩
        exact nonempty (Except.ok.inj same).symm
      · simp only [if_neg empty]
        cases refused : found.find? fun addr => !isGloballyRoutable addr.ip with
        | some addr =>
            have isRefused := List.find?_some refused
            have member := List.mem_of_find?_eq_some refused
            simp only [reduceCtorEq, false_iff]
            rintro ⟨same, _, routable⟩
            obtain rfl := Except.ok.inj same
            rw [routable addr member] at isRefused
            cases isRefused
        | none =>
            have routable := List.find?_eq_none.mp refused
            constructor
            · intro same
              obtain rfl := Except.ok.inj same
              exact ⟨rfl, empty, fun addr member => by simpa using routable addr member⟩
            · exact fun accepted => accepted.1

/-! ## Embeddings -/

/-- The standard embeddings of IPv4 addresses into IPv6. A 6to4 prefix leaves five segments
free. -/
inductive Embedding where
  /-- `::ffff:a.b.c.d`. -/
  | mapped
  /-- `::a.b.c.d`. -/
  | compatible
  /-- `64:ff9b::a.b.c.d`. -/
  | nat64
  /-- `2002:ab:cd:…`. -/
  | sixToFour (s3 s4 s5 s6 s7 : UInt16)
deriving DecidableEq

def Embedding.embed (embedding : Embedding) (ip : Ipv4Addr) : Ipv6Addr :=
  let high := segment ip.a ip.b
  let low := segment ip.c ip.d
  match embedding with
  | .mapped => ⟨0, 0, 0, 0, 0, 0xffff, high, low⟩
  | .compatible => ⟨0, 0, 0, 0, 0, 0, high, low⟩
  | .nat64 => ⟨0x64, 0xff9b, 0, 0, 0, 0, high, low⟩
  | .sixToFour s3 s4 s5 s6 s7 => ⟨0x2002, high, low, s3, s4, s5, s6, s7⟩

/-- The filter rejects a mapped address as it does the address itself. -/
theorem ipv6_mapped (ip : Ipv4Addr) :
    ipv6IsGloballyRoutable (Embedding.mapped.embed ip) = ipv4IsGloballyRoutable ip := by
  simp [ipv6IsGloballyRoutable, Embedding.embed, Ipv6Addr.isLoopback, Ipv6Addr.isUnspecified,
    Ipv6Addr.isMulticast, Ipv6Addr.toIpv4Mapped]

/-- Of the addresses `::a.b.c.d` the filter rejects `::` and `::1`. -/
theorem ipv6_compatible (ip : Ipv4Addr) :
    ipv6IsGloballyRoutable (Embedding.compatible.embed ip) = false ↔
      ip = ⟨0, 0, 0, 0⟩ ∨ ip = ⟨0, 0, 0, 1⟩ := by
  obtain ⟨a, b, c, d⟩ := ip
  have byFirst : ipv6IsGloballyRoutable (Embedding.compatible.embed ⟨a, b, c, d⟩) = false ↔
      (segment a b = 0 ∧ segment c d = 1) ∨ (segment a b = 0 ∧ segment c d = 0) := by
    simp [ipv6IsGloballyRoutable, Embedding.embed, Ipv6Addr.isLoopback, Ipv6Addr.isUnspecified,
      Ipv6Addr.isMulticast, Ipv6Addr.toIpv4Mapped]
    by_cases loopback : segment a b = 0 ∧ segment c d = 1
    · simp [loopback]
    · have notLoopback : ¬ segment a b = 0 ∨ ¬ segment c d = 1 := not_and_or.mp loopback
      simp only [notLoopback, loopback, true_imp_iff, false_or]
  have zero : (0 : UInt16) = segment 0 0 := by decide
  have one : (1 : UInt16) = segment 0 1 := by decide
  rw [byFirst, one, zero, segment_inj, segment_inj, segment_inj, Ipv4Addr.mk.injEq,
    Ipv4Addr.mk.injEq]
  constructor
  · intro either
    rcases either with ⟨⟨isA, isB⟩, isC, isD⟩ | ⟨⟨isA, isB⟩, isC, isD⟩
    · exact .inr ⟨isA, isB, isC, isD⟩
    · exact .inl ⟨isA, isB, isC, isD⟩
  · intro either
    rcases either with ⟨isA, isB, isC, isD⟩ | ⟨isA, isB, isC, isD⟩
    · exact .inr ⟨⟨isA, isB⟩, isC, isD⟩
    · exact .inl ⟨⟨isA, isB⟩, isC, isD⟩

/-- The other embeddings pass the filter, whatever the address. -/
theorem ipv6_nat64 (ip : Ipv4Addr) :
    ipv6IsGloballyRoutable (Embedding.nat64.embed ip) = true := by
  have multicast : ¬ (0x64 : UInt16) &&& 0xff00 = 0xff00 := by decide
  have linkLocal : ¬ (0x64 : UInt16) &&& 0xffc0 = 0xfe80 := by decide
  have uniqueLocal : ¬ (0x64 : UInt16) &&& 0xfe00 = 0xfc00 := by decide
  simp [ipv6IsGloballyRoutable, Embedding.embed, Ipv6Addr.isLoopback, Ipv6Addr.isUnspecified,
    Ipv6Addr.isMulticast, Ipv6Addr.toIpv4Mapped, multicast, linkLocal, uniqueLocal]

theorem ipv6_sixToFour (ip : Ipv4Addr) (s3 s4 s5 s6 s7 : UInt16) :
    ipv6IsGloballyRoutable ((Embedding.sixToFour s3 s4 s5 s6 s7).embed ip) = true := by
  have multicast : ¬ (0x2002 : UInt16) &&& 0xff00 = 0xff00 := by decide
  have linkLocal : ¬ (0x2002 : UInt16) &&& 0xffc0 = 0xfe80 := by decide
  have uniqueLocal : ¬ (0x2002 : UInt16) &&& 0xfe00 = 0xfc00 := by decide
  simp [ipv6IsGloballyRoutable, Embedding.embed, Ipv6Addr.isLoopback, Ipv6Addr.isUnspecified,
    Ipv6Addr.isMulticast, Ipv6Addr.toIpv4Mapped, multicast, linkLocal, uniqueLocal]

/-- The embedded address is rejected, and the resolver never returns it. -/
def Rejects (ip : Ipv6Addr) : Prop :=
  isGloballyRoutable (.v6 ip) = false ∧
    ∀ netloc answer addrs port, SafeResolver.resolve netloc answer = .ok addrs →
      ⟨.v6 ip, port⟩ ∉ addrs

theorem rejects_iff {ip : Ipv6Addr} : Rejects ip ↔ ipv6IsGloballyRoutable ip = false := by
  constructor
  · exact fun rejects => rejects.1
  · intro rejected
    refine ⟨rejected, ?_⟩
    intro netloc answer addrs port resolved member
    have routable := (SafeResolver.resolve_eq_ok.mp resolved).2.2 _ member
    rw [isGloballyRoutable, rejected] at routable
    cases routable

/-- A rejected IPv4 address is rejected in an embedding exactly if the embedding is the mapped
one, or it is one of the two addresses that are `::` and `::1`. -/
theorem embedded_rejected_iff {ip : Ipv4Addr} (rejected : ipv4IsGloballyRoutable ip = false)
    (embedding : Embedding) :
    Rejects (embedding.embed ip) ↔
      embedding = .mapped ∨
        (embedding = .compatible ∧ (ip = ⟨0, 0, 0, 0⟩ ∨ ip = ⟨0, 0, 0, 1⟩)) := by
  rw [rejects_iff]
  cases embedding with
  | mapped => simp [ipv6_mapped, rejected]
  | compatible => simp [ipv6_compatible]
  | nat64 => simp [ipv6_nat64]
  | sixToFour s3 s4 s5 s6 s7 => simp [ipv6_sixToFour]

/-- The address of the metadata service in its embeddings. -/
theorem embedded_rejected_linkLocal :
    ipv4IsGloballyRoutable ⟨169, 254, 169, 254⟩ = false ∧
      (Rejects (Embedding.nat64.embed ⟨169, 254, 169, 254⟩) ↔
        Embedding.nat64 = .mapped ∨ (Embedding.nat64 = .compatible ∧
          ((⟨169, 254, 169, 254⟩ : Ipv4Addr) = ⟨0, 0, 0, 0⟩ ∨
            (⟨169, 254, 169, 254⟩ : Ipv4Addr) = ⟨0, 0, 0, 1⟩))) :=
  ⟨by decide, embedded_rejected_iff (by decide) .nat64⟩

/-- The loopback address passes the filter by way of NAT64. -/
theorem embedded_not_rejected :
    ¬ ∀ (ip : Ipv4Addr) (embedding : Embedding), ipv4IsGloballyRoutable ip = false →
      Rejects (embedding.embed ip) := by
  intro always
  have rejects := always ⟨127, 0, 0, 1⟩ .nat64 (by decide)
  rw [rejects_iff, ipv6_nat64] at rejects
  cases rejects

end TriAI.Download
