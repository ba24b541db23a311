import OnionRoute.CommonTypes.Error
import OnionRoute.Library.Table
import OnionRoute.PacketEngine.Flow

/-! The cache of synthetic addresses. Times and durations are in nanoseconds. -/

namespace OnionRoute.DnsEngine

open Library CommonTypes
open PacketEngine (Ipv4Addr)

def syntheticFirst : ℕ := 0xc6120001
def syntheticLast : ℕ := 0xc613fffe
def poolSize : ℕ := syntheticLast - syntheticFirst + 1

structure SyntheticDnsConfig where
  maxEntries : ℕ := 4096
  ttl : ℕ := 30 * nanosPerSecond

def SyntheticDnsConfig.valid (config : SyntheticDnsConfig) : Prop :=
  0 < config.maxEntries ∧ config.maxEntries ≤ poolSize ∧ config.ttl ≠ 0 ∧
    config.ttl ≤ 60 * nanosPerSecond

instance (config : SyntheticDnsConfig) : Decidable config.valid :=
  inferInstanceAs (Decidable (_ ∧ _ ∧ _ ∧ _))

def dnsError (code : ErrorCode) (retry : RetryClass) (message : String) : OnionError :=
  ⟨.dns, code, .error, retry, .protected_, message⟩

structure Mapping where
  address : Ipv4Addr
  expiresAt : ℕ
  deriving DecidableEq

structure Cache where
  byName : Table String Mapping
  byIp : Table Ipv4Addr String
  lru : List String
  nextAddress : ℕ

namespace Cache

def default : Cache := ⟨∅, ∅, [], syntheticFirst⟩

def remove (c : Cache) (name : String) : Cache :=
  match c.byName.lookup name with
  | none => c
  | some mapping =>
    { c with byName := c.byName.erase name, byIp := c.byIp.erase mapping.address }

def forget (c : Cache) (name : String) : Cache :=
  { c.remove name with lru := c.lru.filter (· ≠ name) }

def purgeExpired (now : ℕ) (c : Cache) : Cache :=
  let expired := (c.byName.entries.filter fun e => e.2.expiresAt ≤ now).map Sigma.fst
  expired.foldl forget c

def touch (hostname : String) (c : Cache) : Cache :=
  { c with lru := c.lru.filter (· ≠ hostname) ++ [hostname] }

def lookupHostname (now : ℕ) (address : Ipv4Addr) (c : Cache) : Option String × Cache :=
  let c := c.purgeExpired now
  match c.byIp.lookup address with
  | none => (none, c)
  | some hostname => (some hostname, c.touch hostname)

def addressOf (raw : ℕ) : Ipv4Addr :=
  ⟨UInt8.ofNat (raw / 16777216), UInt8.ofNat (raw / 65536), UInt8.ofNat (raw / 256), UInt8.ofNat raw⟩

def nextAfter (raw : ℕ) : ℕ := if syntheticLast ≤ raw then syntheticFirst else raw + 1

def Free (byIp : Table Ipv4Addr String) (address : Ipv4Addr) : Prop :=
  address.d ≠ 0 ∧ address.d ≠ 255 ∧ byIp.contains address = false

instance (byIp : Table Ipv4Addr String) (address : Ipv4Addr) : Decidable (Free byIp address) :=
  inferInstanceAs (Decidable (_ ∧ _ ∧ _))

def probe (byIp : Table Ipv4Addr String) : ℕ → ℕ → Option Ipv4Addr × ℕ
  | 0, next => (none, next)
  | left + 1, next =>
    if Free byIp (addressOf next) then (some (addressOf next), nextAfter next)
    else probe byIp left (nextAfter next)

def allocateAddress (c : Cache) : Option Ipv4Addr × Cache :=
  let (address, next) := probe c.byIp poolSize c.nextAddress
  (address, { c with nextAddress := next })

def evictOldest (maxEntries : ℕ) (c : Cache) : List String → Cache
  | [] => { c with lru := [] }
  | oldest :: rest =>
    if maxEntries ≤ c.byName.size then evictOldest maxEntries (c.remove oldest) rest
    else { c with lru := oldest :: rest }

def makeRoom (config : SyntheticDnsConfig) (c : Cache) : Cache :=
  evictOldest config.maxEntries c c.lru

def poolExhausted : OnionError :=
  dnsError .backpressure .backoff "synthetic DNS address pool is exhausted"

def insertMapping (hostname : String) (mapping : Mapping) (c : Cache) : Cache :=
  { c with
    byIp := c.byIp.insert mapping.address hostname
    byName := c.byName.insert hostname mapping }

def getOrAllocate (config : SyntheticDnsConfig) (now : ℕ) (hostname : String) (c : Cache) :
    OnionResult Ipv4Addr × Cache :=
  let c := c.purgeExpired now
  match c.byName.lookup hostname with
  | some mapping => (.ok mapping.address, c.touch hostname)
  | none =>
    match (c.makeRoom config).allocateAddress with
    | (none, c) => (.error poolExhausted, c)
    | (some address, c) =>
      (.ok address, (c.insertMapping hostname ⟨address, now + config.ttl⟩).touch hostname)

end Cache

end OnionRoute.DnsEngine
