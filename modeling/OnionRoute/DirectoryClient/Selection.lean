import Mathlib.Data.List.MinMax
import OnionRoute.DirectoryClient.Verification

/-! The choice of a route from a verified directory, role by role and by score. -/

namespace OnionRoute.DirectoryClient

open Library
open CommonTypes (GatewayRole)

structure LocalFailure where
  gatewayId : String
  failureCount : UInt8
  lastFailureAt : ℤ

structure SelectionInput where
  directory : DirectoryDocument
  selectedCountry : Option String
  profile : AnonymityProfile
  clientVersion : String
  protocolVersion : String
  requiredCapabilities : List String
  recentFailures : List LocalFailure
  now : ℤ
  sessionSeed : Vector UInt8 32

inductive SelectionError
  | invalidClientVersion
  | countryUnavailable
  | noCompatibleRoute
  deriving DecidableEq

structure SelectedGateway where
  role : GatewayRole
  gateway : GatewayRecord
  deriving DecidableEq

def requestedRoles : AnonymityProfile → List GatewayRole
  | .standard => [.exit]
  | .enhanced => [.entry, .exit]
  | .maximum => [.entry, .relay, .exit]
  | .directTor => []

def selectionOrder : AnonymityProfile → List GatewayRole
  | .standard => [.exit]
  | .enhanced => [.exit, .entry]
  | .maximum => [.exit, .entry, .relay]
  | .directTor => []

def saturatingSub (a b : ℤ) : ℤ := max (-2 ^ 63) (min (2 ^ 63 - 1) (a - b))

namespace SelectionInput

variable (input : SelectionInput)

def countryAvailable : Bool :=
  ∀ country ∈ input.selectedCountry, ∃ configured ∈ input.directory.countries,
    configured.countryCode = country ∧ configured.enabled ∧
      input.profile ∈ configured.supportedProfiles

def activeRevocations : List String :=
  (input.directory.revocations.filter fun revocation =>
    revocation.revokedAt ≤ input.now ∧ ∀ expires ∈ revocation.expiresAt, input.now < expires).map
    GatewayRevocation.gatewayId

def failureOf (gatewayId : String) : Option LocalFailure :=
  input.recentFailures.reverse.find? fun failure => failure.gatewayId = gatewayId

end SelectionInput

section

variable (ext : Externals) (input : SelectionInput)

def isEligible (clientVersion : ext.Version) (role : GatewayRole) (gateway : GatewayRecord) : Bool :=
  match ext.parseVersion gateway.minimumClientVersion with
  | none => false
  | some minimumClient =>
    gateway.role = role ∧ gateway.gatewayId ∉ input.activeRevocations ∧
      gateway.validFrom ≤ input.now ∧ input.now < gateway.validUntil ∧
      gateway.health ∈ [HealthState.healthy, .degraded] ∧ gateway.maintenanceState = .active ∧
      gateway.abuseState ≠ .blocked ∧ gateway.currentLoadBucket ≠ .saturated ∧
      input.protocolVersion ∈ gateway.supportedProtocolVersions ∧
      (∀ required ∈ input.requiredCapabilities, required ∈ gateway.capabilities) ∧
      ext.atLeast clientVersion minimumClient ∧
      ∀ country ∈ input.selectedCountry, role ≠ .exit ∨ gateway.countryCode = country

def loadScore : LoadBucket → ℕ
  | .low => 0
  | .medium => 100
  | .high => 300
  | .unknown => 500
  | .saturated => 100000

def healthScore : HealthState → ℕ
  | .healthy => 0
  | .degraded => 400
  | .unhealthy | .unknown => 100000

def capacityScore : CapacityBucket → ℕ
  | .large => 0
  | .medium => 20
  | .small => 40

def failureScore (gatewayId : String) : ℕ :=
  match input.failureOf gatewayId with
  | none => 0
  | some failure =>
    if saturatingSub input.now failure.lastFailureAt ≤ 30 * 60 then
      min failure.failureCount.toNat 8 * 750
    else 0

def roleByte : GatewayRole → UInt8
  | .entry => 1
  | .relay => 2
  | .exit => 3

def tieBreaker (role : GatewayRole) (gatewayId : String) : ℕ :=
  let digest := ext.sha256 (input.sessionSeed.toList ++ utf8 gatewayId ++ [roleByte role])
  (fromBe16 digest[0] digest[1]).toNat % 17

def providerCollisions (selected : List GatewayRecord) (gateway : GatewayRecord) : ℕ :=
  selected.countP fun other => other.providerGroup = gateway.providerGroup

def asCollisions (selected : List GatewayRecord) (gateway : GatewayRecord) : ℕ :=
  selected.countP fun other => other.autonomousSystem = gateway.autonomousSystem

def score (role : GatewayRole) (selected : List GatewayRecord) (gateway : GatewayRecord) : ℕ :=
  loadScore gateway.currentLoadBucket + healthScore gateway.health +
    capacityScore gateway.capacityBucket + providerCollisions selected gateway * 10000 +
    asCollisions selected gateway * 8000 + failureScore input gateway.gatewayId +
    tieBreaker ext input role gateway.gatewayId

def candidates (clientVersion : ext.Version) (role : GatewayRole) (selected : List GatewayRecord) :
    List GatewayRecord :=
  input.directory.gateways.filter fun gateway => isEligible ext input clientVersion role gateway ∧
    ∀ existing ∈ selected, existing.gatewayId ≠ gateway.gatewayId

def chooseGateways (clientVersion : ext.Version) :
    List GatewayRole → List GatewayRecord → Except SelectionError (List GatewayRecord)
  | [], selected => .ok selected
  | role :: rest, selected =>
    match (candidates ext input clientVersion role selected).argmin (score ext input role selected) with
    | none => .error .noCompatibleRoute
    | some candidate => chooseGateways clientVersion rest (selected ++ [candidate])

def arrange (selected : List GatewayRecord) :
    List GatewayRole → Except SelectionError (List SelectedGateway)
  | [] => .ok []
  | role :: rest => do
    match selected.find? fun gateway => gateway.role = role with
    | none => throw .noCompatibleRoute
    | some gateway => return ⟨role, gateway⟩ :: (← arrange selected rest)

def selectGatewayPlan : Except SelectionError (List SelectedGateway) := do
  match ext.parseVersion input.clientVersion with
  | none => throw .invalidClientVersion
  | some clientVersion =>
    if input.profile = .directTor then return []
    if ¬ input.countryAvailable then throw .countryUnavailable
    let selected ← chooseGateways ext input clientVersion (selectionOrder input.profile) []
    arrange selected (requestedRoles input.profile)

end

end OnionRoute.DirectoryClient
