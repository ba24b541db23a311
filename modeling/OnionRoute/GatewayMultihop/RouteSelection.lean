import Mathlib.Data.String.Basic
import OnionRoute.GatewayMultihop.Handshake

/-! The choice of the exit gateway of an enhanced route. -/

namespace OnionRoute.GatewayMultihop

open Library
open GatewayProtocol (utf8Bytes)

inductive MaintenanceState
  | active
  | draining
  | maintenance
  deriving DecidableEq

inductive LoadBucket
  | low
  | medium
  | high
  | unknown
  | saturated
  deriving DecidableEq

def LoadBucket.rank : LoadBucket → ℕ
  | low => 0
  | medium => 1
  | high => 2
  | unknown => 3
  | saturated => 4

structure GatewayDescriptor where
  gatewayId : String
  role : GatewayRole
  countryCode : String
  providerId : String
  autonomousSystem : UInt32
  managementIdentity : String
  protocolVersions : List ProtocolVersion
  maintenance : MaintenanceState
  load : LoadBucket
  revoked : Bool
  deriving DecidableEq

structure RoutePolicy where
  exitCountry : String
  requiredVersion : ProtocolVersion
  maximumLoad : LoadBucket

def RoutePolicy.validate (policy : RoutePolicy) : Result Unit :=
  if policy.exitCountry.utf8ByteSize ≠ 2 ∨
      ¬ ((utf8Bytes policy.exitCountry).all fun byte => 0x41 ≤ byte ∧ byte ≤ 0x5a) ∨
      policy.requiredVersion.major = 0 ∨ policy.maximumLoad.rank ≥ LoadBucket.unknown.rank then
    throw .invalidConfiguration
  else pure ()

structure RecentFailure where
  gatewayId : String
  consecutiveFailures : UInt8

structure EnhancedRoute where
  entry : GatewayDescriptor
  exit : GatewayDescriptor
  protocolVersion : ProtocolVersion
  deriving DecidableEq

def validateGateway (gateway : GatewayDescriptor) (role : GatewayRole) (maximumLoad : LoadBucket) :
    Result Unit :=
  if gateway.role ≠ role ∨ gateway.gatewayId = "" ∨ gateway.providerId = "" ∨
      gateway.managementIdentity = "" ∨ gateway.autonomousSystem = 0 ∨ gateway.revoked ∨
      gateway.maintenance ≠ .active ∨ gateway.load.rank > maximumLoad.rank then
    throw .policyDenied
  else pure ()

def supports (gateway : GatewayDescriptor) (required : ProtocolVersion) : Bool :=
  gateway.protocolVersions.any (· = required)

def loadPenalty : LoadBucket → ℕ
  | .low => 0
  | .medium => 100
  | .high => 300
  | .unknown => 10000
  | .saturated => 100000

-- No sum of two penalties saturates.
def candidateScore (candidate : GatewayDescriptor) (failures : List RecentFailure) : ℕ :=
  let failure := (failures.find? fun item => item.gatewayId = candidate.gatewayId).elim 0
    fun item => min item.consecutiveFailures.toNat 8 * 1000
  loadPenalty candidate.load + failure

/-- `compare_candidates` compares by this key; strings by code points, as by their UTF-8 bytes. -/
def candidateKey (failures : List RecentFailure) (candidate : GatewayDescriptor) : ℕ ×ₗ String :=
  toLex (candidateScore candidate failures, candidate.gatewayId)

def candidates (entry : GatewayDescriptor) (exits : List GatewayDescriptor) (policy : RoutePolicy) :
    List GatewayDescriptor :=
  exits.filter (validateGateway · .exit policy.maximumLoad = .ok ())
    |>.filter (·.countryCode = policy.exitCountry)
    |>.filter (supports · policy.requiredVersion)
    |>.filter (·.providerId ≠ entry.providerId)
    |>.filter (·.autonomousSystem ≠ entry.autonomousSystem)
    |>.filter (·.managementIdentity ≠ entry.managementIdentity)

def selectEnhancedRoute (entry : GatewayDescriptor) (exits : List GatewayDescriptor)
    (policy : RoutePolicy) (recentFailures : List RecentFailure) : Result EnhancedRoute := do
  policy.validate
  validateGateway entry .entry policy.maximumLoad
  if ¬ supports entry policy.requiredVersion then throw .protocolIncompatible
  let selected ← okOr .policyDenied
    ((candidates entry exits policy).argmin (candidateKey recentFailures))
  pure ⟨entry, selected, policy.requiredVersion⟩

structure Usable (role : GatewayRole) (policy : RoutePolicy) (g : GatewayDescriptor) : Prop where
  role : g.role = role
  named : g.gatewayId ≠ "" ∧ g.providerId ≠ "" ∧ g.managementIdentity ≠ "" ∧ g.autonomousSystem ≠ 0
  available : g.revoked = false ∧ g.maintenance = .active ∧ g.load.rank ≤ policy.maximumLoad.rank
  version : policy.requiredVersion ∈ g.protocolVersions

structure Qualifies (entry : GatewayDescriptor) (policy : RoutePolicy) (exit : GatewayDescriptor) :
    Prop extends Usable .exit policy exit where
  country : exit.countryCode = policy.exitCountry
  provider : exit.providerId ≠ entry.providerId
  autonomousSystem : exit.autonomousSystem ≠ entry.autonomousSystem
  management : exit.managementIdentity ≠ entry.managementIdentity

variable {entry g : GatewayDescriptor} {exits exits' : List GatewayDescriptor}
  {policy : RoutePolicy} {failures : List RecentFailure} {role : GatewayRole}

lemma usable_iff : Usable role policy g ↔
    validateGateway g role policy.maximumLoad = .ok () ∧ supports g policy.requiredVersion = true := by
  simp only [validateGateway, ite_throw_eq_ok, supports, List.any_eq_true, decide_eq_true_eq,
    exists_eq_right, not_or, not_not, Bool.not_eq_true, not_lt, gt_iff_lt, and_true]
  constructor
  · rintro ⟨hrole, ⟨hid, hprovider, hmanagement, has⟩, ⟨hrevoked, hactive, hload⟩, hversion⟩
    exact ⟨⟨hrole, hid, hprovider, hmanagement, has, hrevoked, hactive, hload⟩, hversion⟩
  · rintro ⟨⟨hrole, hid, hprovider, hmanagement, has, hrevoked, hactive, hload⟩, hversion⟩
    exact ⟨hrole, ⟨hid, hprovider, hmanagement, has⟩, ⟨hrevoked, hactive, hload⟩, hversion⟩

lemma mem_candidates : g ∈ candidates entry exits policy ↔ g ∈ exits ∧ Qualifies entry policy g := by
  simp only [candidates, List.mem_filter, decide_eq_true_eq]
  constructor
  · rintro ⟨⟨⟨⟨⟨⟨hmem, hvalid⟩, hcountry⟩, hsupports⟩, hprovider⟩, has⟩, hmanagement⟩
    exact ⟨hmem, ⟨usable_iff.mpr ⟨hvalid, hsupports⟩, hcountry, hprovider, has, hmanagement⟩⟩
  · rintro ⟨hmem, ⟨husable, hcountry, hprovider, has, hmanagement⟩⟩
    obtain ⟨hvalid, hsupports⟩ := usable_iff.mp husable
    exact ⟨⟨⟨⟨⟨⟨hmem, hvalid⟩, hcountry⟩, hsupports⟩, hprovider⟩, has⟩, hmanagement⟩

lemma select_eq (hpolicy : policy.validate = .ok ()) (hentry : Usable .entry policy entry) :
    selectEnhancedRoute entry exits policy failures =
      (okOr .policyDenied ((candidates entry exits policy).argmin (candidateKey failures))).map
        fun selected => ⟨entry, selected, policy.requiredVersion⟩ := by
  obtain ⟨hvalid, hsupports⟩ := usable_iff.mp hentry
  simp only [selectEnhancedRoute, hpolicy, hvalid, hsupports]
  rfl

lemma argmin_of_perm {α κ : Type} [DecidableEq α] [LinearOrder κ] {f : α → κ} {l l' : List α}
    (h : l.Perm l') (hf : ∀ a ∈ l, ∀ b ∈ l, f a = f b → a = b) : l.argmin f = l'.argmin f := by
  cases hmin : l.argmin f with
  | none =>
    obtain rfl := List.argmin_eq_none.mp hmin
    obtain rfl := h.nil_eq
    rfl
  | some m =>
    obtain ⟨hm, hle, -⟩ := List.argmin_eq_some_iff.mp hmin
    have hle' : ∀ a ∈ l', f m ≤ f a := fun a ha => hle a (h.mem_iff.mpr ha)
    refine (List.argmin_eq_some_iff.mpr ⟨h.mem_iff.mp hm, hle', fun a ha ham => ?_⟩).symm
    rw [hf m hm a (h.mem_iff.mpr ha) ((hle' a ha).antisymm ham)]

theorem selectEnhancedRoute_least (hpolicy : policy.validate = .ok ())
    (hentry : Usable .entry policy entry) (hunique : (exits.map (·.gatewayId)).Nodup) :
    ((∃ route, selectEnhancedRoute entry exits policy failures = .ok route) ↔
      ∃ exit ∈ exits, Qualifies entry policy exit) ∧
    (∀ route, selectEnhancedRoute entry exits policy failures = .ok route →
      route.entry = entry ∧ route.protocolVersion = policy.requiredVersion ∧
        route.exit ∈ exits ∧ Qualifies entry policy route.exit ∧
        ∀ other ∈ exits, Qualifies entry policy other →
          candidateKey failures route.exit ≤ candidateKey failures other) ∧
    ∀ exits', exits.Perm exits' → selectEnhancedRoute entry exits' policy failures =
      selectEnhancedRoute entry exits policy failures := by
  rw [select_eq hpolicy hentry]
  refine ⟨?_, ?_, ?_⟩
  · cases hmin : (candidates entry exits policy).argmin (candidateKey failures) with
    | none =>
      have hnone := List.argmin_eq_none.mp hmin
      refine ⟨fun ⟨_, h⟩ => (by cases h), fun ⟨exit, hmem, hexit⟩ => ?_⟩
      have := hnone ▸ mem_candidates.mpr ⟨hmem, hexit⟩
      exact absurd this List.not_mem_nil
    | some selected =>
      exact ⟨fun _ => ⟨selected, mem_candidates.mp (List.argmin_mem hmin)⟩, fun _ => ⟨_, rfl⟩⟩
  · intro route h
    cases hmin : (candidates entry exits policy).argmin (candidateKey failures) with
    | none => rw [hmin] at h; cases h
    | some selected =>
      rw [hmin] at h
      cases h
      obtain ⟨hmem, hexit⟩ := mem_candidates.mp (List.argmin_mem hmin)
      exact ⟨rfl, rfl, hmem, hexit, fun other hother hqualifies =>
        List.le_of_mem_argmin (mem_candidates.mpr ⟨hother, hqualifies⟩) hmin⟩
  · intro exits' hperm
    have hids : ∀ g ∈ candidates entry exits policy, ∀ g' ∈ candidates entry exits policy,
        candidateKey failures g = candidateKey failures g' → g = g' := by
      intro g hg g' hg' hkey
      exact List.inj_on_of_nodup_map hunique (mem_candidates.mp hg).1 (mem_candidates.mp hg').1
        (Prod.mk.inj (toLex.injective hkey)).2
    have hfiltered : (candidates entry exits policy).Perm (candidates entry exits' policy) := by
      simp only [candidates, List.filter_filter]
      exact hperm.filter _
    rw [select_eq hpolicy hentry, argmin_of_perm hfiltered hids]

namespace Sample

def gateway (id : String) (role : GatewayRole) (provider : String) (asn : UInt32) :
    GatewayDescriptor where
  gatewayId := id
  role := role
  countryCode := "DE"
  providerId := provider
  autonomousSystem := asn
  managementIdentity := provider
  protocolVersions := [⟨1, 0⟩]
  maintenance := .active
  load := .low
  revoked := false

def germany : RoutePolicy := ⟨"DE", ⟨1, 0⟩, .high⟩

end Sample

open Sample

theorem selectEnhancedRoute_least_tie :
    (∃ route, selectEnhancedRoute (gateway "entry" .entry "a" 64501)
        [gateway "same" .exit "a" 64502, gateway "y" .exit "b" 64503, gateway "x" .exit "c" 64504]
        germany [⟨"z", 3⟩] = .ok route) ↔
      ∃ exit ∈ [gateway "same" .exit "a" 64502, gateway "y" .exit "b" 64503,
        gateway "x" .exit "c" 64504], Qualifies (gateway "entry" .entry "a" 64501) germany exit :=
  (selectEnhancedRoute_least (by decide) (usable_iff.mpr (by decide)) (by decide)).1

end OnionRoute.GatewayMultihop
