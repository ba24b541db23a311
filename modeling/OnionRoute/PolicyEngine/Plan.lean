import OnionRoute.CommonTypes.Error
import OnionRoute.CommonTypes.Gateway
import OnionRoute.Library.FirstFit

/-! The choice of a route: for each role in turn, the first gateway that may take it. -/

namespace OnionRoute.PolicyEngine

open Library CommonTypes GatewayDescriptor
open PacketEngine (AnonymityMode GatewayId)

def gatewayUnavailable : OnionError :=
  ⟨.policy, .gatewayUnavailable, .error, .afterDirectoryRefresh, .protected_,
    "no verified gateway satisfies route policy"⟩

def rolesOf : AnonymityMode → List GatewayRole
  | .standard => [.exit]
  | .enhanced => [.entry, .exit]
  | .maximum => [.entry, .relay, .exit]
  | .directTor => []

def Usable (constraints : RouteConstraints) (role : GatewayRole) (g : GatewayDescriptor) : Bool :=
  role ∈ g.roles ∧
    (∀ required ∈ constraints.requiredFeatures, required ∈ g.capabilities) ∧
    ∀ country ∈ constraints.exitCountry, role ≠ .exit ∨ g.country = country

def hop (role : GatewayRole) (g : GatewayDescriptor) : GatewayHop :=
  ⟨g.gatewayId, role, g.endpoint, g.tlsSpkiSha256⟩

def selectHops (directory : VerifiedGatewayDirectory) (constraints : RouteConstraints) :
    List GatewayRole → Finset GatewayId → List GatewayHop → OnionResult (List GatewayHop)
  | [], _, hops => .ok hops
  | role :: rest, selected, hops =>
    match directory.gateways.find? fun g =>
        Usable constraints role g && g.gatewayId ∉ selected with
    | none => .error gatewayUnavailable
    | some g =>
      selectHops directory constraints rest (insert g.gatewayId selected) (hops ++ [hop role g])

def selectPlan (directory : VerifiedGatewayDirectory) (constraints : RouteConstraints) :
    OnionResult GatewayPlan := do
  let hops ← selectHops directory constraints (rolesOf constraints.mode) ∅ []
  return ⟨constraints.mode, hops⟩

def IsAssignment (directory : VerifiedGatewayDirectory) (constraints : RouteConstraints)
    (gs : List GatewayDescriptor) : Prop :=
  List.Forall₂ (fun role g => g ∈ directory.gateways ∧ Usable constraints role g = true)
    (rolesOf constraints.mode) gs ∧ (gs.map GatewayDescriptor.gatewayId).Nodup

variable {directory : VerifiedGatewayDirectory} {constraints : RouteConstraints}

lemma selectHops_eq (roles : List GatewayRole) (selected : Finset GatewayId)
    (hops : List GatewayHop) : selectHops directory constraints roles selected hops =
      match firstFits directory.gateways (Usable constraints) gatewayId roles
        selected with
      | none => .error gatewayUnavailable
      | some gs => .ok (hops ++ List.zipWith hop roles gs) := by
  induction roles generalizing selected hops with
  | nil => simp [selectHops, firstFits]
  | cons role rest ih =>
    rw [selectHops, firstFits]
    change (match directory.gateways.find? (Open (Usable constraints) gatewayId
      selected role) with | none => _ | some g => _) = _
    cases directory.gateways.find?
      (Open (Usable constraints) gatewayId selected role) with
    | none => rfl
    | some g =>
      simp only [ih]
      cases firstFits directory.gateways (Usable constraints) gatewayId rest
        (insert g.gatewayId selected) <;> simp

lemma selectPlan_eq_ok {plan : GatewayPlan} : selectPlan directory constraints = .ok plan ↔
    ∃ gs, firstFits directory.gateways (Usable constraints) gatewayId
        (rolesOf constraints.mode) ∅ = some gs ∧
      plan = ⟨constraints.mode, List.zipWith hop (rolesOf constraints.mode) gs⟩ := by
  rw [selectPlan, selectHops_eq]
  cases firstFits directory.gateways (Usable constraints) gatewayId
    (rolesOf constraints.mode) ∅ with
  | none => simp [bind, Except.bind]
  | some gs => simp [bind, Except.bind, pure, Except.pure, eq_comm]

lemma assigns_iff_isAssignment {gs : List GatewayDescriptor} :
    Assigns directory.gateways (Usable constraints) gatewayId
      (rolesOf constraints.mode) ∅ gs ↔ IsAssignment directory constraints gs := by
  rw [assigns_iff, IsAssignment]
  simp

/-- The gateways in the directory that may take a role, in its order. -/
def candidates (directory : VerifiedGatewayDirectory) (constraints : RouteConstraints) :
    GatewayRole → List GatewayId :=
  names directory.gateways (Usable constraints) gatewayId

/-- There are distinct gateways for the roles, but none for the exit beside the first entry; in mode
Maximum, none for the relay beside it, or none for the exit beside it and the first such relay. -/
def Clashes (directory : VerifiedGatewayDirectory) (constraints : RouteConstraints) : Prop :=
  let entries := candidates directory constraints .entry
  let relays := candidates directory constraints .relay
  let exits := candidates directory constraints .exit
  match constraints.mode with
  | .standard | .directTor => False
  | .enhanced => (∃ entry ∈ entries, ∃ exit ∈ exits, exit ≠ entry) ∧
      ∃ first ∈ entries.head?, ∀ exit ∈ exits, exit = first
  | .maximum =>
    (∃ entry ∈ entries, ∃ relay ∈ relays, relay ≠ entry ∧ ∃ exit ∈ exits, exit ≠ relay ∧ exit ≠ entry) ∧
      ∃ first ∈ entries.head?, ∀ second ∈ relays.find? (· ≠ first),
        ∀ exit ∈ exits, exit = second ∨ exit = first

lemma not_complete_iff (directory : VerifiedGatewayDirectory) (constraints : RouteConstraints) :
    ((∃ gs, Assigns directory.gateways (Usable constraints) gatewayId (rolesOf constraints.mode) ∅
        gs) ∧
      ¬ (firstFits directory.gateways (Usable constraints) gatewayId (rolesOf constraints.mode)
        ∅).isSome) ↔ Clashes directory constraints := by
  have hhead (list : List GatewayId) : list.find? (· ∉ (∅ : Finset GatewayId)) = list.head? := by
    cases list <;> simp
  have hfirst {list : List GatewayId} {p : GatewayId → Prop} {n : GatewayId} (hn : n ∈ list) :
      (¬ ∃ n, list.head? = some n ∧ p n) ↔ ∃ n ∈ list.head?, ¬ p n := by
    cases list with
    | nil => cases hn
    | cons => simp
  have hfind (list : List GatewayId) (taken : Finset GatewayId) :
      (∃ n, list.find? (· ∉ taken) = some n) ↔ ∃ n ∈ list, n ∉ taken := by
    rw [← Option.isSome_iff_exists, List.find?_isSome]
    simp
  simp only [Clashes, candidates]
  cases constraints.mode with
  | directTor => simp [rolesOf]
  | standard =>
    simp only [rolesOf, exists_assigns_cons, firstFits_cons_isSome, exists_assigns_nil,
      firstFits_nil_isSome, and_true, hfind, and_not_self_iff]
  | enhanced =>
    simp only [rolesOf, exists_assigns_cons, firstFits_cons_isSome, exists_assigns_nil,
      firstFits_nil_isSome, and_true, hhead, hfind]
    simp only [Finset.notMem_empty, not_false_eq_true, true_and, insert_empty_eq,
      Finset.mem_singleton]
    refine and_congr_right fun ⟨entry, hentry, _⟩ => ?_
    rw [hfirst hentry]
    simp only [not_exists, not_and, not_not]
  | maximum =>
    simp only [rolesOf, exists_assigns_cons, firstFits_cons_isSome, exists_assigns_nil,
      firstFits_nil_isSome, and_true, hhead, hfind]
    simp only [Finset.notMem_empty, not_false_eq_true, true_and, insert_empty_eq,
      Finset.mem_singleton, Finset.mem_insert, not_or]
    refine and_congr_right fun ⟨entry, hentry, _⟩ => ?_
    rw [hfirst hentry]
    simp only [not_exists, not_and, not_not, ← or_iff_not_imp_left]
    rfl

theorem selectPlan_iff (directory : VerifiedGatewayDirectory) (constraints : RouteConstraints) :
    (((∃ plan, selectPlan directory constraints = .ok plan) ↔
        ∃ gs, IsAssignment directory constraints gs) ∧
      ∀ plan, selectPlan directory constraints = .ok plan → ∃ gs,
        IsAssignment directory constraints gs ∧
          plan = ⟨constraints.mode, List.zipWith hop (rolesOf constraints.mode) gs⟩) ↔
      ¬ Clashes directory constraints := by
  have hsound : ∀ plan, selectPlan directory constraints = .ok plan → ∃ gs,
      IsAssignment directory constraints gs ∧
        plan = ⟨constraints.mode, List.zipWith hop (rolesOf constraints.mode) gs⟩ := by
    intro plan hplan
    obtain ⟨gs, hfits, rfl⟩ := selectPlan_eq_ok.mp hplan
    exact ⟨gs, assigns_iff_isAssignment.mp (.of_firstFits hfits), rfl⟩
  rw [← not_complete_iff, not_and_not_right, Option.isSome_iff_exists]
  constructor
  · rintro ⟨hiff, -⟩ ⟨gs, hgs⟩
    obtain ⟨plan, hplan⟩ := hiff.mpr ⟨gs, assigns_iff_isAssignment.mp hgs⟩
    obtain ⟨gs, hfits, -⟩ := selectPlan_eq_ok.mp hplan
    exact ⟨gs, hfits⟩
  · intro hcomplete
    refine ⟨⟨?_, ?_⟩, hsound⟩
    · rintro ⟨plan, hplan⟩
      obtain ⟨gs, hgs, -⟩ := hsound plan hplan
      exact ⟨gs, hgs⟩
    · rintro ⟨gs, hgs⟩
      obtain ⟨gs, hfits⟩ := hcomplete ⟨gs, assigns_iff_isAssignment.mpr hgs⟩
      exact ⟨_, selectPlan_eq_ok.mpr ⟨gs, hfits, rfl⟩⟩

namespace Sample

def gateway (id : String) (roles : List GatewayRole) : GatewayDescriptor :=
  ⟨⟨id⟩, ⟨#v[68, 69]⟩, roles, ⟨"", 443⟩, Vector.replicate 32 0, []⟩

def twoGateways : VerifiedGatewayDirectory :=
  ⟨[gateway "a" [.entry, .exit], gateway "b" [.entry]]⟩

def enhanced : RouteConstraints := ⟨.enhanced, none, []⟩

end Sample

open Sample in
theorem first_fit_takes_exit :
    selectPlan twoGateways enhanced = .error gatewayUnavailable ∧
      IsAssignment twoGateways enhanced
        [gateway "b" [.entry], gateway "a" [.entry, .exit]] := by
  refine ⟨by decide, ?_, by decide⟩
  exact .cons ⟨by decide, by decide⟩ (.cons ⟨by decide, by decide⟩ .nil)

end OnionRoute.PolicyEngine
