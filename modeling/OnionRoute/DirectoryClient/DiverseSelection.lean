import OnionRoute.DirectoryClient.Selection

/-! The selection gives up diversity only for want of another candidate. -/

namespace OnionRoute.DirectoryClient

open Library GatewayRecord
open CommonTypes (GatewayRole)

variable {ext : Externals} {input : SelectionInput} {version : ext.Version} {role : GatewayRole}
  {selected gs : List GatewayRecord} {g g' : GatewayRecord}

section Directory

lemma checkGateways_eq_ok {issuedAt expiresAt : ℤ} {gateways : List GatewayRecord}
    {ids addresses : Finset String}
    (h : ext.checkGateways issuedAt expiresAt gateways ids addresses = .ok ()) :
    (gateways.map gatewayId).Nodup ∧ ∀ g ∈ gateways, g.gatewayId ∉ ids := by
  induction gateways generalizing ids addresses with
  | nil => simp
  | cons gateway rest ih =>
    simp only [Externals.checkGateways, bind_eq_ok, guard_eq_ok, not_or] at h
    obtain ⟨_, -, ⟨hnew, -⟩, h⟩ := h
    obtain ⟨hnodup, hfresh⟩ := ih h
    refine ⟨List.nodup_cons.mpr ⟨?_, hnodup⟩, ?_⟩
    · intro hmem
      obtain ⟨other, hother, heq⟩ := List.mem_map.mp hmem
      exact hfresh other hother (heq ▸ Finset.mem_insert_self _ _)
    · intro other hother
      rcases List.mem_cons.mp hother with rfl | hother
      · exact hnew
      · exact fun hmem => hfresh other hother (Finset.mem_insert_of_mem hmem)

lemma gatewayId_injective {document : DirectoryDocument} {now skew : ℤ}
    (h : ext.validateDocumentSemantics document now skew = .ok ()) (hg : g ∈ document.gateways)
    (hg' : g' ∈ document.gateways) (heq : g.gatewayId = g'.gatewayId) : g = g' := by
  simp only [Externals.validateDocumentSemantics, bind_eq_ok, guard_eq_ok] at h
  obtain ⟨-, -, -, _, hgateways, -⟩ := h
  exact List.inj_on_of_nodup_map (checkGateways_eq_ok hgateways).1 hg hg' heq

end Directory

section Score

def Shares (g other : GatewayRecord) : Prop :=
  other.providerGroup = g.providerGroup ∨ other.autonomousSystem = g.autonomousSystem

lemma role_of_eligible (h : isEligible ext input version role g = true) : g.role = role := by
  rw [isEligible] at h
  split at h
  · cases h
  · exact (of_decide_eq_true h).1

lemma state_of_eligible (h : isEligible ext input version role g = true) :
    g.health ∈ [HealthState.healthy, .degraded] ∧ g.currentLoadBucket ≠ .saturated := by
  rw [isEligible] at h
  split at h
  · cases h
  · obtain ⟨-, -, -, -, hhealth, -, -, hload, -⟩ := of_decide_eq_true h
    exact ⟨hhealth, hload⟩

lemma failureScore_le (input : SelectionInput) (gatewayId : String) :
    failureScore input gatewayId ≤ 6000 := by
  rw [failureScore]
  split
  · omega
  · rename_i failure _
    split_ifs
    · have := min_le_right failure.failureCount.toNat 8
      omega
    · omega

lemma score_lt (h : isEligible ext input version role g = true)
    (hshares : ∀ other ∈ selected, ¬ Shares g other) : score ext input role selected g < 8000 := by
  obtain ⟨hhealth, hload⟩ := state_of_eligible h
  have hprovider : providerCollisions selected g = 0 :=
    List.countP_eq_zero.mpr fun other hmem heq => hshares other hmem (.inl (of_decide_eq_true heq))
  have has : asCollisions selected g = 0 :=
    List.countP_eq_zero.mpr fun other hmem heq => hshares other hmem (.inr (of_decide_eq_true heq))
  have hloadScore : loadScore g.currentLoadBucket ≤ 500 := by
    cases hbucket : g.currentLoadBucket <;> simp_all [loadScore]
  have hhealthScore : healthScore g.health ≤ 400 := by
    cases hstate : g.health <;> simp_all [healthScore]
  have hcapacity : capacityScore g.capacityBucket ≤ 40 := by
    cases g.capacityBucket <;> simp [capacityScore]
  have hfailure := failureScore_le input g.gatewayId
  have htie : tieBreaker ext input role g.gatewayId < 17 := Nat.mod_lt _ (by norm_num)
  rw [score, hprovider, has]
  omega

lemma le_score {other : GatewayRecord} (hmem : other ∈ selected) (hshares : Shares g other) :
    8000 ≤ score ext input role selected g := by
  rw [score]
  rcases hshares with heq | heq
  · have hpos : 0 < providerCollisions selected g :=
      List.countP_pos_iff.mpr ⟨other, hmem, decide_eq_true heq⟩
    omega
  · have hpos : 0 < asCollisions selected g :=
      List.countP_pos_iff.mpr ⟨other, hmem, decide_eq_true heq⟩
    omega

end Score

variable {order : List GatewayRole} {past later : List GatewayRecord}

section Choice

structure Choice (ext : Externals) (input : SelectionInput) (version : ext.Version)
    (role : GatewayRole) (selected : List GatewayRecord) (g : GatewayRecord) : Prop where
  candidate : g ∈ candidates ext input version role selected
  least : ∀ g' ∈ candidates ext input version role selected,
    score ext input role selected g ≤ score ext input role selected g'

inductive Chosen (ext : Externals) (input : SelectionInput) (version : ext.Version) :
    List GatewayRole → List GatewayRecord → List GatewayRecord → Prop
  | nil (selected : List GatewayRecord) : Chosen ext input version [] selected []
  | cons {role : GatewayRole} {rest : List GatewayRole} {selected gs : List GatewayRecord}
      {g : GatewayRecord} : Choice ext input version role selected g →
      Chosen ext input version rest (selected ++ [g]) gs →
      Chosen ext input version (role :: rest) selected (g :: gs)

lemma mem_candidates : g ∈ candidates ext input version role selected ↔
    g ∈ input.directory.gateways ∧ isEligible ext input version role g = true ∧
      ∀ existing ∈ selected, existing.gatewayId ≠ g.gatewayId := by
  rw [candidates, List.mem_filter]
  simp

lemma argmin_choice
    (h : (candidates ext input version role selected).argmin (score ext input role selected) = some g) :
    Choice ext input version role selected g :=
  ⟨List.argmin_mem h, fun _ hg' => List.le_of_mem_argmin hg' h⟩

lemma chooseGateways_eq_ok {out : List GatewayRecord}
    (h : chooseGateways ext input version order selected = .ok out) :
    ∃ gs, out = selected ++ gs ∧ Chosen ext input version order selected gs := by
  induction order generalizing selected with
  | nil =>
    obtain rfl := Except.ok.inj h
    exact ⟨[], (List.append_nil _).symm, .nil _⟩
  | cons role rest ih =>
    rw [chooseGateways] at h
    split at h
    · cases h
    · rename_i g hg
      obtain ⟨gs, rfl, hchosen⟩ := ih h
      exact ⟨g :: gs, by simp, .cons (argmin_choice hg) hchosen⟩

lemma Choice.diverse (h : Choice ext input version role selected g)
    (hshares : ∃ other ∈ selected, Shares g other) :
    ∀ g' ∈ candidates ext input version role selected, ∃ other ∈ selected, Shares g' other := by
  intro g' hg'
  by_contra hnone
  have hlt := score_lt (mem_candidates.mp hg').2.1
    fun other hmem hshares => hnone ⟨other, hmem, hshares⟩
  obtain ⟨other, hmem, hshares⟩ := hshares
  have hle : 8000 ≤ score ext input role selected g := le_score hmem hshares
  have hleast := h.least g' hg'
  omega

lemma Chosen.roles (h : Chosen ext input version order selected gs) :
    gs.map GatewayRecord.role = order := by
  induction h with
  | nil => rfl
  | cons hchoice _ ih =>
    rw [List.map_cons, ih, role_of_eligible (mem_candidates.mp hchoice.candidate).2.1]

lemma Chosen.choice (h : Chosen ext input version order selected gs)
    (hgs : gs = past ++ g :: later) : Choice ext input version g.role (selected ++ past) g := by
  induction h generalizing past with
  | nil => simp at hgs
  | @cons role rest selected gs first hchoice hrest ih =>
    cases past with
    | nil =>
      obtain ⟨rfl, -⟩ := List.cons.inj hgs
      rwa [role_of_eligible (mem_candidates.mp hchoice.candidate).2.1, List.append_nil]
    | cons head past =>
      obtain ⟨rfl, htail⟩ := List.cons.inj hgs
      simpa using ih htail

lemma exists_chosen (hnodup : order.Nodup)
    (hids : ∀ g ∈ input.directory.gateways, ∀ g' ∈ input.directory.gateways,
      g.gatewayId = g'.gatewayId → g = g')
    (hselected : ∀ g ∈ selected, g ∈ input.directory.gateways ∧ g.role ∉ order)
    (heligible : ∀ role ∈ order, ∃ g ∈ input.directory.gateways,
      isEligible ext input version role g = true) :
    ∃ out, chooseGateways ext input version order selected = .ok out := by
  induction order generalizing selected with
  | nil => exact ⟨selected, rfl⟩
  | cons role rest ih =>
    obtain ⟨hnew, hnodup⟩ := List.nodup_cons.mp hnodup
    obtain ⟨g, hg, hgrole⟩ := heligible role List.mem_cons_self
    have hcandidate : g ∈ candidates ext input version role selected := by
      refine mem_candidates.mpr ⟨hg, hgrole, fun existing hmem heq => ?_⟩
      obtain ⟨hin, hrole⟩ := hselected existing hmem
      obtain rfl := hids existing hin g hg heq
      exact hrole (role_of_eligible hgrole ▸ List.mem_cons_self)
    rw [chooseGateways]
    cases hmin : (candidates ext input version role selected).argmin
        (score ext input role selected) with
    | none =>
      rw [List.argmin_eq_none.mp hmin] at hcandidate
      cases hcandidate
    | some chosen =>
      obtain ⟨hin, heligible', -⟩ := mem_candidates.mp (List.argmin_mem hmin)
      refine ih hnodup (fun g' hg' => ?_) fun role' hrole' =>
        heligible role' (List.mem_cons_of_mem _ hrole')
      rcases List.mem_append.mp hg' with hold | hlast
      · obtain ⟨hin', hrole'⟩ := hselected g' hold
        exact ⟨hin', fun hmem => hrole' (List.mem_cons_of_mem _ hmem)⟩
      · obtain rfl := List.mem_singleton.mp hlast
        exact ⟨hin, role_of_eligible heligible' ▸ hnew⟩

end Choice

variable {plan : List SelectedGateway}

section Arrange

lemma arrange_eq_ok {roles : List GatewayRole} (h : arrange gs roles = .ok plan) :
    plan.map SelectedGateway.role = roles ∧
      ∀ hop ∈ plan, hop.gateway ∈ gs ∧ hop.gateway.role = hop.role := by
  induction roles generalizing plan with
  | nil =>
    obtain rfl := Except.ok.inj h
    simp
  | cons role rest ih =>
    rw [arrange] at h
    cases hfind : gs.find? fun gateway => gateway.role = role with
    | none => simp [hfind, throw_eq_ok] at h
    | some gateway =>
      simp only [hfind, bind_eq_ok, pure_eq_ok] at h
      obtain ⟨plan, hplan, rfl⟩ := h
      obtain ⟨hroles, hhops⟩ := ih hplan
      refine ⟨by rw [List.map_cons, hroles], fun hop hmem => ?_⟩
      rcases List.mem_cons.mp hmem with rfl | hmem
      · exact ⟨List.mem_of_find?_eq_some hfind, by simpa using List.find?_some hfind⟩
      · exact hhops hop hmem

lemma exists_arrange {roles : List GatewayRole} (h : ∀ role ∈ roles, ∃ g ∈ gs, g.role = role) :
    ∃ plan, arrange gs roles = .ok plan := by
  induction roles with
  | nil => exact ⟨[], rfl⟩
  | cons role rest ih =>
    obtain ⟨plan, hplan⟩ := ih fun role' hrole' => h role' (List.mem_cons_of_mem _ hrole')
    obtain ⟨g, hg, hrole⟩ := h role List.mem_cons_self
    have hsome : (gs.find? fun gateway => gateway.role = role).isSome := by
      rw [List.find?_isSome]
      exact ⟨g, hg, decide_eq_true hrole⟩
    obtain ⟨gateway, hfind⟩ := Option.isSome_iff_exists.mp hsome
    refine ⟨⟨role, gateway⟩ :: plan, ?_⟩
    rw [arrange]
    simp only [hfind, bind_eq_ok, pure_eq_ok]
    exact ⟨plan, hplan, rfl⟩

end Arrange

def ChosenBefore (profile : AnonymityProfile) (r r' : GatewayRole) : Prop :=
  (selectionOrder profile).idxOf r < (selectionOrder profile).idxOf r'

lemma nodup_selectionOrder (profile : AnonymityProfile) : (selectionOrder profile).Nodup := by
  cases profile <;> decide

variable {profile : AnonymityProfile}

lemma mem_requestedRoles : role ∈ requestedRoles profile ↔ role ∈ selectionOrder profile := by
  cases profile <;> cases role <;> decide

lemma nodup_requestedRoles (profile : AnonymityProfile) : (requestedRoles profile).Nodup := by
  cases profile <;> decide

lemma selectGatewayPlan_eq (hversion : ext.parseVersion input.clientVersion = some version)
    (hcountry : input.countryAvailable = true) (hprofile : input.profile ≠ .directTor) :
    selectGatewayPlan ext input =
      (chooseGateways ext input version (selectionOrder input.profile) [] >>= fun gs =>
        arrange gs (requestedRoles input.profile)) := by
  rw [selectGatewayPlan, hversion]
  simp only [if_neg hprofile, if_neg (not_not.mpr hcountry)]

lemma chosenBefore_iff
    (hroles : (past ++ g :: later).map GatewayRecord.role = selectionOrder profile)
    (hg' : g' ∈ past ++ g :: later) : ChosenBefore profile g'.role g.role ↔ g' ∈ past := by
  have hnodup : ((past ++ g :: later).map role).Nodup :=
    hroles ▸ nodup_selectionOrder profile
  have hinj := List.inj_on_of_nodup_map hnodup
  rw [ChosenBefore, ← hroles, List.map_append, List.map_cons]
  rw [List.map_append, List.map_cons] at hnodup
  have hnew : g.role ∉ past.map role := fun hmem =>
    (List.nodup_append.mp hnodup).2.2 _ hmem _ List.mem_cons_self rfl
  rw [List.idxOf_append_of_notMem hnew, List.idxOf_cons_self, Nat.add_zero]
  constructor
  · intro hlt
    by_contra hmem
    have hrole : g'.role ∉ past.map role := fun hin => by
      obtain ⟨p, hp, heq⟩ := List.mem_map.mp hin
      exact hmem (hinj (List.mem_append_left _ hp) hg' heq ▸ hp)
    rw [List.idxOf_append_of_notMem hrole] at hlt
    omega
  · intro hmem
    have hin : g'.role ∈ past.map role := List.mem_map_of_mem hmem
    rw [List.idxOf_append_of_mem hin]
    exact List.idxOf_lt_length_iff.mpr hin

section

variable (h : Chosen ext input version (selectionOrder input.profile) [] gs)
include h

lemma Chosen.mem_choice (hg : g ∈ gs) : ∃ past later, gs = past ++ g :: later ∧
      Choice ext input version g.role past g := by
  obtain ⟨past, later, hgs⟩ := List.append_of_mem hg
  exact ⟨past, later, hgs, h.choice hgs⟩

lemma Chosen.exists_hop (hplan : arrange gs (requestedRoles input.profile) = .ok plan)
    (hg : g ∈ gs) : ∃ hop ∈ plan, hop.gateway = g ∧ hop.role = g.role := by
  obtain ⟨hroles, hhops⟩ := arrange_eq_ok hplan
  have hnodup : (gs.map GatewayRecord.role).Nodup := h.roles ▸ nodup_selectionOrder input.profile
  have hrole : g.role ∈ plan.map SelectedGateway.role := by
    rw [hroles, mem_requestedRoles, ← h.roles]
    exact List.mem_map_of_mem hg
  obtain ⟨hop, hmem, heq⟩ := List.mem_map.mp hrole
  obtain ⟨hin, hop_role⟩ := hhops hop hmem
  exact ⟨hop, hmem, List.inj_on_of_nodup_map hnodup hin hg (hop_role.trans heq), heq⟩

lemma plan_diverse
    (hids : ∀ g ∈ input.directory.gateways, ∀ g' ∈ input.directory.gateways,
      g.gatewayId = g'.gatewayId → g = g')
    (hplan : arrange gs (requestedRoles input.profile) = .ok plan)
    {hop : SelectedGateway} (hhop : hop ∈ plan)
    (hshares : ∃ other ∈ plan, ChosenBefore input.profile other.role hop.role ∧
      Shares hop.gateway other.gateway)
    (hg : g ∈ input.directory.gateways) (heligible : isEligible ext input version hop.role g = true) :
    ∃ other ∈ plan, ChosenBefore input.profile other.role hop.role ∧ Shares g other.gateway := by
  obtain ⟨-, hhops⟩ := arrange_eq_ok hplan
  obtain ⟨hin, hrole⟩ := hhops hop hhop
  obtain ⟨past, later, hgs, hchoice⟩ := h.mem_choice hin
  have hroles := h.roles
  rw [hgs] at hroles
  obtain ⟨other, hother, hbefore, hshares⟩ := hshares
  obtain ⟨hotherIn, hotherRole⟩ := hhops other hother
  have hpast : other.gateway ∈ past := by
    rw [← hotherRole, ← hrole] at hbefore
    exact (chosenBefore_iff hroles (hgs ▸ hotherIn)).mp hbefore
  have hcandidate : g ∈ candidates ext input version hop.gateway.role past := by
    refine mem_candidates.mpr ⟨hg, hrole ▸ heligible, fun existing hmem heq => ?_⟩
    -- One of another role, so another gateway.
    have hexistingIn : existing ∈ gs := hgs ▸ List.mem_append_left _ hmem
    obtain ⟨_, _, _, hexisting⟩ := h.mem_choice hexistingIn
    obtain rfl := hids existing (mem_candidates.mp hexisting.candidate).1 g hg heq
    have hnodup : ((past ++ hop.gateway :: later).map role).Nodup :=
      hroles ▸ nodup_selectionOrder input.profile
    rw [List.map_append, List.map_cons] at hnodup
    refine (List.nodup_append.mp hnodup).2.2 _ (List.mem_map_of_mem hmem) _ List.mem_cons_self ?_
    rw [role_of_eligible heligible, hrole]
  obtain ⟨earlier, hearlier, hsharesEarlier⟩ :=
    hchoice.diverse ⟨other.gateway, hpast, hshares⟩ g hcandidate
  have hearlierIn : earlier ∈ gs := hgs ▸ List.mem_append_left _ hearlier
  obtain ⟨hop', hhop', hgateway, hrole'⟩ := h.exists_hop hplan hearlierIn
  refine ⟨hop', hhop', ?_, hgateway ▸ hsharesEarlier⟩
  rw [hrole', ← hrole]
  exact (chosenBefore_iff hroles (hgs ▸ hearlierIn)).mpr hearlier

end

/-- A route is found exactly when every role has an eligible gateway; its hops are distinct, in the
order of the roles and eligible, and one shares with a hop chosen before only when every eligible
gateway does. -/
theorem diverse_selection {now skew : ℤ}
    (hdirectory : ext.validateDocumentSemantics input.directory now skew = .ok ())
    (hversion : ext.parseVersion input.clientVersion = some version)
    (hcountry : input.countryAvailable = true) (hprofile : input.profile ≠ .directTor) :
    ((∃ plan, selectGatewayPlan ext input = .ok plan) ↔
      ∀ role ∈ requestedRoles input.profile, ∃ g ∈ input.directory.gateways,
        isEligible ext input version role g = true) ∧
    ∀ plan, selectGatewayPlan ext input = .ok plan →
      plan.map SelectedGateway.role = requestedRoles input.profile ∧
      (plan.map fun hop => hop.gateway.gatewayId).Nodup ∧
      (∀ hop ∈ plan, hop.gateway ∈ input.directory.gateways ∧
        isEligible ext input version hop.role hop.gateway = true) ∧
      ∀ hop ∈ plan,
        (∃ other ∈ plan, ChosenBefore input.profile other.role hop.role ∧
          Shares hop.gateway other.gateway) →
        ∀ g ∈ input.directory.gateways, isEligible ext input version hop.role g = true →
          ∃ other ∈ plan, ChosenBefore input.profile other.role hop.role ∧
            Shares g other.gateway := by
  have hids : ∀ g ∈ input.directory.gateways, ∀ g' ∈ input.directory.gateways,
      g.gatewayId = g'.gatewayId → g = g' := fun g hg g' hg' => gatewayId_injective hdirectory hg hg'
  have hplans (plan : List SelectedGateway) (hplan : selectGatewayPlan ext input = .ok plan) :
      ∃ gs, Chosen ext input version (selectionOrder input.profile) [] gs ∧
        arrange gs (requestedRoles input.profile) = .ok plan := by
    rw [selectGatewayPlan_eq hversion hcountry hprofile, bind_eq_ok] at hplan
    obtain ⟨out, hout, harrange⟩ := hplan
    obtain ⟨gs, hgs, hchosen⟩ := chooseGateways_eq_ok hout
    rw [List.nil_append] at hgs
    exact ⟨gs, hchosen, hgs ▸ harrange⟩
  have heligible {gs : List GatewayRecord}
      (hchosen : Chosen ext input version (selectionOrder input.profile) [] gs)
      {plan : List SelectedGateway} (hplan : arrange gs (requestedRoles input.profile) = .ok plan) :
      ∀ hop ∈ plan, hop.gateway ∈ input.directory.gateways ∧
        isEligible ext input version hop.role hop.gateway = true := by
    intro hop hhop
    obtain ⟨hin, hrole⟩ := (arrange_eq_ok hplan).2 hop hhop
    obtain ⟨_, _, _, hchoice⟩ := hchosen.mem_choice hin
    obtain ⟨hgateway, heligible, -⟩ := mem_candidates.mp hchoice.candidate
    exact ⟨hgateway, hrole ▸ heligible⟩
  refine ⟨⟨?_, ?_⟩, fun plan hplan => ?_⟩
  · rintro ⟨plan, hplan⟩ role hrole
    obtain ⟨gs, hchosen, harrange⟩ := hplans plan hplan
    rw [← (arrange_eq_ok harrange).1] at hrole
    obtain ⟨hop, hhop, rfl⟩ := List.mem_map.mp hrole
    exact ⟨hop.gateway, heligible hchosen harrange hop hhop⟩
  · intro hall
    obtain ⟨out, hout⟩ : ∃ out,
        chooseGateways ext input version (selectionOrder input.profile) [] = .ok out :=
      exists_chosen (nodup_selectionOrder input.profile) hids (by simp) fun role hrole =>
        hall role (mem_requestedRoles.mpr hrole)
    obtain ⟨gs, hgs, hchosen⟩ := chooseGateways_eq_ok hout
    rw [List.nil_append] at hgs
    have hfilled : ∀ role ∈ requestedRoles input.profile, ∃ g ∈ gs, g.role = role := by
      intro role hrole
      rw [mem_requestedRoles, ← hchosen.roles] at hrole
      obtain ⟨g, hg, heq⟩ := List.mem_map.mp hrole
      exact ⟨g, hg, heq⟩
    obtain ⟨plan, hplan⟩ := exists_arrange hfilled
    refine ⟨plan, ?_⟩
    rw [selectGatewayPlan_eq hversion hcountry hprofile, bind_eq_ok]
    exact ⟨out, hout, hgs ▸ hplan⟩
  · obtain ⟨gs, hchosen, harrange⟩ := hplans plan hplan
    have hroles := (arrange_eq_ok harrange).1
    have hhops := heligible hchosen harrange
    refine ⟨hroles, ?_, hhops, fun hop hhop hshares g hg => plan_diverse hchosen hids harrange hhop
      hshares hg⟩
    have hnodup : (plan.map SelectedGateway.role).Nodup := hroles ▸ nodup_requestedRoles input.profile
    refine List.Nodup.map_on (fun hop hhop hop' hhop' heq => ?_) (List.Nodup.of_map _ hnodup)
    have hsame := hids _ (hhops hop hhop).1 _ (hhops hop' hhop').1 heq
    refine List.inj_on_of_nodup_map hnodup hhop hhop' ?_
    rw [← role_of_eligible (hhops hop hhop).2, hsame, role_of_eligible (hhops hop' hhop').2]

namespace Sample

def record (id : Char) (role : GatewayRole) : GatewayRecord where
  gatewayId := id.toString
  countryCode := "DE"
  cityLabel := "Berlin"
  region := "eu"
  role
  providerGroup := "p"
  autonomousSystem := 64500
  onionAddress := String.ofList (List.replicate 56 id) ++ ".onion"
  capabilities := []
  supportedProtocolVersions := ["1.0"]
  minimumClientVersion := "1.0.0"
  currentLoadBucket := .low
  capacityBucket := .large
  health := .healthy
  maintenanceState := .active
  abuseState := .active
  publicSigningKey := id.toString
  validFrom := 0
  validUntil := 3600

def exitGateway : GatewayRecord := record 'x' .exit

def entryGateway : GatewayRecord := record 'e' .entry

def sharedProvider : DirectoryDocument :=
  ⟨"2.0", 1, 0, 3600, [entryGateway, exitGateway], [], [], [], []⟩

def selectionLibraries : Externals where
  Key := Vector UInt8 32
  Version := ℕ × ℕ × ℕ
  decodeEnvelope _ := none
  decodeDocument _ := none
  canonicalDocument _ := none
  canonicalBundle _ := none
  base64 value := some (List.replicate 32 (if value = "x" then 1 else 2))
  base32 _ := some (List.replicate 32 1 ++ [0, 0, 3])
  sha256 _ := Vector.replicate 32 0
  sha3 _ := Vector.replicate 32 0
  verifyingKey key := some key
  verifies _ _ _ := false
  parseVersion value := if value = "1.0.0" then some (1, 0, 0) else none
  atLeast version minimum := minimum ≤ version

def selection : SelectionInput :=
  ⟨sharedProvider, none, .enhanced, "1.0.0", "1.0", [], [], 10, Vector.replicate 32 0⟩

lemma validate_selection :
    selectionLibraries.validateDocumentSemantics selection.directory 10 0 = .ok () := by
  decide +kernel

lemma parse_version : selectionLibraries.parseVersion selection.clientVersion = some (1, 0, 0) := rfl

lemma eligible_entry : isEligible selectionLibraries selection (1, 0, 0) .entry entryGateway = true := by
  decide +kernel

lemma eligible_exit : isEligible selectionLibraries selection (1, 0, 0) .exit exitGateway = true := by
  decide +kernel

end Sample

open Sample in
theorem diverse_selection_enhanced : ∃ plan,
    selectGatewayPlan selectionLibraries selection = .ok plan ∧
      plan.map SelectedGateway.role = [.entry, .exit] := by
  obtain ⟨hiff, hplan⟩ := diverse_selection validate_selection parse_version
    (by decide) (by decide)
  have heligible : ∀ role ∈ requestedRoles selection.profile,
      ∃ g ∈ selection.directory.gateways,
        isEligible selectionLibraries selection (1, 0, 0) role g = true := by
    intro role hrole
    rcases List.mem_cons.mp hrole with rfl | hrole
    · exact ⟨entryGateway, List.mem_cons_self, eligible_entry⟩
    · obtain rfl := List.mem_singleton.mp hrole
      exact ⟨exitGateway, List.mem_cons_of_mem _ List.mem_cons_self, eligible_exit⟩
  obtain ⟨plan, hok⟩ := hiff.mpr heligible
  exact ⟨plan, hok, (hplan plan hok).1⟩

end OnionRoute.DirectoryClient
