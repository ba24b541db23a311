import OnionRoute.GatewayDaemon.Egress

/-! What the dialer is ever called with. -/

namespace OnionRoute.GatewayDaemon

open Library Sample

/-- The special-purpose IPv4 networks, by the first three octets of an address. -/
inductive Reserved : UInt8 → UInt8 → UInt8 → Prop
  | thisNetwork {b c : UInt8} : Reserved 0 b c
  | privateA {b c : UInt8} : Reserved 10 b c
  | carrierGrade {b c : UInt8} (h : 64 ≤ b ∧ b ≤ 127) : Reserved 100 b c
  | loopback {b c : UInt8} : Reserved 127 b c
  | linkLocal {c : UInt8} : Reserved 169 254 c
  | privateB {b c : UInt8} (h : 16 ≤ b ∧ b ≤ 31) : Reserved 172 b c
  | protocolAssignments : Reserved 192 0 0
  | documentationA : Reserved 192 0 2
  | relayAnycast : Reserved 192 88 99
  | privateC {c : UInt8} : Reserved 192 168 c
  | benchmark {b c : UInt8} (h : b = 18 ∨ b = 19) : Reserved 198 b c
  | documentationB : Reserved 198 51 100
  | documentationC : Reserved 203 0 113
  | multicast {a b c : UInt8} (h : 224 ≤ a) : Reserved a b c

/-- Global unicast addresses; an IPv6 address must not embed an IPv4 address either (6to4 and
Teredo). -/
inductive GloballyRoutable : IpAddr → Prop
  | v4 {octets : List.Vector UInt8 4}
      (h : ¬ Reserved (octets.get 0) (octets.get 1) (octets.get 2)) : GloballyRoutable (.v4 octets)
  | v6 {octets : List.Vector UInt8 16} (hunicast : 0x20 ≤ octets.get 0 ∧ octets.get 0 < 0x40)
      (htunnel : ¬ (octets.get 0 = 0x20 ∧ octets.get 1 = 0x02))
      (hreserved : ∀ second ∈ [(0, 0), (0x0d, 0xb8)],
        ¬ (octets.get 0 = 0x20 ∧ octets.get 1 = 0x01 ∧ (octets.get 2, octets.get 3) = second)) :
      GloballyRoutable (.v6 octets)

lemma routable_v4 {octets : List.Vector UInt8 4} (h : isNonPublicV4 octets = false) :
    GloballyRoutable (.v4 octets) := by
  refine .v4 fun hreserved => ?_
  simp only [isNonPublicV4] at h
  generalize octets.get 0 = a at *
  generalize octets.get 1 = b at *
  generalize octets.get 2 = c at *
  cases hreserved <;> simp_all

lemma unicast_of_and {a b : UInt8} (h : fromBe16 a b &&& 0xe000 = 0x2000) :
    0x20 ≤ a ∧ a < 0x40 := by
  have hbits : ((a.toNat * 256 + b.toNat) >>> 13) % 2 ^ 3 = 1 := by
    have hshift := congrArg (fun x : UInt16 => x.toNat >>> 13) h
    simp only [UInt16.toNat_and, Nat.shiftRight_and_distrib, fromBe16_toNat] at hshift
    rwa [← Nat.and_two_pow_sub_one_eq_mod]
  rw [Nat.shiftRight_eq_div_pow] at hbits
  have ha := a.toNat_lt
  have hb := b.toNat_lt
  rw [UInt8.le_iff_toNat_le, UInt8.lt_iff_toNat_lt]
  simp only [UInt8.reduceToNat]
  omega

lemma routable_v6 {octets : List.Vector UInt8 16} (h : isNonPublicV6 octets = false) :
    GloballyRoutable (.v6 octets) := by
  simp only [isNonPublicV6, Bool.or_eq_false_iff, bne_eq_false_iff_eq, Bool.and_eq_false_iff,
    beq_eq_false_iff_ne] at h
  obtain ⟨⟨⟨⟨⟨⟨-, hdocumentation⟩, hunicast⟩, -⟩, htunnel⟩, hteredo⟩, -⟩ := h
  refine .v6 (unicast_of_and hunicast) ?_ ?_
  · rintro ⟨h0, h1⟩
    rw [h0, h1] at htunnel
    exact htunnel rfl
  · rintro second hsecond ⟨h0, h1, h2⟩
    simp only [List.mem_cons, List.not_mem_nil, or_false] at hsecond
    rw [h0, h1] at hdocumentation hteredo
    rcases hsecond with rfl | rfl <;> obtain ⟨h2, h3⟩ := Prod.mk.inj h2
    · rw [h2, h3] at hteredo
      exact hteredo.elim (fun h => h rfl) fun h => h rfl
    · rw [h2, h3] at hdocumentation
      exact hdocumentation.elim (fun h => h rfl) fun h => h rfl

lemma routable_of_isNonPublic {address : IpAddr} (h : isNonPublic address = false) :
    GloballyRoutable address := by
  cases address with
  | v4 octets => exact routable_v4 h
  | v6 octets => exact routable_v6 h

variable {acl : AclEngine} {parsesAsIp : Bytes → Bool}

lemma checkIp_ok {address : IpAddr} (h : acl.checkIp address = .ok ()) :
    isNonPublic address = false ∧ address ∉ acl.config.cloudMetadataIps ∧
      ∀ network ∈ acl.config.managementNetworks, network.contains address = false := by
  unfold AclEngine.checkIp at h
  split_ifs at h with hconfig
  simpa using hconfig

variable {port : UInt16}

lemma checkPort_ok (h : acl.checkPort port = .ok ()) : port ≠ 25 ∧ port ≠ 9051 ∧ port ≠ 9151 := by
  unfold AclEngine.checkPort at h
  split_ifs at h with hport
  simp only [not_or] at hport
  exact ⟨hport.2.1, hport.2.2.1, hport.2.2.2.1⟩

lemma checkPort_congr {other : AclEngine} (h : other.config = acl.config) (port : UInt16) :
    other.checkPort port = acl.checkPort port := by
  rw [AclEngine.checkPort, AclEngine.checkPort, h]

lemma checkDestination_ok {destination : Destination}
    (h : acl.checkDestination parsesAsIp destination port = .ok ()) :
    acl.checkPort port = .ok () ∧ ∀ hostname, destination = .hostname hostname →
      ∃ name, canonicalHostname parsesAsIp hostname = .ok name ∧ forbiddenHostname name = false ∧
        acl.emergencyHostnameDenied name = false := by
  rw [AclEngine.checkDestination.eq_def] at h
  obtain ⟨_, hport, hrest⟩ := bind_eq_ok.mp h
  refine ⟨hport, ?_⟩
  rintro hostname rfl
  obtain ⟨name, hname, hpolicy⟩ := bind_eq_ok.mp hrest
  rw [ite_throw_eq_ok, not_or] at hpolicy
  exact ⟨name, hname, by simpa using hpolicy.1.1, by simpa using hpolicy.1.2⟩

namespace Gateway

variable {d : Deployment} {g h : Gateway} {k : ℕ} {task : OpenTask}

structure Dials (d : Deployment) (g : Gateway) (task : OpenTask) (address : IpAddr)
    (port : UInt16) : Prop where
  toPort : task.port = port
  active : ∃ instant ≤ g.now, task.reservedAt = some instant ∧
    task.session.ensureActive instant = .ok ()
  leased : task.stage.held = Counter.all
  counted : ∀ c, 1 ≤ g.count task.session c ∧ g.count task.session c ≤ limit d task.session c
  checkPort : g.acl.checkPort port = .ok ()
  hostname : ∀ hostname, task.destination = .hostname hostname →
    ∃ name, canonicalHostname d.parsesAsIp hostname = .ok name ∧ forbiddenHostname name = false ∧
      ∃ acl, task.permittedUnder = some acl ∧ acl.emergencyHostnameDenied name = false
  checkIp : ∃ acl, task.checkedUnder = some acl ∧ acl.checkIp address = .ok ()
  routable : GloballyRoutable address
  metadata : address ∉ g.acl.config.cloudMetadataIps
  management : ∀ network ∈ g.acl.config.managementNetworks, network.contains address = false
  ports : port ≠ 25 ∧ port ≠ 9051 ∧ port ≠ 9151

lemma Sound.dials {config : AclConfig} {address : IpAddr} {rest : List IpAddr}
    {last : GatewayErrorCode} (hs : Sound d config g) (hk : g.calls.lookup k = some task)
    (hstage : task.stage = .checked address rest last) : Dials d g task address task.port := by
  have hvetted := hs.vetted k task hk
  obtain ⟨acl, hacl, hconfig, hcheck⟩ := hvetted.permitted (by rw [hstage]; rfl)
  obtain ⟨instant, hat, hinstant, hactive⟩ := hvetted.reserved (by rw [hstage]; rfl)
  obtain ⟨checked, hunder, hsame, hip⟩ := hvetted.checked address (by rw [hstage]; rfl)
  obtain ⟨hport, hhost⟩ := checkDestination_ok hcheck
  rw [checkPort_congr (hconfig.trans hs.rules.symm)] at hport
  obtain ⟨hpublic, hmetadata, hmanagement⟩ := checkIp_ok hip
  rw [hsame, ← hs.rules] at hmetadata hmanagement
  have hheld : task.stage.held = Counter.all := by
    rw [hstage]
    rfl
  refine ⟨rfl, ⟨instant, hinstant, hat, hactive⟩, hheld, ?_, hport, ?_, ⟨checked, hunder, hip⟩,
    routable_of_isNonPublic hpublic, hmetadata, hmanagement, checkPort_ok hport⟩
  · intro c
    refine ⟨le_trans ?_ (hs.share_le hk task.session c), hs.bounded task.session c⟩
    rw [OpenTask.share, hheld, if_pos (by cases c <;> simp [Counter.shared])]
    cases c <;> decide
  · intro hostname hd
    obtain ⟨name, hname, hforbidden, hdenied⟩ := hhost hostname hd
    exact ⟨name, hname, hforbidden, acl, hacl, hdenied⟩

lemma releases {held : List Counter} {error : Option GatewayErrorCode}
    (hk : g.calls.lookup k = some task) (hstage : task.stage = .releasing held error) :
    ∃ n h, Trace (Step d) g (List.replicate n (.call k none)) h ∧
      h.calls.lookup k = some { task with stage := .finished error } := by
  induction held generalizing g task with
  | nil =>
    exact ⟨1, _, .single (.move hk (.finish hstage)), AList.lookup_insert _⟩
  | cons c held ih =>
    have hstep : Step d g (.call k none)
        ((g.fetchSub task.session c).setStage k task (.releasing held error)) :=
      .move hk (.release hstage)
    have hnext : ((g.fetchSub task.session c).setStage k task (.releasing held error)).calls.lookup
        k = some { task with stage := .releasing held error } := AList.lookup_insert _
    obtain ⟨n, h, htrace, hlookup⟩ := ih hnext rfl
    exact ⟨n + 1, h, .cons hstep htrace, hlookup⟩

end Gateway

namespace Sample

def deployment : Deployment where
  limits := {}
  maxTokenStreams := fun _ => 256
  tokenKey := fun _ => key
  hmac := digest
  parsesAsIp := noAddress

def lease : SessionLease := ⟨0, 0, 900, 900⟩

def address : IpAddr := .v4 (.replicate 4 1)

def openTask : OpenTask where
  session := lease
  destination := .ip address
  port := 443
  stage := .starting

def gateway : Gateway := .start .standard fun _ => ⟨0, ∅⟩

end Sample

namespace Gateway

variable {startedAt : ℕ}

lemma enter_first (ha : task.session.ensureActive g.now = .ok ()) (hd : g.draining = false)
    (hscan : g.scans task.session.token = ⟨startedAt, ∅⟩)
    (hlimit : 1 ≤ d.limits.scanDistinctDestinationLimit) :
    (enter d g task (.ok ())).1 = .ok () := by
  have hcurrent : ∀ window : ℕ, (if window ≤ g.now - startedAt then ⟨g.now, ∅⟩
      else (⟨startedAt, ∅⟩ : ScanWindow)).destinations = ∅ := by
    intro window
    split_ifs <;> rfl
  simp only [enter, ha, hd, hscan, observeDestination, hcurrent, insert_empty_eq,
    Finset.card_singleton, Bool.false_eq_true, if_false, Nat.not_lt.mpr hlimit]

lemma takes_lease (hk : g.calls.lookup k = some task) (hstage : task.stage = .entered)
    (hroom : ∀ c, g.count task.session c + 1 ≤ limit d task.session c) :
    ∃ es h, Trace (Step d) g es h ∧ h.acl = g.acl ∧
      h.calls.lookup k = some { task with stage := .leased } := by
  refine ⟨_, _, .cons (.move hk (.takeSession hstage (if_pos (hroom .session)))) <|
    .cons (.move (AList.lookup_insert _) (.takeToken rfl (if_pos ?_))) <|
    .cons (.move (AList.lookup_insert _) (.takeGlobal rfl (if_pos ?_))) (.nil _), rfl,
    AList.lookup_insert _⟩
  · exact hroom .token
  · exact hroom .gateway

lemma reaches_lease (hk : g.calls.lookup k = some task) (hstage : task.stage = .starting)
    (ha : task.session.ensureActive g.now = .ok ())
    (hpolicy : g.acl.checkDestination d.parsesAsIp task.destination task.port = .ok ())
    (hd : g.draining = false) (hscan : g.scans task.session.token = ⟨startedAt, ∅⟩)
    (hlimit : 1 ≤ d.limits.scanDistinctDestinationLimit)
    (hroom : ∀ c, g.count task.session c + 1 ≤ limit d task.session c) :
    ∃ es h task', Trace (Step d) g es h ∧ h.acl = g.acl ∧ h.calls.lookup k = some task' ∧
      task'.stage = .leased ∧ task'.destination = task.destination ∧ task'.port = task.port := by
  let task₁ : OpenTask := { task with permittedUnder := some g.acl, stage := .permitted }
  let g₁ := g.setStage k task₁ .permitted
  have hpermit : Step d g (.call k none) g₁ := .move hk (.permit hstage ha hpolicy)
  have henter : enter d g₁ task₁ (.ok ()) = (.ok (), (enter d g₁ task₁ (.ok ())).2) :=
    Prod.ext (enter_first ha hd hscan hlimit) rfl
  obtain ⟨-, hacl, -, hcount⟩ := enter_keeps henter
  let task₂ : OpenTask := { task₁ with reservedAt := some g₁.now, stage := .entered }
  let g₂ := (enter d g₁ task₁ (.ok ())).2.setStage k task₂ .entered
  have hstep : Step d g₁ (.call k none) g₂ :=
    .move (AList.lookup_insert _) (.enter rfl henter)
  have hroom₂ : ∀ c, g₂.count task.session c + 1 ≤ limit d task.session c := by
    intro c
    have hc : g₂.count task.session c = g.count task.session c :=
      (count_setStage ..).trans ((hcount _ _).trans (count_setStage ..))
    rw [hc]
    exact hroom c
  have hk₂ : g₂.calls.lookup k = some task₂ := AList.lookup_insert _
  obtain ⟨es, h, htrace, hacl', hlookup⟩ := takes_lease hk₂ rfl hroom₂
  exact ⟨_, h, _, .cons hpermit (.cons hstep htrace), hacl'.trans hacl, hlookup, rfl, rfl, rfl⟩

lemma reaches_check : ∃ es g task, Trace (Step deployment) gateway es g ∧
    g.calls.lookup 0 = some task ∧ task.stage = .checked address [] .egressFailure ∧
    task.port = 443 := by
  let g₀ : Gateway := { gateway with calls := gateway.calls.insert 0 openTask }
  have hbegins : Step deployment gateway .other g₀ := .begins rfl
  have hk₀ : g₀.calls.lookup 0 = some openTask := AList.lookup_insert _
  have hroom : ∀ c, g₀.count lease c + 1 ≤ limit deployment lease c := by
    intro c
    cases c <;> decide
  obtain ⟨es, g, task, htrace, hacl, hk, hstage, hdestination, hport⟩ :=
    reaches_lease hk₀ rfl (by rfl) (by rfl) rfl rfl (by decide) hroom
  let g₁ := g.setStage 0 task (.dialing [address] .egressFailure)
  have hdirect : Step deployment g (.call 0 none) g₁ :=
    .move hk (.direct hstage hdestination)
  have hip : g₁.acl.checkIp address = .ok () := by
    have hsame : g₁.acl = gateway.acl := hacl
    rw [hsame]
    rfl
  exact ⟨_, _, _, ((htrace.snoc hdirect).snoc (.move (AList.lookup_insert _) (.check rfl hip))).cons
    hbegins, AList.lookup_insert _, rfl, hport⟩

end Gateway

end OnionRoute.GatewayDaemon
