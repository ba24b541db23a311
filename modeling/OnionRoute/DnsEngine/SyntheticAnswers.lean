import OnionRoute.DnsEngine.CacheRuns
import OnionRoute.DnsEngine.Wire

/-! How long a synthetic answer stays good. -/

namespace OnionRoute.DnsEngine

open Library CommonTypes
open PacketEngine (Ipv4Addr DnsQuery)

namespace Cache

def Event.time : Event → Option ℕ
  | query now _ => some now
  | lookup now _ => some now
  | reset => none

def Keeps (config : SyntheticDnsConfig) (name : String) (c : Cache) (e : Event) (c' : Cache) : Prop :=
  c' = (c.step config e).1 ∧
    match e with
    | .query now hostname => (c.purgeExpired now).byName.lookup hostname = none →
        name ∉ (c.purgeExpired now).evicted config
    | .lookup _ _ => True
    | .reset => False

variable {config : SyntheticDnsConfig} {name : String} {c c' : Cache} {m : Mapping} {now : ℕ}

section

variable (hc : c.Sound)
include hc

lemma lookup_purgeExpired_live (hm : c.byName.lookup name = some m) (hlive : now < m.expiresAt) :
    (c.purgeExpired now).byName.lookup name = some m := by
  rw [lookup_purgeExpired hc, hm]
  simp [Option.filter, hlive]

lemma purgeExpired_eq_some (hm : (c.purgeExpired now).byName.lookup name = some m) :
    c.byName.lookup name = some m ∧ now < m.expiresAt := by
  rw [lookup_purgeExpired hc, Option.filter_eq_some_iff] at hm
  exact ⟨hm.1, of_decide_eq_true hm.2⟩

lemma Keeps.entry {e : Event} (hk : Keeps config name c e c') (hm : c.byName.lookup name = some m)
    (hlive : ∀ t, e.time = some t → t < m.expiresAt) : c'.byName.lookup name = some m := by
  obtain ⟨rfl, hk⟩ := hk
  cases e with
  | query now hostname =>
    have hpurged := lookup_purgeExpired_live hc hm (hlive now rfl)
    rw [step_query]
    have halloc := getOrAllocate_allocates hc config now hostname
    generalize c.getOrAllocate config now hostname = r at halloc
    cases halloc with
    | found _ _ => exact hpurged
    | allocated room _ next hnone hroom _ _ _ _ =>
      have hne : name ≠ hostname := by
        rintro rfl
        rw [hnone] at hpurged
        cases hpurged
      have hkept : room.byName.lookup name = some m := by
        rw [hroom, lookup_makeRoom config (purgeExpired_sound hc now), if_neg (hk hnone), hpurged]
      exact (Table.lookup_insert_of_ne _ hne _).trans hkept
    | exhausted room next hnone hroom _ _ =>
      change room.byName.lookup name = some m
      rw [hroom, lookup_makeRoom config (purgeExpired_sound hc now), if_neg (hk hnone), hpurged]
  | lookup now address =>
    have hpurged := lookup_purgeExpired_live hc hm (hlive now rfl)
    change (c.lookupHostname now address).2.byName.lookup name = some m
    rw [lookupHostname]
    cases (c.purgeExpired now).byIp.lookup address with
    | none => exact hpurged
    | some hostname => exact hpurged
  | reset => exact hk.elim

lemma keeps_trace {events : List Event} (h : Trace (Keeps config name) c events c')
    (hm : c.byName.lookup name = some m)
    (hlive : ∀ e ∈ events, ∀ t, e.time = some t → t < m.expiresAt) :
    c'.Sound ∧ c'.byName.lookup name = some m := by
  induction h with
  | nil => exact ⟨hc, hm⟩
  | snoc _ hk ih =>
    obtain ⟨hsound, hentry⟩ := ih fun e he => hlive e (List.mem_append_left _ he)
    refine ⟨hk.1 ▸ step_sound config hsound _, hk.entry hsound hentry (hlive _ ?_)⟩
    exact List.mem_append_right _ (List.mem_singleton_self _)

lemma lookupHostname_iff (hm : c.byName.lookup name = some m) :
    (c.lookupHostname now m.address).1 = some name ↔ now < m.expiresAt := by
  have hfirst : (c.lookupHostname now m.address).1 = (c.purgeExpired now).byIp.lookup m.address := by
    rw [lookupHostname]
    cases (c.purgeExpired now).byIp.lookup m.address <;> rfl
  rw [hfirst]
  constructor
  · intro h
    obtain ⟨m', hm', -⟩ := (purgeExpired_sound hc now).name_of_ip h
    obtain ⟨hm', hlive⟩ := purgeExpired_eq_some hc hm'
    rw [hm] at hm'
    exact Option.some.inj hm' ▸ hlive
  · intro h
    exact (purgeExpired_sound hc now).ip_of_name (lookup_purgeExpired_live hc hm h)

end

def Stable (config : SyntheticDnsConfig) (c : Cache) (name : String) (address : Ipv4Addr)
    (now lifetime : ℕ) : Prop :=
  ∀ events c' later, Trace (Keeps config name) c events c' →
    (now :: events.filterMap Event.time ++ [later]).Pairwise (· ≤ ·) → later < now + lifetime →
    (c'.lookupHostname later address).1 = some name

lemma stable_iff (hc : c.Sound) (hm : c.byName.lookup name = some m) (hlive : now < m.expiresAt)
    {lifetime : ℕ} :
    Stable config c name m.address now lifetime ↔ now + lifetime ≤ m.expiresAt := by
  constructor
  · intro h
    by_contra hlt
    have hfound := h [] c m.expiresAt (.nil c) (by simpa using hlive.le) (not_le.mp hlt)
    exact absurd ((lookupHostname_iff hc hm).mp hfound) (lt_irrefl _)
  · intro hle events c' later htrace htimes hlater
    have hbefore : ∀ e ∈ events, ∀ t, e.time = some t → t < m.expiresAt := by
      intro e he t ht
      have hmem : t ∈ now :: events.filterMap Event.time :=
        List.mem_cons_of_mem _ (List.mem_filterMap.mpr ⟨e, he, ht⟩)
      have := (List.pairwise_append.mp htimes).2.2 t hmem later (List.mem_singleton_self _)
      omega
    obtain ⟨hsound, hentry⟩ := keeps_trace hc htrace hm hbefore
    exact (lookupHostname_iff hsound hentry).mpr (by omega)

def advertised (config : SyntheticDnsConfig) : ℕ :=
  (advertisedTtl config).toNat * nanosPerSecond

lemma advertised_le (hvalid : config.valid) : advertised config ≤ config.ttl := by
  have hseconds : config.ttl / nanosPerSecond ≤ 60 :=
    Nat.div_le_of_le_mul (by rw [Nat.mul_comm]; exact hvalid.2.2.2)
  rw [advertised, advertisedTtl, UInt32.toNat_ofNat', Nat.mod_eq_of_lt (by omega)]
  exact Nat.div_mul_le_self _ _

lemma entry_of_answer (hc : c.Sound) (hvalid : config.valid) {address : Ipv4Addr} {hostname : String}
    (h : c.getOrAllocate config now hostname = (.ok address, c')) :
    ∃ m, m.address = address ∧ c'.Sound ∧ c'.byName.lookup hostname = some m ∧
      now < m.expiresAt ∧
      (c.byName.lookup hostname = some m ∨
        (∀ m', c.byName.lookup hostname = some m' → m'.expiresAt ≤ now) ∧
          m.expiresAt = now + config.ttl) := by
  have halloc := getOrAllocate_allocates hc config now hostname
  have hsound := halloc.sound hc
  rw [h] at halloc hsound
  generalize hr : ((.ok address : OnionResult Ipv4Addr), c') = r at halloc
  cases halloc with
  | found m hm =>
    obtain ⟨haddress, rfl⟩ := Prod.mk.inj hr
    obtain ⟨hold, hlive⟩ := purgeExpired_eq_some hc hm
    exact ⟨m, (Except.ok.inj haddress).symm, hsound, hm, hlive, .inl hold⟩
  | allocated room m next hnone _ _ _ hexpires _ =>
    obtain ⟨haddress, rfl⟩ := Prod.mk.inj hr
    have hpos : 0 < config.ttl := Nat.pos_of_ne_zero hvalid.2.2.1
    refine ⟨m, (Except.ok.inj haddress).symm, hsound, AList.lookup_insert _, by omega,
      .inr ⟨fun m' hm' => ?_, hexpires⟩⟩
    by_contra hlive
    rw [lookup_purgeExpired_live hc hm' (not_le.mp hlive)] at hnone
    cases hnone
  | exhausted room next _ _ _ _ => cases (Prod.mk.inj hr).1

end Cache

open Cache History

/-- An answer stays good for the time it advertises exactly when the name had no live entry, or one
that would live that long. -/
theorem answer_stable_iff {config : SyntheticDnsConfig} (hvalid : config.valid)
    (events : List Event) (now : ℕ) (query : DnsQuery) (question : DnsQuestion)
    (hclass : question.recordClass = 1) (htype : question.recordType = typeA)
    {response : DnsResponse} {c' : Cache}
    (h : (run config events).cache.syntheticResponse config now query question =
      (.ok response, c')) :
    ∃ address, response.wire =
        aResponse query.wire question.questionEnd address (advertisedTtl config) ∧
      (Stable config c' question.hostname address now (advertised config) ↔
        ∀ m, (run config events).cache.byName.lookup question.hostname = some m →
          now < m.expiresAt → now + advertised config ≤ m.expiresAt) := by
  have hc := run_sound config events
  have haaaa : question.recordType ≠ typeAaaa := by rw [htype]; decide
  rw [syntheticResponse, if_neg (not_not.mpr hclass), if_neg haaaa] at h
  cases hget : (run config events).cache.getOrAllocate config now question.hostname with
  | mk result c₁ =>
    rw [hget] at h
    cases result with
    | error e => cases (Prod.mk.inj h).1
    | ok address =>
      obtain ⟨hresponse, rfl⟩ := Prod.mk.inj h
      obtain rfl := Except.ok.inj hresponse
      refine ⟨address, rfl, ?_⟩
      obtain ⟨m, rfl, hsound, hentry, hlive, hold | ⟨hexpired, hnew⟩⟩ :=
        entry_of_answer hc hvalid hget
      · rw [stable_iff hsound hentry hlive]
        constructor
        · intro hle m' hm' _
          exact Option.some.inj (hold.symm.trans hm') ▸ hle
        · intro hall
          exact hall m hold hlive
      · rw [stable_iff hsound hentry hlive]
        have hle := advertised_le hvalid
        constructor
        · intro _ m' hm' hlive'
          exact absurd (hexpired m' hm') (not_le.mpr hlive')
        · intro _
          omega

namespace Sample

def cacheConfig : SyntheticDnsConfig := {}

def query : DnsQuery := ⟨1, [0, 7, 1, 0, 0, 1, 0, 0, 0, 0, 0, 0, 1, 97, 0, 0, 1, 0, 1]⟩

def question : DnsQuestion := ⟨"a", typeA, 1, 19⟩

def address : Ipv4Addr := ⟨198, 18, 0, 1⟩

def answer : DnsResponse := ⟨1, aResponse query.wire 19 address 30⟩

def answering (events : List Event) (now : ℕ) : OnionResult DnsResponse × Cache :=
  (run cacheConfig events).cache.syntheticResponse cacheConfig now query question

lemma parseQuery_query : parseQuery query.wire = .ok question := by decide +kernel

lemma answering_fresh : (answering [] 0).1 = .ok answer := by decide +kernel

end Sample

open Sample in
theorem answer_stable_fresh : ∃ address,
    answer.wire = aResponse query.wire 19 address (advertisedTtl cacheConfig) ∧
      Stable cacheConfig (answering [] 0).2 "a" address 0
        (advertised cacheConfig) := by
  have hanswer : answering [] 0 = (.ok answer, (answering [] 0).2) :=
    Prod.ext answering_fresh rfl
  have hvalid : cacheConfig.valid := by decide
  obtain ⟨address, hwire, hiff⟩ :=
    answer_stable_iff hvalid [] 0 query question rfl rfl hanswer
  exact ⟨address, hwire, hiff.mpr fun m hm => by cases hm⟩

open Sample in
/-- The second answer advertises thirty seconds, and its entry lives one. -/
theorem answer_outlives_entry :
    parseQuery query.wire = .ok question ∧
      (answering [.query 0 "a"] (29 * nanosPerSecond)).1 = .ok answer ∧
      30 * nanosPerSecond < 29 * nanosPerSecond + advertised cacheConfig ∧
      ((answering [.query 0 "a"] (29 * nanosPerSecond)).2.lookupHostname
        (30 * nanosPerSecond) address).1 = none := by
  refine ⟨parseQuery_query, ?_, ?_, ?_⟩ <;> decide +kernel

end OnionRoute.DnsEngine
