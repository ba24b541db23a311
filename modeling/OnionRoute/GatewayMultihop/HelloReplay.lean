import OnionRoute.GatewayMultihop.VersionNegotiation
import OnionRoute.Library.Trace

/-! No hello is accepted twice: a nonce is remembered for longer than a hello is fresh. -/

namespace OnionRoute.GatewayMultihop

open Library ReplayCache
open GatewayProtocol (Block)

namespace ReplayCache

variable {cache cache' : ReplayCache} {serviceId : String} {nonce : Bytes} {now : ℕ}

def size (cache : ReplayCache) : ℕ := Table.size cache.entries

structure Evolves (now : ℕ) (cache cache' : ReplayCache) : Prop where
  ttl : cache'.ttl = cache.ttl
  maximumEntries : cache'.maximumEntries = cache.maximumEntries
  poisoned : cache'.poisoned = cache.poisoned
  kept : ∀ {key t}, cache.entries.lookup key = some t → now - t ≤ cache.ttl →
    cache'.entries.lookup key = some t
  bounded : cache.size ≤ cache.maximumEntries → cache'.size ≤ cache.maximumEntries

lemma Evolves.refl (now : ℕ) (cache : ReplayCache) : Evolves now cache cache where
  ttl := rfl
  maximumEntries := rfl
  poisoned := rfl
  kept h _ := h
  bounded h := h

def pruned (cache : ReplayCache) (now : ℕ) : Table (String × Block nonceSize) ℕ :=
  Table.retain (fun _ inserted => now - inserted ≤ cache.ttl) cache.entries

variable {key : String × Block nonceSize} {t : ℕ}

lemma lookup_pruned :
    (cache.pruned now).lookup key = some t ↔
      cache.entries.lookup key = some t ∧ now - t ≤ cache.ttl := by
  rw [pruned, Table.lookup_retain_eq_some, decide_eq_true_iff]

lemma evolves_pruned : Evolves now cache { cache with entries := cache.pruned now } where
  ttl := rfl
  maximumEntries := rfl
  poisoned := rfl
  kept h hlive := lookup_pruned.mpr ⟨h, hlive⟩
  bounded h := (List.length_filter_le _ _).trans h

lemma evolves_insert (hnew : (cache.pruned now).lookup key = none)
    (hroom : (cache.pruned now).size < cache.maximumEntries) :
    Evolves now cache { cache with entries := (cache.pruned now).insert key now } where
  ttl := rfl
  maximumEntries := rfl
  poisoned := rfl
  kept := by
    intro key' t h hlive
    have hkept := lookup_pruned.mpr ⟨h, hlive⟩
    have hne : key' ≠ key := by
      rintro rfl
      rw [hnew] at hkept
      cases hkept
    rwa [Table.lookup_insert_of_ne _ hne]
  bounded := by
    intro _
    calc Table.size ((cache.pruned now).insert key now)
        = Table.size ((cache.pruned now).erase key) + 1 := Table.size_insert _ key now
      _ ≤ (cache.pruned now).size + 1 := Nat.succ_le_succ (Table.size_erase_le _ key)
      _ ≤ cache.maximumEntries := hroom

lemma checkAndInsert_ends (serviceId : String) (nonce : Bytes) (now : ℕ) (cache : ReplayCache) :
    Ends (checkAndInsert serviceId nonce now) cache
      (fun _ cache' => Evolves now cache cache' ∧ ∃ h : nonce.length = nonceSize,
        cache'.entries.lookup (serviceId, ⟨nonce, h⟩) = some now ∧
        (cache.pruned now).lookup (serviceId, ⟨nonce, h⟩) = none)
      (Evolves now cache) := by
  rw [checkAndInsert]
  refine Ends.lift_bind ?_ (Evolves.refl now cache)
  intro block hblock
  have hlength : nonce.length = nonceSize := by
    by_contra hne
    simp [exactly, hne, throw_eq_ok] at hblock
  obtain rfl : ⟨nonce, hlength⟩ = block := by simpa [exactly, hlength, pure_eq_ok] using hblock
  refine Ends.get_bind (Ends.guard (fun _ => Evolves.refl now cache) fun _ => ?_)
  refine Ends.set_bind (Ends.guard (fun _ => evolves_pruned) fun hnew => ?_)
  refine Ends.guard (fun _ => evolves_pruned) fun hroom => ?_
  have hnone : (cache.pruned now).lookup (serviceId, ⟨nonce, hlength⟩) = none :=
    Option.not_isSome_iff_eq_none.mp hnew
  refine Ends.of_set ⟨evolves_insert hnone (not_le.mp hroom), hlength, ?_, hnone⟩
  exact AList.lookup_insert _

lemma checkAndInsert_remembered {block : Block nonceSize} (hpoisoned : cache.poisoned = false)
    (h : (cache.pruned now).lookup (serviceId, block) = some t) :
    checkAndInsert serviceId block now cache =
      .error .replayDetected { cache with entries := cache.pruned now } := by
  have hblock : exactly nonceSize block = .ok block := by simp [exactly, block.2, pure, Except.pure]
  have hcontains : Table.contains (serviceId, block) (cache.pruned now) = true :=
    Table.contains_iff.mpr ⟨t, h⟩
  simp only [checkAndInsert, hblock]
  change (if cache.poisoned = true then _ else _ : EStateM ErrorCode ReplayCache Unit) cache = _
  rw [if_neg (hpoisoned ▸ Bool.false_ne_true)]
  change (if (cache.pruned now).contains _ = true then _ else _ :
    EStateM ErrorCode ReplayCache Unit) { cache with entries := cache.pruned now } = _
  rw [if_pos hcontains]
  rfl

end ReplayCache

section Admission

variable {tls : AuthenticatedTls} {config : HandshakeConfig} {clock : Clock}
  {frame : InterGatewayFrame} {cache : ReplayCache}

lemma skew_of_validateClientHello {wall : ℤ} {hello : ClientHello} {peer : PeerIdentity} {u : Unit}
    (h : validateClientHello wall hello peer config = .ok u) :
    clockSkew wall hello.unixSeconds ≤ maxClockSkew := by
  simp only [validateClientHello, bind_eq_ok, guard_eq_ok, not_lt, gt_iff_lt] at h
  obtain ⟨-, _, -, -, hskew, -⟩ := h
  exact hskew

lemma admitHello_ends (tls : AuthenticatedTls) (config : HandshakeConfig) (clock : Clock)
    (frame : InterGatewayFrame) (cache : ReplayCache) :
    Ends (admitHello tls config clock frame) cache
      (fun admission cache' => ReplayCache.Evolves clock.monotonic cache cache' ∧
        clockSkew clock.wall admission.1.unixSeconds ≤ maxClockSkew ∧
        cache'.entries.lookup (tls.peer.serviceId, admission.2.1) = some clock.monotonic ∧
        (cache.pruned clock.monotonic).lookup (tls.peer.serviceId, admission.2.1) = none)
      (ReplayCache.Evolves clock.monotonic cache) := by
  have hrefl := ReplayCache.Evolves.refl clock.monotonic cache
  rw [admitHello]
  refine Ends.guard (fun _ => hrefl) fun _ => ?_
  refine Ends.lift_bind (fun hello _ => ?_) hrefl
  refine Ends.lift_bind (fun _ hvalid => ?_) hrefl
  refine Ends.bind (checkAndInsert_ends _ _ _ _) ?_
  rintro _ cache' ⟨hevolves, hlength, hinserted, hnew⟩
  refine Ends.lift_bind (fun block hblock => ?_) hevolves
  obtain rfl : ⟨hello.nonce, hlength⟩ = block := by
    simpa [exactly, hlength, pure_eq_ok] using hblock
  refine Ends.lift_bind (fun selected _ => ?_) hevolves
  exact ⟨hevolves, skew_of_validateClientHello hvalid, hinserted, hnew⟩

end Admission

structure Presentation where
  tls : AuthenticatedTls
  config : HandshakeConfig
  frame : InterGatewayFrame
  time : ℕ

structure Acceptance where
  serviceId : String
  nonce : Block nonceSize
  unixSeconds : Int64
  time : ℕ
  deriving DecidableEq

def Acceptance.hello (a : Acceptance) : String × Block nonceSize × Int64 :=
  (a.serviceId, a.nonce, a.unixSeconds)

structure Exit where
  cache : ReplayCache
  now : ℕ
  accepted : List Acceptance

namespace Exit

def default : Exit := ⟨.default, 0, []⟩

def present (offset : ℤ) (p : Presentation) (exit : Exit) : Exit :=
  match admitHello p.tls p.config ⟨offset + p.time, p.time⟩ p.frame exit.cache with
  | .ok (hello, nonce, _) cache =>
    ⟨cache, p.time, ⟨p.tls.peer.serviceId, nonce, hello.unixSeconds, p.time⟩ :: exit.accepted⟩
  | .error _ cache => ⟨cache, p.time, exit.accepted⟩

inductive Step (offset : ℤ) : Exit → Presentation → Exit → Prop
  | present {exit : Exit} {p : Presentation} (htime : exit.now ≤ p.time) :
      Step offset exit p (exit.present offset p)

end Exit

namespace Sample

def presentation (time : ℕ) : Presentation where
  tls := ⟨identity .entry, ⟨List.replicate 32 3, by decide⟩⟩
  config := config 0 2
  frame :=
    { sequence := 1
      version := some (config 0 2).maximumVersion.toWire
      connectionId := []
      body := some (.clientHello (hello (config 0 2))) }
  time

end Sample

namespace Exit

variable {offset : ℤ} {exit : Exit} {p : Presentation}

structure Sound (offset : ℤ) (exit : Exit) : Prop where
  ttl : exit.cache.ttl = defaultReplayTtl
  maximumEntries : exit.cache.maximumEntries = maxReplayEntries
  poisoned : exit.cache.poisoned = false
  bounded : exit.cache.size ≤ maxReplayEntries
  past : ∀ a ∈ exit.accepted, a.time ≤ exit.now
  inTime : ∀ a ∈ exit.accepted, clockSkew (offset + a.time) a.unixSeconds ≤ maxClockSkew
  remembered : ∀ a ∈ exit.accepted, exit.now ≤ a.time + defaultReplayTtl →
    exit.cache.entries.lookup (a.serviceId, a.nonce) = some a.time
  nodup : (exit.accepted.map Acceptance.hello).Nodup

lemma sound_default : default.Sound offset where
  ttl := rfl
  maximumEntries := rfl
  poisoned := rfl
  bounded := Nat.zero_le _
  past := by simp [default]
  inTime := by simp [default]
  remembered := by simp [default]
  nodup := List.nodup_nil

lemma Sound.evolve (h : exit.Sound offset) {cache : ReplayCache} {time : ℕ}
    (htime : exit.now ≤ time) (hcache : ReplayCache.Evolves time exit.cache cache) :
    (⟨cache, time, exit.accepted⟩ : Exit).Sound offset where
  ttl := hcache.ttl.trans h.ttl
  maximumEntries := hcache.maximumEntries.trans h.maximumEntries
  poisoned := hcache.poisoned.trans h.poisoned
  bounded := by
    have hbounded := hcache.bounded
    rw [h.maximumEntries] at hbounded
    exact hbounded h.bounded
  past a ha := (h.past a ha).trans htime
  inTime := h.inTime
  remembered := by
    intro a ha hlive
    have hpast := h.past a ha
    refine hcache.kept (h.remembered a ha (htime.trans hlive)) ?_
    rw [h.ttl]
    exact Nat.sub_le_iff_le_add'.mpr hlive
  nodup := h.nodup

lemma Sound.late_or_remembered (h : exit.Sound offset) {a : Acceptance} (ha : a ∈ exit.accepted)
    {time : ℕ} (htime : exit.now ≤ time) :
    (exit.cache.pruned time).lookup (a.serviceId, a.nonce) = some a.time ∨
      maxClockSkew < clockSkew (offset + time) a.unixSeconds := by
  have hpast := h.past a ha
  have hskew := h.inTime a ha
  by_cases hlive : time ≤ a.time + defaultReplayTtl
  · refine .inl (lookup_pruned.mpr ⟨h.remembered a ha (htime.trans hlive), ?_⟩)
    rw [h.ttl]
    exact Nat.sub_le_iff_le_add'.mpr hlive
  · right
    -- twice the clock check's tolerance is less than the time to live
    simp only [clockSkew, maxClockSkew, defaultReplayTtl, nanosPerSecond] at hskew hlive ⊢
    omega

lemma Sound.present (h : exit.Sound offset) (htime : exit.now ≤ p.time) :
    (exit.present offset p).Sound offset := by
  have hends := admitHello_ends p.tls p.config ⟨offset + p.time, p.time⟩ p.frame exit.cache
  rw [Ends] at hends
  rw [Exit.present]
  split
  next hello nonce version cache hresult =>
    rw [hresult] at hends
    obtain ⟨hcache, hskew, hinserted, hnew⟩ := hends
    have hold := h.evolve htime hcache
    refine { hold with past := ?_, inTime := ?_, remembered := ?_, nodup := ?_ }
    · exact List.forall_mem_cons.mpr ⟨le_rfl, hold.past⟩
    · exact List.forall_mem_cons.mpr ⟨hskew, h.inTime⟩
    · exact List.forall_mem_cons.mpr ⟨fun _ => hinserted, hold.remembered⟩
    · refine List.nodup_cons.mpr ⟨?_, h.nodup⟩
      intro hmem
      obtain ⟨a, ha, heq⟩ := List.mem_map.mp hmem
      simp only [Acceptance.hello, Prod.mk.injEq] at heq
      obtain ⟨hid, hnonce, hseconds⟩ := heq
      rcases h.late_or_remembered ha htime with hremembered | hlate
      · rw [hid, hnonce, hnew] at hremembered
        cases hremembered
      · rw [hseconds] at hlate
        exact absurd hskew (not_le.mpr hlate)
  next e cache hresult =>
    rw [hresult] at hends
    exact h.evolve htime hends

lemma sound_of_trace {ps : List Presentation} (h : Trace (Step offset) default ps exit) :
    exit.Sound offset := by
  refine h.invariant ?_ sound_default
  rintro _ _ _ ⟨htime⟩ hsound
  exact hsound.present htime

/-- Over all presentations no hello is accepted twice, and the cache stays within its capacity.
While the cache remembers an accepted hello it refuses the nonce, and from then on the clock
check refuses every hello of that time. -/
theorem hello_accepted_once {ps : List Presentation} (h : Trace (Step offset) default ps exit) :
    (exit.accepted.map Acceptance.hello).Nodup ∧ exit.cache.size ≤ maxReplayEntries ∧
    ∀ a ∈ exit.accepted, ∀ time, exit.now ≤ time →
      (time ≤ a.time + defaultReplayTtl → ∃ cache,
        ReplayCache.checkAndInsert a.serviceId a.nonce time exit.cache =
          .error .replayDetected cache) ∧
      (a.time + defaultReplayTtl < time → ∀ hello peer config,
        hello.unixSeconds = a.unixSeconds →
          validateClientHello (offset + time) hello peer config ≠ .ok ()) := by
  have hsound := sound_of_trace h
  refine ⟨hsound.nodup, hsound.bounded, ?_⟩
  intro a ha time htime
  constructor
  · intro hlive
    have hlookup := hsound.remembered a ha (htime.trans hlive)
    refine ⟨_, checkAndInsert_remembered hsound.poisoned
      (lookup_pruned.mpr ⟨hlookup, ?_⟩)⟩
    rw [hsound.ttl]
    exact Nat.sub_le_iff_le_add'.mpr hlive
  · intro hexpired hello peer config hseconds hvalid
    have hskew := skew_of_validateClientHello hvalid
    rcases hsound.late_or_remembered ha htime with hremembered | hlate
    · have hlive := (lookup_pruned.mp hremembered).2
      rw [hsound.ttl] at hlive
      omega
    · rw [hseconds] at hskew
      exact absurd hskew (not_le.mpr hlate)

open Sample in
theorem hello_accepted_once_sample :
    ∃ exit, Trace (Step 0) default [presentation 5, presentation 9] exit ∧
      (exit.accepted.map Acceptance.hello).Nodup ∧ exit.accepted.length = 1 := by
  have hfirst : Step 0 default (presentation 5) (default.present 0 (presentation 5)) :=
    .present (by decide)
  have hsecond : Step 0 (default.present 0 (presentation 5)) (presentation 9) _ :=
    .present (by decide)
  have hrun := (Trace.single hfirst).snoc hsecond
  exact ⟨_, hrun, (hello_accepted_once hrun).1, by decide⟩

end Exit

end OnionRoute.GatewayMultihop
