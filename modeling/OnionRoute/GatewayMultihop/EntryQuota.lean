import OnionRoute.GatewayMultihop.Handshake
import OnionRoute.Library.Trace

/-! The quotas an exit keeps for each entry. Times are nanoseconds; the lock is never poisoned. -/

namespace OnionRoute.GatewayMultihop

open Library

structure EntryQuotaLimits where
  maximumEntries : ℕ
  maximumConnectionsPerEntry : ℕ
  maximumSessionsPerEntry : ℕ
  bytesPerSecond : ℕ
  burstBytes : ℕ
  deriving DecidableEq

def EntryQuotaLimits.default : EntryQuotaLimits where
  maximumEntries := 1024
  maximumConnectionsPerEntry := 8
  maximumSessionsPerEntry := 2048
  bytesPerSecond := 100 * 1024 * 1024
  burstBytes := 20 * 1024 * 1024

structure EntryState where
  connections : ℕ
  sessions : ℕ
  availableBytes : ℕ
  lastRefill : ℕ
  deriving DecidableEq

structure EntryQuotaManager where
  limits : EntryQuotaLimits
  entries : Table String EntryState
  draining : Bool

def EntryState.releases (state : EntryState) (connection : Bool) : EntryState :=
  if connection then { state with connections := state.connections - 1 }
  else { state with sessions := state.sessions - 1 }

def refillGranularity : ℕ := 10 * 1000000

-- The clock is read twice: for the elapsed time, and again for the new `last_refill`.
def refill (state : EntryState) (limits : EntryQuotaLimits) (now later : ℕ) : EntryState :=
  let elapsed := now - state.lastRefill
  if elapsed < refillGranularity then state else
  let added := min (limits.bytesPerSecond * elapsed % 2 ^ 128 / nanosPerSecond) u64Max
  { state with
    availableBytes := min (saturatingAdd state.availableBytes added) limits.burstBytes
    lastRefill := later }

namespace EntryQuotaManager

def acquireConnection (peer : PeerIdentity) (now : ℕ) :
    EStateM ErrorCode EntryQuotaManager Unit := do
  let manager ← get
  if manager.draining then throw .draining
  if manager.entries.contains peer.serviceId = false ∧
      manager.entries.size ≥ manager.limits.maximumEntries then
    throw .resourceExhausted
  let state := (manager.entries.lookup peer.serviceId).getD ⟨0, 0, manager.limits.burstBytes, now⟩
  -- a record made by `or_insert` stays even when the next check fails
  set { manager with entries := manager.entries.insert peer.serviceId state }
  if state.connections ≥ manager.limits.maximumConnectionsPerEntry then throw .resourceExhausted
  set { manager with
    entries := manager.entries.insert peer.serviceId
      { state with connections := state.connections + 1 } }

def acquireSession (peer : PeerIdentity) : EStateM ErrorCode EntryQuotaManager Unit := do
  let manager ← get
  if manager.draining then throw .draining
  let state ← okOr .authenticationRejected (manager.entries.lookup peer.serviceId)
  if state.sessions ≥ manager.limits.maximumSessionsPerEntry then throw .resourceExhausted
  set { manager with
    entries := manager.entries.insert peer.serviceId { state with sessions := state.sessions + 1 } }

def chargeBytes (peer : PeerIdentity) (bytes now later : ℕ) :
    EStateM ErrorCode EntryQuotaManager Unit := do
  let manager ← get
  let state ← okOr .authenticationRejected (manager.entries.lookup peer.serviceId)
  let state := refill state manager.limits now later
  set { manager with entries := manager.entries.insert peer.serviceId state }
  if bytes > state.availableBytes then throw .backpressure
  set { manager with
    entries := manager.entries.insert peer.serviceId
      { state with availableBytes := state.availableBytes - bytes } }

/-- What the drop of a connection permit (`connection`) or of a session permit does. -/
def release (serviceId : String) (connection : Bool) : EStateM ErrorCode EntryQuotaManager Unit := do
  let manager ← get
  match manager.entries.lookup serviceId with
  | none => pure ()
  | some state =>
    let state := state.releases connection
    if state.connections = 0 ∧ state.sessions = 0 then
      set { manager with entries := manager.entries.erase serviceId }
    else set { manager with entries := manager.entries.insert serviceId state }

def setDraining (draining : Bool) : EStateM ErrorCode EntryQuotaManager Unit :=
  modify fun manager => { manager with draining }

end EntryQuotaManager

inductive QuotaCall
  | acquireConnection (peer : PeerIdentity)
  | acquireSession (peer : PeerIdentity)
  | chargeBytes (peer : PeerIdentity) (bytes : ℕ)
  | release (serviceId : String) (connection : Bool)
  | setDraining (draining : Bool)

structure QuotaEvent where
  call : QuotaCall
  now : ℕ
  later : ℕ

def QuotaEvent.run (event : QuotaEvent) : EStateM ErrorCode EntryQuotaManager Unit :=
  match event.call with
  | .acquireConnection peer => EntryQuotaManager.acquireConnection peer event.now
  | .acquireSession peer => EntryQuotaManager.acquireSession peer
  | .chargeBytes peer bytes => EntryQuotaManager.chargeBytes peer bytes event.now event.later
  | .release serviceId connection => EntryQuotaManager.release serviceId connection
  | .setDraining draining => EntryQuotaManager.setDraining draining

def QuotaCall.bytesFor (serviceId : String) : QuotaCall → ℕ
  | .chargeBytes peer bytes => if serviceId = peer.serviceId then bytes else 0
  | _ => 0

structure QuotaRun where
  manager : EntryQuotaManager
  clock : ℕ
  charged : String → ℕ

namespace QuotaRun

def start (limits : EntryQuotaLimits) : QuotaRun := ⟨⟨limits, ∅, false⟩, 0, fun _ => 0⟩

def act (s : QuotaRun) (event : QuotaEvent) : Option QuotaRun :=
  if s.clock ≤ event.now ∧ event.now ≤ event.later then
    some <| match event.run s.manager with
      | .ok _ manager => ⟨manager, event.later, fun e => s.charged e + event.call.bytesFor e⟩
      | .error _ manager => ⟨manager, event.later, s.charged⟩
  else none

def Step (s : QuotaRun) (event : QuotaEvent) (t : QuotaRun) : Prop := s.act event = some t

def record (s : QuotaRun) (serviceId : String) : Option EntryState :=
  s.manager.entries.lookup serviceId

def HoldingStep (serviceId : String) (s : QuotaRun) (event : QuotaEvent) (t : QuotaRun) : Prop :=
  s.Step event t ∧ (t.record serviceId = none → s.record serviceId = none)

end QuotaRun

section Turns

inductive Turn (limits : EntryQuotaLimits) (now later : ℕ) :
    Option EntryState → Option EntryState → ℕ → Prop
  | absent : Turn limits now later none none 0
  | opened {new : EntryState} (bytes : new.availableBytes = limits.burstBytes)
      (time : new.lastRefill = now) : Turn limits now later none (some new) 0
  | counted {old new : EntryState} (bytes : new.availableBytes = old.availableBytes)
      (time : new.lastRefill = old.lastRefill) : Turn limits now later (some old) (some new) 0
  | removed {old : EntryState} : Turn limits now later (some old) none 0
  | metered {old new : EntryState} {bytes : ℕ}
      (available : new.availableBytes + bytes = (refill old limits now later).availableBytes)
      (time : new.lastRefill = (refill old limits now later).lastRefill) :
      Turn limits now later (some old) (some new) bytes

structure Turns (now later : ℕ) (charged : String → ℕ) (m m' : EntryQuotaManager) : Prop where
  limits : m'.limits = m.limits
  turn : ∀ e, Turn m.limits now later (m.entries.lookup e) (m'.entries.lookup e) (charged e)

variable {limits : EntryQuotaLimits} {now later : ℕ} {m : EntryQuotaManager} {k : String}

lemma Turn.refl (r : Option EntryState) : Turn limits now later r r 0 := by
  cases r with
  | none => exact .absent
  | some r => exact .counted rfl rfl

lemma Turns.refl : Turns now later 0 m m := ⟨rfl, fun _ => .refl _⟩

lemma Turns.insert {new : EntryState} {bytes : ℕ}
    (h : Turn m.limits now later (m.entries.lookup k) (some new) bytes) :
    Turns now later (fun e => if e = k then bytes else 0) m
      { m with entries := m.entries.insert k new } where
  limits := rfl
  turn e := by
    by_cases he : e = k
    · subst he
      simpa using h
    · simpa [he, Table.lookup_insert_of_ne _ he] using Turn.refl _

lemma Turns.insert_zero {new : EntryState}
    (h : Turn m.limits now later (m.entries.lookup k) (some new) 0) :
    Turns now later 0 m { m with entries := m.entries.insert k new } := by
  have hzero : (fun e => if e = k then 0 else 0) = (0 : String → ℕ) := by simp; rfl
  exact hzero ▸ Turns.insert h

lemma Turns.erase : Turns now later 0 m { m with entries := m.entries.erase k } where
  limits := rfl
  turn e := by
    by_cases he : e = k
    · subst he
      cases h : m.entries.lookup e with
      | none => simpa using Turn.absent
      | some old => simpa using Turn.removed
    · simpa [Table.lookup_erase_of_ne _ he] using Turn.refl _

lemma turn_acquired {c : ℕ} : Turn m.limits now later (m.entries.lookup k)
    (some { (m.entries.lookup k).getD ⟨0, 0, m.limits.burstBytes, now⟩ with connections := c })
    0 := by
  cases m.entries.lookup k with
  | none => exact .opened rfl rfl
  | some old => exact .counted rfl rfl

lemma QuotaEvent.run_turns (event : QuotaEvent) (m : EntryQuotaManager) :
    Ends event.run m (fun _ m' => Turns event.now event.later (event.call.bytesFor ·) m m')
      (Turns event.now event.later 0 m) := by
  obtain ⟨call, now, later⟩ := event
  cases call with
  | acquireConnection peer =>
    refine Ends.get_bind (Ends.guard (fun _ => .refl) fun _ => ?_)
    refine Ends.guard (fun _ => .refl) fun _ => Ends.set_bind ?_
    exact Ends.guard (fun _ => .insert_zero turn_acquired) fun _ =>
      Ends.of_set (.insert_zero turn_acquired)
  | acquireSession peer =>
    refine Ends.get_bind (Ends.guard (fun _ => .refl) fun _ => ?_)
    refine Ends.lift_bind (fun state hstate => ?_) .refl
    refine Ends.guard (fun _ => .refl) fun _ => Ends.of_set (.insert_zero ?_)
    rw [okOr_eq_ok.mp hstate]
    exact .counted rfl rfl
  | chargeBytes peer bytes =>
    refine Ends.get_bind (Ends.lift_bind (fun state hstate => ?_) .refl)
    have hlookup := okOr_eq_ok.mp hstate
    refine Ends.set_bind (Ends.guard (fun _ => .insert_zero ?_) fun hle =>
      Ends.of_set (.insert ?_))
    · rw [hlookup]
      exact .metered rfl rfl
    · rw [hlookup]
      exact .metered (Nat.sub_add_cancel (not_lt.mp hle)) rfl
  | release serviceId connection =>
    refine Ends.get_bind ?_
    cases hlookup : m.entries.lookup serviceId with
    | none => exact Ends.of_pure .refl
    | some state =>
      dsimp only
      split
      · exact Ends.of_set .erase
      · refine Ends.of_set (.insert_zero ?_)
        rw [hlookup]
        cases connection <;> exact .counted rfl rfl
  | setDraining draining => exact Ends.of_modify ⟨rfl, fun _ => .refl _⟩

lemma QuotaRun.turn_of_step {s t : QuotaRun} {event : QuotaEvent} (h : s.Step event t)
    (e : String) : s.clock ≤ event.now ∧ event.now ≤ event.later ∧ t.clock = event.later ∧
      t.manager.limits = s.manager.limits ∧ ∃ bytes, t.charged e = s.charged e + bytes ∧
        Turn s.manager.limits event.now event.later (s.record e) (t.record e) bytes := by
  simp only [Step, act, Option.ite_none_right_eq_some, Option.some.injEq] at h
  obtain ⟨⟨hnow, hlater⟩, rfl⟩ := h
  have hends := event.run_turns s.manager
  rw [Ends] at hends
  refine ⟨hnow, hlater, ?_⟩
  cases hrun : event.run s.manager with
  | ok _ manager =>
    rw [hrun] at hends
    exact ⟨rfl, hends.limits, _, rfl, hends.turn e⟩
  | error _ manager =>
    rw [hrun] at hends
    exact ⟨rfl, hends.limits, 0, rfl, hends.turn e⟩

end Turns

section Refill

variable (limits : EntryQuotaLimits) (later : ℕ) {state : EntryState} {now : ℕ}

lemma refill_of_lt (h : now - state.lastRefill < refillGranularity) :
    refill state limits now later = state := if_pos h

lemma refill_of_le (h : refillGranularity ≤ now - state.lastRefill) :
    (refill state limits now later).lastRefill = later ∧
      (refill state limits now later).availableBytes ≤ limits.burstBytes ∧
      nanosPerSecond * (refill state limits now later).availableBytes ≤
        nanosPerSecond * state.availableBytes +
          limits.bytesPerSecond * (now - state.lastRefill) := by
  rw [refill, if_neg (not_lt.mpr h)]
  refine ⟨rfl, min_le_right _ _, ?_⟩
  generalize now - state.lastRefill = elapsed
  have hadded : nanosPerSecond * min (limits.bytesPerSecond * elapsed % 2 ^ 128 / nanosPerSecond)
      u64Max ≤ limits.bytesPerSecond * elapsed :=
    calc _ ≤ nanosPerSecond * (limits.bytesPerSecond * elapsed % 2 ^ 128 / nanosPerSecond) :=
          Nat.mul_le_mul_left _ (min_le_left _ _)
      _ ≤ limits.bytesPerSecond * elapsed % 2 ^ 128 := Nat.mul_div_le _ _
      _ ≤ limits.bytesPerSecond * elapsed := Nat.mod_le _ _
  calc nanosPerSecond * min (saturatingAdd state.availableBytes _) limits.burstBytes
      ≤ nanosPerSecond * (state.availableBytes + _) :=
        Nat.mul_le_mul_left _ ((min_le_left _ _).trans (min_le_left _ _))
    _ ≤ _ := by rw [Nat.mul_add]; exact Nat.add_le_add_left hadded _

end Refill

section Bound

def Bounded (limits : EntryQuotaLimits) (clock : ℕ) (r : EntryState) : Prop :=
  r.availableBytes ≤ limits.burstBytes ∧ r.lastRefill ≤ clock

def Account (limits : EntryQuotaLimits) (start base : ℕ) : Option EntryState → ℕ → Prop
  | none, charged => charged = base
  | some r, charged =>
    -- a charge without a refill shows that the last refill was recent
    (r.lastRefill + refillGranularity ≤ start → charged = base) ∧
      nanosPerSecond * (charged + r.availableBytes) ≤ nanosPerSecond * (base + limits.burstBytes) +
        limits.bytesPerSecond * (r.lastRefill + refillGranularity - start)

variable {limits : EntryQuotaLimits} {now later clock start base charged bytes : ℕ}
  {old new : Option EntryState}

lemma Account.of_bounded (h : ∀ r ∈ old, Bounded limits clock r) :
    Account limits start base old base := by
  cases old with
  | none => rfl
  | some r =>
    exact ⟨fun _ => rfl, Nat.le_add_right_of_le
      (Nat.mul_le_mul_left _ (Nat.add_le_add_left (h r rfl).1 _))⟩

lemma Turn.bounded (h : Turn limits now later old new bytes) (hnow : clock ≤ now)
    (hlater : now ≤ later) (hold : ∀ r ∈ old, Bounded limits clock r) :
    ∀ r ∈ new, Bounded limits later r := by
  rintro r ⟨⟩
  cases h with
  | opened hb ht => exact ⟨hb.le, ht ▸ hlater⟩
  | counted hb ht =>
    obtain ⟨hbytes, htime⟩ := hold _ rfl
    exact ⟨hb ▸ hbytes, by omega⟩
  | @metered old _ _ hb ht =>
    obtain ⟨hbytes, htime⟩ := hold _ rfl
    rcases lt_or_ge (now - old.lastRefill) refillGranularity with hshort | hlong
    · rw [refill_of_lt _ _ hshort] at hb ht
      exact ⟨by omega, by omega⟩
    · obtain ⟨hlast, hburst, -⟩ := refill_of_le limits later hlong
      exact ⟨by omega, by omega⟩

lemma Turn.account (h : Turn limits now later old new bytes) (hlater : now ≤ later)
    (hstart : start ≤ now) (hheld : new = none → old = none)
    (hold : Account limits start base old charged) :
    Account limits start base new (charged + bytes) := by
  cases h with
  | absent => exact hold
  | opened hb _ =>
    obtain rfl : charged = base := hold
    exact ⟨fun _ => rfl, by rw [hb]; exact Nat.le_add_right _ _⟩
  | counted hb ht =>
    rw [Account, hb, ht]
    exact hold
  | removed => cases hheld rfl
  | @metered old new _ hb ht =>
    obtain ⟨hearly, hsum⟩ := hold
    rcases lt_or_ge (now - old.lastRefill) refillGranularity with hshort | hlong
    · rw [refill_of_lt _ _ hshort] at hb ht
      refine ⟨fun hle => by omega, ?_⟩
      rw [ht, add_assoc, add_comm bytes, hb]
      exact hsum
    · obtain ⟨hlast, hburst, hadded⟩ := refill_of_le limits later hlong
      rw [hlast] at ht
      refine ⟨fun hle => by simp only [refillGranularity] at hle; omega, ?_⟩
      rw [ht, add_assoc, add_comm bytes, hb]
      rcases le_or_gt (old.lastRefill + refillGranularity) start with hle | hgt
      · rw [hearly hle]
        exact Nat.le_add_right_of_le (Nat.mul_le_mul_left _ (Nat.add_le_add_left hburst _))
      -- the credit for the elapsed time continues the credit counted up to the last refill
      have hpos : 0 < refillGranularity := by decide
      have htime : old.lastRefill + refillGranularity - start + (now - old.lastRefill) ≤
          later + refillGranularity - start := by omega
      have hcredit := Nat.mul_le_mul_left limits.bytesPerSecond htime
      rw [Nat.mul_add] at hcredit hsum ⊢
      omega

structure Recorded (limits : EntryQuotaLimits) (e : String) (s : QuotaRun) : Prop where
  fixed : s.manager.limits = limits
  bounded : ∀ r ∈ s.record e, Bounded limits s.clock r

variable {e : String} {event : QuotaEvent} {before during : List QuotaEvent} {s t : QuotaRun}

lemma Recorded.step (h : Recorded limits e s) (hstep : s.Step event t) : Recorded limits e t := by
  obtain ⟨rfl, hbounded⟩ := h
  obtain ⟨hnow, hlater, hclock, hlimits, bytes, -, hturn⟩ := QuotaRun.turn_of_step hstep e
  refine ⟨hlimits, ?_⟩
  rw [hclock]
  exact hturn.bounded hnow hlater hbounded

lemma Recorded.of_trace (h : Trace QuotaRun.Step (.start limits) before s) : Recorded limits e s :=
  h.invariant (fun hstep hs => hs.step hstep) ⟨rfl, by simp [QuotaRun.record, QuotaRun.start]⟩

lemma account_of_trace (hs : Recorded limits e s) (h : Trace (QuotaRun.HoldingStep e) s during t)
    (hstart : ∀ event ∈ during, start ≤ event.now) :
    Recorded limits e t ∧ Account limits start (s.charged e) (t.record e) (t.charged e) := by
  induction h with
  | nil => exact ⟨hs, .of_bounded hs.bounded⟩
  | @snoc t _ during event _ hstep ih =>
    obtain ⟨ht, haccount⟩ := ih fun event hmem =>
      hstart event (List.mem_append_left _ hmem)
    obtain ⟨hstep, hheld⟩ := hstep
    obtain ⟨-, hlater, -, -, bytes, hcharged, hturn⟩ := QuotaRun.turn_of_step hstep e
    refine ⟨ht.step hstep, ?_⟩
    rw [ht.fixed] at hturn
    rw [hcharged]
    exact hturn.account hlater (hstart event (by simp)) hheld haccount

/-- While the record of an entry is held, the bytes charged to it within `span` nanoseconds stay
below the burst and the rate over that time and ten milliseconds more. -/
theorem charged_within_le (start span : ℕ) (hbefore : Trace QuotaRun.Step (.start limits) before s)
    (hduring : Trace (QuotaRun.HoldingStep e) s during t)
    (hwithin : ∀ event ∈ during, start ≤ event.now ∧ event.later ≤ start + span) :
    nanosPerSecond * t.charged e ≤ nanosPerSecond * (s.charged e + limits.burstBytes) +
      limits.bytesPerSecond * (span + refillGranularity) := by
  obtain ⟨ht, haccount⟩ := account_of_trace (.of_trace hbefore) hduring fun event hmem =>
    (hwithin event hmem).1
  cases hduring with
  | nil => exact Nat.le_add_right_of_le (Nat.mul_le_mul_left _ (Nat.le_add_right _ _))
  | snoc _ hstep =>
    have hclock : t.clock ≤ start + span :=
      (QuotaRun.turn_of_step hstep.1 e).2.2.1 ▸ (hwithin _ (by simp)).2
    cases hrecord : t.record e with
    | none =>
      rw [hrecord] at haccount
      have hnone : t.charged e = s.charged e := haccount
      rw [hnone]
      exact Nat.le_add_right_of_le (Nat.mul_le_mul_left _ (Nat.le_add_right _ _))
    | some r =>
      rw [hrecord] at haccount
      have hlast := (ht.bounded r hrecord).2
      calc nanosPerSecond * t.charged e
          ≤ nanosPerSecond * (t.charged e + r.availableBytes) :=
            Nat.mul_le_mul_left _ (Nat.le_add_right _ _)
        _ ≤ _ := haccount.2
        _ ≤ _ := Nat.add_le_add_left (Nat.mul_le_mul_left _ (by omega)) _

end Bound

section Samples

namespace Sample

def entryPeer : PeerIdentity := ⟨"entry", .entry, .interGatewayDataPlane, 0, 1⟩

def timed (calls : List (QuotaCall × ℕ)) : List QuotaEvent :=
  calls.map fun (call, time) => ⟨call, time, time⟩

def arrival : List QuotaEvent := timed [(.acquireConnection entryPeer, 0)]

def lateBurst : List QuotaEvent :=
  timed [(.chargeBytes entryPeer (20 * 1024 * 1024), 9999999),
    (.chargeBytes entryPeer (1024 * 1024), 10000000)]

def reconnect : List QuotaEvent :=
  timed [(.acquireConnection entryPeer, 0), (.chargeBytes entryPeer (20 * 1024 * 1024), 0),
    (.release "entry" true, 0), (.acquireConnection entryPeer, 0),
    (.chargeBytes entryPeer (20 * 1024 * 1024), 0)]

def holdingAct (s : QuotaRun) (event : QuotaEvent) : Option QuotaRun :=
  (s.act event).filter fun t => t.record "entry" = none → s.record "entry" = none

lemma holdingStep_of_holdingAct {s t : QuotaRun} {event : QuotaEvent}
    (h : holdingAct s event = some t) : QuotaRun.HoldingStep "entry" s event t := by
  obtain ⟨hact, hheld⟩ := Option.filter_eq_some_iff.mp h
  exact ⟨hact, of_decide_eq_true hheld⟩

end Sample

open Sample

theorem charged_within_le_lateBurst : ∃ s t, Trace QuotaRun.Step (.start .default) arrival s ∧
    Trace (QuotaRun.HoldingStep "entry") s lateBurst t ∧
    t.charged "entry" = 21 * 1024 * 1024 ∧
    nanosPerSecond * t.charged "entry" ≤
      nanosPerSecond * (s.charged "entry" + EntryQuotaLimits.default.burstBytes) +
        EntryQuotaLimits.default.bytesPerSecond * (1 + refillGranularity) := by
  have h : ((arrival.foldlM QuotaRun.act (.start .default)).bind fun s =>
      (lateBurst.foldlM holdingAct s).map fun t => t.charged "entry") = some (21 * 1024 * 1024) := by
    decide +kernel
  obtain ⟨s, hs, h⟩ := Option.bind_eq_some_iff.mp h
  obtain ⟨t, ht, hcharged⟩ := Option.map_eq_some_iff.mp h
  have hbefore : Trace QuotaRun.Step (.start .default) arrival s := Trace.of_foldlM id hs
  have hduring := Trace.of_foldlM holdingStep_of_holdingAct ht
  exact ⟨s, t, hbefore, hduring, hcharged,
    charged_within_le 9999999 1 hbefore hduring (by decide)⟩

/-- Two ways past the burst and the rate over the interval: a reconnection at one instant, and a
refill that pays for time before an interval of one nanosecond. -/
theorem charges_exceed_rate :
    (∃ t, Trace QuotaRun.Step (.start .default) reconnect t ∧
      (∀ event ∈ reconnect, event.now = 0 ∧ event.later = 0) ∧
      EntryQuotaLimits.default.burstBytes < t.charged "entry") ∧
    ∃ s t, Trace QuotaRun.Step (.start .default) arrival s ∧ Trace QuotaRun.Step s lateBurst t ∧
      (∀ event ∈ lateBurst, 9999999 ≤ event.now ∧ event.later ≤ 9999999 + 1) ∧
      nanosPerSecond * (s.charged "entry" + EntryQuotaLimits.default.burstBytes) +
        EntryQuotaLimits.default.bytesPerSecond * 1 < nanosPerSecond * t.charged "entry" := by
  constructor
  · have h : ((reconnect.foldlM QuotaRun.act (.start .default)).map fun t =>
        t.charged "entry") = some (40 * 1024 * 1024) := by decide +kernel
    obtain ⟨t, ht, hcharged⟩ := Option.map_eq_some_iff.mp h
    exact ⟨t, Trace.of_foldlM id ht, by decide, by rw [hcharged]; decide⟩
  · have h : ((arrival.foldlM QuotaRun.act (.start .default)).bind fun s =>
        (lateBurst.foldlM QuotaRun.act s).map fun t => (s.charged "entry", t.charged "entry")) =
        some (0, 21 * 1024 * 1024) := by decide +kernel
    obtain ⟨s, hs, h⟩ := Option.bind_eq_some_iff.mp h
    obtain ⟨t, ht, hcharged⟩ := Option.map_eq_some_iff.mp h
    obtain ⟨hzero, htotal⟩ := Prod.mk.inj hcharged
    exact ⟨s, t, Trace.of_foldlM id hs, Trace.of_foldlM id ht, by decide,
      by rw [hzero, htotal]; decide⟩

end Samples

end OnionRoute.GatewayMultihop
