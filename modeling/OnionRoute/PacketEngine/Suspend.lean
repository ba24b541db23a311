import OnionRoute.PacketEngine.Runs

/-! `suspend`, `resume` and the next sweep, against the sweep without the sleep. -/

namespace OnionRoute.PacketEngine

open Library Table

def OutstandingSegment.shift (d : ℕ) (o : OutstandingSegment) : OutstandingSegment :=
  { o with sentMs := o.sentMs + d }

namespace FlowRecord

variable {config : EngineConfig} {flow : FlowRecord} {d t now : ℕ}

def shift (d : ℕ) (flow : FlowRecord) : FlowRecord :=
  { flow with
    snapshot.timestamps.createdMs := flow.snapshot.timestamps.createdMs + d
    snapshot.timestamps.lastActivityMs := flow.snapshot.timestamps.lastActivityMs + d
    snapshot.timestamps.connectStartedMs :=
      flow.snapshot.timestamps.connectStartedMs.map fun started => started + d
    outstandingToApplication := flow.outstandingToApplication.map (OutstandingSegment.shift d) }

def TickOutcome.shift (d : ℕ) : TickOutcome → TickOutcome
  | .quiet => .quiet
  | .expired reason => .expired reason
  | .retransmit flow packet => .retransmit (flow.shift d) packet

structure Shiftable (d : ℕ) (flow : FlowRecord) : Prop where
  created : flow.snapshot.timestamps.createdMs + d ≤ u64Max
  lastActivity : flow.snapshot.timestamps.lastActivityMs + d ≤ u64Max
  connectStarted : ∀ started ∈ flow.snapshot.timestamps.connectStartedMs, started + d ≤ u64Max

instance : Decidable (flow.Shiftable d) :=
  decidable_of_iff (flow.snapshot.timestamps.createdMs + d ≤ u64Max ∧
      flow.snapshot.timestamps.lastActivityMs + d ≤ u64Max ∧
      ∀ started ∈ flow.snapshot.timestamps.connectStartedMs, started + d ≤ u64Max)
    ⟨fun h => ⟨h.1, h.2.1, h.2.2⟩, fun h => ⟨h.created, h.lastActivity, h.connectStarted⟩⟩

lemma saturatingAdd_eq {a b : ℕ} (h : a + b ≤ u64Max) : saturatingAdd a b = a + b :=
  min_eq_left h

lemma postpone_eq (h : flow.Shiftable d) : flow.postpone d =
    { flow.shift d with outstandingToApplication := flow.outstandingToApplication } := by
  have hc : (flow.snapshot.timestamps.connectStartedMs.map fun m => saturatingAdd m d) =
      flow.snapshot.timestamps.connectStartedMs.map fun m => m + d :=
    Option.map_congr fun m hm => saturatingAdd_eq (h.connectStarted m hm)
  simp only [postpone, shift, saturatingAdd_eq h.created, saturatingAdd_eq h.lastActivity, hc]

lemma postpone_eq_shift (h : flow.Shiftable d) (ho : flow.outstandingToApplication = none) :
    flow.postpone d = flow.shift d := by
  rw [postpone_eq h]
  simp only [shift, ho, Option.map_none]

lemma postpone_zero (h : flow.Shiftable 0) : flow.postpone 0 = flow := by
  rw [postpone_eq h]
  simp [shift]

lemma shift_zero (flow : FlowRecord) : flow.shift 0 = flow := by
  have ho : OutstandingSegment.shift 0 = id := rfl
  simp [shift, ho]

lemma deadline_shift (config : EngineConfig) (t d : ℕ) (flow : FlowRecord) :
    (flow.shift d).deadline config t = flow.deadline config (t - d) := by
  have hlast : t - (flow.shift d).snapshot.timestamps.lastActivityMs =
      t - d - flow.snapshot.timestamps.lastActivityMs := by
    simp only [shift]
    omega
  have hstart : t - (flow.shift d).connectDeadlineStart = t - d - flow.connectDeadlineStart := by
    simp only [connectDeadlineStart, shift]
    cases flow.snapshot.timestamps.connectStartedMs <;>
      simp only [Option.map_none, Option.map_some, Option.getD_none, Option.getD_some] <;> omega
  have hstate : (flow.shift d).state = flow.state := rfl
  simp only [deadline, hlast, hstart, hstate]

lemma deadline_postpone (h : flow.Shiftable d) :
    (flow.postpone d).deadline config t = flow.deadline config (t - d) := by
  rw [postpone_eq h]
  exact deadline_shift config t d flow

def Settled (config : EngineConfig) (now : ℕ) (flow : FlowRecord) : Prop :=
  ∀ o, flow.outstandingToApplication = some o → flow.deadline config now = none →
    config.retransmitIntervalMs ≤ now - o.sentMs

instance : Decidable (flow.Settled config now) :=
  inferInstanceAs (Decidable (∀ o ∈ flow.outstandingToApplication,
    flow.deadline config now = none → config.retransmitIntervalMs ≤ now - o.sentMs))

lemma renew_shift (o : OutstandingSegment) (hd : d ≤ t) :
    o.renew t = (o.renew (t - d)).shift d := by
  simp only [OutstandingSegment.renew, OutstandingSegment.shift, Nat.sub_add_cancel hd]

lemma tickOutcome_postpone (h : flow.Shiftable d) (hd : d ≤ t)
    (hs : flow.Settled config (t - d)) :
    (flow.postpone d).tickOutcome config t = (flow.tickOutcome config (t - d)).shift d := by
  have ho : (flow.postpone d).outstandingToApplication = flow.outstandingToApplication := rfl
  simp only [tickOutcome, deadline_postpone h, ho]
  cases hl : flow.deadline config (t - d) with
  | some reason => rfl
  | none =>
    cases hout : flow.outstandingToApplication with
    | none => rfl
    | some o =>
      have hover := hs o hout hl
      have hlater : config.retransmitIntervalMs ≤ t - o.sentMs := by omega
      simp only [ge_iff_le, hover, hlater, if_true]
      by_cases hmax : config.maxRetransmissions ≤ o.retransmissions
      · simp only [hmax, if_true, TickOutcome.shift]
      · simp only [hmax, if_false, TickOutcome.shift, postpone_eq h, renew_shift o hd]
        rfl

lemma tickOutcome_of_not_settled (hs : ¬ flow.Settled config now) :
    flow.tickOutcome config now = .quiet := by
  simp only [Settled, not_forall] at hs
  obtain ⟨o, ho, hl, hlt⟩ := hs
  simp only [tickOutcome, hl, ho, ge_iff_le, hlt, if_false]

lemma outstanding_of_quiet (hs : flow.Settled config now) (hq : flow.tickOutcome config now = .quiet) :
    flow.outstandingToApplication = none := by
  by_contra ho
  obtain ⟨o, ho⟩ := Option.ne_none_iff_exists'.mp ho
  rw [tickOutcome] at hq
  cases hl : flow.deadline config now with
  | some reason => simp [hl] at hq
  | none =>
    simp only [hl, ho, ge_iff_le, hs o ho hl, if_true] at hq
    split_ifs at hq

section

variable (h : flow.Shiftable d) (hd : d ≤ t) (hs : flow.Settled config (t - d))
include h hd hs

lemma tickActions_postpone :
    (flow.postpone d).tickActions config t = flow.tickActions config (t - d) := by
  rw [tickActions, tickActions, tickOutcome_postpone h hd hs]
  cases flow.tickOutcome config (t - d) <;> rfl

lemma tickExpiry_postpone :
    (flow.postpone d).tickExpiry config t = flow.tickExpiry config (t - d) := by
  rw [tickExpiry, tickExpiry, tickOutcome_postpone h hd hs]
  cases flow.tickOutcome config (t - d) <;> rfl

lemma afterTick_postpone (he : flow.tickExpiry config (t - d) = none) :
    (flow.postpone d).afterTick config t = (flow.afterTick config (t - d)).shift d := by
  rw [tickExpiry] at he
  rw [afterTick, afterTick, tickOutcome_postpone h hd hs]
  cases ho : flow.tickOutcome config (t - d) with
  | retransmit next packet => rfl
  | quiet => exact postpone_eq_shift h (outstanding_of_quiet hs ho)
  | expired reason => simp [ho] at he

end

lemma afterTick_rstPacket (config : EngineConfig) (now : ℕ) (flow : FlowRecord) :
    (flow.afterTick config now).rstPacket = flow.rstPacket := by
  obtain ⟨hf, _⟩ | ⟨o, _, hf, _⟩ := flow.afterTick_cases config now
  · rw [hf]
  · rw [hf]
    rfl

-- The outstanding segment keeps its `sentMs` over the sleep, or is renewed and counts one more.
lemma afterTick_postpone_ne (hpos : 0 < d) {o : OutstandingSegment}
    (ho : flow.outstandingToApplication = some o) :
    (flow.postpone d).afterTick config t ≠ flow.shift d := by
  intro heq
  have hout : ((flow.postpone d).afterTick config t).outstandingToApplication =
      some (o.shift d) := by
    rw [heq]
    simp only [shift, ho, Option.map_some]
  obtain ⟨hsame, _⟩ | ⟨o', ho', hnew, _⟩ := (flow.postpone d).afterTick_cases config t
  · rw [hsame] at hout
    have hsent := congrArg OutstandingSegment.sentMs (Option.some.inj (ho.symm.trans hout))
    simp only [OutstandingSegment.shift] at hsent
    omega
  · have hsame : o' = o := Option.some.inj (ho'.symm.trans ho)
    rw [hnew, hsame] at hout
    have hcount := congrArg OutstandingSegment.retransmissions (Option.some.inj hout)
    simp only [OutstandingSegment.renew, OutstandingSegment.shift] at hcount
    simp at hcount

end FlowRecord

variable {g : FlowRecord → FlowRecord}

namespace PacketProcessor

variable {s : PacketProcessor} {d t now : ℕ}

def shift (d : ℕ) (s : PacketProcessor) : PacketProcessor :=
  { s with
    flows := s.flows.mapValues (FlowRecord.shift d)
    suspendedAtMs := s.suspendedAtMs.map fun suspendedAt => suspendedAt + d }

def sleepThenTick (s : PacketProcessor) (t0 t1 t : ℕ) : Outcome :=
  let (s, woken) := (s.suspend t0).resume t1 true
  let (s, swept) := s.tick t
  (s, woken ++ swept)

def mapFlows (g : FlowRecord → FlowRecord) (s : PacketProcessor) : PacketProcessor :=
  { s with flows := s.flows.mapValues g }

lemma flowOf_mapFlows (g : FlowRecord → FlowRecord) (s : PacketProcessor) (id : FlowId) :
    (s.mapFlows g).flowOf id = (s.flowOf id).map fun p => (p.1, g p.2) := by
  simp only [flowOf, mapFlows, lookup_mapValues]
  cases s.ids.lookup id with
  | none => rfl
  | some key =>
    simp only [Option.map_map]
    rfl

lemma removeFlow_mapFlows (hid : ∀ f, (g f).flowId = f.flowId) (s : PacketProcessor)
    (key : FlowKey) : (s.mapFlows g).removeFlow key = (s.removeFlow key).mapFlows g := by
  simp only [removeFlow, mapFlows, lookup_mapValues]
  cases s.flows.lookup key with
  | none => rfl
  | some flow => simp only [Option.map_some, hid, erase_mapValues]

lemma failEach_mapFlows (hid : ∀ f, (g f).flowId = f.flowId)
    (hrst : ∀ f, (g f).rstPacket = f.rstPacket) (s : PacketProcessor)
    (failures : List (FlowId × BlockReason)) :
    (s.mapFlows g).failEach failures =
      ((s.failEach failures).1.mapFlows g, (s.failEach failures).2) := by
  induction failures generalizing s with
  | nil => rfl
  | cons head rest ih =>
    have hstep : (s.mapFlows g).failFlow head.1 head.2 =
        ((s.failFlow head.1 head.2).1.mapFlows g, (s.failFlow head.1 head.2).2) := by
      simp only [failFlow, flowOf_mapFlows]
      cases s.flowOf head.1 with
      | none => rfl
      | some p => simp only [Option.map_some, removeFlow_mapFlows hid, hrst]
    simp only [failEach, hstep, ih]

lemma tick_of_suspended (h : s.suspendedAtMs ≠ none) (now : ℕ) : s.tick now = (s, []) :=
  if_pos (Option.isSome_iff_ne_none.mpr h)

lemma tick_eq (h : s.suspendedAtMs = none) (now : ℕ) :
    s.tick now = ((s.failEach (s.expired now)).1.mapFlows (FlowRecord.afterTick s.config now),
      s.flows.values.flatMap (FlowRecord.tickActions s.config now) ++
        (s.failEach (s.expired now)).2) := by
  have hfail := failEach_mapFlows (fun f => (f.afterTick_same s.config now).flowId)
    (FlowRecord.afterTick_rstPacket s.config now) s (s.expired now)
  have htick : s.tick now =
      (((s.mapFlows (FlowRecord.afterTick s.config now)).failEach (s.expired now)).1,
        s.flows.values.flatMap (FlowRecord.tickActions s.config now) ++
          ((s.mapFlows (FlowRecord.afterTick s.config now)).failEach (s.expired now)).2) :=
    if_neg (by rw [h]; exact Bool.false_ne_true)
  rw [htick, hfail]

def expiredAsleep (s : PacketProcessor) (d t : ℕ) : List (FlowId × BlockReason) :=
  s.flows.values.filterMap fun flow =>
    ((flow.postpone d).tickExpiry s.config t).map fun reason => (flow.flowId, reason)

lemma resume_suspend (h : s.suspendedAtMs = none) (t0 t1 : ℕ) :
    (s.suspend t0).resume t1 true = (s.mapFlows (FlowRecord.postpone (t1 - t0)), []) := by
  simp only [suspend, resume, h, Option.none_or, Bool.not_true, Bool.false_eq_true, if_false]
  rw [mapFlows, ← h]

lemma sleepThenTick_eq (h : s.suspendedAtMs = none) (t0 t1 t : ℕ) :
    s.sleepThenTick t0 t1 t =
      ((s.failEach (s.expiredAsleep (t1 - t0) t)).1.mapFlows fun flow =>
          (flow.postpone (t1 - t0)).afterTick s.config t,
        (s.flows.values.flatMap fun flow => (flow.postpone (t1 - t0)).tickActions s.config t) ++
          (s.failEach (s.expiredAsleep (t1 - t0) t)).2) := by
  have hexp : (s.mapFlows (FlowRecord.postpone (t1 - t0))).expired t =
      s.expiredAsleep (t1 - t0) t := by
    simp only [expired, expiredAsleep, mapFlows, values_mapValues, List.filterMap_map]
    rfl
  have hfail := failEach_mapFlows (g := FlowRecord.postpone (t1 - t0)) (fun _ => rfl)
    (fun _ => rfl) s (s.expiredAsleep (t1 - t0) t)
  have htick := tick_eq (s := s.mapFlows (FlowRecord.postpone (t1 - t0))) h t
  rw [hexp, hfail] at htick
  simp only [sleepThenTick, resume_suspend h, htick, List.nil_append]
  simp only [mapFlows, mapValues_mapValues, values_mapValues, List.flatMap_map]

section

variable (s : PacketProcessor)

lemma removeFlow_suspendedAtMs (key : FlowKey) :
    (s.removeFlow key).suspendedAtMs = s.suspendedAtMs := by
  rw [removeFlow]
  cases s.flows.lookup key <;> rfl

section

variable (failures : List (FlowId × BlockReason))

lemma failEach_suspendedAtMs : (s.failEach failures).1.suspendedAtMs = s.suspendedAtMs :=
  failEach_invariant (I := fun u => u.suspendedAtMs = s.suspendedAtMs)
    (fun key hu => (removeFlow_suspendedAtMs _ key).trans hu) rfl failures

variable {s failures}

lemma failEach_lookup {key : FlowKey} {flow : FlowRecord}
    (h : (s.failEach failures).1.flows.lookup key = some flow) :
    s.flows.lookup key = some flow :=
  failEach_invariant (I := fun u => u.flows.lookup key = some flow → s.flows.lookup key = some flow)
    (fun _ hu hf => hu (removeFlow_lookup_eq_some hf).2) id failures h

end

lemma sleepThenTick_awake (t0 t1 t : ℕ) : (s.sleepThenTick t0 t1 t).1.suspendedAtMs = none := by
  have hresume : ((s.suspend t0).resume t1 true).1.suspendedAtMs = none := by
    simp only [suspend, resume]
    cases s.suspendedAtMs <;> rfl
  simp only [sleepThenTick, tick_eq hresume, mapFlows, failEach_suspendedAtMs, hresume]

end

lemma failEach_expired {key : FlowKey} {flow : FlowRecord} (hs : s.Sound) (hn : s.Named) :
    (s.failEach (s.expired now)).1.flows.lookup key = some flow ↔
      s.flows.lookup key = some flow ∧ flow.tickExpiry s.config now = none := by
  have hlist : ∀ id reason, (id, reason) ∈ s.expired now ↔ ∃ f ∈ s.flows.values,
      f.tickExpiry s.config now = some reason ∧ f.flowId = id := by
    intro id reason
    simp [expired]
  constructor
  · intro h
    have hk := failEach_lookup h
    refine ⟨hk, ?_⟩
    by_contra he
    obtain ⟨reason, he⟩ := Option.ne_none_iff_exists'.mp he
    have hmem := (hlist flow.flowId reason).mpr ⟨flow, mem_values_iff.mpr ⟨key, hk⟩, he, rfl⟩
    rw [((failEach_projects hs (s.expired now)).1 hk).1] at h
    obtain hnil | ⟨reason, hfail, _⟩ := s.failuresOf_cases key flow (s.expired now)
    · rw [failuresOf, if_pos (hn key flow hk)] at hnil
      simp only [Option.toList_eq_nil_iff, Option.map_eq_none_iff, List.find?_eq_none] at hnil
      exact hnil _ hmem (by simp)
    · rw [hfail] at h
      cases h
  · rintro ⟨hk, he⟩
    rw [((failEach_projects hs (s.expired now)).1 hk).1]
    obtain hnil | ⟨reason, _, hid, hmem⟩ := s.failuresOf_cases key flow (s.expired now)
    · rw [hnil]
      rfl
    · -- the identifier leads to this flow only, so the flow itself would have expired
      obtain ⟨f, hf, hexpired, hsame⟩ := (hlist _ _).mp hmem
      obtain ⟨k, hf⟩ := mem_values_iff.mp hf
      have hkey := hn k f hf
      rw [hsame, hid] at hkey
      obtain rfl := Option.some.inj hkey
      obtain rfl := Option.some.inj (hk.symm.trans hf)
      rw [he] at hexpired
      cases hexpired

variable {t0 t1 : ℕ}

lemma shift_zero (s : PacketProcessor) : s.shift 0 = s := by
  have hf : s.flows.mapValues (FlowRecord.shift 0) = s.flows.mapValues id :=
    mapValues_inj.mpr fun flow _ => flow.shift_zero
  simp only [shift, hf, mapValues_id, Nat.add_zero, Option.map_id']

lemma sleepThenTick_zero (h : s.suspendedAtMs = none)
    (hfit : ∀ flow ∈ s.flows.values, flow.Shiftable 0) : s.sleepThenTick t0 t0 t = s.tick t := by
  have hf : s.flows.mapValues (FlowRecord.postpone 0) = s.flows.mapValues id :=
    mapValues_inj.mpr fun flow hm => FlowRecord.postpone_zero (hfit flow hm)
  simp only [sleepThenTick, resume_suspend h, Nat.sub_self, mapFlows, hf, mapValues_id,
    List.nil_append]

def Neutral (s : PacketProcessor) (t0 t1 t : ℕ) : Prop :=
  s.sleepThenTick t0 t1 t =
    ((s.tick (t - (t1 - t0))).1.shift (t1 - t0), (s.tick (t - (t1 - t0))).2)

lemma neutral_of_settled (hs : s.Sound) (hn : s.Named) (h : s.suspendedAtMs = none)
    (hd : t1 - t0 ≤ t) (hfit : ∀ flow ∈ s.flows.values, flow.Shiftable (t1 - t0))
    (hsettled : ∀ flow ∈ s.flows.values, flow.Settled s.config (t - (t1 - t0))) :
    s.Neutral t0 t1 t := by
  have hexpired : s.expiredAsleep (t1 - t0) t = s.expired (t - (t1 - t0)) :=
    List.filterMap_congr fun flow hm => by
      rw [FlowRecord.tickExpiry_postpone (hfit flow hm) hd (hsettled flow hm)]
  have hacts : (s.flows.values.flatMap fun flow =>
      (flow.postpone (t1 - t0)).tickActions s.config t) =
        s.flows.values.flatMap (FlowRecord.tickActions s.config (t - (t1 - t0))) :=
    List.flatMap_congr fun flow hm =>
      FlowRecord.tickActions_postpone (hfit flow hm) hd (hsettled flow hm)
  rw [Neutral, sleepThenTick_eq h, tick_eq h, hexpired, hacts, Prod.mk.injEq]
  refine ⟨?_, rfl⟩
  have hflows : (s.failEach (s.expired (t - (t1 - t0)))).1.flows.mapValues (fun flow =>
      (flow.postpone (t1 - t0)).afterTick s.config t) =
        (s.failEach (s.expired (t - (t1 - t0)))).1.flows.mapValues fun flow =>
          (flow.afterTick s.config (t - (t1 - t0))).shift (t1 - t0) := by
    refine mapValues_inj.mpr fun flow hm => ?_
    obtain ⟨key, hk⟩ := mem_values_iff.mp hm
    obtain ⟨hk, hlive⟩ := (failEach_expired hs hn).mp hk
    have hm := mem_values_iff.mpr ⟨key, hk⟩
    exact FlowRecord.afterTick_postpone (hfit flow hm) hd (hsettled flow hm) hlive
  simp only [mapFlows, shift, mapValues_mapValues, hflows, failEach_suspendedAtMs, h,
    Option.map_none]

lemma Neutral.settled (hneutral : s.Neutral t0 t1 t) (hs : s.Sound) (hn : s.Named)
    (h : s.suspendedAtMs = none) (hpos : 0 < t1 - t0) :
    ∀ flow ∈ s.flows.values, flow.Settled s.config (t - (t1 - t0)) := by
  intro flow hm
  by_contra hu
  obtain ⟨key, hk⟩ := mem_values_iff.mp hm
  have hquiet := FlowRecord.tickOutcome_of_not_settled hu
  have hsame : flow.afterTick s.config (t - (t1 - t0)) = flow := by
    rw [FlowRecord.afterTick, hquiet]
  have hkept := (failEach_expired hs hn).mpr
    ⟨hk, show flow.tickExpiry s.config (t - (t1 - t0)) = none by
      rw [FlowRecord.tickExpiry, hquiet]⟩
  have hflow := congrArg (fun outcome => outcome.1.flows.lookup key) hneutral
  simp only [sleepThenTick_eq h, tick_eq h, mapFlows, shift, lookup_mapValues, hkept,
    Option.map_some, hsame] at hflow
  obtain ⟨found, hfound, heq⟩ := Option.map_eq_some_iff.mp hflow
  obtain rfl := Option.some.inj (hk.symm.trans (failEach_lookup hfound))
  simp only [FlowRecord.Settled, not_forall] at hu
  obtain ⟨o, ho, -⟩ := hu
  exact FlowRecord.afterTick_postpone_ne hpos ho heq

lemma Neutral.actions (hn : s.Neutral t0 t1 t) :
    (s.sleepThenTick t0 t1 t).2 = (s.tick (t - (t1 - t0))).2 := by
  rw [Neutral] at hn
  rw [hn]

lemma Neutral.awake (hn : s.Neutral t0 t1 t) : s.suspendedAtMs = none := by
  by_contra hs
  have hafter := congrArg (fun p => p.1.suspendedAtMs) hn
  simp only [sleepThenTick_awake, tick_of_suspended hs, shift] at hafter
  exact hs (Option.map_eq_none_iff.mp hafter.symm)

theorem sleep_neutral_iff (hs : s.Sound) (hn : s.Named) (h01 : t0 ≤ t1) (h1t : t1 ≤ t)
    (hfit : ∀ flow ∈ s.flows.values, flow.Shiftable (t1 - t0)) :
    s.Neutral t0 t1 t ↔ s.suspendedAtMs = none ∧
      (t1 = t0 ∨ ∀ flow ∈ s.flows.values, flow.Settled s.config (t - (t1 - t0))) := by
  have hd : t1 - t0 ≤ t := by omega
  constructor
  · intro hneutral
    refine ⟨hneutral.awake, ?_⟩
    rcases Nat.eq_or_lt_of_le h01 with heq | hlt
    · exact .inl heq.symm
    · exact .inr (hneutral.settled hs hn hneutral.awake (by omega))
  · rintro ⟨h, rfl | hsettled⟩
    · rw [Nat.sub_self] at hfit
      rw [Neutral, sleepThenTick_zero h hfit, Nat.sub_self, shift_zero, Nat.sub_zero]
    · exact neutral_of_settled hs hn h hd hfit hsettled

lemma named_of_entries (h : ∀ e ∈ s.flows.entries, s.ids.lookup e.2.flowId = some e.1) :
    s.Named := fun key flow hk => h ⟨key, flow⟩ (AList.mem_lookup_iff.mp hk)

end PacketProcessor

namespace Sample

def waiting : List Call :=
  handshake ++ [.protectedPayload flowId [1, 2, 3] 0]

end Sample

open Sample in
theorem sleep_neutral_iff_due : (finalOf start waiting).Neutral 1000 9000 9000 := by
  have hrun := run_eventsOf new_default waiting
  have hfit : ∀ flow ∈ (finalOf start waiting).flows.values,
      flow.Shiftable (9000 - 1000) := by decide +kernel
  have hnamed : (finalOf start waiting).Named :=
    PacketProcessor.named_of_entries (by decide +kernel)
  refine (PacketProcessor.sleep_neutral_iff hrun.ran.1 hnamed (by decide) (by decide) hfit).mpr
    ⟨by decide +kernel, .inr ?_⟩
  decide +kernel

open Sample in
theorem sleep_retransmits :
    Run .default (eventsOf start waiting) (finalOf start waiting) ∧
      (∀ flow ∈ (finalOf start waiting).flows.values, flow.Shiftable 5000) ∧
      ((finalOf start waiting).tick 0).2 = [] ∧
      .recordDiagnostic .retransmission (some flowId) ∈
        ((finalOf start waiting).sleepThenTick 0 5000 5000).2 ∧
      ¬ (finalOf start waiting).Neutral 0 5000 5000 := by
  have hfit : ∀ flow ∈ (finalOf start waiting).flows.values,
      flow.Shiftable 5000 := by decide +kernel
  have hquiet : ((finalOf start waiting).tick 0).2 = [] := by decide +kernel
  have hsent : .recordDiagnostic .retransmission (some flowId) ∈
      ((finalOf start waiting).sleepThenTick 0 5000 5000).2 := by decide +kernel
  refine ⟨run_eventsOf new_default _, hfit, hquiet, hsent, ?_⟩
  intro hn
  rw [PacketProcessor.Neutral.actions hn, hquiet] at hsent
  exact absurd hsent List.not_mem_nil

end OnionRoute.PacketEngine
