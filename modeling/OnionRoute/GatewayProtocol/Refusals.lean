import OnionRoute.GatewayProtocol.HandshakeOutcomes

/-! What refused calls leave behind. -/

namespace OnionRoute.GatewayProtocol

open Library

namespace FairScheduler

/-- `enqueue_stream` in the order of the source, which checks the sum once the item is stored. -/
def storeStream (streamId : UInt64) (item : OutboundItem) :
    EStateM ProtocolError FairScheduler Unit := do
  let s ← get
  s.canEnqueueStream streamId item.accountedBytes
  set { s.pushStream streamId item with queuedBytes := s.queuedBytes }
  if s.queuedBytes + item.accountedBytes > u64Max then throw .integerOverflow
  modify fun s => { s with queuedBytes := s.queuedBytes + item.accountedBytes }

lemma storeStream_eq_ok {s : FairScheduler} {k : UInt64} {item : OutboundItem}
    (h : s.canEnqueueStream k item.accountedBytes = .ok ()) :
    storeStream k item s = .ok () (s.pushStream k item) := by
  have hsum : ¬ s.queuedBytes + item.accountedBytes > u64Max := by
    simp only [canEnqueueStream, reserveGlobal, bind_eq_ok, guard_eq_ok] at h
    obtain ⟨_, ⟨hsum, -⟩, -⟩ := h
    exact hsum
  simp only [storeStream, state_bind_eq_ok, state_get_eq_ok, state_lift_eq_ok, state_set_eq_ok,
    state_guard_eq_ok]
  exact ⟨s, s, ⟨rfl, rfl⟩, (), s, ⟨h, rfl⟩, ⟨⟩, _, rfl, hsum, rfl⟩

end FairScheduler

namespace Session

variable {s t : Session} {ids : List UInt64} {k : UInt64}

/-- A refused call leaves the session as it was, and the queue takes the frame of a call that
passed its check, also when the ledger has changed and the data of a stream was dropped. -/
theorem refused_unchanged (s : Session) (now : ℕ) {c : Call} (hc : c ≠ .expireIdleStreams) :
    (∀ e t, c.run now s = .error e t → t = s) ∧
    (∀ step t, flowMut step s = .ok () t → t.scheduler = s.scheduler) ∧
    (∀ body size, s.scheduler.canEnqueueControl size = .ok () →
      (∀ t, t.scheduler = s.scheduler →
        ∃ u, schedule (FairScheduler.enqueueControl ⟨body, size⟩) t = .ok () u) ∧
      ∀ k t, t.scheduler = s.scheduler.cancelStream k →
        ∃ u, schedule (FairScheduler.enqueueControl ⟨body, size⟩) t = .ok () u) ∧
    ∀ k item, s.scheduler.canEnqueueStream k item.accountedBytes = .ok () →
      FairScheduler.storeStream k item s.scheduler = .ok () (s.scheduler.pushStream k item) ∧
      ∀ t, t.scheduler = s.scheduler →
        ∃ u, schedule (FairScheduler.enqueueStream k item) t = .ok () u := by
  refine ⟨fun e t herror => ?_, fun step t hflow => ?_, fun body size hcan => ⟨?_, ?_⟩,
    fun k item hcan => ⟨FairScheduler.storeStream_eq_ok hcan, ?_⟩⟩
  · have houtcome := run_outcome s now hc
    simp only [Enqueues, Atomic, herror] at houtcome
    rcases houtcome with ⟨_, _, h⟩ | ⟨_, h⟩ <;> exact h
  · obtain ⟨flow, flow', -, -, rfl⟩ := (flowMut_atomic step s).of_ok hflow
    rfl
  · rintro t ht
    exact ⟨_, schedule_eq_ok.mpr ⟨_, ht ▸ FairScheduler.enqueueControl_eq_ok hcan body, rfl⟩⟩
  · rintro k t ht
    have hcancel := FairScheduler.canEnqueueControl_cancelStream (k := k) hcan
    exact ⟨_, schedule_eq_ok.mpr ⟨_, ht ▸ FairScheduler.enqueueControl_eq_ok hcancel body, rfl⟩⟩
  · rintro t ht
    exact ⟨_, schedule_eq_ok.mpr ⟨_, ht ▸ FairScheduler.enqueueStream_eq_ok hcan item.body, rfl⟩⟩

open Sample in
def twoOpening : Session :=
  finalState (do
    openTcp openRequest 0
    let _ ← flushOne
    openTcp { openRequest with streamId := 3 } 0) (session .client)

open Sample in
/-- A stream is opened a second time while its first open frame is queued: the credit ledger refuses
it, after the queue has been asked. -/
theorem refused_unchanged_twice : twoOpening.scheduler.control.length = 1 ∧
    Ends (openTcp { openRequest with streamId := 3 } 1) twoOpening (fun _ _ => False)
      fun t => t = twoOpening := by
  have hcall : Call.openTcp { openRequest with streamId := 3 } ≠ .expireIdleStreams := by
    intro h
    cases h
  have hfails : Ends (openTcp { openRequest with streamId := 3 } 1) twoOpening
      (fun _ _ => False) fun _ => True := by decide +kernel
  refine ⟨by decide +kernel, ?_⟩
  rw [Ends] at hfails ⊢
  cases hrun : openTcp { openRequest with streamId := 3 } 1 twoOpening with
  | ok u t =>
    rw [hrun] at hfails
    exact hfails
  | error e t => exact (refused_unchanged twoOpening 1 hcall).1 e t hrun

def closeFrame (k : UInt64) : Body := .closeStream ⟨k, CloseCode.timeout.toInt32⟩

lemma closeStream_eq_ok : closeStream k .timeout s = .ok () t ↔
    s.Running ∧ tcpConnectV1 ∈ s.enabledCapabilities ∧
    ∃ size flow flow', accountedBodySize (closeFrame k) = .ok size ∧
      s.scheduler.canEnqueueControl size = .ok () ∧ s.flow = some flow ∧
      flow.rejectOrClose k = .ok flow' ∧
      t = { s with
        flow := some flow'
        scheduler := (s.scheduler.cancelStream k).pushControl ⟨closeFrame k, size⟩ } := by
  have hrunning : ¬ (s.phase ≠ .active ∧ s.phase ≠ .draining) ↔ s.Running := by
    rw [Running, not_and_or, not_not, not_not]
  simp only [closeStream, state_bind_eq_ok, requireActiveOrDraining, requireCapability,
    check_eq_ok, ite_throw_eq_ok, not_not, hrunning]
  constructor
  · rintro ⟨_, _, ⟨⟨hrun, -⟩, rfl⟩, _, _, ⟨⟨hcap, -⟩, rfl⟩, _, _, ⟨-, rfl⟩, size, _, ⟨hsize, rfl⟩,
      _, _, ⟨hcan, rfl⟩, _, _, hflow, _, _, hcancel, hpush⟩
    obtain ⟨flow, flow', hf, hstep, rfl⟩ := (flowMut_atomic _ _).of_ok hflow
    obtain ⟨_, hdrop, rfl⟩ := schedule_eq_ok.mp hcancel
    obtain rfl := pure_eq_ok.mp hdrop
    obtain ⟨_, hqueue, rfl⟩ := schedule_eq_ok.mp hpush
    rw [FairScheduler.enqueueControl_eq_ok
      (FairScheduler.canEnqueueControl_cancelStream hcan)] at hqueue
    obtain rfl := Except.ok.inj hqueue
    exact ⟨hrun, hcap, size, flow, flow', hsize, hcan, hf, hstep, rfl⟩
  · rintro ⟨hrun, hcap, size, flow, flow', hsize, hcan, hf, hstep, rfl⟩
    have hqueue := FairScheduler.enqueueControl_eq_ok
      (FairScheduler.canEnqueueControl_cancelStream (k := k) hcan) (closeFrame k)
    refine ⟨(), s, ⟨⟨hrun, trivial⟩, rfl⟩, (), s, ⟨⟨hcap, trivial⟩, rfl⟩, (), s, ⟨rfl, rfl⟩, size,
      s, ⟨hsize, rfl⟩, (), s, ⟨hcan, rfl⟩, (), { s with flow := some flow' }, ?_, (), _,
      schedule_eq_ok.mpr ⟨_, rfl, rfl⟩, schedule_eq_ok.mpr ⟨_, hqueue, rfl⟩⟩
    simp only [flowMut, hf, hstep]

def closeCost (k : UInt64) : ℕ := queueCost (closeFrame k)

end Session

namespace FairScheduler

def waiting (s : FairScheduler) (k : UInt64) : ℕ :=
  (s.queueOf k).foldl (fun sum item => min (sum + item.accountedBytes) u64Max) 0

/-- The bytes that are queued once the streams `before` are closed: what waited for a stream is
dropped, and its close frame is queued. -/
def bytesAfter (s : FairScheduler) (before : List UInt64) : ℕ :=
  before.foldl (fun bytes k => bytes - s.waiting k + Session.closeCost k) s.queuedBytes

end FairScheduler

namespace Session

variable {s t : Session} {ids before : List UInt64} {j k : UInt64} {flow : FlowController}

structure CloseTaken (s : Session) (before : List UInt64) (k : UInt64) : Prop where
  running : s.Running
  capability : tcpConnectV1 ∈ s.enabledCapabilities
  valid : validateStreamId k = .ok ()
  frames : s.scheduler.control.length + before.length < s.scheduler.maximumControlFrames
  bytes : s.scheduler.bytesAfter before + closeCost k ≤ min s.scheduler.maximumQueuedBytes u64Max

def closed (s : Session) (flow : FlowController) (k : UInt64) : Session :=
  { s with
    flow := some { flow with streams := flow.streams.erase k }
    scheduler := (s.scheduler.cancelStream k).pushControl ⟨closeFrame k, closeCost k⟩ }

lemma closeStream_iff {stream : StreamState} (hflow : s.flow = some flow)
    (hk : flow.streams.lookup k = some stream) :
    closeStream k .timeout s = .ok () t ↔ s.CloseTaken [] k ∧ t = s.closed flow k := by
  rw [closeStream_eq_ok]
  constructor
  · rintro ⟨hrun, hcap, size, flow₁, flow₂, hsize, hcan, hflow₁, hstep, rfl⟩
    obtain rfl := Option.some.inj (hflow.symm.trans hflow₁)
    obtain ⟨_, -, hid, rfl⟩ := FlowController.rejectOrClose_eq_ok.mp hstep
    obtain ⟨-, -, rfl⟩ := accountedBodySize_eq_ok.mp hsize
    simp only [FairScheduler.canEnqueueControl, FairScheduler.reserveGlobal, guard_eq_ok,
      ite_throw_eq_ok, not_le, not_lt, ge_iff_le, gt_iff_lt] at hcan
    exact ⟨⟨hrun, hcap, validateStreamId_eq_ok.mpr hid, hcan.1, le_min hcan.2.2.1 hcan.2.1⟩, rfl⟩
  · rintro ⟨⟨hrun, hcap, hid, hframes, hbytes⟩, rfl⟩
    rw [le_min_iff] at hbytes
    refine ⟨hrun, hcap, closeCost k, flow, _, ?_, ?_, hflow,
      FlowController.rejectOrClose_eq_ok.mpr ⟨stream, hk, validateStreamId_eq_ok.mp hid, rfl⟩, rfl⟩
    · refine accountedBodySize_eq_ok.mpr ⟨?_, (Nat.le_add_left _ _).trans hbytes.2, rfl⟩
      change validateCloseStream ⟨k, CloseCode.timeout.toInt32⟩ = .ok ()
      rw [validateCloseStream, hid]
      rfl
    · simp only [FairScheduler.canEnqueueControl, FairScheduler.reserveGlobal, guard_eq_ok,
        ite_throw_eq_ok]
      exact ⟨not_le.mpr hframes, not_lt.mpr hbytes.2, not_lt.mpr hbytes.1, trivial⟩

lemma bytesAfter_closed (hk : k ∉ before) :
    (s.closed flow k).scheduler.bytesAfter before = s.scheduler.bytesAfter (k :: before) := by
  have hwaiting : ∀ j ∈ before, (s.closed flow k).scheduler.waiting j = s.scheduler.waiting j := by
    intro j hj
    have hne : j ≠ k := fun h => hk (h ▸ hj)
    have hqueue : (s.closed flow k).scheduler.queueOf j = (s.scheduler.cancelStream k).queueOf j := rfl
    rw [FairScheduler.waiting, hqueue, FairScheduler.queueOf_cancelStream, if_neg hne,
      FairScheduler.waiting]
  rw [FairScheduler.bytesAfter, FairScheduler.bytesAfter, List.foldl_cons]
  exact List.foldl_ext _ _ _ fun bytes j hj => by rw [hwaiting j hj]

lemma closeTaken_closed (hk : k ∉ before) :
    (s.closed flow k).CloseTaken before j ↔ s.CloseTaken (k :: before) j := by
  have hframes : (s.closed flow k).scheduler.control.length + before.length =
      s.scheduler.control.length + (k :: before).length := by
    simp only [closed, FairScheduler.pushControl, FairScheduler.cancelStream, List.length_append,
      List.length_cons, List.length_nil]
    omega
  constructor
  · rintro ⟨hrun, hcap, hvalid, hroom, hbytes⟩
    exact ⟨hrun, hcap, hvalid, hframes ▸ hroom, bytesAfter_closed hk ▸ hbytes⟩
  · rintro ⟨hrun, hcap, hvalid, hroom, hbytes⟩
    refine ⟨hrun, hcap, hvalid, ?_, ?_⟩
    · rw [hframes]
      exact hroom
    · rw [bytesAfter_closed hk]
      exact hbytes

lemma closeEach_ok_iff (hflow : s.flow = some flow) (hnodup : ids.Nodup)
    (hlive : ∀ k ∈ ids, ∃ stream, flow.streams.lookup k = some stream) :
    (∃ t, closeEach ids s = .ok () t) ↔
      ∀ before k after, ids = before ++ k :: after → s.CloseTaken before k := by
  induction ids generalizing s flow with
  | nil => exact ⟨fun _ before k after h => by simp at h, fun _ => ⟨s, rfl⟩⟩
  | cons k rest ih =>
    obtain ⟨hk, hnodup⟩ := List.nodup_cons.mp hnodup
    obtain ⟨⟨stream, hstream⟩, hlive⟩ := List.forall_mem_cons.mp hlive
    have hrest := ih (s := s.closed flow k) rfl hnodup fun j hj => by
      have hne : j ≠ k := fun h => hk (h ▸ hj)
      rw [Table.lookup_erase_of_ne _ hne]
      exact hlive j hj
    have hclose : (∃ t, closeEach (k :: rest) s = .ok () t) ↔
        s.CloseTaken [] k ∧ ∃ t, closeEach rest (s.closed flow k) = .ok () t := by
      simp only [closeEach, state_bind_eq_ok, closeStream_iff hflow hstream]
      constructor
      · rintro ⟨t, _, _, ⟨htaken, rfl⟩, h⟩
        exact ⟨htaken, t, h⟩
      · rintro ⟨htaken, t, h⟩
        exact ⟨t, (), _, ⟨htaken, rfl⟩, h⟩
    rw [hclose, hrest]
    constructor
    · rintro ⟨hfirst, hothers⟩ before j after hsplit
      cases before with
      | nil =>
        obtain ⟨rfl, -⟩ := List.cons.inj hsplit
        exact hfirst
      | cons i before =>
        obtain ⟨rfl, rfl⟩ := List.cons.inj hsplit
        exact (closeTaken_closed fun h => hk (List.mem_append_left _ h)).mp (hothers _ _ _ rfl)
    · intro hall
      refine ⟨hall [] k rest rfl, fun before j after hsplit => ?_⟩
      refine (closeTaken_closed fun h => hk ?_).mpr (hall (k :: before) j after (by rw [hsplit]; rfl))
      rw [hsplit]
      exact List.mem_append_left _ h

def live (s : Session) (k : UInt64) : Bool := s.flow.any fun flow => (flow.streams.lookup k).isSome

lemma closeEach_live (h : closeEach ids s = .ok () t) (hk : k ∉ ids) : t.live k = s.live k := by
  induction ids generalizing s with
  | nil => cases h; rfl
  | cons j rest ih =>
    obtain ⟨_, u, hclose, hrest⟩ := state_bind_eq_ok.mp h
    obtain ⟨-, -, size, flow, flow', -, -, hflow, hstep, rfl⟩ := closeStream_eq_ok.mp hclose
    obtain ⟨stream, -, -, rfl⟩ := FlowController.rejectOrClose_eq_ok.mp hstep
    have hne : k ≠ j := fun heq => hk (heq ▸ List.mem_cons_self)
    rw [ih hrest fun hmem => hk (List.mem_cons_of_mem _ hmem), live, live, hflow, Option.any_some,
      Option.any_some, Table.lookup_erase_of_ne _ hne]

def expired (s : Session) (now : ℕ) : List UInt64 :=
  s.flow.elim [] fun flow => flow.expireIdle now s.limits.idleStreamTimeout

lemma expired_of_flow (hflow : s.flow = some flow) (now : ℕ) :
    (s.expired now).Nodup ∧ ∀ k ∈ s.expired now, ∃ stream, flow.streams.lookup k = some stream := by
  rw [expired, hflow, Option.elim_some, FlowController.expireIdle]
  have hperm := List.perm_insertionSort (· ≤ ·) flow.streams.keys
  refine ⟨(hperm.nodup_iff.mpr flow.streams.keys_nodup).filter _, fun k hk => ?_⟩
  exact Table.mem_keys_iff.mp (hperm.mem_iff.mp (List.mem_filter.mp hk).1)

lemma closeEach_dead (h : s.live k = false) :
    Ends (closeEach ids) s (fun _ t => t.live k = false) fun t => t.live k = false := by
  induction ids generalizing s with
  | nil => exact h
  | cons j rest ih =>
    have hclose : Ends (closeStream j .timeout) s (fun _ t => t.live k = false)
        fun t => t.live k = false := by
      have hatomic := closeStream_enqueues j .timeout s
      rw [Ends]
      cases hrun : closeStream j .timeout s with
      | error e t =>
        rw [Enqueues, Atomic, hrun] at hatomic
        obtain rfl : t = s := hatomic
        exact h
      | ok u t =>
        obtain ⟨-, -, size, flow, flow', -, -, hflow, hstep, rfl⟩ := closeStream_eq_ok.mp hrun
        obtain ⟨stream, -, -, rfl⟩ := FlowController.rejectOrClose_eq_ok.mp hstep
        simp only [live, hflow, Option.any_some, Option.isSome_eq_false_iff, Option.isNone_iff_eq_none]
          at h ⊢
        by_contra hsome
        obtain ⟨stream, hsome⟩ := Option.ne_none_iff_exists'.mp hsome
        rw [(Table.lookup_erase_eq_some hsome).2] at h
        cases h
    exact hclose.bind fun _ t ht => ih ht

def Removed (s t : Session) (k : UInt64) : Prop := s.live k = true ∧ t.live k = false

instance (s t : Session) (k : UInt64) : Decidable (Removed s t k) :=
  inferInstanceAs (Decidable (_ ∧ _))

/-- A failure that has changed the session came after the close of the first stream. -/
lemma first_taken_of_error {e : ProtocolError} (hflow : s.flow = some flow)
    (hlive : ∀ k ∈ ids, ∃ stream, flow.streams.lookup k = some stream)
    (h : closeEach ids s = .error e t) (hne : t ≠ s) :
    ∀ k rest, ids = k :: rest → s.CloseTaken [] k := by
  rintro k rest rfl
  obtain ⟨stream, hstream⟩ := hlive k List.mem_cons_self
  rcases state_bind_eq_error.mp h with hrefused | ⟨_, u, hok, -⟩
  · have hatomic := closeStream_enqueues k .timeout s
    rw [Enqueues, Atomic, hrefused] at hatomic
    exact absurd hatomic hne
  · exact ((closeStream_iff hflow hstream).mp hok).1

/-- No later close brings the first stream back. -/
lemma removed_of_first_taken {rest : List UInt64} {stream : StreamState}
    (hflow : s.flow = some flow) (hstream : flow.streams.lookup k = some stream)
    (htaken : s.CloseTaken [] k) (hfails : ¬ ∃ t, closeEach (k :: rest) s = .ok () t) :
    ∃ e t, closeEach (k :: rest) s = .error e t ∧ Removed s t k := by
  have hclose := (closeStream_iff hflow hstream).mpr ⟨htaken, rfl⟩
  cases hrest : closeEach rest (s.closed flow k) with
  | ok _ t => exact absurd ⟨t, state_bind_eq_ok.mpr ⟨(), _, hclose, hrest⟩⟩ hfails
  | error e t =>
    have hdead : (s.closed flow k).live k = false := by simp [live, closed]
    have hgone : Ends (closeEach rest) (s.closed flow k) _ _ := closeEach_dead hdead
    rw [Ends, hrest] at hgone
    exact ⟨e, t, state_bind_eq_error.mpr (.inr ⟨(), _, hclose, hrest⟩),
      by simp [live, hflow, hstream], hgone⟩

/-- The expiry names every stream that it removes exactly when the queue, if it takes the close of
the first expired stream, takes those of all others. -/
theorem expiry_reports_iff (s : Session) (now : ℕ) :
    ((∀ ids t, expireIdleStreams now s = .ok ids t → ∀ k, Removed s t k → k ∈ ids) ∧
      ∀ e t, expireIdleStreams now s = .error e t → ∀ k, ¬ Removed s t k) ↔
      ((∀ k rest, s.expired now = k :: rest → s.CloseTaken [] k) →
        ∀ before k after, s.expired now = before ++ k :: after → s.CloseTaken before k) := by
  have hexpire : expireIdleStreams now s =
      (closeEach (s.expired now) >>= fun _ => pure (s.expired now)) s := rfl
  cases hflow : s.flow with
  | none =>
    have hempty : s.expired now = [] := by rw [expired, hflow, Option.elim_none]
    rw [hexpire, hempty]
    refine ⟨fun _ _ before k after h => by simp at h, fun _ => ⟨?_, ?_⟩⟩
    · rintro ids t ⟨⟩ k ⟨hlive, hgone⟩
      cases hlive.symm.trans hgone
    · rintro e t ⟨⟩
  | some flow =>
    obtain ⟨hnodup, hexpired⟩ := expired_of_flow hflow now
    constructor
    · rintro ⟨-, hnone⟩ hfirst
      by_contra hall
      have hfails := (closeEach_ok_iff hflow hnodup hexpired).not.mpr hall
      cases hids : s.expired now with
      | nil => exact hfails ⟨s, by rw [hids]; rfl⟩
      | cons k rest =>
        obtain ⟨stream, hstream⟩ := hexpired k (by simp [hids])
        rw [hids] at hfails
        obtain ⟨e, t, herror, hremoved⟩ :=
          removed_of_first_taken hflow hstream (hfirst k rest hids) hfails
        refine hnone e t ?_ k hremoved
        rw [hexpire, hids]
        exact state_bind_eq_error.mpr (.inl herror)
    · intro htaken
      constructor
      · rintro ids t hok k ⟨hlive, hgone⟩
        obtain ⟨_, u, hclose, hids⟩ := state_bind_eq_ok.mp (hexpire.symm.trans hok)
        obtain ⟨rfl, rfl⟩ := state_pure_eq_ok.mp hids
        by_contra hk
        rw [closeEach_live hclose hk, hlive] at hgone
        cases hgone
      · rintro e t herror k ⟨hlive, hgone⟩
        rcases state_bind_eq_error.mp (hexpire.symm.trans herror) with hclose | ⟨_, u, -, hpure⟩
        · have hsame : t = s := by
            by_contra hne
            have hfirst := first_taken_of_error hflow hexpired hclose hne
            obtain ⟨u, hok⟩ := (closeEach_ok_iff hflow hnodup hexpired).mpr (htaken hfirst)
            rw [hclose] at hok
            cases hok
          rw [hsame, hlive] at hgone
          cases hgone
        · cases hpure

open Sample in
def idlePair (frames : ℕ) : Session :=
  finalState (do
    openTcp openRequest 0
    let _ ← flushOne
    openTcp { openRequest with streamId := 3 } 0
    let _ ← flushOne) { session .client with
      limits := { ProtocolLimits.default with maximumControlFrames := frames }
      scheduler := { Sample.scheduler with maximumControlFrames := frames } }

/-- The queue is full after the first close: the call fails, and the stream is gone. -/
theorem expiry_hides_stream : Ends (expireIdleStreams (120 * nanosPerSecond)) (idlePair 1)
    (fun _ _ => False) fun t => Removed (idlePair 1) t 1 := by
  decide +kernel

end Session

end OnionRoute.GatewayProtocol
