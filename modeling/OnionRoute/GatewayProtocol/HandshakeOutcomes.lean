import OnionRoute.GatewayProtocol.Handshake
import OnionRoute.GatewayProtocol.Sendable

/-! When the steps of a handshake succeed, and the sessions they leave. -/

namespace OnionRoute.GatewayProtocol

open Library Process

variable {α : Type}

def queueCost (body : Body) : ℕ :=
  body.encodedLen + 43 + frameAccountingOverhead

lemma accountedBodySize_eq_ok {body : Body} {size : ℕ} :
    accountedBodySize body = .ok size ↔
      validateBody body = .ok () ∧ queueCost body ≤ u64Max ∧ queueCost body = size := by
  have hlen : GatewayFrame.encodedLen
      { sequence := u64Max
        version := some ⟨4294967295, 4294967295⟩
        criticalExtensionIds := []
        sessionId := List.replicate 16 0
        body := some body } + frameAccountingOverhead = queueCost body := by
    have hsequence : uintLen 1 u64Max = 11 := by decide +kernel
    have hversion :
        optionLen 2 ProtocolVersion.encodedLen (some ⟨4294967295, 4294967295⟩) = 14 := by
      decide +kernel
    have hsession : bytesLen 4 (List.replicate 16 0) = 18 := by decide +kernel
    simp only [GatewayFrame.encodedLen, hsequence, hversion, hsession, packedLen, if_true,
      Option.elim_some, queueCost]
    omega
  simp only [accountedBodySize, bind_eq_ok, guard_eq_ok, pure_eq_ok, hlen, not_lt, gt_iff_lt]
  constructor
  · rintro ⟨_, hvalid, hroom, rfl⟩
    exact ⟨((validateFrame_eq_ok rfl rfl).mp hvalid).2.2, hroom, rfl⟩
  · rintro ⟨hvalid, hroom, rfl⟩
    exact ⟨(), (validateFrame_eq_ok rfl rfl).mpr ⟨Nat.succ_ne_zero _, rfl, hvalid⟩, hroom, rfl⟩

variable {e : ProtocolError} {a : α}

lemma okOr_eq_ok {value : Option α} : okOr value e = .ok a ↔ value = some a := by
  cases value with
  | some b => simp [okOr, pure_eq_ok]
  | none => simp [okOr, throw_eq_ok]

variable {frame : GatewayFrame}

namespace Session

variable {s t : Session} {body : Body} {ts : List (Transfer GatewayFrame)}

lemma perform_eq_ok {method : SessionM α} : s.perform method = .ok (a, t) ↔ method s = .ok a t := by
  rw [perform]
  cases method s with
  | ok b u => simp [pure_eq_ok]
  | error e u => simp [throw_eq_ok]

lemma queueHandshake_eq_ok :
    queueHandshake body s = .ok () t ↔ s.Handshaking ∧
      ∃ size, accountedBodySize body = .ok size ∧
        ∃ scheduler, s.scheduler.enqueueControl ⟨body, size⟩ = .ok scheduler ∧
          t = { s with scheduler } := by
  have hphase : s.Handshaking ↔ s.phase = .awaitingServerHello ∨ s.phase = .awaitingClientHello ∨
      s.phase = .awaitingAuthentication ∨ s.phase = .awaitingAuthenticationResult := Iff.rfl
  simp only [queueHandshake, state_bind_eq_ok, state_get_eq_ok]
  constructor
  · rintro ⟨_, _, ⟨rfl, rfl⟩, h⟩
    split_ifs at h with hs
    · simp only [queueControlBody, state_bind_eq_ok, check_eq_ok, schedule_eq_ok] at h
      obtain ⟨size, _, ⟨hsize, rfl⟩, hscheduled⟩ := h
      exact ⟨hphase.mpr hs, size, hsize, hscheduled⟩
    · cases h
  · rintro ⟨hs, size, hsize, hscheduled⟩
    refine ⟨s, s, ⟨rfl, rfl⟩, ?_⟩
    rw [if_pos (hphase.mp hs)]
    simp only [queueControlBody, state_bind_eq_ok, check_eq_ok, schedule_eq_ok]
    exact ⟨size, s, ⟨hsize, rfl⟩, hscheduled⟩

lemma Admissible.not_refused (h : s.Admissible frame) (hbody : frame.body = some body) :
    ¬ Refused s frame e := by
  intro hrefused
  cases hrefused with
  | size hsize =>
    rw [h.size] at hsize
    cases hsize
  | invalid hvalid =>
    rw [h.valid] at hvalid
    cases hvalid
  | sequence hsequence => exact hsequence h.sequence
  | exhausted hroom => exact absurd h.room (not_le.mpr hroom)
  | context hcontext =>
    rw [h.context] at hcontext
    cases hcontext
  | missing hmissing =>
    rw [hbody] at hmissing
    cases hmissing

variable {now : ℕ}

lemma receive_eq_ok :
    receive frame now s = .ok body t ↔ s.phase ≠ .closed ∧ s.Admissible frame ∧
      frame.body = some body ∧ applyInbound body now s.counted = .ok () t := by
  have hcases := receive_cases s frame now
  constructor
  · intro h
    rw [h] at hcases
    cases hcases with
    | accepted hphase hadmissible hbody happly => exact ⟨hphase, hadmissible, hbody, happly⟩
  · rintro ⟨hphase, hadmissible, hbody, happly⟩
    generalize receive frame now s = result at hcases
    cases hcases with
    | closed h => exact absurd h hphase
    | refused _ h => exact absurd h (hadmissible.not_refused hbody)
    | failed _ _ hbody' h =>
      rw [hbody, Option.some.injEq] at hbody'
      subst hbody'
      rw [happly] at h
      cases h
    | accepted _ _ hbody' h =>
      rw [hbody, Option.some.injEq] at hbody'
      subst hbody'
      rw [happly] at h
      cases h
      rfl

structure Quiet (s : Session) : Prop where
  handshaking : s.Handshaking
  control : s.scheduler.control = []
  active : s.scheduler.active = []
  queuedBytes : s.scheduler.queuedBytes = 0

structure Ready (s : Session) : Prop extends Quiet s where
  controlFrames : 0 < s.scheduler.maximumControlFrames
  version : s.outboundVersion.major ≠ 0
  largest : s.maximumFrameSize ≤ absoluteMaxFrameSize
  counts : s.nextSendSequence ≠ 0
  sequence : s.nextSendSequence < u64Max

structure CanSend (s : Session) (body : Body) : Prop where
  valid : validateBody body = .ok ()
  queue : queueCost body ≤ s.scheduler.maximumQueuedBytes
  frame : (s.frameOf body).encodedLen ≤ s.maximumFrameSize

def sent (s : Session) : Session :=
  { s with
    nextSendSequence := s.nextSendSequence + 1
    scheduler := { s.scheduler with controlBurst := s.scheduler.controlBurst + 1 } }

lemma flushOne_eq_ok_none :
    flushOne s = .ok none t ↔ s.phase ≠ .closed ∧ s.scheduler.popNext.1 = none ∧
      t = { s with scheduler := s.scheduler.popNext.2 } := by
  have hcases := flushOne_cases s
  constructor
  · intro h
    rw [h] at hcases
    cases hcases with
    | empty hphase hpop => exact ⟨hphase, hpop, rfl⟩
  · rintro ⟨hphase, hpop, rfl⟩
    generalize flushOne s = result at hcases
    cases hcases with
    | closed h => exact absurd h hphase
    | empty _ _ => rfl
    | exhausted _ h _ => cases hpop.symm.trans h
    | refused _ h _ _ => cases hpop.symm.trans h
    | sent _ h _ _ _ => cases hpop.symm.trans h

variable {item : OutboundItem}

lemma flushOne_eq_ok_some (hphase : s.phase ≠ .closed) (hpop : s.scheduler.popNext.1 = some item) :
    flushOne s = .ok (some frame) t ↔ s.nextSendSequence + 1 ≤ u64Max ∧
      validateFrame (s.frameOf item.body) s.enabledCriticalExtensions = .ok () ∧
      checkFrameSize (s.frameOf item.body) s.maximumFrameSize = .ok () ∧
      frame = s.frameOf item.body ∧ t = { s with
        scheduler := s.scheduler.popNext.2
        nextSendSequence := s.nextSendSequence + 1 } := by
  have hcases := flushOne_cases s
  constructor
  · intro h
    rw [h] at hcases
    cases hcases with
    | sent _ hpop' hroom hvalid hsize =>
      cases hpop.symm.trans hpop'
      exact ⟨hroom, hvalid, hsize, rfl, rfl⟩
  · rintro ⟨hroom, hvalid, hsize, rfl, rfl⟩
    generalize flushOne s = result at hcases
    cases hcases with
    | closed h => exact absurd h hphase
    | empty _ h => cases hpop.symm.trans h
    | exhausted _ _ h => exact absurd hroom (not_le.mpr h)
    | refused _ h _ hrefused =>
      cases hpop.symm.trans h
      rcases hrefused with hrefused | ⟨-, hrefused⟩
      · cases hvalid.symm.trans hrefused
      · cases hsize.symm.trans hrefused
    | sent _ h _ _ _ =>
      cases hpop.symm.trans h
      rfl

lemma total_of_flushOne (h : flushOne s = .ok (some frame) t) :
    s.scheduler.total (fun _ => 1) = t.scheduler.total (fun _ => 1) + 1 := by
  have hcases := flushOne_cases s
  rw [h] at hcases
  cases hcases with
  | sent _ hpop _ _ _ =>
    rw [FairScheduler.total_popNext, hpop, Option.elim_some, Nat.add_comm]

lemma completes_flushAll {u : Session} :
    Completes s.flushAll ts u ↔
      (flushOne s = .ok none u ∧ ts = []) ∨
      ∃ frame t rest, flushOne s = .ok (some frame) t ∧ ts = .sent frame :: rest ∧
        Completes t.flushAll rest u := by
  rw [flushAll, flushFor, completes_lift_bind]
  constructor
  · rintro ⟨⟨frame, t⟩, hflush, h⟩
    rw [perform_eq_ok] at hflush
    cases frame with
    | none =>
      obtain ⟨rfl, rfl⟩ := completes_pure.mp h
      exact .inl ⟨hflush, rfl⟩
    | some frame =>
      have htotal := total_of_flushOne hflush
      obtain ⟨rest, rfl, hrest⟩ := completes_writes.mp h
      refine .inr ⟨frame, t, rest, hflush, rfl, ?_⟩
      rwa [flushAll, ← htotal]
  · rintro (⟨hflush, rfl⟩ | ⟨frame, t, rest, hflush, rfl, h⟩)
    · exact ⟨(none, u), perform_eq_ok.mpr hflush, completes_pure.mpr ⟨rfl, rfl⟩⟩
    · refine ⟨(some frame, t), perform_eq_ok.mpr hflush, completes_writes.mpr ⟨rest, rfl, ?_⟩⟩
      have htotal := total_of_flushOne hflush
      rwa [flushAll, ← htotal] at h

lemma Quiet.flushOne (h : s.Quiet) : flushOne s = .ok none s := by
  have hpop : s.scheduler.popNext = (none, s.scheduler) := by
    simp [FairScheduler.popNext, FairScheduler.popControl, h.control, h.active]
  rw [flushOne_eq_ok_none, hpop]
  exact ⟨h.handshaking.ne_closed, rfl, rfl⟩

lemma Quiet.sent (h : s.Quiet) : s.sent.Quiet :=
  ⟨h.handshaking, h.control, h.active, h.queuedBytes⟩

lemma Quiet.popNext_pushControl (h : s.Quiet) (item : OutboundItem) :
    (s.scheduler.pushControl item).popNext =
      (some item, { s.scheduler with controlBurst := s.scheduler.controlBurst + 1 }) := by
  have hcontrol := h.control
  have hbytes := h.queuedBytes
  have hactive := h.active
  generalize s.scheduler = scheduler at hcontrol hbytes hactive ⊢
  obtain ⟨control, streams, perStreamBytes, active, queuedBytes, _, _, _, _⟩ := scheduler
  subst hcontrol hbytes hactive
  simp [FairScheduler.pushControl, FairScheduler.popNext, FairScheduler.popControl]

lemma Ready.enqueueControl (h : s.Ready) {scheduler : FairScheduler} :
    s.scheduler.enqueueControl item = .ok scheduler ↔
      item.accountedBytes ≤ u64Max ∧ item.accountedBytes ≤ s.scheduler.maximumQueuedBytes ∧
      s.scheduler.pushControl item = scheduler := by
  have hframes : ¬ 0 ≥ s.scheduler.maximumControlFrames := not_le.mpr h.controlFrames
  simp only [FairScheduler.enqueueControl, FairScheduler.canEnqueueControl,
    FairScheduler.reserveGlobal, bind_eq_ok, guard_eq_ok, ite_throw_eq_ok, pure_eq_ok, h.control,
    h.queuedBytes, List.length_nil, hframes, not_false_eq_true, true_and, zero_add, gt_iff_lt,
    not_lt, and_true, exists_const, and_assoc]

lemma Ready.checks (h : s.Ready) :
    validateFrame (s.frameOf body) s.enabledCriticalExtensions = .ok () ∧
        checkFrameSize (s.frameOf body) s.maximumFrameSize = .ok () ↔
      validateBody body = .ok () ∧ (s.frameOf body).encodedLen ≤ s.maximumFrameSize := by
  have hversion : ((s.frameOf body).version.any fun version => version.major ≠ 0) = true := by
    simpa [frameOf] using h.version
  rw [validateFrame_eq_ok rfl rfl, checkFrameSize_eq_ok h.largest]
  constructor
  · rintro ⟨⟨-, -, hvalid⟩, -, hframe⟩
    exact ⟨hvalid, hframe⟩
  · rintro ⟨hvalid, hframe⟩
    exact ⟨⟨h.counts, hversion, hvalid⟩, encodedLen_ne_zero h.counts, hframe⟩

lemma CanSend.queueCost_le (hcan : s.CanSend body) (h : s.Ready) : queueCost body ≤ u64Max := by
  have hframe := hcan.frame
  have hlargest := h.largest
  have hbody : body.encodedLen ≤ (s.frameOf body).encodedLen := Nat.le_add_left _ _
  have habsolute : absoluteMaxFrameSize = 65536 := rfl
  have hmax : u64Max = 18446744073709551615 := rfl
  have hoverhead : frameAccountingOverhead = 128 := rfl
  rw [queueCost]
  omega

lemma Ready.flushOne_queued (h : s.Ready) {size : ℕ} :
    flushOne { s with scheduler := s.scheduler.pushControl ⟨body, size⟩ } = .ok (some frame) t ↔
      (validateBody body = .ok () ∧ (s.frameOf body).encodedLen ≤ s.maximumFrameSize) ∧
      frame = s.frameOf body ∧ t = s.sent := by
  have hpop := h.popNext_pushControl ⟨body, size⟩
  rw [flushOne_eq_ok_some (s := { s with scheduler := s.scheduler.pushControl ⟨body, size⟩ })
    h.handshaking.ne_closed (congrArg Prod.fst hpop), ← h.checks, hpop]
  constructor
  · rintro ⟨-, hvalid, hsize, rfl, rfl⟩
    exact ⟨⟨hvalid, hsize⟩, rfl, rfl⟩
  · rintro ⟨⟨hvalid, hsize⟩, rfl, rfl⟩
    exact ⟨h.sequence, hvalid, hsize, rfl, rfl⟩

lemma Quiet.completes_flushAll (h : s.Quiet) : Completes s.flushAll ts t ↔ t = s ∧ ts = [] := by
  rw [Session.completes_flushAll, h.flushOne]
  simp [eq_comm]

lemma completes_send (h : s.Ready) :
    Completes (s.send body) ts t ↔
      s.CanSend body ∧ t = s.sent ∧ ts = [.sent (s.frameOf body)] := by
  rw [send, completes_lift_bind]
  constructor
  · rintro ⟨⟨_, q⟩, hq, hrest⟩
    obtain ⟨-, size, hsize, scheduler, hqueued, rfl⟩ := queueHandshake_eq_ok.mp (perform_eq_ok.mp hq)
    obtain ⟨hvalid, -, rfl⟩ := accountedBodySize_eq_ok.mp hsize
    obtain ⟨-, hqueue, rfl⟩ := h.enqueueControl.mp hqueued
    rcases completes_flushAll.mp hrest with ⟨hnone, rfl⟩ | ⟨frame, u, rest, hsome, rfl, hrest⟩
    · have hpop := h.popNext_pushControl ⟨body, queueCost body⟩
      cases (flushOne_eq_ok_none.mp hnone).2.1.symm.trans (congrArg Prod.fst hpop)
    · obtain ⟨⟨-, hframe⟩, rfl, rfl⟩ := h.flushOne_queued.mp hsome
      obtain ⟨rfl, rfl⟩ := h.toQuiet.sent.completes_flushAll.mp hrest
      exact ⟨⟨hvalid, hqueue, hframe⟩, rfl, rfl⟩
  · rintro ⟨hcan, rfl, rfl⟩
    have hcost := hcan.queueCost_le h
    refine ⟨((), { s with scheduler := s.scheduler.pushControl ⟨body, queueCost body⟩ }), ?_, ?_⟩
    · rw [perform_eq_ok, queueHandshake_eq_ok]
      exact ⟨h.handshaking, _, accountedBodySize_eq_ok.mpr ⟨hcan.valid, hcost, rfl⟩, _,
        h.enqueueControl.mpr ⟨hcost, hcan.queue, rfl⟩, rfl⟩
    · exact completes_flushAll.mpr (.inr ⟨_, _, [], h.flushOne_queued.mpr
        ⟨⟨hcan.valid, hcan.frame⟩, rfl, rfl⟩, rfl, h.toQuiet.sent.completes_flushAll.mpr ⟨rfl, rfl⟩⟩)

lemma completes_send_bind {f : Session → Peer α} (h : s.Ready) :
    Completes (s.send body >>= f) ts a ↔
      s.CanSend body ∧ ∃ rest, ts = .sent (s.frameOf body) :: rest ∧ Completes (f s.sent) rest a := by
  rw [completes_bind]
  constructor
  · rintro ⟨t, us, vs, rfl, hsend, hrest⟩
    obtain ⟨hcan, rfl, rfl⟩ := (completes_send h).mp hsend
    exact ⟨hcan, vs, rfl, hrest⟩
  · rintro ⟨hcan, rest, rfl, hrest⟩
    exact ⟨s.sent, _, rest, rfl, (completes_send h).mpr ⟨hcan, rfl, rfl⟩, hrest⟩

lemma completes_next_bind {f : Body × Session → Peer α} :
    Completes (s.next >>= f) ts a ↔
      ∃ frame rest body t, ts = .received frame :: rest ∧ receive frame 0 s = .ok body t ∧
        Completes (f (body, t)) rest a := by
  rw [completes_bind]
  constructor
  · rintro ⟨⟨body, t⟩, us, vs, rfl, hnext, hrest⟩
    rw [next, completes_guard, completes_read_bind] at hnext
    obtain ⟨-, frame, rest, rfl, hlast⟩ := hnext
    obtain ⟨hreceive, rfl⟩ := completes_ends.mp hlast
    exact ⟨frame, vs, body, t, rfl, perform_eq_ok.mp hreceive, hrest⟩
  · rintro ⟨frame, rest, body, t, rfl, hreceive, hrest⟩
    refine ⟨(body, t), [.received frame], rest, rfl, ?_, hrest⟩
    rw [next, completes_guard, completes_read_bind]
    exact ⟨(receive_eq_ok.mp hreceive).1, frame, [], rfl,
      completes_ends.mpr ⟨perform_eq_ok.mpr hreceive, rfl⟩⟩

def Expects (s : Session) : Body → Prop
  | .clientHello _ => s.phase = .awaitingClientHello
  | .serverHello _ => s.phase = .awaitingServerHello
  | .authenticate _ => s.phase = .awaitingAuthentication
  | .authenticationResult _ => s.phase = .awaitingAuthenticationResult
  | _ => False

lemma Expects.handshaking (h : s.Expects body) : s.Handshaking := by
  cases body with
  | clientHello message => exact .inr (.inl h)
  | serverHello message => exact .inl h
  | authenticate message => exact .inr (.inr (.inl h))
  | authenticationResult message => exact .inr (.inr (.inr h))
  | _ => exact h.elim

lemma Expects.applyInbound (h : s.Expects body) : applyInbound body now s = .ok () s := by
  rw [Session.applyInbound, state_bind_eq_ok]
  refine ⟨s, s, state_get_eq_ok.mpr ⟨rfl, rfl⟩, ?_⟩
  cases body with
  | clientHello message =>
    have hphase : s.phase = .awaitingClientHello := h
    rw [hphase]
    rfl
  | serverHello message =>
    have hphase : s.phase = .awaitingServerHello := h
    rw [hphase]
    rfl
  | authenticate message =>
    have hphase : s.phase = .awaitingAuthentication := h
    rw [hphase]
    rfl
  | authenticationResult message =>
    have hphase : s.phase = .awaitingAuthenticationResult := h
    rw [hphase]
    rfl
  | _ => exact h.elim

lemma Expects.receive (h : s.Expects body) :
    receive frame now s = .ok body t ↔
      s.Admissible frame ∧ frame.body = some body ∧ t = s.counted := by
  have hcounted : s.counted.Expects body := h
  rw [receive_eq_ok, hcounted.applyInbound]
  simp [h.handshaking.ne_closed, eq_comm]

lemma validateFrameContext_eq_ok {version : ProtocolVersion}
    (hphase : s.phase = .awaitingAuthentication ∨ s.phase = .awaitingAuthenticationResult)
    (hid : frame.sessionId = s.sessionId) (hselected : s.selectedVersion = some version)
    (hversion : frame.version = some version) : s.validateFrameContext frame = .ok () := by
  rcases hphase with hphase | hphase
  · simp [validateFrameContext, hphase, hid, hselected, hversion, pure, Except.pure]
  · simp [validateFrameContext, hphase, hid, hselected, hversion, pure, Except.pure]

end Session

end OnionRoute.GatewayProtocol
