import OnionRoute.GatewayProtocol.CreditConservation
import OnionRoute.GatewayProtocol.MessageSizes

/-! Which queued frames a session can write. -/

namespace OnionRoute.GatewayProtocol

open Library FairScheduler

def dataOverhead : ℕ := 63

namespace Session

variable {s t : Session} {body : Body}

def HasRoom (s : Session) : Body → Prop
  | .data message => message.payload.length + dataOverhead ≤ s.maximumFrameSize
  | _ => True

instance (s : Session) : DecidablePred s.HasRoom := by
  intro body
  apply Body.casesOn (motive := fun body => Decidable (s.HasRoom body)) body <;> intro message <;>
    dsimp only [HasRoom] <;> infer_instance

def Waits (s : Session) (item : OutboundItem) : Prop :=
  item ∈ s.scheduler.control ∨ ∃ k, item ∈ s.scheduler.queueOf k

structure Configured (s : Session) : Prop where
  version : s.outboundVersion.major ≠ 0
  sessionId : s.sessionId.length = 16
  smallest : minNegotiableFrameSize ≤ s.maximumFrameSize
  largest : s.maximumFrameSize ≤ absoluteMaxFrameSize
  counts : s.nextSendSequence ≠ 0
  counted : s.nextSendSequence ≤ u64Max

structure Sendable (s : Session) : Prop where
  waiting : s.phase ≠ .closed → ∀ item, s.Waits item →
    validateFrame (s.frameOf item.body) s.enabledCriticalExtensions = .ok () ∧
      checkFrameSize (s.frameOf item.body) s.maximumFrameSize = .ok ()
  flush : ∀ e t, flushOne s = .error e t → e = .closed ∧ s.phase = .closed ∨
    e = .integerOverflow ∧ u64Max < s.nextSendSequence + 1

end Session

variable {frame : GatewayFrame}

lemma validateFrame_eq_ok {body : Body} {enabled : Finset UInt32}
    (hids : frame.criticalExtensionIds = []) (hbody : frame.body = some body) :
    validateFrame frame enabled = .ok () ↔ frame.sequence ≠ 0 ∧
      (frame.version.any fun version => version.major ≠ 0) = true ∧ validateBody body = .ok () := by
  simp only [validateFrame, guard_eq_ok, bind_eq_ok, require_eq_ok, hids, validateExtensions,
    pure_eq_ok, hbody, exists_const, true_and]

lemma validateBody_of_accounted {body : Body} {size : ℕ} (h : accountedBodySize body = .ok size) :
    validateBody body = .ok () := by
  simp only [accountedBodySize, bind_eq_ok] at h
  obtain ⟨_, hvalid, -⟩ := h
  exact ((validateFrame_eq_ok rfl rfl).mp hvalid).2.2

lemma checkFrameSize_eq_ok {maximumFrameSize : ℕ} (hmax : maximumFrameSize ≤ absoluteMaxFrameSize) :
    checkFrameSize frame maximumFrameSize = .ok () ↔
      frame.encodedLen ≠ 0 ∧ frame.encodedLen ≤ maximumFrameSize := by
  simp only [checkFrameSize, bind_eq_ok, validateMaximum, require_eq_ok, guard_eq_ok,
    ite_throw_eq_ok, exists_const, not_lt, gt_iff_lt, and_true]
  constructor
  · rintro ⟨-, hpos, hle⟩
    exact ⟨hpos, hle⟩
  · rintro ⟨hpos, hle⟩
    exact ⟨⟨by omega, hmax⟩, hpos, hle⟩

lemma encodedLen_frameOf_le {s : Session} {body : Body} (hid : s.sessionId.length = 16)
    (hcounted : s.nextSendSequence ≤ u64Max) :
    (s.frameOf body).encodedLen ≤ 43 + body.encodedLen := by
  have hmax : u64Max = 18446744073709551615 := rfl
  have hsequence : uintLen 1 s.nextSendSequence ≤ 11 :=
    uintLen_le (k := 10) (by decide) (by decide) (by omega)
  have hmajor := uint32Len_le 1 s.outboundVersion.major
  have hminor := uint32Len_le 2 s.outboundVersion.minor
  have hversion : delimitedLen 2 s.outboundVersion.encodedLen ≤ 14 := by
    rw [ProtocolVersion.encodedLen]
    exact (delimitedLen_le (k := 1) (by decide) Nat.one_pos (by omega)).trans (by omega)
  have hsession : bytesLen 4 s.sessionId ≤ 18 :=
    (bytesLen_le (k := 1) (by decide) Nat.one_pos (by omega)).trans (by omega)
  simp only [GatewayFrame.encodedLen, Session.frameOf, optionLen, Option.elim_some, packedLen,
    if_true]
  omega

lemma encodedLen_data_le {message : Data} (h : message.payload.length ≤ maxDataPayload) :
    (Body.data message).encodedLen ≤ message.payload.length + 20 := by
  have hmax : maxDataPayload = 32768 := rfl
  have hid := uint64Len_le 1 message.streamId
  have hpayload : bytesLen 2 message.payload ≤ 1 + 3 + message.payload.length :=
    bytesLen_le (by decide) (by decide) (by omega)
  have hkey : keyLen 17 ≤ 2 := keyLen_le_two (by decide)
  have hlength : varintLen message.encodedLen ≤ 3 := by
    refine varintLen_le (by decide) ?_
    rw [Data.encodedLen]
    omega
  rw [Body.encodedLen, delimitedLen, Data.encodedLen]
  rw [Data.encodedLen] at hlength
  omega

lemma encodedLen_ne_zero (h : frame.sequence ≠ 0) : frame.encodedLen ≠ 0 := by
  have hsequence : 0 < uintLen 1 frame.sequence := by
    rw [uintLen, if_neg h]
    exact Nat.add_pos_right _ (Nat.succ_pos _)
  simp only [GatewayFrame.encodedLen]
  omega

variable {item : OutboundItem}

namespace Session

variable {s t : Session} {body : Body}

structure Fine (size : ℕ) (body : Body) : Prop where
  valid : validateBody body = .ok ()
  isHello : body.isHello = false
  room : ∀ message, body = .data message → message.payload.length + dataOverhead ≤ size

lemma Configured.sendable (h : s.Configured) (hbody : Fine s.maximumFrameSize body) :
    validateFrame (s.frameOf body) s.enabledCriticalExtensions = .ok () ∧
      checkFrameSize (s.frameOf body) s.maximumFrameSize = .ok () := by
  constructor
  · refine (validateFrame_eq_ok rfl rfl).mpr ⟨h.counts, ?_, hbody.valid⟩
    simpa [frameOf] using h.version
  · refine (checkFrameSize_eq_ok h.largest).mpr ⟨encodedLen_ne_zero h.counts, ?_⟩
    have hframe : (s.frameOf body).encodedLen ≤ 43 + body.encodedLen :=
      encodedLen_frameOf_le h.sessionId h.counted
    have hsmallest := h.smallest
    have hnegotiable : minNegotiableFrameSize = 1024 := rfl
    cases hdata : body.isData with
    | false =>
      have hlen := Body.encodedLen_le hbody.valid hbody.isHello hdata
      omega
    | true =>
      cases body with
      | data message =>
        have hvalid := hbody.valid
        simp only [validateBody, validateData, boundedNonempty, boundedRange, bind_eq_ok,
          require_eq_ok] at hvalid
        obtain ⟨_, -, -, hpayload⟩ := hvalid
        have hlen := encodedLen_data_le hpayload
        have hroom := hbody.room message rfl
        have hoverhead : dataOverhead = 63 := rfl
        omega
      | _ => cases hdata

structure Stocked (s : Session) : Prop where
  configured : s.Configured
  running : s.Running
  fine : ∀ item, s.Waits item → Fine s.maximumFrameSize item.body

lemma Queue.isHello (hq : Queue s body t) (hs : s.Running) : body.isHello = false := by
  have hqueues := hq.queues
  generalize t.flow = flow at hqueues
  generalize t.scheduler = scheduler at hqueues
  cases hqueues with
  | plain _ _ hhello => exact hhello
  | handshakes _ hhand => exact absurd hhand hs.not_handshaking
  | _ => rfl

lemma Queue.waits (hq : Queue s body t) (h : t.Waits item) :
    s.Waits item ∨ item.body = body := by
  rcases hq.scheduler_cases with ⟨size, -, -, hsched⟩ | ⟨message, size, -, -, hsched⟩ |
    ⟨message, size, -, hsched⟩
  · rw [Waits, hsched] at h
    rcases h with h | ⟨j, h⟩
    · rcases List.mem_append.mp h with h | h
      · exact .inl (.inl h)
      · exact .inr (by rw [List.mem_singleton.mp h])
    · exact .inl (.inr ⟨j, h⟩)
  · rw [Waits, hsched] at h
    rcases h with h | ⟨j, h⟩
    · exact .inl (.inl h)
    · rw [queueOf_pushStream] at h
      split at h
      next hj =>
        rcases List.mem_append.mp h with h | h
        · exact .inl (.inr ⟨_, h⟩)
        · exact .inr (by rw [List.mem_singleton.mp h])
      next => exact .inl (.inr ⟨j, h⟩)
  · rw [Waits, hsched] at h
    rcases h with h | ⟨j, h⟩
    · rcases List.mem_append.mp h with h | h
      · exact .inl (.inl h)
      · exact .inr (by rw [List.mem_singleton.mp h])
    · exact .inl (.inr ⟨j, queueOf_cancelStream_subset j h⟩)

lemma Applies.waits (ha : Applies s body t) (h : t.Waits item) :
    s.Waits item :=
  h.imp (fun h => ha.control ▸ h) fun ⟨j, h⟩ => ⟨j, (ha.queueOf_suffix j).subset h⟩

lemma Waits.of_subset (h : t.Waits item) (hcontrol : t.scheduler.control ⊆ s.scheduler.control)
    (hqueue : ∀ k, t.scheduler.queueOf k ⊆ s.scheduler.queueOf k) : s.Waits item :=
  h.imp (fun h => hcontrol h) fun ⟨k, h⟩ => ⟨k, hqueue k h⟩

namespace Stocked

lemma of_kept (h : s.Stocked) (hkept : Kept s t) (hrunning : t.Running)
    (hwaits : ∀ item, t.Waits item → s.Waits item ∨ Fine s.maximumFrameSize item.body) :
    t.Stocked := by
  obtain ⟨hversion, hid, hsmallest, hlargest, hcounts, hcounted⟩ := h.configured
  refine ⟨⟨?_, ?_, ?_, ?_, ?_, ?_⟩, hrunning, fun item hitem => ?_⟩
  · rwa [hkept.outboundVersion]
  · rwa [hkept.sessionId]
  · rwa [hkept.maximumFrameSize]
  · rwa [hkept.maximumFrameSize]
  · rwa [hkept.nextSendSequence]
  · rwa [hkept.nextSendSequence]
  · rw [hkept.maximumFrameSize]
    exact (hwaits item hitem).elim (h.fine item) id

lemma queue (h : s.Stocked) (hq : QueueWhere HasRoom s body t) : t.Stocked := by
  obtain ⟨hq, hroom⟩ := hq
  have hrunning : t.Running := by
    rcases hq.phase with hp | ⟨-, hp⟩
    · rw [Running, hp]
      exact h.running
    · exact .inr hp
  refine h.of_kept hq.kept hrunning fun item hitem => (hq.waits hitem).imp_right ?_
  rintro rfl
  obtain ⟨size, hvalid⟩ := hq.valid
  refine ⟨validateBody_of_accounted hvalid, hq.isHello h.running, ?_⟩
  rintro message heq
  rw [heq] at hroom
  exact hroom

lemma outcome {a : Action} {bodies : List Body} {frame : Option GatewayFrame} (h : s.Stocked)
    (ho : Outcome s a bodies frame t)
    (hroom : Trace Queue s bodies t → Trace (QueueWhere HasRoom) s bodies t) :
    t.phase = .closed ∨ t.Stocked := by
  have hrunning := h.running
  cases ho with
  | idles hidle =>
    refine .inr (h.of_kept hidle.kept ?_ fun item hitem => .inl ?_)
    · rw [Running, hidle.phase.resolve_right fun hh => hrunning.not_handshaking hh.1]
      exact hrunning
    · rwa [Waits, hidle.scheduler] at hitem
  | queues _ htrace =>
    exact .inr (Trace.invariant (I := Stocked) (fun hq hs => hs.queue hq) (hroom htrace) h)
  | waits =>
    refine .inr (h.of_kept (by constructor <;> rfl) hrunning
      fun item hitem => .inl ?_)
    exact hitem.of_subset (control_popNext_suffix _).subset
      (queueOf_popNext_subset _)
  | sends _ _ hcount =>
    obtain ⟨hversion, hid, hsmallest, hlargest, -, -⟩ := h.configured
    refine .inr ⟨⟨hversion, hid, hsmallest, hlargest, Nat.succ_ne_zero _, hcount⟩, hrunning,
      fun item hitem => h.fine item ?_⟩
    exact hitem.of_subset (control_popNext_suffix _).subset
      (queueOf_popNext_subset _)
  | closes _ _ hclosed => exact .inl hclosed
  | applies _ _ _ _ happly =>
    obtain ⟨hversion, hid, hsmallest, hlargest, hcounts, hcount⟩ := h.configured
    have hcounted : s.counted.Stocked :=
      ⟨⟨hversion, hid, hsmallest, hlargest, hcounts, hcount⟩, hrunning, h.fine⟩
    rcases happly.phase with hp | hp | hp
    · refine .inr (hcounted.of_kept happly.kept ?_ fun item hitem => .inl (happly.waits hitem))
      rw [Running, hp]
      exact hrunning
    · exact .inr (hcounted.of_kept happly.kept (.inr hp)
        fun item hitem => .inl (happly.waits hitem))
    · exact .inl hp

end Stocked

lemma Sendable.of_closed (h : s.phase = .closed) : s.Sendable where
  waiting hopen := absurd h hopen
  flush e t hflush := by
    rw [flushOne_of_closed h] at hflush
    cases hflush
    exact .inl ⟨rfl, h⟩

lemma waits_of_popNext (h : s.scheduler.popNext.1 = some item) :
    s.Waits item := by
  rcases popNext_cases s.scheduler with
    ⟨hnone, -, -⟩ | ⟨head, hi, hc, -⟩ | ⟨k, head, items, hi, -, hq, -, -⟩
  · rw [h] at hnone
    cases hnone
  · obtain rfl := Option.some.inj (h.symm.trans hi)
    exact .inl (hc ▸ List.mem_cons_self)
  · obtain rfl := Option.some.inj (h.symm.trans hi)
    exact .inr ⟨k, hq ▸ List.mem_cons_self⟩

lemma Stocked.sendable (h : s.Stocked) : s.Sendable where
  waiting _ item hitem := h.configured.sendable (h.fine item hitem)
  flush e t hflush := by
    have hcases := flushOne_cases s
    rw [hflush] at hcases
    generalize hr : EStateM.Result.error e t = r at hcases
    cases hcases with
    | closed hclosed =>
      cases hr
      exact .inl ⟨rfl, hclosed⟩
    | exhausted _ _ hcount =>
      cases hr
      exact .inr ⟨rfl, hcount⟩
    | @refused item _ _ hpop _ hrefused =>
      obtain ⟨hvalid, hsize⟩ := h.configured.sendable (h.fine item (waits_of_popNext hpop))
      rw [hvalid, hsize] at hrefused
      rcases hrefused with hrefused | ⟨-, hrefused⟩ <;> cases hrefused
    | empty | sent => cases hr

end Session

theorem queued_sendable {s t : Session} {events : List Event} (h : Trace Session.Step s events t)
    (hs : s.Configured) (hrunning : s.Running) (hempty : ∀ item, ¬ s.Waits item)
    (hroom : ∀ e ∈ events, e.CallsMeet Session.HasRoom) : t.Sendable := by
  have hstocked : t.phase = .closed ∨ t.Stocked := by
    induction h with
    | nil => exact .inr ⟨hs, hrunning, fun item hitem => absurd hitem (hempty item)⟩
    | @snoc events t u e hrun hstep ih =>
      rcases ih fun e he => hroom e (List.mem_append_left _ he) with hclosed | hstocked
      · exact .inl (hstep.outcome.closed hclosed)
      · exact hstocked.outcome hstep.outcome
          (hstep.queues_where (fun _ _ => trivial) (hroom e (by simp)))
  exact hstocked.elim .of_closed fun hs => hs.sendable

namespace Sample

def smallSession : Session :=
  { session .client with maximumFrameSize := minNegotiableFrameSize }

lemma smallSession_configured : smallSession.Configured :=
  ⟨by decide, rfl, Nat.le_refl _, by decide, by decide, by decide⟩

lemma smallSession_empty (item : OutboundItem) : ¬ smallSession.Waits item := by
  rintro (h | ⟨k, h⟩) <;> cases h

def writeBytes (n : ℕ) : List Action :=
  openStream ++ [.call (.tryQueueData 1 (List.replicate n 0)) 0]

end Sample

open Sample in
theorem queued_sendable_three :
    (smallSession.runs (writeBytes 3)).Sendable :=
  queued_sendable (Session.trace_eventsOf _ _) smallSession_configured (.inl rfl)
    smallSession_empty (by decide +kernel)

open Sample in
/-- A kilobyte is taken as one frame, which is too large for the peer. -/
theorem queued_not_sendable :
    (smallSession.runs openStream).queues
        (.tryQueueData 1 (List.replicate 1024 0)) 0 ≠ [] ∧
      (finalState Session.flushOne (smallSession.runs (writeBytes 1024))).phase =
        .closed ∧
      ¬ (smallSession.runs (writeBytes 1024)).Sendable := by
  refine ⟨by decide +kernel, by decide +kernel, fun h => ?_⟩
  have herror : (match Session.flushOne (smallSession.runs (writeBytes 1024)) with
      | .error e _ => some e
      | .ok _ _ => none) = some (.frameTooLarge 1057 1024) := by decide +kernel
  cases hr : Session.flushOne (smallSession.runs (writeBytes 1024)) with
  | ok frame t =>
    rw [hr] at herror
    cases herror
  | error e t =>
    rw [hr] at herror
    obtain rfl := Option.some.inj herror
    rcases h.flush _ _ hr with ⟨hclosed, -⟩ | ⟨hoverflow, -⟩
    · cases hclosed
    · cases hoverflow

end OnionRoute.GatewayProtocol
