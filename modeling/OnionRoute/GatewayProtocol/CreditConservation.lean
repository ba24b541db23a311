import OnionRoute.GatewayProtocol.StreamLife

/-! The connection credit of a sender is lost only with the data that a closed stream drops. -/

namespace OnionRoute.GatewayProtocol

open Library FlowController FairScheduler Body

def Body.dataLength : Body → ℕ
  | .data message => message.payload.length
  | _ => 0

def Body.connectionCredit : Body → ℕ
  | .windowUpdate message => if message.streamId = 0 then message.credit.toNat else 0
  | _ => 0

namespace Session

def connectionSendWindow (s : Session) : ℕ :=
  s.flow.elim 0 FlowController.connectionSendWindow

def queuedData (s : Session) : ℕ :=
  s.scheduler.total Body.dataLength

end Session

namespace Event

def flushedData (e : Event) : ℕ :=
  (e.sent.bind GatewayFrame.body).elim 0 Body.dataLength

def receivedCredit (e : Event) : ℕ :=
  (e.accepted.bind GatewayFrame.body).elim 0 Body.connectionCredit

def closing (e : Event) : List UInt64 :=
  match e.action with
  | .call (.closeStream streamId _) _ => [streamId]
  | .call .expireIdleStreams now => e.before.flow.elim [] fun flow =>
      flow.expireIdle now e.before.limits.idleStreamTimeout
  | .receive frame _ =>
    match frame.body with
    | some (.closeStream message) => [message.streamId]
    | _ => []
  | _ => []

def Lossless (e : Event) : Prop :=
  ∀ streamId ∈ e.closing, e.before.scheduler.queueOf streamId = []

instance (e : Event) : Decidable e.Lossless :=
  e.closing.decidableBAll fun streamId => e.before.scheduler.queueOf streamId = []

end Event

def Conserves (s : Session) (events : List Event) (t : Session) : Prop :=
  t.connectionSendWindow + (events.map Event.flushedData).sum + t.queuedData =
    s.connectionSendWindow + (events.map Event.receivedCredit).sum

namespace Session

variable {s t : Session} {body : Body}

def heldCredit (s : Session) : ℕ :=
  s.connectionSendWindow + s.queuedData

lemma weightless_of_isPlain (h : body.isPlain = true) :
    body.dataLength = 0 ∧ body.connectionCredit = 0 := by
  cases body <;> first | exact ⟨rfl, rfl⟩ | cases h

lemma dataLength_of_isData (h : body.isData = false) : body.dataLength = 0 := by
  cases body <;> first | rfl | cases h

def connectionReceiveWindow (s : Session) : ℕ :=
  s.flow.elim 0 FlowController.connectionReceiveWindow

structure Balance (s t : Session) (spent granted restored taken : ℕ) : Prop where
  spends : spent ≤ s.connectionSendWindow
  takes : taken ≤ s.connectionReceiveWindow
  room : granted = 0 ∨ s.connectionReceiveWindow + granted ≤ maxConnectionWindow
  send : t.connectionSendWindow = s.connectionSendWindow - spent + restored
  recv : t.connectionReceiveWindow = s.connectionReceiveWindow - taken + granted
  queued : t.queuedData ≤ s.queuedData + spent

lemma connection_congr {flow flow' : FlowController} (hs : s.flow = some flow)
    (ht : t.flow = some flow')
    (hsend : flow'.connectionSendWindow = flow.connectionSendWindow)
    (hrecv : flow'.connectionReceiveWindow = flow.connectionReceiveWindow)
    (hqueued : t.queuedData ≤ s.queuedData) : Balance s t 0 0 0 0 :=
  ⟨Nat.zero_le _, Nat.zero_le _, .inl rfl, by simp [connectionSendWindow, hs, ht, hsend],
    by simp [connectionReceiveWindow, hs, ht, hrecv], hqueued⟩

attribute [local simp] connectionSendWindow connectionReceiveWindow queuedData

lemma balance_of_flow (h : t.flow = s.flow) (hqueued : t.queuedData ≤ s.queuedData) :
    Balance s t 0 0 0 0 :=
  ⟨Nat.zero_le _, Nat.zero_le _, .inl rfl, by simp [h],
    by simp [h], hqueued⟩

lemma connectionCredit_of_ne {k : UInt64} {credit : UInt32} (h : k ≠ 0) :
    connectionCredit (.windowUpdate ⟨k, credit⟩) = 0 :=
  if_neg h

lemma Queue.balance (h : Queue s body t) :
    Balance s t body.dataLength body.connectionCredit 0 0 := by
  have hq := h.queues
  generalize hflow : t.flow = flow at hq
  generalize hsched : t.scheduler = scheduler at hq
  have hcontrol : ∀ {body : Body} {size : ℕ}, body.dataLength = 0 →
      scheduler = s.scheduler.pushControl ⟨body, size⟩ → t.queuedData ≤ s.queuedData := by
    rintro body size hdata rfl
    simp [hsched, hdata]
  cases hq with
  | opens _ _ hf hstep =>
    obtain ⟨-, -, -, -, -, -, rfl⟩ := insertNewStream_eq_ok hstep
    exact connection_congr hf hflow rfl rfl (hcontrol rfl rfl)
  | accepts _ _ hf hstep =>
    obtain ⟨_, -, -, -, -, rfl⟩ := acceptRemoteOpen_eq_ok hstep
    exact connection_congr hf hflow rfl rfl (hcontrol rfl rfl)
  | rejects _ _ hf hstep =>
    obtain ⟨_, -, -, rfl⟩ := rejectOrClose_eq_ok.mp hstep
    exact connection_congr hf hflow rfl rfl (hcontrol rfl rfl)
  | data _ hf hstep =>
    obtain ⟨_, -, -, -, -, -, hle, -, rfl⟩ := debitSend_eq_ok hstep
    refine ⟨?_, Nat.zero_le _, .inl rfl, ?_, ?_, ?_⟩
    · simpa [hf, dataLength] using hle
    · simp [hf, hflow, dataLength]
    · simp [hf, hflow, connectionCredit, putStream]
    · simp [hsched]
  | grants _ hf hstep =>
    rcases grantReceiveCredit_eq_ok hstep with
      ⟨rfl, hle, rfl⟩ | ⟨_, -, ⟨hj, -⟩, -, rfl⟩
    · refine ⟨Nat.zero_le _, Nat.zero_le _, .inr ?_, ?_, ?_, hcontrol rfl rfl⟩
      · simpa [hf, connectionCredit] using hle
      · simp [hf, hflow, dataLength]
      · simp [hf, hflow, connectionCredit]
    · rw [connectionCredit_of_ne hj]
      exact connection_congr hf hflow rfl rfl (hcontrol rfl rfl)
  | halfCloses _ hf hstep =>
    obtain ⟨_, -, -, -, -, rfl⟩ := localHalfClose_eq_ok hstep
    exact connection_congr hf hflow rfl rfl (hcontrol rfl rfl)
  | @closes k _ _ _ _ _ hf hstep =>
    obtain ⟨_, -, -, rfl⟩ := rejectOrClose_eq_ok.mp hstep
    have htotal := total_cancelStream (s := s.scheduler) (k := k) dataLength
    refine connection_congr hf hflow rfl rfl ?_
    simp only [queuedData, hsched, total_pushControl, dataLength]
    omega
  | plain hplain =>
    obtain ⟨hdata, hcredit⟩ := weightless_of_isPlain hplain
    rw [hdata, hcredit]
    exact balance_of_flow hflow (hcontrol hdata rfl)
  | handshakes hhand =>
    obtain ⟨hdata, hcredit⟩ := weightless_of_isPlain (isPlain_of_isHandshake hhand)
    rw [hdata, hcredit]
    exact balance_of_flow hflow (hcontrol hdata rfl)

lemma Applies.balance (h : Applies s body t) :
    Balance s t 0 0 body.connectionCredit body.dataLength := by
  cases h with
  | handshakes _ hbody =>
    obtain ⟨hdata, hcredit⟩ := weightless_of_isPlain (isPlain_of_handshakes hbody)
    rw [hdata, hcredit]
    exact balance_of_flow rfl (Nat.le_refl _)
  | opens _ _ hf hstep =>
    obtain ⟨-, -, -, -, -, -, rfl⟩ := insertNewStream_eq_ok hstep
    exact connection_congr hf rfl rfl rfl (Nat.le_refl _)
  | opened _ _ hf hstep =>
    obtain ⟨_, -, -, -, -, rfl⟩ := confirmLocalOpen_eq_ok hstep
    exact connection_congr hf rfl rfl rfl (Nat.le_refl _)
  | rejected _ _ hf hstep =>
    obtain ⟨_, -, -, rfl⟩ := rejectOrClose_eq_ok.mp hstep
    exact connection_congr hf rfl rfl rfl (Nat.le_refl _)
  | data _ hf hstep =>
    obtain ⟨_, -, -, -, -, -, hle, -, rfl⟩ := debitReceive_eq_ok hstep
    refine ⟨Nat.zero_le _, ?_, .inl rfl, ?_, ?_, Nat.le_refl _⟩
    · simpa [hf, dataLength] using hle
    · simp [hf, connectionCredit, putStream]
    · simp [hf, dataLength]
  | credited _ hf hstep =>
    rcases receiveWindowUpdate_eq_ok hstep with
      ⟨hzero, -, rfl⟩ | ⟨_, -, ⟨hj, -⟩, -, rfl⟩
    · refine ⟨Nat.zero_le _, Nat.zero_le _, .inl rfl, ?_, ?_, Nat.le_refl _⟩
      · simp [hf, connectionCredit, hzero]
      · simp [hf, dataLength]
    · rw [connectionCredit_of_ne hj]
      exact connection_congr hf rfl rfl rfl (Nat.le_refl _)
  | halfClosed _ hf hstep =>
    obtain ⟨_, -, -, -, -, rfl⟩ := receiveHalfClose_eq_ok hstep
    exact connection_congr hf rfl rfl rfl (Nat.le_refl _)
  | @closes message _ _ _ hf hstep =>
    obtain ⟨_, -, -, rfl⟩ := rejectOrClose_eq_ok.mp hstep
    have htotal := total_cancelStream (s := s.scheduler) (k := message.streamId)
      dataLength
    refine connection_congr hf rfl rfl rfl ?_
    simp only [queuedData]
    omega
  | plain _ hplain _ hflow hsched =>
    obtain ⟨hdata, hcredit⟩ := weightless_of_isPlain hplain
    rw [hdata, hcredit]
    exact balance_of_flow hflow (by rw [queuedData, hsched]; rfl)

lemma Queue.heldCredit (h : Queue s body t)
    (hclose : ∀ k code, body = .closeStream ⟨k, code⟩ → s.scheduler.queueOf k = []) :
    t.heldCredit = s.heldCredit := by
  obtain ⟨hspends, -, -, hsend, -, -⟩ := h.balance
  have hqueued : t.queuedData = s.queuedData + body.dataLength := by
    rcases h.scheduler_cases with ⟨size, hdata, -, hsched⟩ | ⟨_, size, rfl, -, hsched⟩ |
      ⟨message, size, rfl, hsched⟩
    · simp [hsched, dataLength_of_isData hdata]
    · simp [hsched]
    · have htotal := total_cancelStream (s := s.scheduler) (k := message.streamId)
        dataLength
      rw [hclose _ _ rfl, load_nil, Nat.add_zero] at htotal
      simp [hsched, dataLength, htotal]
  simp only [Session.heldCredit]
  omega

lemma trace_heldCredit {bodies : List Body} (h : Trace Queue s bodies t)
    (hclose : ∀ b ∈ bodies, ∃ k code, b = .closeStream ⟨k, code⟩ ∧ s.scheduler.queueOf k = []) :
    t.heldCredit = s.heldCredit ∧
      ∀ k, s.scheduler.queueOf k = [] → t.scheduler.queueOf k = [] := by
  induction h with
  | nil => exact ⟨rfl, fun _ h => h⟩
  | snoc hu hlast ih =>
    obtain ⟨hheld, hempty⟩ := ih fun b hb => hclose b (List.mem_append_left _ hb)
    obtain ⟨k, code, rfl, hk⟩ := hclose _ (List.mem_append_right _ List.mem_cons_self)
    refine ⟨?_, fun j hj => ?_⟩
    · rw [← hheld]
      refine hlast.heldCredit ?_
      rintro _ _ ⟨⟩
      exact hempty k hk
    · have hq := hlast.queues
      generalize Session.flow _ = flow at hq
      generalize Session.scheduler _ = scheduler at hq ⊢
      cases hq with
      | closes =>
        rw [queueOf_pushControl, queueOf_cancelStream]
        split
        · rfl
        · exact hempty j hj
      | plain hplain => cases hplain
      | handshakes hhand => cases hhand

lemma call_heldCredit (c : Call) (now : ℕ) (h : Event.Lossless ⟨s, .call c now⟩) :
    (s.call c now).heldCredit = s.heldCredit := by
  rcases call_cases s c now with ⟨-, hidle⟩ | htrace
  · simp only [Session.heldCredit, connectionSendWindow, queuedData, hidle.flow, hidle.scheduler]
  · by_cases hexpire : c = .expireIdleStreams
    · subst hexpire
      refine (trace_heldCredit htrace fun b hb => ?_).1
      obtain ⟨k, hk, rfl⟩ := mem_closesOf hb
      exact ⟨k, _, rfl, h k hk⟩
    · rcases queues_cases c now hexpire with hq | ⟨body, hbody, hq⟩
      · rw [hq] at htrace
        exact (trace_heldCredit htrace fun b hb => absurd hb List.not_mem_nil).1
      · have hnil : s.queues c now ≠ [] := by
          rw [hq]
          exact List.cons_ne_nil _ _
        rw [hq] at htrace
        refine htrace.single_inv.heldCredit ?_
        rintro k code rfl
        cases c with
        | closeStream streamId code' =>
          obtain ⟨rfl, -⟩ := (CloseStream.mk.injEq _ _ _ _).mp
            (closeStream.inj (Option.some.inj hbody))
          exact h _ List.mem_cons_self
        | queueControl body =>
          obtain rfl := Option.some.inj hbody
          cases isPlain_of_queueControl hnil
        | queueHandshake handshake =>
          have hhand := handshake.isHandshake
          rw [Option.some.inj hbody] at hhand
          cases hhand
        | _ => cases hbody

lemma flush_heldCredit (h : (s.act .flush).phase ≠ .closed) :
    (s.act .flush).heldCredit + Event.flushedData ⟨s, .flush⟩ = s.heldCredit := by
  have hcases := flushOne_cases s
  have htotal := total_popNext dataLength s.scheduler
  simp only [act, finalState, Event.flushedData, Event.sent] at h ⊢
  generalize flushOne s = r at hcases h ⊢
  cases hcases with
  | closed hp => exact absurd hp h
  | empty _ hpop =>
    rw [hpop, Option.elim_none, Nat.zero_add] at htotal
    simp [Session.heldCredit, ← htotal]
  | exhausted | refused => exact absurd rfl h
  | sent _ hpop =>
    rw [hpop, Option.elim_some] at htotal
    simp only [Session.heldCredit, connectionSendWindow, queuedData, htotal, frameOf,
      Option.bind_some, Option.elim_some]
    omega

lemma Applies.heldCredit (h : Applies s body t)
    (hclose : ∀ message, body = .closeStream message →
      s.scheduler.queueOf message.streamId = []) :
    t.heldCredit = s.heldCredit + body.connectionCredit := by
  obtain ⟨-, -, -, hsend, -, -⟩ := h.balance
  have hqueued : t.queuedData = s.queuedData := by
    cases h with
    | @closes message =>
      have htotal := total_cancelStream (s := s.scheduler) (k := message.streamId)
        dataLength
      rw [hclose _ rfl, load_nil, Nat.add_zero] at htotal
      exact htotal.symm
    | plain _ _ _ _ hsched => rw [queuedData, hsched]; rfl
    | _ => rfl
  simp only [Session.heldCredit]
  omega

lemma receive_heldCredit {frame : GatewayFrame} {now : ℕ}
    (h : Event.Lossless ⟨s, .receive frame now⟩)
    (hopen : (s.act (.receive frame now)).phase ≠ .closed) :
    (s.act (.receive frame now)).heldCredit =
      s.heldCredit + Event.receivedCredit ⟨s, .receive frame now⟩ := by
  have hcases := receive_cases s frame now
  simp only [act, finalState, Event.receivedCredit, Event.accepted] at hopen ⊢
  generalize receive frame now s = r at hcases hopen ⊢
  cases hcases with
  | closed hp => exact absurd hp hopen
  | refused | failed => exact absurd rfl hopen
  | @accepted body t _ _ hbody happly =>
    have happlied := applyInbound_cases body now s.counted
    rw [happly] at happlied
    have hheld : t.heldCredit = s.counted.heldCredit + body.connectionCredit := by
      refine Applies.heldCredit happlied ?_
      rintro message rfl
      refine h message.streamId ?_
      simp [Event.closing, hbody]
    rw [hheld]
    simp only [Option.bind_some, hbody, Option.elim_some]
    rfl

lemma writeFailure_heldCredit (h : (s.act .writeFailure).phase ≠ .closed) :
    (s.act .writeFailure).heldCredit = s.heldCredit := by
  have hcases := flushOne_cases s
  have htotal := total_popNext dataLength s.scheduler
  simp only [act] at h ⊢
  generalize flushOne s = r at hcases h ⊢
  cases hcases with
  | closed hp => exact absurd hp h
  | empty _ hpop =>
    rw [hpop, Option.elim_none, Nat.zero_add] at htotal
    simp [Session.heldCredit, ← htotal]
  | exhausted | refused | sent => exact absurd rfl h

lemma step_heldCredit {e : Event} (h : Step s e t) (hloss : e.Lossless) (hopen : t.phase ≠ .closed) :
    t.heldCredit + e.flushedData = s.heldCredit + e.receivedCredit := by
  obtain ⟨rfl, rfl⟩ := h
  obtain ⟨s, a⟩ := e
  cases a with
  | call c now => exact call_heldCredit c now hloss
  | flush => exact flush_heldCredit hopen
  | receive frame now => exact receive_heldCredit hloss hopen
  | readFailure => exact absurd rfl hopen
  | writeFailure => exact writeFailure_heldCredit hopen

end Session

theorem send_credit_conserved {s t : Session} {events : List Event}
    (h : Trace Session.Step s events t) (hstart : s.queuedData = 0)
    (hlossless : ∀ e ∈ events, e.Lossless) (hrunning : t.Running) : Conserves s events t := by
  -- the sum is carried through every state that is not closed, and a closed one ends the run
  have hsum : t.phase ≠ .closed →
      t.heldCredit + (events.map Event.flushedData).sum =
        s.heldCredit + (events.map Event.receivedCredit).sum := by
    clear hrunning
    induction h with
    | nil => simp
    | @snoc u t events e hu hstep ih =>
      intro hopen
      have hbefore : u.phase ≠ .closed := fun hclosed => by
        obtain ⟨rfl, rfl⟩ := hstep
        exact hopen (Session.phase_act_of_closed hclosed e.action)
      have hrun := ih (fun e he => hlossless e (List.mem_append_left _ he)) hbefore
      have hlast := Session.step_heldCredit hstep
        (hlossless e (List.mem_append_right _ List.mem_cons_self)) hopen
      simp only [List.map_append, List.map_cons, List.map_nil, List.sum_append, List.sum_cons,
        List.sum_nil]
      omega
  have htotal := hsum hrunning.ne_closed
  simp only [Session.heldCredit, hstart] at htotal
  simp only [Conserves]
  omega

namespace Sample

def openRequest : OpenTcpStream :=
  ⟨1, some ⟨some (.ipAddress [93, 184, 216, 34])⟩, 443, 10000, 0, 4096⟩

def inbound (sequence : ℕ) (body : Body) : Action :=
  .receive ⟨sequence, some ⟨1, 0⟩, [], sessionId, some body⟩ 0

def openStream : List Action :=
  [.call (.openTcp openRequest) 0, .flush, inbound 1 (.tcpStreamOpened ⟨1, 4096⟩)]

def queueThree : List Action :=
  [.call (.openTcp openRequest) 0, inbound 1 (.tcpStreamOpened ⟨1, 4096⟩),
    .call (.tryQueueData 1 [1, 2, 3]) 0]

end Sample

open Sample in
theorem send_credit_conserved_flushed :
    Conserves (session .client)
      ((session .client).eventsOf
        (queueThree ++ [.flush, .flush, inbound 2 (.windowUpdate ⟨0, 3⟩)]))
      ((session .client).runs
        (queueThree ++ [.flush, .flush, inbound 2 (.windowUpdate ⟨0, 3⟩)])) := by
  exact send_credit_conserved (Session.trace_eventsOf _ _) (by decide +kernel)
    (by decide +kernel) (.inl (by decide +kernel))

open Sample in
/-- Closing the stream drops the three bytes and keeps their credit. -/
theorem send_credit_lost :
    ((session .client).runs
        (queueThree ++ [.call (.closeStream 1 .cancelled) 0])).Running ∧
      ¬ Conserves (session .client)
        ((session .client).eventsOf
          (queueThree ++ [.call (.closeStream 1 .cancelled) 0]))
        ((session .client).runs
          (queueThree ++ [.call (.closeStream 1 .cancelled) 0])) := by
  refine ⟨.inl (by decide +kernel), ?_⟩
  rw [Conserves]
  decide +kernel

end OnionRoute.GatewayProtocol
