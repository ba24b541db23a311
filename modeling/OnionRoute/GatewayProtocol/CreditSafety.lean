import OnionRoute.GatewayProtocol.PairCredit

/-! Two honest sessions keep within each other's windows. -/

namespace OnionRoute.GatewayProtocol

open Library Session

variable {s t : Session} {body : Body}

def ProtocolError.overdraws : ProtocolError → Bool
  | flowControlViolation | integerOverflow => true
  | _ => false

variable {e : ProtocolError} {k : UInt64}

lemma validateStreamId_overdraws (h : validateStreamId k = .error e) : e.overdraws = false := by
  rw [(validateStreamId_eq_error.mp h).2]
  rfl

lemma require_overdraws {P : Prop} [Decidable P] {field : String} (h : require P field = .error e) :
    e.overdraws = false := by
  rw [(require_eq_error.mp h).2]
  rfl

variable {enabled : Finset UInt32}

lemma validateExtensions_overdraws {ids : List UInt32}
    {seen : Finset UInt32} (h : validateExtensions enabled ids seen = .error e) :
    e.overdraws = false := by
  induction ids generalizing seen with
  | nil => cases h
  | cons id ids ih =>
    rw [validateExtensions] at h
    split at h
    · rw [← throw_eq_error.mp h]
      rfl
    · exact ih h

variable {frame : GatewayFrame}

lemma validateFrame_overdraws (hbody : (∃ message, frame.body = some (.data message)) ∨
      ∃ message, frame.body = some (.windowUpdate message))
    (h : validateFrame frame enabled = .error e) : e.overdraws = false := by
  simp only [validateFrame, guard_eq_error, bind_eq_error] at h
  rcases h with ⟨-, rfl⟩ | ⟨-, h | ⟨_, -, h | ⟨_, -, h⟩⟩⟩
  · rfl
  · exact require_overdraws h
  · exact validateExtensions_overdraws h
  · rcases hbody with ⟨message, hbody⟩ | ⟨message, hbody⟩
    · simp only [hbody, validateBody, validateData, boundedNonempty, bind_eq_error] at h
      rcases h with h | ⟨_, -, h⟩
      · exact validateStreamId_overdraws h
      · exact require_overdraws h
    · simp only [hbody, validateBody, validateWindowUpdate] at h
      split at h
      · rw [bind_eq_error] at h
        rcases h with h | ⟨_, -, h⟩
        · exact validateStreamId_overdraws h
        · exact require_overdraws h
      · exact require_overdraws h

lemma checkFrameSize_overdraws {size : ℕ} (h : checkFrameSize frame size = .error e) :
    e.overdraws = false := by
  simp only [checkFrameSize, validateMaximum, bind_eq_error, guard_eq_error, ite_throw_eq_error] at h
  rcases h with h | ⟨_, -, ⟨-, rfl⟩ | ⟨-, -, rfl⟩⟩
  · exact require_overdraws h
  · rfl
  · rfl

lemma data_ne_nil_of_valid {message : Data} {u : Unit} (hbody : frame.body = some (.data message))
    (h : validateFrame frame enabled = .ok u) : message.payload ≠ [] := by
  simp only [validateFrame, guard_eq_ok, bind_eq_ok, hbody, validateBody, validateData,
    boundedNonempty, boundedRange, require_eq_ok] at h
  obtain ⟨-, _, -, _, -, _, -, hlen⟩ := h
  rintro hnil
  simp [hnil] at hlen

variable {message : WindowUpdate}

lemma credit_ne_zero_of_valid {u : Unit} (hbody : frame.body = some (.windowUpdate message))
    (h : validateFrame frame enabled = .ok u) : message.credit ≠ 0 := by
  simp only [validateFrame, guard_eq_ok, bind_eq_ok, hbody, validateBody,
    validateWindowUpdate] at h
  obtain ⟨-, _, -, _, -, h⟩ := h
  split at h
  · obtain ⟨_, -, hcredit⟩ := bind_eq_ok.mp h
    exact require_eq_ok.mp hcredit
  · exact require_eq_ok.mp h

variable {now : ℕ}

namespace Session

lemma validateFrameContext_overdraws (h : s.validateFrameContext frame = .error e) :
    e.overdraws = false := by
  have hthrow : ∀ {e' : ProtocolError}, (throw e' : Result Unit) = .error e →
      e'.overdraws = false → e.overdraws = false := by
    intro e' hthrow he
    rwa [← throw_eq_error.mp hthrow]
  rw [validateFrameContext] at h
  split at h
  · split at h
    · split at h
      · cases h
      · exact hthrow h rfl
    · exact hthrow h rfl
  · split at h
    · split at h
      · cases h
      · exact hthrow h rfl
    · split at h
      · cases h
      · exact hthrow h rfl
    · split at h
      · cases h
      · exact hthrow h rfl
    · exact hthrow h rfl
  case h_7 => exact hthrow h rfl
  all_goals
    simp only [guard_eq_error, ite_throw_eq_error] at h
    rcases h with ⟨-, rfl⟩ | ⟨-, ⟨-, rfl⟩ | ⟨-, -, rfl⟩⟩ <;> rfl

lemma flowMut_overdraws {capability : String} {step : FlowController → Result FlowController}
    (h : (requireCapability capability >>= fun _ => flowMut step) s = .error e t)
    (he : e.overdraws = true) : ∃ flow, s.flow = some flow ∧ step flow = .error e := by
  by_cases hc : capability ∈ s.enabledCapabilities
  · have hrun : (requireCapability capability >>= fun _ => flowMut step) s = flowMut step s := by
      simp [requireCapability, check, hc, bind, EStateM.bind, pure, Except.pure]
    rw [hrun, flowMut] at h
    cases hf : s.flow with
    | none =>
      rw [hf] at h
      cases h
      cases he
    | some flow =>
      rw [hf] at h
      refine ⟨flow, rfl, ?_⟩
      cases hstep : step flow with
      | ok flow' =>
        simp only [hstep] at h
        cases h
      | error e' =>
        simp only [hstep] at h
        cases h
        rfl
  · have hrun : (requireCapability capability >>= fun _ => flowMut step) s =
        .error (.protocolViolation "capability was not negotiated and granted") s := by
      simp [requireCapability, check, hc, bind, EStateM.bind, throw, throwThe,
        MonadExceptOf.throw]
    rw [hrun] at h
    cases h
    cases he

lemma applyInbound_overdraws
    (hbody : (∃ message, body = .data message) ∨ ∃ message, body = .windowUpdate message)
    (h : applyInbound body now s = .error e t) (he : e.overdraws = true) :
    applyActiveInbound body now s = .error e t := by
  have hget : ∀ f : Session → SessionM Unit, (get >>= f) s = f s s := fun _ => rfl
  rw [applyInbound, hget] at h
  cases hphase : s.phase with
  | active | draining => simpa only [hphase] using h
  | closed =>
    simp only [hphase] at h
    cases h
    cases he
  | _ =>
    simp only [hphase] at h
    rcases hbody with ⟨message, rfl⟩ | ⟨message, rfl⟩ <;> (cases h; cases he)

lemma receive_overdraws (hframe : frame.body = some body)
    (hbody : (∃ message, body = .data message) ∨ ∃ message, body = .windowUpdate message)
    (h : receive frame now s = .error e t) (he : e.overdraws = true) :
    e = .integerOverflow ∧ u64Max < s.nextReceiveSequence + 1 ∨
      s.phase ≠ .closed ∧ s.Admissible frame ∧
        ∃ u, applyActiveInbound body now s.counted = .error e u := by
  have hcases := receive_cases s frame now
  rw [h] at hcases
  cases hcases with
  | closed => cases he
  | refused _ hrefused =>
    cases hrefused with
    | size hsize => rw [checkFrameSize_overdraws hsize] at he; cases he
    | invalid hinvalid =>
      have hnot := validateFrame_overdraws (by simpa [hframe] using hbody) hinvalid
      rw [hnot] at he
      cases he
    | sequence | missing => cases he
    | exhausted hroom => exact .inl ⟨rfl, hroom⟩
    | context hcontext => rw [validateFrameContext_overdraws hcontext] at he; cases he
  | failed hopen hadmissible hframe' happly =>
    obtain rfl := Option.some.inj (hframe.symm.trans hframe')
    exact .inr ⟨hopen, hadmissible, _, applyInbound_overdraws hbody happly he⟩

lemma windowOf_of_stream {stream : StreamState} (h : s.stream k = some stream) :
    s.windowOf k = some stream.window := by
  obtain ⟨flow, hf, hl⟩ := Option.bind_eq_some_iff.mp h
  exact windowOf_eq_some hf hl

end Session

def Body.streamCredit (k : UInt64) : Body → ℕ
  | .windowUpdate message =>
    if message.streamId ≠ 0 ∧ message.streamId = k then message.credit.toNat else 0
  | _ => 0

lemma credits_notices (k : UInt64) (bodies : List Body) :
    Credit.credits (bodies.flatMap (Body.notices k)) = (bodies.map (Body.streamCredit k)).sum := by
  induction bodies with
  | nil => rfl
  | cons body bodies ih =>
    have hone : Credit.credits (body.notices k) = body.streamCredit k := by
      cases body with
      | openTcpStream | tcpStreamOpened | tcpStreamRejected | windowUpdate | closeStream =>
        simp only [Body.notices, Body.streamCredit]
        split <;> rfl
      | _ => rfl
    simp only [Credit.credits] at ih hone ⊢
    rw [List.flatMap_cons, List.map_append, List.sum_append, ih, hone, List.map_cons,
      List.sum_cons]

variable {rest : List GatewayFrame} {sender : PeerRole}

namespace Pair

variable {p q : Pair}

def dataUnderWay (p : Pair) (side : PeerRole) (weight : Body → ℕ) : ℕ :=
  linkLoad weight (p.link side) + (p.session side).scheduler.total weight

def creditUnderWay (p : Pair) (side : PeerRole) (weight : Body → ℕ) : ℕ :=
  (((p.session side).pipe (p.link side)).map weight).sum

/-- Credit in one direction: the windows cover what is under way, and no frame that is read
overdraws them. Data may still meet a stream that is gone. -/
structure CreditSafe (p : Pair) (sender : PeerRole) : Prop where
  connection : (p.session sender).connectionSendWindow + p.dataUnderWay sender Body.dataLength +
      p.creditUnderWay sender.other Body.connectionCredit ≤
    (p.session sender.other).connectionReceiveWindow
  stream : ∀ k x y, (p.session sender).stream k = some x →
    (p.session sender.other).stream k = some y → x.phase = .open → y.phase = .open →
      x.sendWindow + p.dataUnderWay sender (Body.dataOn k) +
        p.creditUnderWay sender.other (Body.streamCredit k) ≤ y.receiveWindow
  data : ∀ frame rest message, p.link sender = frame :: rest → frame.body = some (.data message) →
    message.payload.length ≤ (p.session sender.other).connectionReceiveWindow ∧
    ∀ y, (p.session sender.other).stream message.streamId = some y →
      message.payload.length ≤ y.receiveWindow ∧
      ∀ now t, Session.receive frame now (p.session sender.other) =
          .error .flowControlViolation t → y.phase ≠ .open ∨ y.remoteHalfClosed = true
  credit : ∀ frame rest message now e t, p.link sender = frame :: rest →
    frame.body = some (.windowUpdate message) →
    Session.receive frame now (p.session sender.other) = .error e t →
      e ≠ .flowControlViolation ∧
      (e = .integerOverflow → u64Max < (p.session sender.other).nextReceiveSequence + 1)

namespace Sound

variable (hp : p.Sound)
include hp

section

variable (hlink : p.link sender = frame :: rest)
include hlink

lemma data_le {message : Data} (hbody : frame.body = some (.data message)) :
    message.payload.length ≤ (p.session sender.other).connectionReceiveWindow ∧
    ∀ y, (p.session sender.other).stream message.streamId = some y →
      message.payload.length ≤ y.receiveWindow := by
  constructor
  · have hcovered := (hp.connection sender).covered
    simp only [ledger, connectionLedger, hlink, linkLoad_cons hbody, Body.dataLength] at hcovered
    omega
  · intro y hy
    have hle := (hp.streams message.streamId sender).data_le (windowOf_of_stream hy)
    simp only [peer, peerOf, hlink, linkLoad_cons hbody, Body.dataOn, if_true,
      StreamState.window] at hle
    omega

lemma credit_le (hbody : frame.body = some (.windowUpdate message))
    (hopen : (p.session sender.other).phase ≠ .closed) :
    (message.streamId = 0 → (p.session sender.other).connectionSendWindow + message.credit.toNat ≤
      maxConnectionWindow) ∧
    (message.streamId ≠ 0 → ∀ y, (p.session sender.other).stream message.streamId = some y →
      y.sendWindow + message.credit.toNat ≤ maxStreamWindow) := by
  constructor
  · intro hzero
    obtain ⟨hcovered, hlimit⟩ := hp.connection sender.other
    simp only [ledger, connectionLedger, PeerRole.other_other, hlink, pipe_cons hbody,
      List.map_cons, List.sum_cons, Body.connectionCredit, hzero, if_true] at hcovered hlimit
    omega
  · intro hne y hy
    have hsafe := hp.streams message.streamId sender.other
    rw [PeerRole.other_other] at hsafe
    have hpipe : (p.peer message.streamId sender).pipe = .credit message.credit.toNat ::
        ((p.session sender).pipe rest).flatMap (Body.notices message.streamId) := by
      simp [peer, peerOf, hlink, pipe_cons hbody, Body.notices, hne]
    exact hsafe.credit_le (windowOf_of_stream hy) (by simp [peer, peerOf, hopen]) hpipe

lemma receive_data {message : Data} {y : StreamState} (hbody : frame.body = some (.data message))
    (hy : (p.session sender.other).stream message.streamId = some y)
    (h : Session.receive frame now (p.session sender.other) = .error .flowControlViolation t) :
    y.phase ≠ .open ∨ y.remoteHalfClosed = true := by
  obtain ⟨hconnection, hstream⟩ := hp.data_le hlink hbody
  rcases receive_overdraws hbody (.inl ⟨message, rfl⟩) h rfl with
    ⟨he, -⟩ | ⟨-, hadmissible, u, happly⟩
  · cases he
  obtain ⟨flow, hf, hstep⟩ := flowMut_overdraws happly rfl
  have hflow : (p.session sender.other).flow = some flow := hf
  have hvalid := hadmissible.valid
  rcases FlowController.debitReceive_eq_error hstep with hn | hlt | hnone | ⟨y', hy', hcause⟩
  · have hne := data_ne_nil_of_valid hbody hvalid
    rw [List.length_eq_zero_iff] at hn
    exact absurd hn hne
  · simp only [connectionReceiveWindow, hflow, Option.elim_some] at hconnection
    omega
  · simp [stream, hflow, hnone] at hy
  · obtain rfl : y' = y := by simpa [stream, hflow, hy'] using hy
    rcases hcause with hphase | hhalf | hlt
    · exact .inl hphase
    · exact .inr hhalf
    · have hle := hstream y' hy
      omega

lemma receive_credit (hbody : frame.body = some (.windowUpdate message))
    (h : Session.receive frame now (p.session sender.other) = .error e t)
    (he : e.overdraws = true) :
    e = .integerOverflow ∧ u64Max < (p.session sender.other).nextReceiveSequence + 1 := by
  rcases receive_overdraws hbody (.inr ⟨message, rfl⟩) h he with
    hexhausted | ⟨hopen, hadmissible, u, happly⟩
  · exact hexhausted
  exfalso
  obtain ⟨hconnection, hstream⟩ := hp.credit_le hlink hbody hopen
  obtain ⟨flow, hf, hstep⟩ := flowMut_overdraws happly he
  have hflow : (p.session sender.other).flow = some flow := hf
  have hcredit := credit_ne_zero_of_valid hbody hadmissible.valid
  rcases FlowController.receiveWindowUpdate_eq_error hstep with
    hzero | ⟨hzero, hlt⟩ | rfl | ⟨y, hy, hne, hlt⟩
  · exact hcredit hzero
  · have hle := hconnection hzero
    simp only [connectionSendWindow, hflow, Option.elim_some] at hle
    omega
  · cases he
  · have hle := hstream hne y (by simp [stream, hflow, hy])
    omega

end

lemma creditSafe (sender : PeerRole) : p.CreditSafe sender where
  connection := (hp.connection sender).covered
  stream k x y hx hy hpx hpy := by
    have hrunning := (hp.streams k sender).running
      (windowOf_of_stream hx) (windowOf_of_stream hy)
      (by simp [StreamState.window, hpx, StreamPhase.credit])
      (by simp [StreamState.window, hpy, StreamPhase.credit])
    simp only [peer, peerOf, credits_notices] at hrunning
    exact hrunning
  data frame rest message hlink hbody := by
    obtain ⟨hconnection, hstream⟩ := hp.data_le hlink hbody
    exact ⟨hconnection, fun y hy => ⟨hstream y hy, fun now t => hp.receive_data hlink hbody hy⟩⟩
  credit frame rest message now e t hlink hbody h := by
    constructor
    · rintro rfl
      cases (hp.receive_credit hlink hbody h rfl).1
    · rintro rfl
      exact (hp.receive_credit hlink hbody h rfl).2

end Sound

end Pair

theorem credit_safe {p q : Pair} {actions : List PairAction} (hp : p.Negotiated)
    (h : Trace Pair.Step p actions q) (sender : PeerRole) : q.CreditSafe sender :=
  (Pair.sound_of_run hp h).creditSafe sender

namespace Sample

def pair : Pair where
  session := session
  link _ := []

lemma pair_negotiated : pair.Negotiated where
  localRole _ := rfl
  flow _ := ⟨4194304, 4194304, 512, flow, rfl, rfl⟩
  windows _ := by rintro _ _ ⟨⟩ ⟨⟩; rfl
  control _ := by rintro _ ⟨⟩
  streams _ := rfl
  link _ := by rintro _ ⟨⟩

def writeThree : List PairAction :=
  [.call .client (.openTcp openRequest) 0, .flush .client, .receive .server 0,
    .call .server (.acceptTcp 1 4096) 0, .flush .server, .receive .client 0,
    .call .client (.tryQueueData 1 [1, 2, 3]) 0, .flush .client]

end Sample

open Sample in
theorem credit_safe_three :
    (pair.runs writeThree).dataUnderWay .client (Body.dataOn 1) = 3 ∧
      (pair.runs writeThree).CreditSafe .client := by
  exact ⟨by decide +kernel, credit_safe pair_negotiated (Pair.trace_runs _ _) .client⟩

end OnionRoute.GatewayProtocol
