import OnionRoute.Library.Trace
import OnionRoute.GatewayProtocol.FlowOutcomes
import OnionRoute.GatewayProtocol.SchedulerOutcomes
import OnionRoute.GatewayProtocol.Session

/-! Runs of a session. A call either changes nothing or queues frames. -/

namespace OnionRoute.GatewayProtocol

open Library FairScheduler

def Body.isHandshake : Body → Bool
  | .clientHello _ | .serverHello _ | .authenticate _ | .authenticationResult _ | .error _ => true
  | _ => false

def Body.isHello : Body → Bool
  | .clientHello _ | .serverHello _ | .authenticate _ | .authenticationResult _ => true
  | _ => false

structure HandshakeBody where
  body : Body
  isHandshake : body.isHandshake = true

inductive Call
  | queueHandshake (body : HandshakeBody)
  | setGrantedCapabilities (granted : List String)
  | markActive
  | openTcp (message : OpenTcpStream)
  | acceptTcp (streamId : UInt64) (initialReceiveWindow : UInt32)
  | rejectTcp (message : TcpStreamRejected)
  | tryQueueData (streamId : UInt64) (payload : Bytes)
  | grantReceiveCredit (streamId : UInt64) (credit : UInt32)
  | halfClose (streamId : UInt64)
  | closeStream (streamId : UInt64) (code : CloseCode)
  | resolve (message : ResolveDomain)
  | resolveResult (message : ResolveResult)
  | queueControl (body : Body)
  | beginGoAway (message : GoAway)
  | expireIdleStreams

namespace Call

def run (now : ℕ) : Call → SessionM Unit
  | queueHandshake handshake => Session.queueHandshake handshake.body
  | setGrantedCapabilities granted => Session.setGrantedCapabilities granted
  | markActive => Session.markActive
  | openTcp message => Session.openTcp message now
  | acceptTcp streamId window => Session.acceptTcp streamId window now
  | rejectTcp message => Session.rejectTcp message
  | tryQueueData streamId payload => do
    let _ ← Session.tryQueueData streamId payload now
  | grantReceiveCredit streamId credit => Session.grantReceiveCredit streamId credit now
  | halfClose streamId => Session.halfClose streamId now
  | closeStream streamId code => Session.closeStream streamId code
  | resolve message => Session.resolve message
  | resolveResult message => Session.resolveResult message
  | queueControl body => Session.queueControl body
  | beginGoAway message => Session.beginGoAway message
  | expireIdleStreams => do
    let _ ← Session.expireIdleStreams now

def body : Call → Option Body
  | queueHandshake handshake => some handshake.body
  | queueControl body => some body
  | setGrantedCapabilities _ | markActive | expireIdleStreams => none
  | openTcp message => some (.openTcpStream message)
  | acceptTcp streamId window => some (.tcpStreamOpened ⟨streamId, window⟩)
  | rejectTcp message => some (.tcpStreamRejected message)
  | tryQueueData streamId payload =>
    some (.data ⟨streamId, payload.take (min payload.length maxDataPayload)⟩)
  | grantReceiveCredit streamId credit => some (.windowUpdate ⟨streamId, credit⟩)
  | halfClose streamId => some (.halfClose ⟨streamId⟩)
  | closeStream streamId code => some (.closeStream ⟨streamId, code.toInt32⟩)
  | resolve message => some (.resolveDomain message)
  | resolveResult message => some (.resolveResult message)
  | beginGoAway message => some (.goAway message)

end Call

namespace Session

def closesOf : List UInt64 → Session → List Body
  | [], _ => []
  | streamId :: rest, s =>
    match closeStream streamId .timeout s with
    | .ok _ t => .closeStream ⟨streamId, CloseCode.timeout.toInt32⟩ :: closesOf rest t
    | .error _ _ => []

def queues (s : Session) (call : Call) (now : ℕ) : List Body :=
  match call with
  | .expireIdleStreams =>
    closesOf (s.flow.elim [] fun flow => flow.expireIdle now s.limits.idleStreamTimeout) s
  | _ =>
    match call.run now s with
    | .ok _ _ => call.body.toList
    | .error _ _ => []

def call (s : Session) (call : Call) (now : ℕ) : Session :=
  finalState (call.run now) s

structure Kept (s t : Session) : Prop where
  localRole : t.localRole = s.localRole
  maximumFrameSize : t.maximumFrameSize = s.maximumFrameSize
  outboundVersion : t.outboundVersion = s.outboundVersion
  selectedVersion : t.selectedVersion = s.selectedVersion
  sessionId : t.sessionId = s.sessionId
  nextSendSequence : t.nextSendSequence = s.nextSendSequence
  nextReceiveSequence : t.nextReceiveSequence = s.nextReceiveSequence
  enabledCriticalExtensions : t.enabledCriticalExtensions = s.enabledCriticalExtensions
  limits : t.limits = s.limits

lemma Kept.refl (s : Session) : Kept s s := by
  constructor <;> rfl

def Running (s : Session) : Prop :=
  s.phase = .active ∨ s.phase = .draining

def Handshaking (s : Session) : Prop :=
  s.phase = .awaitingServerHello ∨ s.phase = .awaitingClientHello ∨
    s.phase = .awaitingAuthentication ∨ s.phase = .awaitingAuthenticationResult

end Session

def Body.isPlain : Body → Bool
  | .openTcpStream _ | .tcpStreamOpened _ | .tcpStreamRejected _ | .data _ | .windowUpdate _
  | .halfClose _ | .closeStream _ => false
  | _ => true

lemma Body.isPlain_of_isHandshake {body : Body} (h : body.isHandshake = true) :
    body.isPlain = true := by
  cases body <;> first | rfl | cases h

lemma Body.isPlain_of_handshakes {body : Body}
    (h : body.isHandshake = true ∨ ∃ message, body = .goAway message) : body.isPlain = true := by
  rcases h with hhand | ⟨message, rfl⟩
  · exact Body.isPlain_of_isHandshake hhand
  · rfl

lemma Body.ne_closeStream_of_isPlain {body : Body} (h : body.isPlain = true)
    (message : CloseStream) : body ≠ .closeStream message := by
  rintro rfl
  cases h

namespace Session

inductive Queues (s : Session) : Body → Option FlowController → FairScheduler → Prop
  | opens {message : OpenTcpStream} {now size : ℕ} {flow flow' : FlowController} :
      s.phase = .active → s.localRole = .client → s.flow = some flow →
      flow.openLocal message.streamId message.initialReceiveWindow now = .ok flow' →
      Queues s (.openTcpStream message) (some flow')
        (s.scheduler.pushControl ⟨.openTcpStream message, size⟩)
  | accepts {k : UInt64} {window : UInt32} {now size : ℕ} {flow flow' : FlowController} :
      s.phase = .active → s.localRole = .server → s.flow = some flow →
      flow.acceptRemoteOpen k window now = .ok flow' →
      Queues s (.tcpStreamOpened ⟨k, window⟩) (some flow')
        (s.scheduler.pushControl ⟨.tcpStreamOpened ⟨k, window⟩, size⟩)
  | rejects {message : TcpStreamRejected} {size : ℕ} {flow flow' : FlowController} :
      s.phase = .active → s.localRole = .server → s.flow = some flow →
      flow.rejectOrClose message.streamId = .ok flow' →
      Queues s (.tcpStreamRejected message) (some flow')
        (s.scheduler.pushControl ⟨.tcpStreamRejected message, size⟩)
  | data {k : UInt64} {payload : Bytes} {now size : ℕ} {flow flow' : FlowController} :
      s.Running → s.flow = some flow → flow.debitSend k payload.length now = .ok flow' →
      Queues s (.data ⟨k, payload⟩) (some flow')
        (s.scheduler.pushStream k ⟨.data ⟨k, payload⟩, size⟩)
  | grants {k : UInt64} {credit : UInt32} {now size : ℕ} {flow flow' : FlowController} :
      s.Running → s.flow = some flow → flow.grantReceiveCredit k credit now = .ok flow' →
      Queues s (.windowUpdate ⟨k, credit⟩) (some flow')
        (s.scheduler.pushControl ⟨.windowUpdate ⟨k, credit⟩, size⟩)
  | halfCloses {k : UInt64} {now size : ℕ} {flow flow' : FlowController} :
      s.Running → s.flow = some flow → flow.localHalfClose k now = .ok flow' →
      Queues s (.halfClose ⟨k⟩) (some flow') (s.scheduler.pushControl ⟨.halfClose ⟨k⟩, size⟩)
  | closes {k : UInt64} {code : Int32} {size : ℕ} {flow flow' : FlowController} :
      s.Running → s.flow = some flow → flow.rejectOrClose k = .ok flow' →
      Queues s (.closeStream ⟨k, code⟩) (some flow')
        ((s.scheduler.cancelStream k).pushControl ⟨.closeStream ⟨k, code⟩, size⟩)
  | plain {body : Body} {size : ℕ} : body.isPlain = true → s.Running → body.isHello = false →
      Queues s body s.flow (s.scheduler.pushControl ⟨body, size⟩)
  | handshakes {body : Body} {size : ℕ} : body.isHandshake = true → s.Handshaking →
      Queues s body s.flow (s.scheduler.pushControl ⟨body, size⟩)

structure Queue (s : Session) (body : Body) (t : Session) : Prop where
  kept : Kept s t
  valid : ∃ size, accountedBodySize body = .ok size
  queues : Queues s body t.flow t.scheduler
  phase : t.phase = s.phase ∨ s.Running ∧ t.phase = .draining

variable {s t : Session} {α β : Type}

lemma check_atomic (result : Session → Result α) (s : Session) :
    Atomic (check result) s fun a t => t = s ∧ result s = .ok a := by
  simp only [Atomic, check]
  cases result s with
  | ok a => exact ⟨rfl, rfl⟩
  | error e => rfl

lemma check_eq_ok {result : Session → Result α} {a : α} :
    check result s = .ok a t ↔ result s = .ok a ∧ s = t := by
  simp only [check]
  cases result s with
  | ok b => simp
  | error e => simp

lemma guard_atomic {p : Session → Prop} [DecidablePred p] (e : ProtocolError) (s : Session) :
    Atomic (check fun s => if p s then throw e else pure ()) s fun _ t => t = s ∧ ¬ p s := by
  refine (check_atomic _ s).mono ?_
  rintro _ t ⟨rfl, h⟩
  exact ⟨rfl, (ite_throw_eq_ok.mp h).1⟩

lemma requireActiveClient_atomic (s : Session) : Atomic requireActiveClient s fun _ t =>
    t = s ∧ s.phase = .active ∧ s.localRole = .client := by
  exact Atomic.mono (guard_atomic _ s) fun _ _ ⟨ht, h⟩ => ⟨ht, by simpa [not_or] using h⟩

lemma requireActiveServer_atomic (s : Session) : Atomic requireActiveServer s fun _ t =>
    t = s ∧ s.phase = .active ∧ s.localRole = .server := by
  exact Atomic.mono (guard_atomic _ s) fun _ _ ⟨ht, h⟩ => ⟨ht, by simpa [not_or] using h⟩

lemma requireActiveOrDraining_atomic (s : Session) : Atomic requireActiveOrDraining s fun _ t =>
    t = s ∧ s.Running := by
  exact Atomic.mono (guard_atomic _ s) fun _ _ ⟨ht, h⟩ =>
    ⟨ht, by simpa [Running, or_iff_not_imp_left] using h⟩

lemma requireCapability_atomic (capability : String) (s : Session) :
    Atomic (requireCapability capability) s fun _ t =>
      t = s ∧ capability ∈ s.enabledCapabilities := by
  exact Atomic.mono (guard_atomic _ s) fun _ _ ⟨ht, h⟩ => ⟨ht, not_not.mp h⟩

lemma queueControlBody_atomic (body : Body) (s : Session) :
    Atomic (queueControlBody body) s fun _ t => ∃ size, accountedBodySize body = .ok size ∧
      t = { s with scheduler := s.scheduler.pushControl ⟨body, size⟩ } := by
  refine (check_atomic _ s).bind fun size hsize => ?_
  simp only [Atomic, schedule, enqueueControl]
  cases hc : s.scheduler.canEnqueueControl size with
  | ok u => exact ⟨size, hsize, rfl⟩
  | error e => rfl

lemma flowMut_atomic (step : FlowController → Result FlowController) (s : Session) :
    Atomic (flowMut step) s fun _ t => ∃ flow flow', s.flow = some flow ∧ step flow = .ok flow' ∧
      t = { s with flow := some flow' } := by
  cases hf : s.flow with
  | none => simp [Atomic, flowMut, hf]
  | some flow => cases hstep : step flow <;> simp [Atomic, flowMut, hf, hstep]

lemma schedule_eq_ok {step : FairScheduler → Result FairScheduler} :
    schedule step s = .ok () t ↔
      ∃ scheduler, step s.scheduler = .ok scheduler ∧ t = { s with scheduler } := by
  rw [schedule]
  cases step s.scheduler with
  | ok scheduler => simp [eq_comm]
  | error e => simp

def Enqueues (m : SessionM α) (s : Session) (body : Body) : Prop :=
  Atomic m s fun _ t => Queue s body t

variable {body : Body}

lemma Queue.of {size : ℕ} {flow : Option FlowController} {scheduler : FairScheduler}
    (hsize : accountedBodySize body = .ok size) (hq : Queues s body flow scheduler) :
    Queue s body { s with flow, scheduler } :=
  ⟨by constructor <;> rfl, ⟨size, hsize⟩, hq, .inl rfl⟩

lemma queueWithFlow_enqueues {step : FlowController → Result FlowController}
    (hq : ∀ {size flow flow'}, s.flow = some flow → step flow = .ok flow' →
      Queues s body (some flow') (s.scheduler.pushControl ⟨body, size⟩)) :
    Enqueues (queueWithFlow body step) s body := by
  refine (check_atomic _ s).bind fun size hsize => ?_
  refine (check_atomic _ s).bind fun _ hcan => ?_
  refine (flowMut_atomic step s).then_ok ?_
  rintro _ _ ⟨flow, flow', hf, hstep, rfl⟩
  exact ⟨(), _, schedule_eq_ok.mpr ⟨_, enqueueControl_eq_ok hcan body, rfl⟩,
    .of hsize (hq hf hstep)⟩

lemma openTcp_enqueues (message : OpenTcpStream) (now : ℕ) (s : Session) :
    Enqueues (openTcp message now) s (.openTcpStream message) := by
  refine (requireActiveClient_atomic s).bind fun _ ⟨hphase, hrole⟩ => ?_
  refine (requireCapability_atomic _ s).bind fun _ _ => ?_
  exact queueWithFlow_enqueues (.opens hphase hrole)

lemma acceptTcp_enqueues (k : UInt64) (window : UInt32) (now : ℕ) (s : Session) :
    Enqueues (acceptTcp k window now) s (.tcpStreamOpened ⟨k, window⟩) := by
  refine (requireActiveServer_atomic s).bind fun _ ⟨hphase, hrole⟩ => ?_
  refine (requireCapability_atomic _ s).bind fun _ _ => ?_
  exact queueWithFlow_enqueues (.accepts hphase hrole)

lemma rejectTcp_enqueues (message : TcpStreamRejected) (s : Session) :
    Enqueues (rejectTcp message) s (.tcpStreamRejected message) := by
  refine (requireActiveServer_atomic s).bind fun _ ⟨hphase, hrole⟩ => ?_
  refine (requireCapability_atomic _ s).bind fun _ _ => ?_
  exact queueWithFlow_enqueues (.rejects hphase hrole)

lemma grantReceiveCredit_enqueues (k : UInt64) (credit : UInt32) (now : ℕ) (s : Session) :
    Enqueues (grantReceiveCredit k credit now) s (.windowUpdate ⟨k, credit⟩) := by
  refine (requireActiveOrDraining_atomic s).bind fun _ hrun => ?_
  refine (requireCapability_atomic _ s).bind fun _ _ => ?_
  exact queueWithFlow_enqueues (.grants hrun)

lemma halfClose_enqueues (k : UInt64) (now : ℕ) (s : Session) :
    Enqueues (halfClose k now) s (.halfClose ⟨k⟩) := by
  refine (requireActiveOrDraining_atomic s).bind fun _ hrun => ?_
  refine (requireCapability_atomic _ s).bind fun _ _ => ?_
  exact queueWithFlow_enqueues (.halfCloses hrun)

lemma tryQueueData_enqueues (k : UInt64) (payload : Bytes) (now : ℕ) (s : Session) :
    Enqueues (tryQueueData k payload now) s
      (.data ⟨k, payload.take (min payload.length maxDataPayload)⟩) := by
  refine (requireActiveOrDraining_atomic s).bind fun _ hrun => ?_
  refine (requireCapability_atomic _ s).bind fun _ _ => ?_
  refine (check_atomic _ s).bind fun _ _ => ?_
  refine (check_atomic _ s).bind fun _ _ => ?_
  refine (check_atomic _ s).bind fun size hsize => ?_
  refine (check_atomic _ s).bind fun _ hcan => ?_
  refine (flowMut_atomic _ s).then_ok ?_
  rintro _ _ ⟨flow, flow', hf, hstep, rfl⟩
  have hlen : (payload.take (min payload.length maxDataPayload)).length =
      min payload.length maxDataPayload := by
    rw [List.length_take]
    omega
  rw [← hlen] at hstep
  have henq := enqueueStream_eq_ok hcan
    (.data ⟨k, payload.take (min payload.length maxDataPayload)⟩)
  exact ⟨_, _, state_bind_eq_ok.mpr ⟨(), _, schedule_eq_ok.mpr ⟨_, henq, rfl⟩, rfl⟩,
    .of hsize (.data hrun hf hstep)⟩

lemma closeStream_enqueues (k : UInt64) (code : CloseCode) (s : Session) :
    Enqueues (closeStream k code) s (.closeStream ⟨k, code.toInt32⟩) := by
  refine (requireActiveOrDraining_atomic s).bind fun _ hrun => ?_
  refine (requireCapability_atomic _ s).bind fun _ _ => ?_
  refine (check_atomic _ s).bind fun _ _ => ?_
  refine (check_atomic _ s).bind fun size hsize => ?_
  refine (check_atomic _ s).bind fun _ hcan => ?_
  refine (flowMut_atomic _ s).then_ok ?_
  rintro _ _ ⟨flow, flow', hf, hstep, rfl⟩
  have henq := enqueueControl_eq_ok
    (canEnqueueControl_cancelStream (k := k) hcan)
    (.closeStream ⟨k, code.toInt32⟩)
  exact ⟨_, _, state_bind_eq_ok.mpr ⟨(), _, schedule_eq_ok.mpr ⟨_, rfl, rfl⟩,
    schedule_eq_ok.mpr ⟨_, henq, rfl⟩⟩, .of hsize (.closes hrun hf hstep)⟩

lemma resolve_enqueues (message : ResolveDomain) (s : Session) :
    Enqueues (resolve message) s (.resolveDomain message) := by
  refine (requireActiveClient_atomic s).bind fun _ ⟨hphase, _⟩ => ?_
  refine (requireCapability_atomic _ s).bind fun _ _ => ?_
  refine (check_atomic _ s).bind fun _ _ => ?_
  refine (check_atomic _ s).bind fun size hsize => ?_
  refine (check_atomic _ s).bind fun u hcan => ?_
  have henq := enqueueControl_eq_ok hcan (.resolveDomain message)
  simp only [Atomic, state_modify, bind, EStateM.bind, schedule, henq]
  exact ⟨by constructor <;> rfl, ⟨size, hsize⟩,
    .plain rfl (.inl hphase) rfl, .inl rfl⟩

lemma resolveResult_enqueues (message : ResolveResult) (s : Session) :
    Enqueues (resolveResult message) s (.resolveResult message) := by
  refine (requireActiveServer_atomic s).bind fun _ ⟨hphase, _⟩ => ?_
  refine (requireCapability_atomic _ s).bind fun _ _ => ?_
  refine (check_atomic _ s).bind fun _ _ => ?_
  refine (check_atomic _ s).bind fun size hsize => ?_
  refine (check_atomic _ s).bind fun u hcan => ?_
  have henq := enqueueControl_eq_ok hcan (.resolveResult message)
  simp only [Atomic, state_modify, bind, EStateM.bind, schedule, henq]
  exact ⟨by constructor <;> rfl, ⟨size, hsize⟩,
    .plain rfl (.inl hphase) rfl, .inl rfl⟩

lemma queueControlBody_enqueues (hplain : body.isPlain = true) (hrun : s.Running)
    (hhello : body.isHello = false) : Enqueues (queueControlBody body) s body := by
  refine (queueControlBody_atomic body s).mono ?_
  rintro _ _ ⟨size, hsize, rfl⟩
  exact .of hsize (.plain hplain hrun hhello)

lemma throw_atomic (e : ProtocolError) (s : Session) (post : α → Session → Prop) :
    Atomic (throw e : SessionM α) s post :=
  rfl

lemma queueControl_enqueues (body : Body) (s : Session) :
    Enqueues (queueControl body) s body := by
  refine (requireActiveOrDraining_atomic s).bind fun _ hrun => ?_
  cases body with
  | rotateSession | sessionRotated =>
    refine (requireCapability_atomic _ s).bind fun _ _ => ?_
    exact queueControlBody_enqueues rfl hrun rfl
  | ping | pong | error => exact queueControlBody_enqueues rfl hrun rfl
  | _ => exact throw_atomic _ s _

lemma beginGoAway_enqueues (message : GoAway) (s : Session) :
    Enqueues (beginGoAway message) s (.goAway message) := by
  refine (requireActiveOrDraining_atomic s).bind fun _ hrun => ?_
  refine (queueControlBody_atomic (.goAway message) s).then_ok ?_
  rintro _ _ ⟨size, hsize, rfl⟩
  exact ⟨_, _, rfl, by constructor <;> rfl, ⟨size, hsize⟩,
    .plain rfl hrun rfl, .inr ⟨hrun, rfl⟩⟩

lemma get_bind_atomic {f : Session → SessionM α} {post : α → Session → Prop}
    (h : Atomic (f s) s post) : Atomic (get >>= f) s post :=
  h

lemma queueHandshake_enqueues (handshake : HandshakeBody) (s : Session) :
    Enqueues (queueHandshake handshake.body) s handshake.body := by
  refine get_bind_atomic ?_
  split
  next hphase =>
    refine (queueControlBody_atomic _ s).mono ?_
    rintro _ _ ⟨size, hsize, rfl⟩
    exact .of hsize (.handshakes handshake.isHandshake hphase)
  next => exact throw_atomic _ s _

structure Idle (s t : Session) : Prop where
  kept : Kept s t
  flow : t.flow = s.flow
  scheduler : t.scheduler = s.scheduler
  phase : t.phase = s.phase ∨ s.Handshaking ∧ t.phase = .active

lemma Idle.refl (s : Session) : Idle s s :=
  ⟨Kept.refl s, rfl, rfl, .inl rfl⟩

lemma markActive_atomic (s : Session) : Atomic markActive s fun _ t => Idle s t := by
  refine get_bind_atomic ?_
  split
  next hphase =>
    exact ⟨by constructor <;> rfl, rfl, rfl, .inr ⟨.inr (.inr hphase), rfl⟩⟩
  next => exact throw_atomic _ s _

lemma setGrantedCapabilities_atomic (granted : List String) (s : Session) :
    Atomic (setGrantedCapabilities granted) s fun _ t => Idle s t := by
  refine (check_atomic _ s).bind fun _ _ => ?_
  refine get_bind_atomic ?_
  split
  next => exact rfl
  next => exact ⟨by constructor <;> rfl, rfl, rfl, .inl rfl⟩

lemma closeEach_trace (ids : List UInt64) (s : Session) :
    Trace Queue s (closesOf ids s) (finalState (closeEach ids) s) := by
  induction ids generalizing s with
  | nil => exact .nil s
  | cons k rest ih =>
    have hclose := closeStream_enqueues k .timeout s
    simp only [Enqueues, Atomic] at hclose
    simp only [closesOf, closeEach, finalState, bind, EStateM.bind]
    cases hc : closeStream k .timeout s with
    | error e t =>
      rw [hc] at hclose
      rw [hclose]
      exact .nil s
    | ok u t =>
      rw [hc] at hclose
      exact .cons hclose (ih t)

variable {m : SessionM α}

lemma finalState_bind_pure (b : β) (s : Session) :
    finalState (m >>= fun _ => pure b) s = finalState m s := by
  simp only [finalState, bind, EStateM.bind]
  cases m s <;> rfl

lemma expireIdleStreams_trace (now : ℕ) (s : Session) :
    Trace Queue s (s.queues .expireIdleStreams now) (s.call .expireIdleStreams now) := by
  have hfinal : finalState (expireIdleStreams now) s = finalState (closeEach
      (s.flow.elim [] fun flow => flow.expireIdle now s.limits.idleStreamTimeout)) s :=
    finalState_bind_pure _ s
  rw [call, Call.run, finalState_bind_pure, hfinal]
  exact closeEach_trace _ s

lemma Enqueues.discard (h : Enqueues m s body) : Enqueues (m >>= fun _ => pure ()) s body := by
  simp only [Enqueues, Atomic, bind, EStateM.bind] at h ⊢
  cases hm : m s with
  | ok a t => rw [hm] at h; exact h
  | error e t => rw [hm] at h; exact h

lemma run_outcome (s : Session) {c : Call} (now : ℕ) (hc : c ≠ .expireIdleStreams) :
    (∃ body, c.body = some body ∧ Enqueues (c.run now) s body) ∨
      c.body = none ∧ Atomic (c.run now) s fun _ t => Idle s t := by
  cases c with
  | queueHandshake handshake => exact .inl ⟨_, rfl, queueHandshake_enqueues handshake s⟩
  | setGrantedCapabilities granted => exact .inr ⟨rfl, setGrantedCapabilities_atomic granted s⟩
  | markActive => exact .inr ⟨rfl, markActive_atomic s⟩
  | openTcp message => exact .inl ⟨_, rfl, openTcp_enqueues message now s⟩
  | acceptTcp k window => exact .inl ⟨_, rfl, acceptTcp_enqueues k window now s⟩
  | rejectTcp message => exact .inl ⟨_, rfl, rejectTcp_enqueues message s⟩
  | tryQueueData k payload => exact .inl ⟨_, rfl, (tryQueueData_enqueues k payload now s).discard⟩
  | grantReceiveCredit k credit => exact .inl ⟨_, rfl, grantReceiveCredit_enqueues k credit now s⟩
  | halfClose k => exact .inl ⟨_, rfl, halfClose_enqueues k now s⟩
  | closeStream k code => exact .inl ⟨_, rfl, closeStream_enqueues k code s⟩
  | resolve message => exact .inl ⟨_, rfl, resolve_enqueues message s⟩
  | resolveResult message => exact .inl ⟨_, rfl, resolveResult_enqueues message s⟩
  | queueControl body => exact .inl ⟨_, rfl, queueControl_enqueues body s⟩
  | beginGoAway message => exact .inl ⟨_, rfl, beginGoAway_enqueues message s⟩
  | expireIdleStreams => exact absurd rfl hc

lemma queues_of_ne {c : Call} {now : ℕ} (hc : c ≠ .expireIdleStreams) :
    s.queues c now = match c.run now s with
      | .ok _ _ => c.body.toList
      | .error _ _ => [] := by
  cases c with
  | expireIdleStreams => exact absurd rfl hc
  | _ => rfl

theorem call_cases (s : Session) (c : Call) (now : ℕ) :
    (s.queues c now = [] ∧ Idle s (s.call c now)) ∨
      Trace Queue s (s.queues c now) (s.call c now) := by
  by_cases hc : c = .expireIdleStreams
  · subst hc
    exact .inr (expireIdleStreams_trace now s)
  have houtcome := run_outcome s now hc
  rw [queues_of_ne hc, call, finalState]
  simp only [Enqueues, Atomic] at houtcome
  cases hr : c.run now s with
  | error e t =>
    rw [hr] at houtcome
    obtain rfl : t = s := by
      rcases houtcome with ⟨_, _, h⟩ | ⟨_, h⟩ <;> exact h
    exact .inl ⟨rfl, Idle.refl t⟩
  | ok u t =>
    rw [hr] at houtcome
    rcases houtcome with ⟨body, hbody, h⟩ | ⟨hbody, h⟩
    · rw [hbody]
      exact .inr (.single h)
    · rw [hbody]
      exact .inl ⟨rfl, h⟩

lemma mem_closesOf {ids : List UInt64} (h : body ∈ closesOf ids s) :
    ∃ k ∈ ids, body = .closeStream ⟨k, CloseCode.timeout.toInt32⟩ := by
  induction ids generalizing s with
  | nil => cases h
  | cons k rest ih =>
    rw [closesOf] at h
    split at h
    · rcases List.mem_cons.mp h with rfl | h
      · exact ⟨k, List.mem_cons_self, rfl⟩
      · obtain ⟨j, hj, rfl⟩ := ih h
        exact ⟨j, List.mem_cons_of_mem _ hj, rfl⟩
    · cases h

lemma queues_cases (c : Call) (now : ℕ) (hc : c ≠ .expireIdleStreams) :
    s.queues c now = [] ∨ ∃ body, c.body = some body ∧ s.queues c now = [body] := by
  rw [queues_of_ne hc]
  cases c.run now s with
  | error e t => exact .inl rfl
  | ok u t =>
    cases hb : c.body with
    | none => exact .inl rfl
    | some body => exact .inr ⟨body, rfl, rfl⟩

lemma isPlain_of_queueControl {now : ℕ} (h : s.queues (.queueControl body) now ≠ []) :
    body.isPlain = true := by
  by_contra hplain
  refine h ?_
  have hfail : queueControl body = (do
      requireActiveOrDraining
      throw (.protocolViolation "message requires a typed session method")) := by
    cases body <;> first | rfl | exact absurd rfl hplain
  simp only [queues, Call.run, hfail, bind, EStateM.bind]
  cases requireActiveOrDraining s <;> rfl

end Session

end OnionRoute.GatewayProtocol
