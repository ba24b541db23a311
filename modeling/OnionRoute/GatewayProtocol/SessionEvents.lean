import OnionRoute.GatewayProtocol.SessionRuns

/-! What a flush and a received frame do to a session, and the runs that mix them with calls. -/

namespace OnionRoute.GatewayProtocol

open Library FairScheduler

namespace Session

variable {s t : Session} {α β : Type}

inductive Flush (s : Session) : EStateM.Result ProtocolError Session (Option GatewayFrame) → Prop
  | closed : s.phase = .closed → Flush s (.error .closed s)
  | empty : s.phase ≠ .closed → s.scheduler.popNext.1 = none →
      Flush s (.ok none { s with scheduler := s.scheduler.popNext.2 })
  | exhausted {item : OutboundItem} : s.phase ≠ .closed → s.scheduler.popNext.1 = some item →
      u64Max < s.nextSendSequence + 1 →
      Flush s (.error .integerOverflow
        { s with scheduler := s.scheduler.popNext.2, phase := .closed })
  | refused {item : OutboundItem} {e : ProtocolError} : s.phase ≠ .closed →
      s.scheduler.popNext.1 = some item → s.nextSendSequence + 1 ≤ u64Max →
      (validateFrame (s.frameOf item.body) s.enabledCriticalExtensions = .error e ∨
        validateFrame (s.frameOf item.body) s.enabledCriticalExtensions = .ok () ∧
        checkFrameSize (s.frameOf item.body) s.maximumFrameSize = .error e) →
      Flush s (.error e { s with
        scheduler := s.scheduler.popNext.2
        nextSendSequence := s.nextSendSequence + 1
        phase := .closed })
  | sent {item : OutboundItem} : s.phase ≠ .closed → s.scheduler.popNext.1 = some item →
      s.nextSendSequence + 1 ≤ u64Max →
      validateFrame (s.frameOf item.body) s.enabledCriticalExtensions = .ok () →
      checkFrameSize (s.frameOf item.body) s.maximumFrameSize = .ok () →
      Flush s (.ok (some (s.frameOf item.body)) { s with
        scheduler := s.scheduler.popNext.2
        nextSendSequence := s.nextSendSequence + 1 })

section CloseOnError

variable {P : EStateM.Result ProtocolError Session β → Prop} {f : α → SessionM β}

lemma closeOnError_check {result : Session → Result α}
    (herror : ∀ e, result s = .error e → P (.error e { s with phase := .closed }))
    (hok : ∀ a, result s = .ok a → P (closeOnError (f a) s)) :
    P (closeOnError (check result >>= f) s) := by
  simp only [closeOnError, check, bind, EStateM.bind] at hok ⊢
  cases h : result s with
  | error e => exact herror e h
  | ok a => exact hok a h

lemma closeOnError_guard {p : Prop} [Decidable p] {e : ProtocolError} {m : SessionM β}
    (hp : p → P (.error e { s with phase := .closed })) (hm : ¬ p → P (closeOnError m s)) :
    P (closeOnError (if p then throw e >>= f else m) s) := by
  by_cases h : p
  · rw [if_pos h]
    exact hp h
  · rw [if_neg h]
    exact hm h

lemma closeOnError_get {f : Session → SessionM β} (h : P (closeOnError (f s) s)) :
    P (closeOnError (get >>= f) s) := h

lemma closeOnError_set {f : PUnit → SessionM β} (h : P (closeOnError (f ⟨⟩) t)) :
    P (closeOnError (set t >>= f) s) := h

end CloseOnError

theorem flushOne_cases (s : Session) : Flush s (flushOne s) := by
  by_cases hphase : s.phase = .closed
  · have hrun : flushOne s = .error .closed s := by
      simp [flushOne, check, hphase, bind, EStateM.bind, throw, throwThe, MonadExceptOf.throw]
    rw [hrun]
    exact .closed hphase
  have hrun : flushOne s = closeOnError flushOneInner s := by
    simp [flushOne, check, hphase, bind, EStateM.bind, pure, Except.pure]
  rw [hrun]
  cases hpop : s.scheduler.popNext.1 with
  | none =>
    have hinner : closeOnError flushOneInner s =
        .ok none { s with scheduler := s.scheduler.popNext.2 } := by
      simp only [closeOnError, flushOneInner, popNext, bind, EStateM.bind, hpop]
      rfl
    rw [hinner]
    exact .empty hphase hpop
  | some item =>
    have hinner : closeOnError flushOneInner s = closeOnError (do
        let s ← get
        if s.nextSendSequence + 1 > u64Max then throw .integerOverflow
        set { s with nextSendSequence := s.nextSendSequence + 1 }
        check fun t => validateFrame (s.frameOf item.body) t.enabledCriticalExtensions
        check fun t => checkFrameSize (s.frameOf item.body) t.maximumFrameSize
        pure (some (s.frameOf item.body))) { s with scheduler := s.scheduler.popNext.2 } := by
      simp only [closeOnError, flushOneInner, popNext, bind, EStateM.bind, hpop]
    rw [hinner]
    refine closeOnError_get (closeOnError_guard (.exhausted hphase hpop) fun hseq => ?_)
    have hroom : s.nextSendSequence + 1 ≤ u64Max := not_lt.mp hseq
    refine closeOnError_set (closeOnError_check (fun e hv => .refused hphase hpop hroom (.inl hv))
      fun _ hv => ?_)
    exact closeOnError_check (fun e hc => .refused hphase hpop hroom (.inr ⟨hv, hc⟩))
      fun _ hc => .sent hphase hpop hroom hv hc

inductive Applies (s : Session) : Body → Session → Prop
  | handshakes {body : Body} : s.Handshaking →
      (body.isHandshake = true ∨ ∃ message, body = .goAway message) → Applies s body s
  | opens {message : OpenTcpStream} {now : ℕ} {flow flow' : FlowController} :
      s.phase = .active → s.localRole = .server → s.flow = some flow →
      flow.receiveOpen message.streamId message.initialReceiveWindow now = .ok flow' →
      Applies s (.openTcpStream message) { s with flow := some flow' }
  | opened {message : TcpStreamOpened} {now : ℕ} {flow flow' : FlowController} :
      s.Running → s.localRole = .client → s.flow = some flow →
      flow.confirmLocalOpen message.streamId message.initialReceiveWindow now = .ok flow' →
      Applies s (.tcpStreamOpened message) { s with flow := some flow' }
  | rejected {message : TcpStreamRejected} {flow flow' : FlowController} :
      s.Running → s.localRole = .client → s.flow = some flow →
      flow.rejectOrClose message.streamId = .ok flow' →
      Applies s (.tcpStreamRejected message) { s with flow := some flow' }
  | data {message : Data} {now : ℕ} {flow flow' : FlowController} :
      s.Running → s.flow = some flow →
      flow.debitReceive message.streamId message.payload.length now = .ok flow' →
      Applies s (.data message) { s with flow := some flow' }
  | credited {message : WindowUpdate} {now : ℕ} {flow flow' : FlowController} :
      s.Running → s.flow = some flow →
      flow.receiveWindowUpdate message.streamId message.credit now = .ok flow' →
      Applies s (.windowUpdate message) { s with flow := some flow' }
  | halfClosed {message : HalfClose} {now : ℕ} {flow flow' : FlowController} :
      s.Running → s.flow = some flow →
      flow.receiveHalfClose message.streamId now = .ok flow' →
      Applies s (.halfClose message) { s with flow := some flow' }
  | closes {message : CloseStream} {flow flow' : FlowController} :
      s.Running → s.flow = some flow → flow.rejectOrClose message.streamId = .ok flow' →
      Applies s (.closeStream message) { s with
        flow := some flow'
        scheduler := s.scheduler.cancelStream message.streamId }
  | plain {body : Body} {t : Session} : s.Running → body.isPlain = true → Kept s t →
      t.flow = s.flow → t.scheduler = s.scheduler →
      (t.phase = s.phase ∨ (∃ message, body = .goAway message) ∧ t.phase = .draining ∨
        (∃ message, body = .error message ∧ message.fatal = true) ∧ t.phase = .closed) →
      (∀ message, body = .resolveDomain message → s.phase = .active) → Applies s body t

def Applied (s : Session) (body : Body) : EStateM.Result ProtocolError Session Unit → Prop
  | .ok _ t => Applies s body t
  | .error _ t => t = s ∨ ∃ message, body = .closeStream message ∧
      t = { s with scheduler := s.scheduler.cancelStream message.streamId }

variable {body : Body}

lemma applied_check_bind {m : SessionM α} {p : α → Prop} {f : α → SessionM Unit}
    (h : Atomic m s fun a t => t = s ∧ p a) (hf : ∀ a, p a → Applied s body (f a s)) :
    Applied s body ((m >>= f) s) := by
  simp only [Atomic] at h
  simp only [bind, EStateM.bind]
  split at h
  next hm => exact hm ▸ h.1 ▸ hf _ h.2
  next hm => exact hm ▸ .inl h

lemma applied_capability {capability : String} {f : Unit → SessionM Unit}
    (hf : Applied s body (f () s)) : Applied s body ((requireCapability capability >>= f) s) :=
  applied_check_bind (requireCapability_atomic capability s) fun _ _ => hf

lemma applied_of_atomic {m : SessionM Unit} {post : Unit → Session → Prop} (h : Atomic m s post)
    (hpost : ∀ t, post () t → Applies s body t) : Applied s body (m s) := by
  simp only [Atomic] at h
  split at h
  next hm => exact hm ▸ hpost _ h
  next hm => exact hm ▸ .inl h

lemma applied_flowMut {step : FlowController → Result FlowController}
    (h : ∀ flow flow', s.flow = some flow → step flow = .ok flow' →
      Applies s body { s with flow := some flow' }) : Applied s body (flowMut step s) := by
  refine applied_of_atomic (flowMut_atomic step s) ?_
  rintro t ⟨flow, flow', hf, hstep, rfl⟩
  exact h flow flow' hf hstep

lemma applyActiveInbound_cases (body : Body) (now : ℕ) (hrun : s.Running) :
    Applied s body (applyActiveInbound body now s) := by
  cases body with
  | openTcpStream message =>
    refine applied_capability (applied_check_bind (check_atomic _ s) fun _ hcheck => ?_)
    rw [ite_throw_eq_ok, not_or, not_not] at hcheck
    obtain ⟨⟨hrole, hdrain⟩, -⟩ := hcheck
    exact applied_flowMut fun _ _ => .opens (hrun.resolve_right hdrain) hrole
  | tcpStreamOpened message =>
    refine applied_capability (applied_check_bind (check_atomic _ s) fun _ hcheck => ?_)
    rw [ite_throw_eq_ok, not_not] at hcheck
    exact applied_flowMut fun _ _ => .opened hrun hcheck.1
  | tcpStreamRejected message =>
    refine applied_capability (applied_check_bind (check_atomic _ s) fun _ hcheck => ?_)
    rw [ite_throw_eq_ok, not_not] at hcheck
    exact applied_flowMut fun _ _ => .rejected hrun hcheck.1
  | data message =>
    exact applied_capability (applied_flowMut fun _ _ => .data hrun)
  | windowUpdate message =>
    exact applied_capability (applied_flowMut fun _ _ => .credited hrun)
  | halfClose message =>
    exact applied_capability (applied_flowMut fun _ _ => .halfClosed hrun)
  | closeStream message =>
    refine applied_capability ?_
    have hcancel : (cancelStream message.streamId >>= fun _ =>
        flowMut (FlowController.rejectOrClose message.streamId)) s =
        flowMut (FlowController.rejectOrClose message.streamId)
          { s with scheduler := s.scheduler.cancelStream message.streamId } := rfl
    rw [hcancel]
    have hatomic := flowMut_atomic (FlowController.rejectOrClose message.streamId)
      { s with scheduler := s.scheduler.cancelStream message.streamId }
    simp only [Atomic] at hatomic
    split at hatomic
    next hm =>
      obtain ⟨flow, flow', hf, hstep, rfl⟩ := hatomic
      exact hm ▸ .closes hrun hf hstep
    next hm => exact hm ▸ .inr ⟨message, rfl, hatomic⟩
  | resolveDomain message =>
    refine applied_capability (applied_check_bind (check_atomic _ s) fun _ hcheck => ?_)
    have hdrain : ¬ s.phase = .draining := fun hdrain => by simp [hdrain, throw_eq_ok] at hcheck
    exact .plain hrun rfl (by constructor <;> rfl) rfl rfl (.inl rfl)
      fun _ _ => hrun.resolve_right hdrain
  | resolveResult message =>
    refine applied_capability (applied_check_bind (check_atomic _ s) fun _ _ => ?_)
    exact .plain hrun rfl (by constructor <;> rfl) rfl rfl (.inl rfl)
      fun _ => Body.noConfusion
  | goAway message =>
    exact .plain hrun rfl (by constructor <;> rfl) rfl rfl
      (.inr (.inl ⟨⟨message, rfl⟩, rfl⟩)) fun _ => Body.noConfusion
  | error message =>
    cases hfatal : message.fatal with
    | true =>
      have hstep : applyActiveInbound (.error message) now s =
          .ok () { s with phase := .closed } := by
        simp [applyActiveInbound, hfatal, state_modify]
      rw [hstep]
      exact .plain hrun rfl (by constructor <;> rfl) rfl rfl
        (.inr (.inr ⟨⟨message, rfl, hfatal⟩, rfl⟩)) fun _ => Body.noConfusion
    | false =>
      have hstep : applyActiveInbound (.error message) now s = .ok () s := by
        simp [applyActiveInbound, hfatal, pure, EStateM.pure]
      rw [hstep]
      exact .plain hrun rfl (Kept.refl s) rfl rfl (.inl rfl) fun _ => Body.noConfusion
  | clientHello | serverHello | authenticate | authenticationResult => exact .inl rfl
  | rotateSession | sessionRotated =>
    refine applied_of_atomic (requireCapability_atomic sessionRotationV1 s) ?_
    rintro t ⟨rfl, -⟩
    exact .plain hrun rfl (Kept.refl _) rfl rfl (.inl rfl) fun _ => Body.noConfusion
  | ping | pong => exact .plain hrun rfl (Kept.refl s) rfl rfl (.inl rfl) fun _ => Body.noConfusion

lemma applyInbound_cases (body : Body) (now : ℕ) (s : Session) :
    Applied s body (applyInbound body now s) := by
  have hget : ∀ f : Session → SessionM Unit, (get >>= f) s = f s s := fun _ => rfl
  rw [applyInbound, hget]
  cases hphase : s.phase with
  | active => exact applyActiveInbound_cases body now (.inl hphase)
  | draining => exact applyActiveInbound_cases body now (.inr hphase)
  | closed => exact .inl rfl
  | awaitingClientHello =>
    cases body with
    | clientHello => exact .handshakes (.inr (.inl hphase)) (.inl rfl)
    | _ => exact .inl rfl
  | awaitingServerHello =>
    cases body with
    | serverHello | error => exact .handshakes (.inl hphase) (.inl rfl)
    | goAway message => exact .handshakes (.inl hphase) (.inr ⟨message, rfl⟩)
    | _ => exact .inl rfl
  | awaitingAuthentication =>
    cases body with
    | authenticate | error => exact .handshakes (.inr (.inr (.inl hphase))) (.inl rfl)
    | goAway message => exact .handshakes (.inr (.inr (.inl hphase))) (.inr ⟨message, rfl⟩)
    | _ => exact .inl rfl
  | awaitingAuthenticationResult =>
    cases body with
    | authenticationResult | error => exact .handshakes (.inr (.inr (.inr hphase))) (.inl rfl)
    | goAway message => exact .handshakes (.inr (.inr (.inr hphase))) (.inr ⟨message, rfl⟩)
    | _ => exact .inl rfl

def counted (s : Session) : Session :=
  { s with nextReceiveSequence := s.nextReceiveSequence + 1 }

structure Admissible (s : Session) (frame : GatewayFrame) : Prop where
  size : checkFrameSize frame s.maximumFrameSize = .ok ()
  valid : validateFrame frame s.enabledCriticalExtensions = .ok ()
  sequence : frame.sequence = s.nextReceiveSequence
  room : s.nextReceiveSequence + 1 ≤ u64Max
  context : s.counted.validateFrameContext frame = .ok ()

inductive Refused (s : Session) (frame : GatewayFrame) : ProtocolError → Prop
  | size {e : ProtocolError} : checkFrameSize frame s.maximumFrameSize = .error e → Refused s frame e
  | invalid {e : ProtocolError} :
      validateFrame frame s.enabledCriticalExtensions = .error e → Refused s frame e
  | sequence : frame.sequence ≠ s.nextReceiveSequence → Refused s frame .invalidSequence
  | exhausted : u64Max < s.nextReceiveSequence + 1 → Refused s frame .integerOverflow
  | context {e : ProtocolError} : s.counted.validateFrameContext frame = .error e →
      Refused s frame e
  | missing : frame.body = none → Refused s frame .missingBody

inductive Receive (s : Session) (frame : GatewayFrame) (now : ℕ) :
    EStateM.Result ProtocolError Session Body → Prop
  | closed : s.phase = .closed → Receive s frame now (.error .closed s)
  | refused {e : ProtocolError} {n : ℕ} : s.phase ≠ .closed → Refused s frame e →
      Receive s frame now (.error e { s with nextReceiveSequence := n, phase := .closed })
  | failed {body : Body} {e : ProtocolError} {t : Session} : s.phase ≠ .closed →
      s.Admissible frame → frame.body = some body →
      applyInbound body now s.counted = .error e t →
      Receive s frame now (.error e { t with phase := .closed })
  | accepted {body : Body} {t : Session} : s.phase ≠ .closed → s.Admissible frame →
      frame.body = some body → applyInbound body now s.counted = .ok () t →
      Receive s frame now (.ok body t)

theorem receive_cases (s : Session) (frame : GatewayFrame) (now : ℕ) :
    Receive s frame now (receive frame now s) := by
  refine closeOnError_check (fun e hclosed => ?_) fun _ hopen => ?_
  · obtain ⟨hphase, rfl⟩ := ite_throw_eq_error.mp hclosed
    rw [← hphase]
    exact .closed hphase
  have hphase := (ite_throw_eq_ok.mp hopen).1
  refine closeOnError_check (fun e h => .refused hphase (.size h)) fun _ hsize => ?_
  refine closeOnError_check (fun e h => .refused hphase (.invalid h)) fun _ hvalid => ?_
  refine closeOnError_get (closeOnError_guard (fun h => .refused hphase (.sequence h))
    fun hseq => ?_)
  refine closeOnError_guard (fun h => .refused hphase (.exhausted h)) fun hroom => ?_
  refine closeOnError_set (t := s.counted) (closeOnError_check
    (fun e h => .refused hphase (.context h)) fun _ hcontext => ?_)
  have hadmissible : s.Admissible frame :=
    ⟨hsize, hvalid, not_not.mp hseq, not_lt.mp hroom, hcontext⟩
  cases hbody : frame.body with
  | none => exact .refused hphase (.missing hbody)
  | some body =>
    simp only [closeOnError, bind, EStateM.bind]
    cases happly : applyInbound body now s.counted with
    | error e t => exact .failed hphase hadmissible hbody happly
    | ok u t => exact .accepted hphase hadmissible hbody happly

end Session

inductive Action
  | call (call : Call) (now : ℕ)
  | flush
  | receive (frame : GatewayFrame) (now : ℕ)
  | readFailure
  | writeFailure

namespace Session

def act (s : Session) : Action → Session
  | .call c now => s.call c now
  | .flush => finalState flushOne s
  | .receive frame now => finalState (receive frame now) s
  | .readFailure => { s with phase := .closed }
  | .writeFailure =>
    match flushOne s with
    | .ok (some _) t => { t with phase := .closed }
    | .ok none t => t
    | .error _ t => t

end Session

structure Event where
  before : Session
  action : Action

namespace Event

def after (e : Event) : Session :=
  e.before.act e.action

def sent (e : Event) : Option GatewayFrame :=
  match e.action with
  | .flush =>
    match Session.flushOne e.before with
    | .ok frame _ => frame
    | .error _ _ => none
  | _ => none

def accepted (e : Event) : Option GatewayFrame :=
  match e.action with
  | .receive frame now =>
    match Session.receive frame now e.before with
    | .ok _ _ => some frame
    | .error _ _ => none
  | _ => none

def queued (e : Event) : List Body :=
  match e.action with
  | .call c now => e.before.queues c now
  | _ => []

def CallsMeet (P : Session → Body → Prop) (e : Event) : Prop :=
  match e.action with
  | .call c _ => ∀ body ∈ c.body, P e.before body
  | _ => True

instance (P : Session → Body → Prop) [∀ s, DecidablePred (P s)] (e : Event) :
    Decidable (e.CallsMeet P) := by
  unfold CallsMeet
  cases e.action <;> dsimp only <;> infer_instance

end Event

variable {bodies : List Body}

namespace Session

def Step (s : Session) (e : Event) (t : Session) : Prop :=
  e.before = s ∧ e.after = t

variable {s t : Session} {body : Body}

lemma Handshaking.ne_closed (h : s.Handshaking) : s.phase ≠ .closed := by
  rcases h with h | h | h | h <;> rw [h] <;> exact SessionPhase.noConfusion

lemma Running.not_handshaking (h : s.Running) : ¬ s.Handshaking := by
  rintro (hh | hh | hh | hh) <;> rcases h with h | h <;> rw [hh] at h <;> cases h

lemma Running.ne_closed (h : s.Running) : s.phase ≠ .closed := by
  rcases h with h | h <;> rw [h] <;> exact SessionPhase.noConfusion

lemma Idle.closed (h : Idle s t) : t.phase = .closed ↔ s.phase = .closed := by
  rcases h.phase with hp | ⟨hh, hp⟩
  · rw [hp]
  · simp [hp, hh.ne_closed]

lemma Queue.before_ne_closed (h : Queue s body t) : s.phase ≠ .closed := by
  have hq := h.queues
  generalize t.flow = flow at hq
  generalize t.scheduler = scheduler at hq
  cases hq with
  | opens hp | accepts hp | rejects hp => rw [hp]; exact SessionPhase.noConfusion
  | data hr | grants hr | halfCloses hr | closes hr => exact hr.ne_closed
  | plain _ hr => exact hr.ne_closed
  | handshakes _ hp => exact hp.ne_closed

lemma Queue.after_ne_closed (h : Queue s body t) : t.phase ≠ .closed := by
  rcases h.phase with hp | ⟨-, hp⟩
  · rw [hp]
    exact h.before_ne_closed
  · rw [hp]
    exact SessionPhase.noConfusion

lemma trace_ne_closed (h : Trace Queue s bodies t) (hb : bodies ≠ []) :
    s.phase ≠ .closed ∧ t.phase ≠ .closed := by
  cases bodies with
  | nil => exact absurd rfl hb
  | cons body rest =>
    obtain ⟨u, hfirst, -⟩ := h.cons_inv
    refine ⟨hfirst.before_ne_closed, ?_⟩
    generalize hl : body :: rest = l at h
    cases h with
    | nil => cases hl
    | snoc _ hlast => exact hlast.after_ne_closed

section

variable (h : s.phase = .closed)
include h

lemma call_of_closed (c : Call) (now : ℕ) :
    s.queues c now = [] ∧ (s.call c now).phase = .closed := by
  rcases call_cases s c now with ⟨hq, hidle⟩ | htrace
  · refine ⟨hq, ?_⟩
    rcases hidle.phase with hp | ⟨hh, -⟩
    · rw [hp, h]
    · exact absurd h hh.ne_closed
  · by_cases hq : s.queues c now = []
    · rw [hq] at htrace
      generalize hl : ([] : List Body) = l at htrace
      generalize ht : s.call c now = t at htrace
      cases htrace with
      | nil => exact ⟨hq, ht.symm ▸ h⟩
      | snoc => simp at hl
    · exact absurd h (trace_ne_closed htrace hq).1

lemma flushOne_of_closed : flushOne s = .error .closed s := by
  have hcases := flushOne_cases s
  generalize flushOne s = r at hcases
  cases hcases with
  | closed => rfl
  | empty hne | exhausted hne | refused hne | sent hne => exact absurd h hne

lemma receive_of_closed (frame : GatewayFrame) (now : ℕ) :
    receive frame now s = .error .closed s := by
  have hcases := receive_cases s frame now
  generalize receive frame now s = r at hcases
  cases hcases with
  | closed => rfl
  | refused hne | failed hne | accepted hne => exact absurd h hne

lemma phase_act_of_closed (a : Action) : (s.act a).phase = .closed := by
  cases a with
  | call c now => exact (call_of_closed h c now).2
  | flush => simpa only [act, finalState, flushOne_of_closed h] using h
  | receive frame now => simpa only [act, finalState, receive_of_closed h] using h
  | readFailure => rfl
  | writeFailure => simpa only [act, flushOne_of_closed h] using h

end

lemma Queue.holdsData (h : Queue s body t) (hs : s.scheduler.HoldsData) :
    t.scheduler.HoldsData := by
  have hq := h.queues
  generalize t.flow = flow at hq
  generalize t.scheduler = scheduler at hq ⊢
  cases hq with
  | opens | accepts | rejects | grants | halfCloses | plain | handshakes => exact hs
  | data => exact hs.pushStream
  | closes => exact hs.of_subset fun j => queueOf_cancelStream_subset j

section

variable (h : Applies s body t)
include h

lemma Applies.scheduler_cases :
    t.scheduler = s.scheduler ∧ (∀ message, body ≠ .closeStream message) ∨
      ∃ message, body = .closeStream message ∧
        t.scheduler = s.scheduler.cancelStream message.streamId := by
  cases h with
  | handshakes _ hbody =>
    exact .inl ⟨rfl, Body.ne_closeStream_of_isPlain (Body.isPlain_of_handshakes hbody)⟩
  | opens | opened | rejected | data | credited | halfClosed =>
    exact .inl ⟨rfl, fun _ => Body.noConfusion⟩
  | closes => exact .inr ⟨_, rfl, rfl⟩
  | plain _ hplain _ _ hsched => exact .inl ⟨hsched, Body.ne_closeStream_of_isPlain hplain⟩

lemma Applies.control : t.scheduler.control = s.scheduler.control := by
  rcases h.scheduler_cases with ⟨hsched, -⟩ | ⟨message, -, hsched⟩ <;> rw [hsched]
  rfl

lemma Applies.queueOf_suffix (k : UInt64) : t.scheduler.queueOf k <:+ s.scheduler.queueOf k := by
  rcases h.scheduler_cases with ⟨hsched, -⟩ | ⟨message, -, hsched⟩ <;> rw [hsched]
  exact queueOf_cancelStream_suffix k

lemma Applies.holdsData (hs : s.scheduler.HoldsData) : t.scheduler.HoldsData :=
  hs.of_subset fun k => (h.queueOf_suffix k).subset

end

inductive Outcome (s : Session) (a : Action) : List Body → Option GatewayFrame → Session → Prop
  | idles {t : Session} : Idle s t → Outcome s a [] none t
  | queues {c : Call} {now : ℕ} {bodies : List Body} {t : Session} : a = .call c now →
      Trace Queue s bodies t → Outcome s a bodies none t
  | waits : s.phase ≠ .closed → s.scheduler.popNext.1 = none →
      Outcome s a [] none { s with scheduler := s.scheduler.popNext.2 }
  | sends {item : OutboundItem} : s.phase ≠ .closed → s.scheduler.popNext.1 = some item →
      s.nextSendSequence + 1 ≤ u64Max → Outcome s a [] (some (s.frameOf item.body)) { s with
        scheduler := s.scheduler.popNext.2
        nextSendSequence := s.nextSendSequence + 1 }
  | closes {t : Session} : t.localRole = s.localRole → t.flow = s.flow → t.phase = .closed →
      t.scheduler.control <:+ s.scheduler.control →
      (∀ k, t.scheduler.queueOf k <:+ s.scheduler.queueOf k) → Outcome s a [] none t
  | applies {frame : GatewayFrame} {now : ℕ} {body : Body} {t : Session} :
      a = .receive frame now → s.phase ≠ .closed → s.Admissible frame → frame.body = some body →
      s.counted.Applies body t → Outcome s a [] none t

lemma outcome_call (c : Call) (now : ℕ) :
    Outcome s (.call c now) (s.queues c now) none (s.call c now) := by
  rcases call_cases s c now with ⟨hq, hidle⟩ | htrace
  · rw [hq]
    exact .idles hidle
  · exact .queues rfl htrace

lemma outcome_flush : Outcome s .flush [] (Event.sent ⟨s, .flush⟩) (s.act .flush) := by
  have hcases := flushOne_cases s
  have hcontrol := control_popNext_suffix s.scheduler
  have hqueue := queueOf_popNext_suffix s.scheduler
  simp only [Event.sent, act, finalState]
  generalize flushOne s = r at hcases ⊢
  cases hcases with
  | closed => exact .idles (Idle.refl s)
  | empty hopen hpop => exact .waits hopen hpop
  | exhausted | refused => exact .closes rfl rfl rfl hcontrol hqueue
  | sent hopen hpop hroom => exact .sends hopen hpop hroom

lemma outcome_writeFailure : Outcome s .writeFailure [] none (s.act .writeFailure) := by
  have hcases := flushOne_cases s
  have hcontrol := control_popNext_suffix s.scheduler
  have hqueue := queueOf_popNext_suffix s.scheduler
  simp only [act]
  generalize flushOne s = r at hcases ⊢
  cases hcases with
  | closed => exact .idles (Idle.refl s)
  | empty hopen hpop => exact .waits hopen hpop
  | exhausted | refused | sent => exact .closes rfl rfl rfl hcontrol hqueue

lemma outcome_receive (frame : GatewayFrame) (now : ℕ) :
    Outcome s (.receive frame now) [] none (s.act (.receive frame now)) := by
  have hcases := receive_cases s frame now
  simp only [act, finalState]
  generalize receive frame now s = r at hcases ⊢
  cases hcases with
  | closed => exact .idles (Idle.refl s)
  | refused => exact .closes rfl rfl rfl (List.suffix_refl _) fun _ => List.suffix_refl _
  | @failed body _ t _ _ _ happly =>
    have happlied := applyInbound_cases body now s.counted
    rw [happly] at happlied
    rcases happlied with rfl | ⟨message, -, rfl⟩
    · exact .closes rfl rfl rfl (List.suffix_refl _) fun _ => List.suffix_refl _
    · exact .closes rfl rfl rfl (List.suffix_refl _)
        fun k => queueOf_cancelStream_suffix k
  | @accepted body t hopen hadmissible hbody happly =>
    have happlied := applyInbound_cases body now s.counted
    rw [happly] at happlied
    exact .applies rfl hopen hadmissible hbody happlied

variable {e : Event}

theorem Step.outcome (h : Step s e t) : Outcome s e.action e.queued e.sent t := by
  obtain ⟨rfl, rfl⟩ := h
  obtain ⟨s, a⟩ := e
  cases a with
  | call c now => exact outcome_call c now
  | flush => exact outcome_flush
  | receive frame now => exact outcome_receive frame now
  | readFailure => exact .closes rfl rfl rfl (List.suffix_refl _) fun _ => List.suffix_refl _
  | writeFailure => exact outcome_writeFailure

def QueueWhere (P : Session → Body → Prop) (s : Session) (body : Body) (t : Session) : Prop :=
  Queue s body t ∧ P s body

variable {P : Session → Body → Prop}

lemma trace_where (h : Trace Queue s bodies t) (hall : ∀ u, ∀ body ∈ bodies, P u body) :
    Trace (QueueWhere P) s bodies t := by
  induction h with
  | nil => exact .nil _
  | snoc _ hlast ih =>
    exact .snoc (ih fun u b hb => hall u b (List.mem_append_left _ hb))
      ⟨hlast, hall _ _ (List.mem_append_right _ List.mem_cons_self)⟩

lemma Step.queues_where (h : Step s e t) (hclose : ∀ u message, P u (.closeStream message))
    (he : e.CallsMeet P) (htrace : Trace Queue s e.queued t) :
    Trace (QueueWhere P) s e.queued t := by
  obtain ⟨rfl, -⟩ := h
  obtain ⟨s, action⟩ := e
  cases action with
  | call c now =>
    simp only [Event.queued] at htrace ⊢
    by_cases hexpire : c = .expireIdleStreams
    · subst hexpire
      refine trace_where htrace fun u body hbody => ?_
      obtain ⟨k, -, rfl⟩ := mem_closesOf hbody
      exact hclose u _
    · rcases queues_cases c now hexpire with hq | ⟨body, hbody, hq⟩
      · rw [hq] at htrace ⊢
        exact trace_where htrace fun _ _ hb => absurd hb List.not_mem_nil
      · rw [hq] at htrace ⊢
        exact .single ⟨htrace.single_inv, he body hbody⟩
  | _ => exact trace_where htrace fun _ _ hb => absurd hb List.not_mem_nil

lemma Step.queued_where (h : Step s e t) (he : e.CallsMeet P) (hbody : body ∈ e.queued)
    (hclose : ∀ message, body ≠ .closeStream message) : QueueWhere P s body t := by
  have ho := h.outcome
  obtain ⟨rfl, -⟩ := h
  obtain ⟨s, action⟩ := e
  cases action with
  | call c now =>
    have hexpire : c ≠ .expireIdleStreams := by
      rintro rfl
      obtain ⟨k, -, hbody⟩ := mem_closesOf hbody
      exact hclose _ hbody
    simp only [Event.queued] at hbody ho
    rcases queues_cases c now hexpire with hq | ⟨body', hbody', hq⟩
    · rw [hq] at hbody
      cases hbody
    · rw [hq] at hbody ho
      obtain rfl := List.mem_singleton.mp hbody
      generalize hl : [body] = bodies at ho
      cases ho with
      | queues _ htrace =>
        rw [← hl] at htrace
        exact ⟨htrace.single_inv, he body hbody'⟩
      | _ => cases hl
  | _ => cases hbody

lemma Applies.kept (h : Applies s body t) : Kept s t := by
  cases h with
  | plain _ _ hkept => exact hkept
  | _ => constructor <;> rfl

lemma Applies.phase (h : Applies s body t) :
    t.phase = s.phase ∨ t.phase = .draining ∨ t.phase = .closed := by
  cases h with
  | plain _ _ _ _ _ hphase =>
    rcases hphase with hp | ⟨-, hp⟩ | ⟨-, hp⟩
    · exact .inl hp
    · exact .inr (.inl hp)
    · exact .inr (.inr hp)
  | _ => exact .inl rfl

variable {a : Action} {frame : Option GatewayFrame}

lemma Outcome.localRole (h : Outcome s a bodies frame t) : t.localRole = s.localRole := by
  cases h with
  | idles hidle => exact hidle.kept.localRole
  | queues _ htrace =>
    exact Trace.invariant (I := fun u : Session => u.localRole = s.localRole)
      (fun hq hu => hq.kept.localRole.trans hu) htrace rfl
  | waits | sends => rfl
  | closes hrole => exact hrole
  | applies _ _ _ _ happly => exact happly.kept.localRole

lemma Outcome.closed (h : Outcome s a bodies frame t) (hs : s.phase = .closed) :
    t.phase = .closed := by
  cases h with
  | idles hidle => exact hidle.closed.mpr hs
  | queues _ htrace =>
    exact Trace.invariant (I := fun u : Session => u.phase = .closed)
      (fun hq hu => absurd hu hq.before_ne_closed) htrace hs
  | waits hopen | sends hopen | applies _ hopen => exact absurd hs hopen
  | closes _ _ hclosed => exact hclosed

def eventsOf (s : Session) : List Action → List Event
  | [] => []
  | a :: rest => ⟨s, a⟩ :: eventsOf (s.act a) rest

def runs (s : Session) (actions : List Action) : Session :=
  actions.foldl act s

lemma trace_eventsOf (s : Session) (actions : List Action) :
    Trace Step s (s.eventsOf actions) (s.runs actions) := by
  induction actions generalizing s with
  | nil => exact .nil s
  | cons a rest ih => exact .cons ⟨rfl, rfl⟩ (ih (s.act a))

end Session

namespace Sample

def sessionId : Bytes := List.replicate 16 7

def flow : FlowController where
  connectionSendWindow := 4194304
  connectionReceiveWindow := 4194304
  maximumConcurrentStreams := 512
  maximumSeenStreamId := 0
  streams := ∅

def scheduler : FairScheduler where
  control := []
  streams := ∅
  perStreamBytes := ∅
  active := []
  queuedBytes := 0
  maximumQueuedBytes := 8388608
  maximumQueuedBytesPerStream := 262144
  maximumControlFrames := 256
  controlBurst := 0

def session (localRole : PeerRole) : Session where
  localRole
  phase := .active
  limits := .default
  maximumFrameSize := absoluteMaxFrameSize
  outboundVersion := ⟨1, 0⟩
  selectedVersion := some ⟨1, 0⟩
  sessionId := sessionId
  nextSendSequence := 1
  nextReceiveSequence := 1
  enabledCriticalExtensions := ∅
  enabledCapabilities := [tcpConnectV1, flowControlV1, resolveDomainV1]
  scheduler
  flow := some flow
  localResolves := ∅
  remoteResolves := ∅
  maximumSeenLocalQueryId := 0
  maximumSeenRemoteQueryId := 0

end Sample

end OnionRoute.GatewayProtocol
