import OnionRoute.GatewayProtocol.HandshakeEnds

/-! The phases of a session and the sequence numbers of its frames, from the new session on. -/

namespace OnionRoute.GatewayProtocol

open Library

inductive LifeEvent
  | event (e : Event)
  | configure (before : Session) (parameters : NegotiatedParameters)

namespace LifeEvent

def before : LifeEvent → Session
  | event e => e.before
  | configure s _ => s

def sent : LifeEvent → Option GatewayFrame
  | event e => e.sent
  | configure _ _ => none

def accepted : LifeEvent → Option GatewayFrame
  | event e => e.accepted
  | configure _ _ => none

def queued : LifeEvent → List Body
  | event e => e.queued
  | configure _ _ => []

end LifeEvent

variable {bodies : List Body} {a : Action} {body : Body}

namespace Session

variable {s t : Session} {e : Event} {frame : GatewayFrame}

def Configures (s : Session) (parameters : NegotiatedParameters) : Prop :=
  s.phase = .awaitingServerHello ∧ parameters.nextPhase = .awaitingAuthenticationResult ∨
    s.phase = .awaitingClientHello ∧ parameters.nextPhase = .awaitingAuthentication

inductive LifeStep : Session → LifeEvent → Session → Prop
  | event {s t : Session} {e : Event} : Step s e t → LifeStep s (.event e) t
  | configure {s : Session} {parameters : NegotiatedParameters} : s.Configures parameters →
      LifeStep s (.configure s parameters) (finalState (configureNegotiated parameters) s)

lemma Step.accepted_some (h : Step s e t) (ha : e.accepted = some frame) :
    s.phase ≠ .closed ∧ s.Admissible frame ∧
      ∃ body, frame.body = some body ∧ s.counted.Applies body t := by
  obtain ⟨rfl, rfl⟩ := h
  obtain ⟨s, a⟩ := e
  cases a with
  | receive frame' now =>
    have hcases := receive_cases s frame' now
    simp only [Event.accepted] at ha
    simp only [Event.after, act, finalState]
    generalize receive frame' now s = r at hcases ha
    cases hcases with
    | @accepted body t hopen hadmissible hbody happly =>
      have happlied := applyInbound_cases body now s.counted
      rw [happly] at happlied
      cases ha
      exact ⟨hopen, hadmissible, body, hbody, happlied⟩
    | _ => cases ha
  | _ => cases ha

lemma kept_of_trace (h : Trace Queue s bodies t) :
    t.nextSendSequence = s.nextSendSequence ∧ t.nextReceiveSequence = s.nextReceiveSequence :=
  Trace.invariant (I := fun u : Session => u.nextSendSequence = s.nextSendSequence ∧
      u.nextReceiveSequence = s.nextReceiveSequence)
    (fun hq hu => ⟨hq.kept.nextSendSequence.trans hu.1, hq.kept.nextReceiveSequence.trans hu.2⟩)
    h ⟨rfl, rfl⟩

lemma Outcome.nextReceiveSequence {sent : Option GatewayFrame}
    (h : Outcome s a bodies sent t) (ha : ∀ frame now, a ≠ .receive frame now) :
    t.nextReceiveSequence = s.nextReceiveSequence ∨ t.phase = .closed := by
  cases h with
  | idles hidle => exact .inl hidle.kept.nextReceiveSequence
  | queues _ htrace => exact .inl (kept_of_trace htrace).2
  | waits | sends => exact .inl rfl
  | closes _ _ hclosed => exact .inr hclosed
  | applies hreceive => exact absurd hreceive (ha _ _)

lemma Step.accepted_none (h : Step s e t) (ha : e.accepted = none) :
    t.nextReceiveSequence = s.nextReceiveSequence ∨ t.phase = .closed := by
  cases hact : e.action with
  | receive frame now =>
    obtain ⟨rfl, rfl⟩ := h
    have hcases := receive_cases e.before frame now
    simp only [Event.accepted, hact] at ha
    simp only [Event.after, hact, act, finalState]
    generalize receive frame now e.before = r at hcases ha
    cases hcases with
    | closed => exact .inl rfl
    | accepted => cases ha
    | _ => exact .inr rfl
  | _ => exact h.outcome.nextReceiveSequence (by simp [hact])

lemma Step.sent_some (h : Step s e t) (hsent : e.sent = some frame) :
    s.phase ≠ .closed ∧ t.nextSendSequence = s.nextSendSequence + 1 ∧ t.phase = s.phase ∧
      ∃ item, s.Waits item ∧ frame = s.frameOf item.body := by
  have houtcome := h.outcome
  rw [hsent] at houtcome
  generalize e.queued = bodies at houtcome
  generalize e.action = a at houtcome
  cases houtcome with
  | sends hopen hpop => exact ⟨hopen, rfl, rfl, _, waits_of_popNext hpop, rfl⟩

lemma Step.sent_none (h : Step s e t) (hsent : e.sent = none) :
    t.nextSendSequence = s.nextSendSequence ∨ t.phase = .closed := by
  have houtcome := h.outcome
  rw [hsent] at houtcome
  generalize e.queued = bodies at houtcome
  generalize e.action = a at houtcome
  cases houtcome with
  | idles hidle => exact .inl hidle.kept.nextSendSequence
  | queues _ htrace => exact .inl (kept_of_trace htrace).1
  | waits => exact .inl rfl
  | closes _ _ hclosed => exact .inr hclosed
  | applies _ _ _ _ happly => exact .inl happly.kept.nextSendSequence

def Shaking (s : Session) : Prop :=
  s.Handshaking → ∀ item, s.Waits item → item.body.isHandshake = true

lemma Queue.isHandshake (hq : Queue s body t) (hs : s.Handshaking) :
    body.isHandshake = true := by
  have hqueues := hq.queues
  generalize t.flow = flow at hqueues
  generalize t.scheduler = scheduler at hqueues
  cases hqueues with
  | handshakes hhand => exact hhand
  | opens hactive | accepts hactive | rejects hactive =>
    exact absurd hs (Running.not_handshaking (.inl hactive))
  | plain _ hrun | data hrun | grants hrun | halfCloses hrun | closes hrun =>
    exact absurd hs hrun.not_handshaking

lemma Shaking.queue (h : s.Shaking) (hq : Queue s body t) : t.Shaking := by
  intro ht item hitem
  have hs : s.Handshaking := by
    rcases hq.phase with hp | ⟨-, hp⟩
    · rwa [Handshaking, hp] at ht
    · simp [Handshaking, hp] at ht
  rcases hq.waits hitem with hold | hnew
  · exact h hs item hold
  · rw [hnew]
    exact hq.isHandshake hs

lemma Shaking.outcome {sent : Option GatewayFrame}
    (h : s.Shaking) (ho : Outcome s a bodies sent t) : t.Shaking := by
  cases ho with
  | idles hidle =>
    intro ht item hitem
    rw [Waits, hidle.scheduler] at hitem
    rcases hidle.phase with hp | ⟨-, hp⟩
    · rw [Handshaking, hp] at ht
      exact h ht item hitem
    · simp [Handshaking, hp] at ht
  | queues _ htrace => exact Trace.invariant (fun hq hu => Shaking.queue hu hq) htrace h
  | waits | sends =>
    intro ht item hitem
    exact h ht item (hitem.of_subset (FairScheduler.control_popNext_suffix s.scheduler).subset
      (FairScheduler.queueOf_popNext_subset s.scheduler))
  | closes _ _ hclosed =>
    intro ht
    exact absurd hclosed ht.ne_closed
  | applies _ _ _ _ happly =>
    intro ht item hitem
    have hs : s.Handshaking := by
      rcases happly.phase with hp | hp | hp
      · rwa [Handshaking, hp] at ht
      · simp [Handshaking, hp] at ht
      · simp [Handshaking, hp] at ht
    exact h hs item (happly.waits hitem)

lemma configureNegotiated_atomic (parameters : NegotiatedParameters) (s : Session) :
    Atomic (configureNegotiated parameters) s fun _ t =>
      t.scheduler = s.scheduler ∧ t.nextSendSequence = s.nextSendSequence ∧
      t.nextReceiveSequence = s.nextReceiveSequence ∧ t.phase = parameters.nextPhase := by
  rw [configureNegotiated]
  split
  next => exact rfl
  next =>
    refine get_bind_atomic ?_
    refine (check_atomic _ s).bind fun _ _ => ?_
    refine (check_atomic _ s).bind fun _ _ => ?_
    refine (check_atomic _ s).bind fun _ _ => ?_
    refine (check_atomic _ s).bind fun _ _ => ?_
    exact ⟨rfl, rfl, rfl, rfl⟩

lemma configured_cases {parameters : NegotiatedParameters} (h : s.Configures parameters) :
    let t := finalState (configureNegotiated parameters) s
    (s.Handshaking ∧ t.Handshaking) ∧ t.scheduler = s.scheduler ∧
      t.nextSendSequence = s.nextSendSequence ∧ t.nextReceiveSequence = s.nextReceiveSequence := by
  have hs : s.Handshaking := by
    rcases h with ⟨hphase, -⟩ | ⟨hphase, -⟩
    · exact .inl hphase
    · exact .inr (.inl hphase)
  rcases (configureNegotiated_atomic parameters s).finalState_cases with hsame | ⟨_, -, hpost⟩
  · rw [hsame]
    exact ⟨⟨hs, hs⟩, rfl, rfl, rfl⟩
  · obtain ⟨hscheduler, hsend, hreceive, hphase⟩ := hpost
    refine ⟨⟨hs, ?_⟩, hscheduler, hsend, hreceive⟩
    rw [Handshaking, hphase]
    rcases h with ⟨-, hnext⟩ | ⟨-, hnext⟩
    · exact .inr (.inr (.inr hnext))
    · exact .inr (.inr (.inl hnext))

end Session

def InSequence (frames : List GatewayFrame) : Prop :=
  frames.map GatewayFrame.sequence = List.range' 1 frames.length

lemma InSequence.snoc {frames : List GatewayFrame} {frame : GatewayFrame} (h : InSequence frames)
    (hframe : frame.sequence = frames.length + 1) : InSequence (frames ++ [frame]) := by
  rw [InSequence] at h ⊢
  rw [List.map_append, h, List.length_append, List.length_singleton, List.range'_concat]
  simp [hframe, Nat.add_comm]

structure LifeEvent.Early (ev : LifeEvent) : Prop where
  accepted : ∀ frame, ev.accepted = some frame → ∃ body, frame.body = some body ∧
    (body.isHandshake = true ∨ ∃ message, body = .goAway message)
  sent : ∀ frame, ev.sent = some frame → ∃ body, frame.body = some body ∧ body.isHandshake = true

namespace Session

variable {s t : Session} {events : List LifeEvent} {ev : LifeEvent}

structure Lived (events : List LifeEvent) (t : Session) : Prop where
  shaking : t.Shaking
  draining : t.phase = .draining → ∃ ev ∈ events, ev.before.phase = .active
  accepted : InSequence (events.filterMap LifeEvent.accepted)
  sent : InSequence (events.filterMap LifeEvent.sent)
  nextReceive : t.phase ≠ .closed →
    t.nextReceiveSequence = (events.filterMap LifeEvent.accepted).length + 1
  nextSend : t.phase ≠ .closed →
    t.nextSendSequence = (events.filterMap LifeEvent.sent).length + 1

lemma Applies.early (h : Applies s body t) (hs : s.Handshaking) :
    body.isHandshake = true ∨ ∃ message, body = .goAway message := by
  cases h with
  | handshakes _ hbody => exact hbody
  | opens hactive => exact absurd hs (Running.not_handshaking (.inl hactive))
  | opened hrun | rejected hrun | data hrun | credited hrun | halfClosed hrun | closes hrun
  | plain hrun => exact absurd hs hrun.not_handshaking

lemma Shaking.early (h : s.Shaking) (hs : s.Handshaking) (hstep : LifeStep s ev t) : ev.Early := by
  cases hstep with
  | @event _ e hstep =>
    refine ⟨?_, ?_⟩
    · intro frame hframe
      obtain ⟨-, -, body, hbody, happly⟩ := hstep.accepted_some hframe
      exact ⟨body, hbody, happly.early hs⟩
    · intro frame hframe
      obtain ⟨-, -, -, item, hwaits, rfl⟩ := hstep.sent_some hframe
      exact ⟨item.body, rfl, h hs item hwaits⟩
  | configure =>
    refine ⟨?_, ?_⟩
    · intro frame hframe
      cases hframe
    · intro frame hframe
      cases hframe

lemma Applies.draining (h : Applies s body t) (ht : t.phase = .draining) :
    s.Running := by
  cases h with
  | handshakes => exact .inr ht
  | opens hactive => exact .inl hactive
  | opened hrun | rejected hrun | data hrun | credited hrun | halfClosed hrun | closes hrun
  | plain hrun => exact hrun

lemma Outcome.draining {sent : Option GatewayFrame}
    (h : Outcome s a bodies sent t) (ht : t.phase = .draining) : s.Running := by
  cases h with
  | idles hidle =>
    rcases hidle.phase with hp | ⟨-, hp⟩
    · exact .inr (hp ▸ ht)
    · rw [hp] at ht
      cases ht
  | queues _ htrace =>
    refine Trace.invariant (I := fun u : Session => u.Running → s.Running) ?_ htrace id (.inr ht)
    intro u body v hq hu hv
    rcases hq.phase with hp | ⟨hrun, -⟩
    · exact hu (by rwa [Running, hp] at hv)
    · exact hu hrun
  | waits | sends => exact .inr ht
  | closes _ _ hclosed =>
    rw [hclosed] at ht
    cases ht
  | applies _ _ _ _ happly => exact happly.draining ht

/-- One event adds at most the frame that comes next to a part of the frames of a run. -/
lemma inSequence_step (ev : LifeEvent) {part : LifeEvent → Option GatewayFrame}
    (next : Session → ℕ) (h : InSequence (events.filterMap part))
    (hnext : s.phase ≠ .closed → next s = (events.filterMap part).length + 1)
    (hopen : t.phase ≠ .closed → s.phase ≠ .closed)
    (hnone : part ev = none → next t = next s ∨ t.phase = .closed)
    (hsome : ∀ frame, part ev = some frame →
      s.phase ≠ .closed ∧ frame.sequence = next s ∧ next t = next s + 1) :
    InSequence ((events ++ [ev]).filterMap part) ∧
      (t.phase ≠ .closed → next t = ((events ++ [ev]).filterMap part).length + 1) := by
  rw [List.filterMap_append]
  cases hpart : part ev with
  | none =>
    rw [List.filterMap_cons_none hpart, List.filterMap_nil, List.append_nil]
    refine ⟨h, fun ht => ?_⟩
    rw [(hnone hpart).resolve_right ht, hnext (hopen ht)]
  | some frame =>
    obtain ⟨hs, hframe, hcount⟩ := hsome frame hpart
    rw [List.filterMap_cons_some hpart, List.filterMap_nil]
    refine ⟨h.snoc (hframe.trans (hnext hs)), fun _ => ?_⟩
    rw [hcount, List.length_append, List.length_singleton, hnext hs]

lemma Lived.step (h : Lived events s) (hstep : LifeStep s ev t) : Lived (events ++ [ev]) t := by
  cases hstep with
  | @event _ e hstep =>
    have houtcome := hstep.outcome
    have hopen : t.phase ≠ .closed → s.phase ≠ .closed := mt houtcome.closed
    obtain ⟨haccepted, hreceive⟩ := inSequence_step (.event e) nextReceiveSequence h.accepted
      h.nextReceive hopen hstep.accepted_none fun frame hframe => by
        obtain ⟨hs, hadmissible, _, -, happly⟩ := hstep.accepted_some hframe
        exact ⟨hs, hadmissible.sequence, happly.kept.nextReceiveSequence⟩
    obtain ⟨hsent, hsend⟩ := inSequence_step (.event e) nextSendSequence h.sent h.nextSend hopen
      hstep.sent_none fun frame hframe => by
        obtain ⟨hs, hcount, -, item, -, rfl⟩ := hstep.sent_some hframe
        exact ⟨hs, rfl, hcount⟩
    refine ⟨h.shaking.outcome houtcome, fun ht => ?_, haccepted, hsent, hreceive, hsend⟩
    rcases houtcome.draining ht with hactive | hdraining
    · exact ⟨.event e, by simp, (congrArg Session.phase hstep.1).trans hactive⟩
    · obtain ⟨ev, hev, hactive⟩ := h.draining hdraining
      exact ⟨ev, by simp [hev], hactive⟩
  | @configure parameters hconfigures =>
    obtain ⟨⟨hs, ht⟩, hscheduler, hcount, hcount'⟩ := configured_cases hconfigures
    obtain ⟨haccepted, hreceive⟩ := inSequence_step (.configure s parameters)
      nextReceiveSequence h.accepted h.nextReceive (fun _ => hs.ne_closed) (fun _ => .inl hcount')
      (by rintro _ ⟨⟩)
    obtain ⟨hsent, hsend⟩ := inSequence_step (.configure s parameters) nextSendSequence
      h.sent h.nextSend (fun _ => hs.ne_closed) (fun _ => .inl hcount) (by rintro _ ⟨⟩)
    refine ⟨fun _ item hitem => ?_, fun hdraining => ?_, haccepted, hsent, hreceive, hsend⟩
    · rw [Waits, hscheduler] at hitem
      exact h.shaking hs item hitem
    · exact absurd ht (Running.not_handshaking (.inr hdraining))

lemma lived_opening (role : PeerRole) (phase : SessionPhase) (limits : ProtocolLimits)
    (version : ProtocolVersion) (h : (opening role phase limits version).Handshaking) :
    Lived [] (opening role phase limits version) where
  shaking := by
    intro _ item hitem
    simp [Waits, opening, FairScheduler.queueOf] at hitem
  draining := fun hdraining => absurd h (Running.not_handshaking (.inr hdraining))
  accepted := rfl
  sent := rfl
  nextReceive := fun _ => rfl
  nextSend := fun _ => rfl

lemma lived_new {limits : ProtocolLimits} {version : ProtocolVersion}
    (h : newClient limits version = .ok s ∨ newServer limits version = .ok s) : Lived [] s := by
  rcases h with h | h
  · obtain ⟨-, -, rfl⟩ := new_eq_ok.mp h
    exact lived_opening _ _ _ _ (.inl rfl)
  · obtain ⟨-, -, rfl⟩ := new_eq_ok.mp h
    exact lived_opening _ _ _ _ (.inr (.inl rfl))

lemma LifeStep.closed (h : LifeStep s ev t) (hs : s.phase = .closed) :
    t.phase = .closed ∧ ev.accepted = none ∧ ev.queued = [] ∧ ev.sent = none := by
  cases h with
  | @event _ e hstep =>
    refine ⟨hstep.outcome.closed hs, ?_, ?_, ?_⟩
    · rw [Option.eq_none_iff_forall_ne_some]
      intro frame hframe
      exact (hstep.accepted_some hframe).1 hs
    · have hqueued : ∀ c now, e.before.queues c now = [] := fun c now =>
        (call_of_closed (hstep.1.symm ▸ hs) c now).1
      simp only [LifeEvent.queued, Event.queued]
      split <;> simp [hqueued]
    · rw [Option.eq_none_iff_forall_ne_some]
      intro frame hframe
      exact (hstep.sent_some hframe).1 hs
  | configure hconfigures => exact absurd hs (configured_cases hconfigures).1.1.ne_closed

lemma closed_of_trace (h : Trace LifeStep s events t) (hs : s.phase = .closed) :
    t.phase = .closed ∧ ∀ ev ∈ events, ev.accepted = none ∧ ev.queued = [] ∧ ev.sent = none := by
  induction h with
  | nil => exact ⟨hs, by simp⟩
  | snoc _ hstep ih =>
    obtain ⟨hclosed, hquiet⟩ := ih
    obtain ⟨hlast, hstill⟩ := hstep.closed hclosed
    refine ⟨hlast, ?_⟩
    rw [List.forall_mem_append, List.forall_mem_singleton]
    exact ⟨hquiet, hstill⟩

lemma lived_of_trace (h : Trace LifeStep s events t) (hs : Lived [] s) : Lived events t := by
  induction h with
  | nil => exact hs
  | snoc _ hstep ih => exact ih.step hstep

lemma LifeStep.before (h : LifeStep s ev t) : ev.before = s := by
  cases h with
  | event hstep => exact hstep.1
  | configure => rfl

lemma Lived.handshaking_or_closed (h : Lived events s) (hs : s.phase ≠ .active)
    (hnever : ∀ ev ∈ events, ev.before.phase ≠ .active) : s.Handshaking ∨ s.phase = .closed := by
  have hdraining : s.phase ≠ .draining := by
    intro hdraining
    obtain ⟨ev, hev, hactive⟩ := h.draining hdraining
    exact hnever ev hev hactive
  rw [Handshaking]
  cases hphase : s.phase <;> simp_all

lemma Lived.early (h : Lived events s) (hstep : LifeStep s ev t)
    (hnever : ∀ e ∈ events ++ [ev], e.before.phase ≠ .active) : ev.Early := by
  rw [List.forall_mem_append, List.forall_mem_singleton, hstep.before] at hnever
  rcases h.handshaking_or_closed hnever.2 hnever.1 with hs | hs
  · exact h.shaking.early hs hstep
  · obtain ⟨-, haccepted, -, hsent⟩ := hstep.closed hs
    exact ⟨by simp [haccepted], by simp [hsent]⟩

end Session

open Session

structure PhaseSafe (s : Session) (events : List LifeEvent) (t : Session) : Prop where
  early : ∀ es ev fs, events = es ++ ev :: fs →
    (∀ e ∈ es ++ [ev], e.before.phase ≠ .active) → ev.Early
  absorbing : ∀ es fs u, events = es ++ fs → Trace LifeStep s es u → Trace LifeStep u fs t →
    u.phase = .closed →
    t.phase = .closed ∧ ∀ ev ∈ fs, ev.accepted = none ∧ ev.queued = [] ∧ ev.sent = none
  accepted : InSequence (events.filterMap LifeEvent.accepted)
  sent : InSequence (events.filterMap LifeEvent.sent)

theorem phase_safe {s t : Session} {limits : ProtocolLimits} {version : ProtocolVersion}
    {events : List LifeEvent}
    (hs : newClient limits version = .ok s ∨ newServer limits version = .ok s)
    (h : Trace LifeStep s events t) : PhaseSafe s events t where
  early := by
    rintro es ev fs rfl hnever
    obtain ⟨u, hu, hrest⟩ := h.split
    obtain ⟨v, hstep, -⟩ := hrest.cons_inv
    exact (lived_of_trace hu (lived_new hs)).early hstep hnever
  absorbing := by
    rintro es fs u - - hrest hclosed
    exact closed_of_trace hrest hclosed
  accepted := (lived_of_trace h (lived_new hs)).accepted
  sent := (lived_of_trace h (lived_new hs)).sent

namespace Sample

def newcomer : Session :=
  opening .client .awaitingServerHello .default ⟨1, 0⟩

lemma newClient_newcomer : newClient .default ⟨1, 0⟩ = .ok newcomer :=
  new_eq_ok.mpr ⟨by decide +kernel, by decide, rfl⟩

def turnedAway : GatewayFrame where
  sequence := 1
  version := some ⟨1, 0⟩
  criticalExtensionIds := []
  sessionId := []
  body := some (.goAway ⟨0, ErrorCode.unavailable.toInt32, 1000⟩)

def turnAway : Event :=
  ⟨newcomer, .receive turnedAway 0⟩

end Sample

open Sample in
theorem phase_safe_newcomer :
    newClient .default ⟨1, 0⟩ = .ok newcomer ∧
      PhaseSafe newcomer [.event turnAway] turnAway.after :=
  ⟨newClient_newcomer,
    phase_safe (.inl newClient_newcomer) (.single (.event ⟨rfl, rfl⟩))⟩

open Sample in
-- The client is not active and takes a frame that is neither of the handshake nor an error.
theorem go_away_accepted_early :
    newClient .default ⟨1, 0⟩ = .ok newcomer ∧
      Trace LifeStep newcomer [.event turnAway] turnAway.after ∧
      newcomer.phase = .awaitingServerHello ∧
      turnAway.accepted = some turnedAway ∧
      turnedAway.body.map Body.isHandshake = some false :=
  ⟨newClient_newcomer, .single (.event ⟨rfl, rfl⟩), by decide, by decide +kernel, by decide⟩

end OnionRoute.GatewayProtocol
