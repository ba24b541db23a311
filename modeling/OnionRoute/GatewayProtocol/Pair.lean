import OnionRoute.GatewayProtocol.SessionEvents

/-! Two sessions, and between them the frames that one has written and the other has not read. -/

namespace OnionRoute.GatewayProtocol

open Library Session

def PeerRole.other : PeerRole → PeerRole
  | client => server
  | server => client

@[simp] lemma PeerRole.other_client : PeerRole.client.other = .server := rfl

@[simp] lemma PeerRole.other_server : PeerRole.server.other = .client := rfl

@[simp] lemma PeerRole.other_other (side : PeerRole) : side.other.other = side := by
  cases side <;> rfl

lemma PeerRole.other_ne (side : PeerRole) : side.other ≠ side := by
  cases side <;> exact PeerRole.noConfusion

lemma PeerRole.eq_or_other (side turn : PeerRole) : turn = side ∨ turn = side.other := by
  cases side <;> cases turn <;> simp

structure Pair where
  session : PeerRole → Session
  link : PeerRole → List GatewayFrame

inductive PairAction
  | call (side : PeerRole) (call : Call) (now : ℕ)
  | flush (side : PeerRole)
  | receive (side : PeerRole) (now : ℕ)

namespace Pair

def withSession (p : Pair) (side : PeerRole) (s : Session) : Pair :=
  { p with session := Function.update p.session side s }

def withLink (p : Pair) (side : PeerRole) (frames : List GatewayFrame) : Pair :=
  { p with link := Function.update p.link side frames }

section

variable (p : Pair) (side : PeerRole)

@[simp] lemma session_withSession (s : Session) : (p.withSession side s).session side = s := by
  simp [withSession]

@[simp] lemma session_withSession_other (s : Session) :
    (p.withSession side s).session side.other = p.session side.other := by
  simp [withSession, Function.update_of_ne side.other_ne]

@[simp] lemma link_withSession (s : Session) :
    (p.withSession side s).link = p.link := rfl

variable (frames : List GatewayFrame)

@[simp] lemma session_withLink :
    (p.withLink side frames).session = p.session := rfl

@[simp] lemma link_withLink : (p.withLink side frames).link side = frames := by
  simp [withLink]

@[simp] lemma link_withLink_other :
    (p.withLink side frames).link side.other = p.link side.other := by
  simp [withLink, Function.update_of_ne side.other_ne]

@[simp] lemma link_withLink_of_other : (p.withLink side.other frames).link side = p.link side := by
  simp [withLink, Function.update_of_ne side.other_ne.symm]

end

def flush (p : Pair) (side : PeerRole) : Pair :=
  match Session.flushOne (p.session side) with
  | .ok (some frame) t => (p.withSession side t).withLink side (p.link side ++ [frame])
  | .ok none t => p.withSession side t
  | .error _ t => p.withSession side t

def receive (p : Pair) (side : PeerRole) (now : ℕ) : Pair :=
  if (p.session side).phase = .closed then p
  else
    match p.link side.other with
    | [] => p
    | frame :: rest =>
      (p.withSession side (finalState (Session.receive frame now) (p.session side))).withLink
        side.other rest

def act (p : Pair) : PairAction → Pair
  | .call side c now => p.withSession side ((p.session side).call c now)
  | .flush side => p.flush side
  | .receive side now => p.receive side now

def Step (p : Pair) (a : PairAction) (q : Pair) : Prop :=
  p.act a = q

def runs (p : Pair) (actions : List PairAction) : Pair :=
  actions.foldl act p

lemma trace_runs (p : Pair) (actions : List PairAction) : Trace Step p actions (p.runs actions) := by
  induction actions generalizing p with
  | nil => exact .nil p
  | cons a rest ih => exact .cons rfl (ih (p.act a))

end Pair

inductive Turn (s : Session) (out inn : List GatewayFrame) :
    Session → List GatewayFrame → List GatewayFrame → Prop
  | idles {t : Session} : Session.Idle s t → Turn s out inn t out inn
  | queues {body : Body} {t : Session} : Session.Queue s body t → Turn s out inn t out inn
  | waits : s.phase ≠ .closed → s.scheduler.popNext.1 = none →
      Turn s out inn { s with scheduler := s.scheduler.popNext.2 } out inn
  | sends {item : OutboundItem} : s.phase ≠ .closed → s.scheduler.popNext.1 = some item →
      Turn s out inn { s with
        scheduler := s.scheduler.popNext.2
        nextSendSequence := s.nextSendSequence + 1 } (out ++ [s.frameOf item.body]) inn
  | closes {t : Session} {inn' : List GatewayFrame} : t.localRole = s.localRole →
      t.flow = s.flow → t.phase = .closed →
      (∀ weight, t.scheduler.total weight ≤ s.scheduler.total weight) →
      (∀ k, t.scheduler.queueOf k ⊆ s.scheduler.queueOf k) → inn' <:+ inn →
      Turn s out inn t out inn'
  | applies {frame : GatewayFrame} {body : Body} {inn' : List GatewayFrame} {t : Session} :
      s.phase ≠ .closed → inn = frame :: inn' → frame.body = some body →
      s.counted.Applies body t → Turn s out inn t out inn'

namespace Pair

def Turns (p : Pair) (side : PeerRole) (q : Pair) : Prop :=
  Turn (p.session side) (p.link side) (p.link side.other) (q.session side) (q.link side)
      (q.link side.other) ∧
    q.session side.other = p.session side.other

variable {p q : Pair} {side : PeerRole}

lemma Turns.sides {turn : PeerRole} (h : Turns p turn q) (side : PeerRole) :
    Turns p side q ∨
      Turn (p.session side.other) (p.link side.other) (p.link side) (q.session side.other)
          (q.link side.other) (q.link side) ∧
        q.session side = p.session side := by
  rcases side.eq_or_other turn with rfl | rfl
  · exact .inl h
  · rw [Turns, PeerRole.other_other] at h
    exact .inr h

lemma withSession_self (p : Pair) (side : PeerRole) : p.withSession side (p.session side) = p := by
  simp [withSession, Function.update_eq_self]

variable {t s : Session}

lemma turns_withSession
    (h : Turn s (p.link side) (p.link side.other) t (p.link side) (p.link side.other)) :
    Turns (p.withSession side s) side (p.withSession side t) := by
  simpa [Turns] using h

lemma turns_of_queue {bodies : List Body} (h : Trace Queue s bodies t) :
    ∃ sides, Trace Turns (p.withSession side s) sides (p.withSession side t) := by
  induction h with
  | nil => exact ⟨[], .nil _⟩
  | snoc _ hlast ih =>
    obtain ⟨sides, htrace⟩ := ih
    exact ⟨_, htrace.snoc (turns_withSession (.queues hlast))⟩

lemma turns_one
    (h : Turn (p.session side) (p.link side) (p.link side.other) t (p.link side)
      (p.link side.other)) :
    ∃ sides, Trace Turns p sides (p.withSession side t) := by
  have hturn : Turns (p.withSession side (p.session side)) side (p.withSession side t) :=
    turns_withSession h
  rw [withSession_self] at hturn
  exact ⟨[side], .single hturn⟩

lemma call_turns (p : Pair) (side : PeerRole) (c : Call) (now : ℕ) :
    ∃ sides, Trace Turns p sides (p.act (.call side c now)) := by
  rcases call_cases (p.session side) c now with ⟨-, hidle⟩ | htrace
  · exact turns_one (.idles hidle)
  · have hturns : ∃ sides, Trace Turns (p.withSession side (p.session side)) sides
        (p.withSession side _) := turns_of_queue htrace
    rw [withSession_self] at hturns
    exact hturns

lemma flush_turns (p : Pair) (side : PeerRole) :
    ∃ sides, Trace Turns p sides (p.act (.flush side)) := by
  have hcases := flushOne_cases (p.session side)
  have hqueue := FairScheduler.queueOf_popNext_subset (p.session side).scheduler
  have htotal : ∀ weight, (p.session side).scheduler.popNext.2.total weight ≤
      (p.session side).scheduler.total weight := fun weight => by
    rw [FairScheduler.total_popNext weight (p.session side).scheduler]
    exact Nat.le_add_left _ _
  simp only [act, flush]
  generalize flushOne (p.session side) = r at hcases
  cases hcases with
  | closed => exact turns_one (.idles (Idle.refl _))
  | empty hopen hpop => exact turns_one (.waits hopen hpop)
  | exhausted | refused =>
    exact turns_one (.closes rfl rfl rfl htotal hqueue (List.suffix_refl _))
  | sent hopen hpop =>
    refine ⟨[side], .single ?_⟩
    have hturn : Turn (p.session side) (p.link side) (p.link side.other) _ _ _ :=
      .sends hopen hpop
    simpa [Turns] using hturn

lemma receive_turns (p : Pair) (side : PeerRole) (now : ℕ) :
    ∃ sides, Trace Turns p sides (p.act (.receive side now)) := by
  simp only [act, receive]
  split
  · exact ⟨[], .nil p⟩
  next hopen =>
    split
    · exact ⟨[], .nil p⟩
    next frame rest hlink =>
      suffices hturn : Turn (p.session side) (p.link side) (p.link side.other)
          (finalState (Session.receive frame now) (p.session side)) (p.link side) rest by
        exact ⟨[side], .single (by simpa [Turns] using hturn)⟩
      have hcases := receive_cases (p.session side) frame now
      have hrest : rest <:+ p.link side.other := hlink ▸ List.suffix_cons frame rest
      rw [finalState]
      generalize Session.receive frame now (p.session side) = r at hcases
      cases hcases with
      | closed hp => exact absurd hp hopen
      | refused =>
        exact .closes rfl rfl rfl (fun _ => Nat.le_refl _) (fun _ => List.Subset.refl _) hrest
      | @failed body _ t _ _ _ happly =>
        have happlied := applyInbound_cases body now (p.session side).counted
        rw [happly] at happlied
        rcases happlied with rfl | ⟨message, -, rfl⟩
        · exact .closes rfl rfl rfl (fun _ => Nat.le_refl _) (fun _ => List.Subset.refl _) hrest
        · refine .closes rfl rfl rfl (fun weight => ?_)
            (fun k => FairScheduler.queueOf_cancelStream_subset k) hrest
          have htotal := FairScheduler.total_cancelStream (s := (p.session side).scheduler)
            (k := message.streamId) weight
          exact htotal ▸ Nat.le_add_right _ _
      | @accepted body t _ _ hbody happly =>
        have happlied := applyInbound_cases body now (p.session side).counted
        rw [happly] at happlied
        exact .applies hopen hlink hbody happlied

theorem act_turns (p : Pair) (a : PairAction) : ∃ sides, Trace Turns p sides (p.act a) := by
  cases a with
  | call side c now => exact call_turns p side c now
  | flush side => exact flush_turns p side
  | receive side now => exact receive_turns p side now

lemma invariant_of_turns {I : Pair → Prop} {actions : List PairAction}
    (hturn : ∀ {p q : Pair} {side : PeerRole}, Turns p side q → I p → I q)
    (h : Trace Step p actions q) (hp : I p) : I q := by
  refine Trace.invariant (I := I) ?_ h hp
  rintro p a _ rfl hp
  obtain ⟨sides, htrace⟩ := act_turns p a
  exact Trace.invariant hturn htrace hp

structure Negotiated (p : Pair) : Prop where
  localRole : ∀ side, (p.session side).localRole = side
  flow : ∀ side, ∃ peerWindow localWindow streams flow,
    FlowController.new peerWindow localWindow streams = .ok flow ∧
      (p.session side).flow = some flow
  windows : ∀ side flow flow', (p.session side).flow = some flow →
    (p.session side.other).flow = some flow' →
      flow.connectionSendWindow = flow'.connectionReceiveWindow
  control : ∀ side, ∀ item ∈ (p.session side).scheduler.control, item.body.isHandshake = true
  streams : ∀ side, (p.session side).scheduler.streams = ∅
  link : ∀ side, ∀ frame ∈ p.link side, ∀ body, frame.body = some body → body.isHandshake = true

end Pair

end OnionRoute.GatewayProtocol
