import OnionRoute.GatewayProtocol.CreditConservation
import OnionRoute.GatewayProtocol.StreamPeers

/-! What holds between two sessions at every point of a run. -/

namespace OnionRoute.GatewayProtocol

open Library FairScheduler

variable {s t r : Session} {body : Body} {link out inn out' inn' : List GatewayFrame}

namespace Session

lemma Queue.pipe (h : Queue s body t) (link : List GatewayFrame) :
    t.pipe link = s.pipe link ++ [body] ∨
      (∃ message, body = .data message) ∧ t.pipe link = s.pipe link := by
  have hs := h.before_ne_closed
  have ht := h.after_ne_closed
  have hq := h.queues
  generalize t.flow = flow at hq
  generalize hsched : t.scheduler = scheduler at hq
  simp only [Session.pipe, sendable, if_neg hs, if_neg ht, hsched]
  cases hq with
  | data => exact .inr ⟨⟨_, rfl⟩, by simp⟩
  | _ => exact .inl (by simp)

lemma Applies.pipe (h : Applies s body t) (hs : s.phase ≠ .closed) (link : List GatewayFrame) :
    t.pipe link = s.pipe link ∨ t.phase = .closed := by
  cases h with
  | plain _ _ _ _ hsched hphase =>
    by_cases ht : t.phase = .closed
    · exact .inr ht
    · exact .inl (by simp [Session.pipe, sendable, hs, ht, hsched])
  | _ => exact .inl rfl

lemma pipe_of_closed (h : t.phase = .closed) (link : List GatewayFrame) :
    t.pipe link = linkBodies link := by
  simp [Session.pipe, sendable, h]

lemma pipe_sublist_of_closed (h : t.phase = .closed) (s : Session) (link : List GatewayFrame) :
    (t.pipe link).Sublist (s.pipe link) := by
  rw [pipe_of_closed h]
  exact List.sublist_append_left _ _

end Session

section

variable (h : Turn s out inn t out' inn')
include h

lemma Turn.pipe (hs : s.scheduler.HoldsData) :
    (t.pipe out').Sublist (s.pipe out) ∨
      (∃ message, t.pipe out' = linkBodies out ++ .data message :: s.sendable) ∨
      ∃ body, s.Queue body t ∧ t.pipe out' = s.pipe out ++ [body] := by
  cases h with
  | idles hidle =>
    exact .inl (by simp [Session.pipe, Session.sendable, hidle.scheduler, hidle.closed])
  | queues hqueue =>
    rcases hqueue.pipe out with hpipe | ⟨-, hpipe⟩
    · exact .inr (.inr ⟨_, hqueue, hpipe⟩)
    · exact .inl (by rw [hpipe])
  | waits hopen hpop =>
    refine .inl ?_
    have hcontrol := control_of_popNext_none hpop
    simp [Session.pipe, Session.sendable, hopen, hcontrol]
  | sends hopen hpop =>
    rcases pipe_sent (t := { s with
      scheduler := s.scheduler.popNext.2
      nextSendSequence := s.nextSendSequence + 1 }) out hs hopen hpop rfl rfl with hpipe | hpipe
    · exact .inl (by rw [hpipe])
    · exact .inr (.inl hpipe)
  | closes _ _ hclosed => exact .inl (Session.pipe_sublist_of_closed hclosed s out)
  | applies hopen _ _ happly =>
    rcases Session.Applies.pipe (s := s.counted) happly hopen out with hpipe | hclosed
    · exact .inl (by rw [hpipe]; exact List.Sublist.refl _)
    · exact .inl (Session.pipe_sublist_of_closed hclosed s out)

lemma Turn.suffix : inn' <:+ inn := by
  cases h with
  | idles | queues | waits | sends => exact List.suffix_refl _
  | closes _ _ _ _ _ hinn => exact hinn
  | applies _ hinn => exact hinn ▸ List.suffix_cons _ _

lemma Turn.localRole : t.localRole = s.localRole := by
  cases h with
  | idles hidle => exact hidle.kept.localRole
  | closes hrole => exact hrole
  | queues hqueue => exact hqueue.kept.localRole
  | waits | sends => rfl
  | applies _ _ _ happly => exact happly.kept.localRole

lemma Turn.holdsData (hs : s.scheduler.HoldsData) : t.scheduler.HoldsData := by
  cases h with
  | idles hidle => exact hidle.scheduler ▸ hs
  | queues hqueue => exact hqueue.holdsData hs
  | waits | sends => exact hs.of_subset (queueOf_popNext_subset s.scheduler)
  | closes _ _ _ _ hqueue => exact hs.of_subset hqueue
  | applies _ _ _ happly => exact happly.holdsData hs

end

def connectionLedger (s : Session) (out : List GatewayFrame) (r : Session)
    (inn : List GatewayFrame) : Ledger where
  send := s.connectionSendWindow
  data := linkLoad Body.dataLength out + s.queuedData
  credit := ((r.pipe inn).map Body.connectionCredit).sum
  recv := r.connectionReceiveWindow

lemma linkLoad_suffix (weight : Body → ℕ) (h : inn' <:+ inn) :
    linkLoad weight inn' ≤ linkLoad weight inn :=
  ((linkBodies_suffix h).map _).sum_le_sum fun _ _ => Nat.zero_le _

lemma pipe_cons {frame : GatewayFrame} (h : frame.body = some body) (r : Session) :
    r.pipe (frame :: link) = body :: r.pipe link := by
  simp [Session.pipe, linkBodies_cons h]

section

variable (h : Turn s out inn t out' inn')
include h

lemma Turn.credit (hs : s.scheduler.HoldsData) :
    ((t.pipe out').map Body.connectionCredit).sum ≤ ((s.pipe out).map Body.connectionCredit).sum ∨
      ∃ body, s.Queue body t ∧ ((t.pipe out').map Body.connectionCredit).sum =
        ((s.pipe out).map Body.connectionCredit).sum + body.connectionCredit := by
  rcases h.pipe hs with hsub | ⟨message, hpipe⟩ | ⟨body, hqueue, hpipe⟩
  · exact .inl ((hsub.map _).sum_le_sum fun _ _ => Nat.zero_le _)
  · refine .inl (Nat.le_of_eq ?_)
    rw [hpipe]
    simp [Session.pipe, Body.connectionCredit]
  · exact .inr ⟨body, hqueue, by simp [hpipe]⟩

lemma Turn.sender_step (r : Session) :
    ∃ spent restored, (connectionLedger s out r inn).Step maxConnectionWindow
      (connectionLedger t out' r inn') spent 0 0 restored := by
  cases h with
  | idles hidle =>
    refine ⟨0, 0, .of_le ?_ (Nat.le_of_eq ?_) (Nat.le_refl _) rfl⟩
    · simp [connectionLedger, Session.connectionSendWindow, hidle.flow]
    · simp [connectionLedger, Session.queuedData, hidle.scheduler]
  | queues hqueue =>
    obtain ⟨hspends, -, -, hsend, -, hqueued⟩ := hqueue.balance
    refine ⟨_, 0, hspends, Nat.zero_le _, .inl rfl, hsend, rfl, ?_, Nat.le_refl _⟩
    simp only [connectionLedger]
    omega
  | waits _ hpop =>
    have htotal := total_popNext Body.dataLength s.scheduler
    rw [hpop, Option.elim_none, Nat.zero_add] at htotal
    refine ⟨0, 0, .of_le rfl (Nat.le_of_eq ?_) (Nat.le_refl _) rfl⟩
    simp only [connectionLedger, Session.queuedData, htotal]
  | @sends item _ hpop =>
    have htotal := total_popNext Body.dataLength s.scheduler
    rw [hpop, Option.elim_some] at htotal
    have hframe : (s.frameOf item.body).body = some item.body := rfl
    refine ⟨0, 0, .of_le rfl (Nat.le_of_eq ?_) (Nat.le_refl _) rfl⟩
    simp only [connectionLedger, Session.queuedData, htotal, linkLoad_append hframe]
    omega
  | closes _ hflow _ htotal _ hinn =>
    refine ⟨0, 0, .of_le ?_ (Nat.add_le_add_left (htotal _) _) ?_ rfl⟩
    · simp [connectionLedger, Session.connectionSendWindow, hflow]
    · exact (((linkBodies_suffix hinn).append_right _).map _).sum_le_sum fun _ _ => Nat.zero_le _
  | applies _ hinn hbody happly =>
    obtain ⟨-, -, -, hsend, -, hqueued⟩ := happly.balance
    refine ⟨0, _, Nat.zero_le _, Nat.zero_le _, .inl rfl, hsend, rfl,
      Nat.add_le_add_left hqueued _, ?_⟩
    subst hinn
    simp only [connectionLedger, pipe_cons hbody, List.map_cons, List.sum_cons]
    omega

lemma Turn.reader_step (hs : s.scheduler.HoldsData) (r : Session) :
    ∃ taken granted, (connectionLedger r inn s out).Step maxConnectionWindow
      (connectionLedger r inn' t out') 0 taken granted 0 := by
  have hload := linkLoad_suffix Body.dataLength h.suffix
  rcases h.credit hs with hcredit | ⟨body, hqueue, hcredit⟩
  · have hsame : t.connectionReceiveWindow = s.connectionReceiveWindow →
        ∃ taken granted, (connectionLedger r inn s out).Step maxConnectionWindow
          (connectionLedger r inn' t out') 0 taken granted 0 := fun hrecv =>
      ⟨0, 0, .of_le rfl (Nat.add_le_add_right hload _) hcredit hrecv⟩
    cases h with
    | idles hidle => exact hsame (by rw [Session.connectionReceiveWindow, hidle.flow]; rfl)
    | closes _ hflow => exact hsame (by rw [Session.connectionReceiveWindow, hflow]; rfl)
    | queues hqueue =>
      obtain ⟨-, -, hroom, -, hrecv, -⟩ := hqueue.balance
      exact ⟨0, _, Nat.zero_le _, Nat.zero_le _, hroom, rfl, hrecv, Nat.le_refl _,
        hcredit.trans (Nat.le_add_right _ _)⟩
    | waits | sends => exact hsame rfl
    | applies _ hinn hbody happly =>
      obtain ⟨-, htakes, -, -, hrecv, -⟩ := happly.balance
      refine ⟨_, 0, Nat.zero_le _, htakes, .inl rfl, rfl, hrecv, ?_, hcredit⟩
      subst hinn
      simp only [connectionLedger, linkLoad_cons hbody]
      omega
  · obtain ⟨-, -, hroom, -, hrecv, -⟩ := hqueue.balance
    exact ⟨0, _, Nat.zero_le _, Nat.zero_le _, hroom, rfl, hrecv, Nat.add_le_add_right hload _,
      Nat.le_of_eq hcredit⟩

end

namespace Pair

variable {p q : Pair} {side : PeerRole}

def peer (p : Pair) (k : UInt64) (side : PeerRole) : Credit.Peer :=
  peerOf k (p.session side) (p.link side)

def ledger (p : Pair) (side : PeerRole) : Ledger :=
  connectionLedger (p.session side) (p.link side) (p.session side.other) (p.link side.other)

structure Sound (p : Pair) : Prop where
  localRole : ∀ side, (p.session side).localRole = side
  holdsData : ∀ side, (p.session side).scheduler.HoldsData
  streams : ∀ k side, Credit.Peer.Safe maxStreamWindow (p.peer k side) (p.peer k side.other)
  connection : ∀ side, (p.ledger side).Safe maxConnectionWindow

lemma forall_side {P : PeerRole → Prop} (h : P side) (h' : P side.other) (other : PeerRole) :
    P other := by
  cases side <;> cases other <;> assumption

lemma Sound.streams_turn (hp : p.Sound) (h : Turns p side q) (k : UInt64) (sender : PeerRole) :
    Credit.Peer.Safe maxStreamWindow (q.peer k sender) (q.peer k sender.other) := by
  obtain ⟨hturn, hother⟩ := h
  have hmoves : Moves (p.peer k side) (p.peer k side.other) (q.peer k side)
      (peerOf k (p.session side.other) (q.link side.other)) := hturn.moves (hp.holdsData side)
  rw [← hother] at hmoves
  have hsafe := (hp.streams k side).acts hmoves
  revert sender
  refine @forall_side side _ hsafe ?_
  rw [PeerRole.other_other]
  exact hsafe.symm

lemma Sound.connection_turn (hp : p.Sound) (h : Turns p side q) (sender : PeerRole) :
    (q.ledger sender).Safe maxConnectionWindow := by
  obtain ⟨hturn, hother⟩ := h
  revert sender
  refine @forall_side side _ ?_ ?_
  · obtain ⟨_, _, hstep⟩ := hturn.sender_step (p.session side.other)
    rw [ledger, hother]
    exact hstep.safe (hp.connection side)
  · obtain ⟨_, _, hstep⟩ := hturn.reader_step (hp.holdsData side) (p.session side.other)
    have hsafe := hp.connection side.other
    rw [ledger, PeerRole.other_other] at hsafe ⊢
    rw [hother]
    exact hstep.safe hsafe

lemma Sound.turn (hp : p.Sound) (h : Turns p side q) : q.Sound where
  localRole := by
    refine forall_side (h.1.localRole.trans (hp.localRole side)) ?_
    rw [h.2]
    exact hp.localRole side.other
  holdsData := by
    refine forall_side (h.1.holdsData (hp.holdsData side)) ?_
    rw [h.2]
    exact hp.holdsData side.other
  streams := hp.streams_turn h
  connection := hp.connection_turn h

lemma bodies_of_isHandshake {bodies : List Body} (h : ∀ b ∈ bodies, b.isHandshake = true)
    (k : UInt64) :
    bodies.flatMap (Body.notices k) = [] ∧ (bodies.map (Body.dataOn k)).sum = 0 ∧
      (bodies.map Body.dataLength).sum = 0 ∧ (bodies.map Body.connectionCredit).sum = 0 := by
  have hnone : ∀ b : Body, b.isHandshake = true → b.notices k = [] ∧ b.dataOn k = 0 ∧
      b.dataLength = 0 ∧ b.connectionCredit = 0 := by
    intro b hb
    cases b <;> first | exact ⟨rfl, rfl, rfl, rfl⟩ | cases hb
  refine ⟨?_, ?_, ?_, ?_⟩
  · exact List.flatMap_eq_nil_iff.mpr fun b hb => (hnone b (h b hb)).1
  · exact List.sum_eq_zero (by simpa using fun b hb => (hnone b (h b hb)).2.1)
  · exact List.sum_eq_zero (by simpa using fun b hb => (hnone b (h b hb)).2.2.1)
  · exact List.sum_eq_zero (by simpa using fun b hb => (hnone b (h b hb)).2.2.2)

namespace Negotiated

variable (h : p.Negotiated)
include h

section

variable (side : PeerRole)

lemma linkBodies : ∀ b ∈ linkBodies (p.link side), b.isHandshake = true := by
  intro b hb
  obtain ⟨frame, hmem, hbody⟩ := List.mem_filterMap.mp hb
  exact h.link side frame hmem b hbody

lemma controlBodies :
    ∀ b ∈ (p.session side).scheduler.control.map OutboundItem.body, b.isHandshake = true := by
  intro b hb
  obtain ⟨item, hmem, rfl⟩ := List.mem_map.mp hb
  exact h.control side item hmem

lemma pipe : ∀ b ∈ (p.session side).pipe (p.link side), b.isHandshake = true := by
  intro b hb
  rcases List.mem_append.mp hb with hb | hb
  · exact h.linkBodies side b hb
  · rw [Session.sendable] at hb
    split at hb
    · cases hb
    · exact h.controlBodies side b hb

lemma load (k : UInt64) :
    linkLoad (Body.dataOn k) (p.link side) + (p.session side).scheduler.total (Body.dataOn k) = 0 ∧
      linkLoad Body.dataLength (p.link side) + (p.session side).queuedData = 0 := by
  obtain ⟨-, hdata, hlength, -⟩ := bodies_of_isHandshake (h.controlBodies side) k
  obtain ⟨-, hdata', hlength', -⟩ := bodies_of_isHandshake (h.linkBodies side) k
  rw [List.map_map] at hdata hlength
  simp only [total, Session.queuedData, h.streams side, Nat.add_eq_zero_iff]
  exact ⟨⟨hdata', hdata, rfl⟩, hlength', hlength, rfl⟩

lemma fresh :
    ∃ flow, (p.session side).flow = some flow ∧ flow.streams = ∅ ∧
      flow.connectionReceiveWindow ≤ maxConnectionWindow := by
  obtain ⟨peerWindow, localWindow, streams, flow, hnew, hf⟩ := h.flow side
  rw [FlowController.new, ite_throw_eq_ok] at hnew
  obtain ⟨hbounds, rfl⟩ := hnew
  exact ⟨_, hf, rfl, by simp only; omega⟩

end

lemma streamsSafe (k : UInt64) (side : PeerRole) :
    Credit.Peer.Safe maxStreamWindow (p.peer k side) (p.peer k side.other) := by
  have hpeer : ∀ side, (p.peer k side).window = none ∧ (p.peer k side).pipe = [] ∧
      (p.peer k side).data = 0 := by
    intro side
    obtain ⟨flow, hf, hstreams, -⟩ := h.fresh side
    refine ⟨?_, (bodies_of_isHandshake (h.pipe side) k).1, (h.load side k).1⟩
    simp [peer, peerOf, Session.windowOf, hf, hstreams]
  obtain ⟨hw, hpipe, hdata⟩ := hpeer side
  obtain ⟨hw', hpipe', hdata'⟩ := hpeer side.other
  exact .fresh hw hpipe hdata hw' hpipe' hdata'

lemma ledgerSafe (side : PeerRole) : (p.ledger side).Safe maxConnectionWindow := by
  obtain ⟨flow, hf, -⟩ := h.fresh side
  obtain ⟨flow', hf', -, hlimit⟩ := h.fresh side.other
  have hwindows := h.windows side flow flow' hf hf'
  have hcredit := (bodies_of_isHandshake (h.pipe side.other) 0).2.2.2
  constructor
  · simp [ledger, connectionLedger, Session.connectionSendWindow, Session.connectionReceiveWindow,
      hf, hf', (h.load side 0).2, hcredit, hwindows]
  · simpa [ledger, connectionLedger, Session.connectionReceiveWindow, hf'] using hlimit

lemma sound : p.Sound where
  localRole := h.localRole
  holdsData side j item hitem := by
    simp [queueOf, h.streams side] at hitem
  streams := h.streamsSafe
  connection := h.ledgerSafe

end Negotiated

lemma sound_of_run {actions : List PairAction} (hp : p.Negotiated)
    (h : Trace Step p actions q) : q.Sound :=
  invariant_of_turns (I := Sound) (fun hturn hs => hs.turn hturn) h hp.sound

end Pair

end OnionRoute.GatewayProtocol
