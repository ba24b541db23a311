import OnionRoute.GatewayProtocol.CreditSafety
import OnionRoute.GatewayProtocol.Crossing

/-! One side closes a stream while frames of the other are on their way. -/

namespace OnionRoute.GatewayProtocol

open Library FlowController

def Body.needsStream : Body → Bool
  | .data _ | .windowUpdate _ | .halfClose _ | .closeStream _ => true
  | _ => false

def Body.endsStream : Body → Bool
  | .closeStream _ | .tcpStreamRejected _ => true
  | _ => false

lemma Body.not_isPlain_of_needsStream {body : Body} (h : body.needsStream = true) :
    ¬ body.isPlain = true := by
  cases body <;> first | exact Bool.false_ne_true | cases h

lemma Body.not_isPlain_of_endsStream {body : Body} (h : body.endsStream = true) :
    ¬ body.isPlain = true := by
  cases body <;> first | exact Bool.false_ne_true | cases h

def Body.Needs (k : UInt64) (body : Body) : Prop :=
  body.needsStream = true ∧ body.streamId = k

instance (k : UInt64) (body : Body) : Decidable (body.Needs k) :=
  inferInstanceAs (Decidable (_ ∧ _))

namespace Status

variable {side : Side} {k : UInt64} {body : Body} {y : Option Status}

lemma Turns.stays_closed (h : Turns side k body none y) (hopen : body.offered ≠ [k]) :
    y = none := by
  cases h with
  | elsewhere | credited | plain => rfl
  | opens hk => exact absurd (by rw [← hk]; rfl) hopen

end Status

namespace Session

variable {s t : Session} {side : Side} {k : UInt64} {body : Body}

structure Left (k : UInt64) (s : Session) : Prop where
  ne_zero : k ≠ 0
  seen : k ≤ s.maximumSeen
  status : s.status k = none

lemma Left.of_flow (h : s.Left k) (hflow : t.flow = s.flow) : t.Left k := by
  have hseen : t.maximumSeen = s.maximumSeen := Session.maximumSeen_of_flow hflow
  exact ⟨h.ne_zero, hseen ▸ h.seen, status_congr hflow k ▸ h.status⟩

lemma Left.counted (h : s.Left k) : s.counted.Left k :=
  h.of_flow rfl

lemma Left.lives (h : s.Left k) (hl : Lives side s body t) : t.Left k := by
  have hturns := hl.turns k
  rw [h.status] at hturns
  exact ⟨h.ne_zero, UInt64.le_trans h.seen hl.maximumSeen_le,
    hturns.stays_closed (hl.offered_ne h.seen)⟩

lemma Queue.left (hq : Queue s body t) (hends : body.endsStream = true) (hs : s.Numbered) :
    t.Left body.streamId := by
  have hturns := hq.lives.turns body.streamId
  have hsome : ∃ x, s.status body.streamId = some x ∧ t.status body.streamId = none := by
    generalize s.status body.streamId = x at hturns
    generalize t.status body.streamId = y at hturns
    cases hturns with
    | elsewhere hne => exact absurd rfl hne
    | rejected | closes => exact ⟨_, rfl, rfl⟩
    | plain hplain => exact absurd hplain (Body.not_isPlain_of_endsStream hends)
    | _ => cases hends
  obtain ⟨x, hx, hnone⟩ := hsome
  refine ⟨?_, UInt64.le_trans (hs _ _ hx) hq.lives.maximumSeen_le, hnone⟩
  have hqueues := hq.queues
  generalize t.flow = flow at hqueues
  generalize t.scheduler = scheduler at hqueues
  cases hqueues with
  | rejects _ _ _ hstep | closes _ _ hstep =>
    obtain ⟨-, -, ⟨hk, -⟩, -⟩ := rejectOrClose_eq_ok.mp hstep
    exact hk
  | plain hplain => exact absurd hplain (Body.not_isPlain_of_endsStream hends)
  | handshakes hhand =>
    exact absurd (Body.isPlain_of_isHandshake hhand) (Body.not_isPlain_of_endsStream hends)
  | _ => cases hends

lemma Left.trace {bodies : List Body} (h : Trace Queue s bodies t) (hs : s.Numbered)
    (hbody : body ∈ bodies) (hends : body.endsStream = true) : t.Left body.streamId := by
  have hboth : t.Numbered ∧ (body ∈ bodies → t.Left body.streamId) := by
    clear hbody
    induction h with
    | nil => exact ⟨hs, fun hnil => absurd hnil List.not_mem_nil⟩
    | snoc _ hlast ih =>
      refine ⟨hlast.lives.numbered ih.1, fun hbody => ?_⟩
      rcases List.mem_append.mp hbody with hbody | hbody
      · exact (ih.2 hbody).lives hlast.lives
      · obtain rfl := List.mem_singleton.mp hbody
        exact hlast.left hends ih.1
  exact hboth.2 hbody

lemma Left.not_applies (h : s.Left k) (hneeds : body.Needs k) : ¬ Applies s body t := by
  obtain ⟨hkind, rfl⟩ := hneeds
  have hheld : ∀ {flow : FlowController} {stream : StreamState}, s.flow = some flow →
      flow.streams.lookup body.streamId = some stream → False := by
    intro flow stream hf hl
    have hstatus := h.status
    rw [status_of_flow hf, FlowController.status, hl] at hstatus
    cases hstatus
  intro happly
  cases happly with
  | handshakes _ hbody =>
    exact Body.not_isPlain_of_needsStream hkind (Body.isPlain_of_handshakes hbody)
  | data _ hf hstep =>
    obtain ⟨stream, hl, -⟩ := debitReceive_eq_ok hstep
    exact hheld hf hl
  | credited _ hf hstep =>
    rcases receiveWindowUpdate_eq_ok hstep with ⟨hzero, -⟩ | ⟨stream, hl, -⟩
    · exact h.ne_zero hzero
    · exact hheld hf hl
  | halfClosed _ hf hstep =>
    obtain ⟨stream, hl, -⟩ := receiveHalfClose_eq_ok hstep
    exact hheld hf hl
  | closes _ hf hstep =>
    obtain ⟨stream, hl, -⟩ := rejectOrClose_eq_ok.mp hstep
    exact hheld hf hl
  | plain _ hplain => exact Body.not_isPlain_of_needsStream hkind hplain
  | _ => cases hkind

end Session

namespace Turn

variable {s t : Session} {k : UInt64} {out out' inn inn' : List GatewayFrame}

lemma numbered (h : Turn s out inn t out' inn') (hs : s.Numbered) : t.Numbered := by
  cases h with
  | idles hidle => exact hs.of_flow hidle.flow
  | closes _ hflow => exact hs.of_flow hflow
  | queues hqueue => exact hqueue.lives.numbered hs
  | waits | sends => exact hs.of_flow rfl
  | applies _ _ _ happly => exact happly.lives.numbered (hs.of_flow rfl)

lemma left (h : Turn s out inn t out' inn') (hs : s.Left k) : t.Left k := by
  cases h with
  | idles hidle => exact hs.of_flow hidle.flow
  | closes _ hflow => exact hs.of_flow hflow
  | queues hqueue => exact hs.lives hqueue.lives
  | waits | sends => exact hs.of_flow rfl
  | applies _ _ _ happly => exact hs.counted.lives happly.lives

end Turn

lemma Session.Left.refusing (k : UInt64) : Refusing (Body.Needs k) (Session.Left k) where
  refuses h hneeds := h.counted.not_applies hneeds
  turn hturn h := hturn.left h

lemma Pair.Negotiated.numbered {p : Pair} (hp : p.Negotiated) (side : PeerRole) :
    (p.session side).Numbered := by
  intro k x hx
  obtain ⟨flow, hf, hstreams, -⟩ := hp.fresh side
  rw [Session.status_of_flow hf, status, hstreams] at hx
  cases hx

theorem close_crossing {p q r : Pair} {before after : List PairAction} {side : PeerRole}
    {c : Call} {now : ℕ} {body : Body} (hp : p.Negotiated) (hbefore : Trace Pair.Step p before q)
    (hbody : body ∈ (q.session side).queues c now) (hends : body.endsStream = true)
    (hafter : Trace Pair.Step (q.act (.call side c now)) after r) :
    (q.act (.call side c now)).Crossed side (Body.Needs body.streamId) r := by
  refine Pair.crossed_of_refusing (Session.Left.refusing _) ?_ hafter
  have hnumbered : (q.session side).Numbered :=
    Pair.session_of_run (fun hturn hs => hturn.numbered hs) hbefore (hp.numbered side)
  rw [Pair.act, Pair.session_withSession]
  rcases Session.call_cases (q.session side) c now with ⟨hnone, -⟩ | htrace
  · rw [hnone] at hbody
    cases hbody
  · exact .trace htrace hnumbered hbody hends

namespace Sample

def closeUnread : List PairAction :=
  writeThree ++ [.call .server (.closeStream 1 .cancelled) 0]

end Sample

open Sample in
theorem close_crossing_unread :
    (pair.runs closeUnread).Travels .client (Body.Needs 1) ∧
      (pair.runs closeUnread).Crossed .server (Body.Needs 1)
        ((pair.runs closeUnread).runs [.flush .server, .receive .client 0]) := by
  have hbody : Body.closeStream ⟨1, CloseCode.cancelled.toInt32⟩ ∈
      ((pair.runs writeThree).session .server).queues (.closeStream 1 .cancelled) 0 := by
    decide +kernel
  exact ⟨by decide +kernel, close_crossing pair_negotiated
    (Pair.trace_runs _ writeThree) hbody rfl (Pair.trace_runs _ _)⟩

open Sample in
theorem close_crossing_closes :
    ((pair.runs closeUnread).session .server).phase = .active ∧
      (pair.runs closeUnread).Travels .client (Body.Needs 1) ∧
      ((pair.runs (closeUnread ++ [.receive .server 0])).session .server).phase =
        .closed := by
  decide +kernel

end OnionRoute.GatewayProtocol
