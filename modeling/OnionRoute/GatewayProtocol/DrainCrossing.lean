import OnionRoute.GatewayProtocol.CreditSafety
import OnionRoute.GatewayProtocol.Crossing

/-! The gateway goes away while requests of the client are on their way or unanswered. -/

namespace OnionRoute.GatewayProtocol

open Library

def Body.isRequest : Body → Bool
  | .openTcpStream _ | .resolveDomain _ => true
  | _ => false

namespace Session

variable {s t : Session} {body : Body}

def Drained (s : Session) : Prop :=
  s.phase = .draining ∨ s.phase = .closed

lemma Drained.ne_active (h : s.Drained) : s.phase ≠ .active := by
  rcases h with h | h <;> rw [h] <;> exact SessionPhase.noConfusion

lemma Drained.not_handshaking (h : s.Drained) : ¬ s.Handshaking := by
  rintro (hh | hh | hh | hh) <;> rcases h with h | h <;> rw [hh] at h <;> cases h

lemma Drained.not_applies (h : s.Drained) (hbody : body.isRequest = true) :
    ¬ s.counted.Applies body t := by
  intro happly
  cases happly with
  | handshakes hhand => exact h.not_handshaking hhand
  | opens hactive => exact h.ne_active hactive
  | plain _ hplain _ _ _ _ hresolve =>
    cases body with
    | resolveDomain message => exact h.ne_active (hresolve message rfl)
    | openTcpStream => cases hplain
    | _ => cases hbody
  | _ => cases hbody

lemma requireActiveServer_of_ne (h : s.phase ≠ .active) :
    requireActiveServer s = .error .closed s := by
  simp [requireActiveServer, check, h, throw, throwThe, MonadExceptOf.throw]

structure AnswersNothing (s : Session) : Prop where
  accept : ∀ k window now, acceptTcp k window now s = .error .closed s
  reject : ∀ message, rejectTcp message s = .error .closed s
  resolve : ∀ message, resolveResult message s = .error .closed s

lemma Drained.answersNothing (h : s.Drained) : s.AnswersNothing := by
  have hrequire := requireActiveServer_of_ne h.ne_active
  constructor
  · intro k window now
    simp only [acceptTcp, bind, EStateM.bind, hrequire]
  · intro message
    simp only [rejectTcp, bind, EStateM.bind, hrequire]
  · intro message
    simp only [resolveResult, bind, EStateM.bind, hrequire]

lemma beginGoAway_atomic (message : GoAway) (s : Session) :
    Atomic (beginGoAway message) s fun _ t => t.phase = .draining := by
  refine (requireActiveOrDraining_atomic s).bind fun _ _ => ?_
  have hqueue := queueControlBody_atomic (.goAway message) s
  simp only [Atomic] at hqueue
  simp only [Atomic, bind, EStateM.bind]
  cases hq : queueControlBody (.goAway message) s with
  | error e t =>
    rw [hq] at hqueue
    exact hqueue
  | ok u t => rfl

lemma drained_of_goAway {message : GoAway} {now : ℕ}
    (h : s.queues (.beginGoAway message) now ≠ []) : (s.call (.beginGoAway message) now).Drained := by
  have hatomic := beginGoAway_atomic message s
  simp only [queues, Call.run, ne_eq] at h
  simp only [Atomic] at hatomic
  simp only [Session.call, Call.run, finalState]
  cases hrun : beginGoAway message s with
  | ok u t =>
    rw [hrun] at hatomic
    exact .inl hatomic
  | error e t =>
    rw [hrun] at h
    exact absurd rfl h

end Session

lemma Turn.drained {s t : Session} {out out' inn inn' : List GatewayFrame}
    (h : Turn s out inn t out' inn') (hs : s.Drained) : t.Drained := by
  have hsame : t.phase = s.phase → t.Drained := fun hp => by rwa [Session.Drained, hp]
  cases h with
  | idles hidle => exact hsame (hidle.phase.resolve_right fun hh => hs.not_handshaking hh.1)
  | queues hqueue =>
    rcases hqueue.phase with hp | ⟨-, hp⟩
    · exact hsame hp
    · exact .inl hp
  | waits | sends => exact hsame rfl
  | closes _ _ hphase => exact .inr hphase
  | applies _ _ _ happly => exact happly.phase.elim hsame id

lemma Session.Drained.refusing :
    Refusing (fun body => body.isRequest = true) Session.Drained where
  refuses h hbody := h.not_applies hbody
  turn hturn h := hturn.drained h

structure Pair.Draining (q r : Pair) : Prop where
  drained : (r.session .server).Drained
  answersNothing : (r.session .server).AnswersNothing
  requests : q.Crossed .server (fun body => body.isRequest = true) r

theorem drain_crossing {q r : Pair} {after : List PairAction} {message : GoAway} {now : ℕ}
    (hgone : (q.session .server).queues (.beginGoAway message) now ≠ [])
    (hafter : Trace Pair.Step (q.act (.call .server (.beginGoAway message) now)) after r) :
    (q.act (.call .server (.beginGoAway message) now)).Draining r := by
  have hstart : ((q.act (.call .server (.beginGoAway message) now)).session .server).Drained := by
    rw [Pair.act, Pair.session_withSession]
    exact Session.drained_of_goAway hgone
  have hdrained : (r.session .server).Drained :=
    Pair.session_of_run (fun hturn hs => hturn.drained hs) hafter hstart
  exact ⟨hdrained, hdrained.answersNothing,
    Pair.crossed_of_refusing Session.Drained.refusing hstart hafter⟩

namespace Sample

def goAway : GoAway :=
  ⟨0, 1, 1000⟩

def drainUnread : List PairAction :=
  [.call .client (.openTcp openRequest) 0, .flush .client, .call .server (.beginGoAway goAway) 0]

def drainUnanswered : List PairAction :=
  [.call .client (.openTcp openRequest) 0, .flush .client, .receive .server 0,
    .call .server (.beginGoAway goAway) 0]

end Sample

open Sample in
theorem drain_crossing_unread :
    (pair.runs drainUnread).Travels .client (fun body => body.isRequest = true) ∧
      (pair.runs drainUnread).Draining
        ((pair.runs drainUnread).runs [.flush .server, .receive .client 0]) := by
  have hgone : ((pair.runs (drainUnread.take 2)).session .server).queues
      (.beginGoAway goAway) 0 ≠ [] := by decide +kernel
  exact ⟨by decide +kernel, drain_crossing hgone (Pair.trace_runs _ _)⟩

open Sample in
theorem drain_crossing_closes :
    (((pair.runs drainUnread).session .server).phase = .draining ∧
      ((pair.runs (drainUnread ++ [.receive .server 0])).session .server).phase =
        .closed) ∧
    ((pair.runs (drainUnanswered.take 3)).session .server).queues
        (.acceptTcp 1 4096) 0 ≠ [] ∧
      ((pair.runs drainUnanswered).session .server).phase = .draining ∧
      ((pair.runs drainUnanswered).session .server).queues (.acceptTcp 1 4096) 0 =
        [] := by
  decide +kernel

end OnionRoute.GatewayProtocol
