import OnionRoute.GatewayProtocol.WireOrder

/-! The answer to a stream that is to be opened; an open stream can be rejected as well. -/

namespace OnionRoute.GatewayProtocol

open Library FairScheduler

def Body.answers (k : UInt64) : Body → Bool
  | .tcpStreamOpened message => message.streamId = k
  | .tcpStreamRejected message => message.streamId = k
  | _ => false

def answersOn (k : UInt64) (events : List Event) : List Body :=
  (events.flatMap Event.queued).filter (Body.answers k)

def PeerRole.opening : PeerRole → StreamPhase
  | .client => .openingLocal
  | .server => .openingRemote

def Session.InTime (s : Session) : Body → Prop
  | .tcpStreamRejected message => (s.status message.streamId).map Status.phase ≠ some .open
  | _ => True

instance (s : Session) : DecidablePred s.InTime := by
  intro body
  apply Body.casesOn (motive := fun body => Decidable (s.InTime body)) body <;> intro message <;>
    dsimp only [Session.InTime] <;> infer_instance

def Event.InTime (e : Event) : Prop :=
  match e.action with
  | .call c _ => ∀ body ∈ c.body, e.before.InTime body
  | .receive frame _ => ∀ body ∈ frame.body, e.before.InTime body
  | _ => True

instance (e : Event) : Decidable e.InTime := by
  apply Action.casesOn (motive := fun action => Decidable (Event.InTime { e with action })) e.action <;>
    intros <;> dsimp only [Event.InTime] <;> infer_instance

lemma Event.InTime.callsMeet {e : Event} (h : e.InTime) : e.CallsMeet Session.InTime := by
  unfold Event.InTime at h
  unfold Event.CallsMeet
  cases ha : e.action with
  | call c now =>
    rw [ha] at h
    exact h
  | _ => trivial

structure Event.RejectsWaiting (e : Event) : Prop where
  rejects : ∀ message, .tcpStreamRejected message ∈ e.queued →
    (e.before.status message.streamId).map Status.phase = some .openingRemote
  rejected : ∀ frame now message body t, e.action = .receive frame now →
    frame.body = some (.tcpStreamRejected message) →
    Session.receive frame now e.before = .ok body t →
    (e.before.status message.streamId).map Status.phase = some .openingLocal

structure OneAnswer (events : List Event) (t : Session) : Prop where
  answers : ∀ k, (answersOn k events).length ≤ 1
  rejectsWaiting : ∀ e ∈ events, e.RejectsWaiting
  live : ∀ k, t.scheduler.queueOf k ≠ [] → (t.status k).isSome

variable {message : TcpStreamRejected}

namespace Status.Turns

variable {side : Side} {k : UInt64} {body : Body} {x y : Option Status} {v : Status} {half : Bool}

lemma of_answer (h : Turns .own k body x y) (hans : body.answers k = true) :
    (∃ half, x = some ⟨.openingRemote, half⟩ ∧ y = some ⟨.open, half⟩) ∨
      ∃ message v, body = .tcpStreamRejected message ∧ message.streamId = k ∧ x = some v ∧
        y = none := by
  cases h with
  | opened => exact .inl ⟨_, rfl, rfl⟩
  | rejected hk => exact .inr ⟨_, _, rfl, hk, rfl, rfl⟩
  | elsewhere hne =>
    cases body with
    | tcpStreamOpened | tcpStreamRejected => exact absurd (of_decide_eq_true hans) hne
    | _ => cases hans
  | plain hplain =>
    cases body with
    | tcpStreamOpened | tcpStreamRejected => cases hplain
    | _ => cases hans
  | _ => cases hans

lemma of_rejected (h : Turns side message.streamId (.tcpStreamRejected message) x y) :
    ∃ v, x = some v := by
  generalize hk : message.streamId = k at h
  cases h with
  | elsewhere hne => exact absurd hk hne
  | rejected => exact ⟨_, rfl⟩
  | plain hplain => cases hplain

lemma of_held (h : Turns side k body x (some v)) :
    (∃ w, x = some w ∧ (v.phase = w.phase ∨ v.phase = .open)) ∨
      v.phase = side.offers ∧ body.offered = [k] := by
  cases h with
  | elsewhere | credited | plain | data | halfCloses => exact .inl ⟨_, rfl, .inl rfl⟩
  | opened => exact .inl ⟨_, rfl, .inr rfl⟩
  | opens hk => exact .inr ⟨rfl, by rw [← hk]; rfl⟩

lemma keeps_open (h : Turns side k body (some ⟨.open, half⟩) y) :
    (∃ half', y = some ⟨.open, half'⟩) ∨
      (∃ message, body = .tcpStreamRejected message ∧ message.streamId = k) ∨
      ∃ message, body = .closeStream message ∧ message.streamId = k := by
  generalize hx : some (Status.mk .open half) = x at h
  cases h with
  | elsewhere | credited | plain => exact .inl ⟨half, hx.symm⟩
  | opens => cases hx
  | opened | data | halfCloses => exact .inl ⟨_, rfl⟩
  | rejected hk => exact .inr (.inl ⟨_, rfl, hk⟩)
  | closes hk => exact .inr (.inr ⟨_, rfl, hk⟩)

end Status.Turns

namespace Session

variable {s t : Session} {side : Side} {k : UInt64} {body : Body} {answers : List Body}

lemma Queue.localRole_of_rejected (h : Queue s (.tcpStreamRejected message) t) :
    s.localRole = .server := by
  have hq := h.queues
  generalize t.flow = flow at hq
  generalize t.scheduler = scheduler at hq
  generalize hbody : Body.tcpStreamRejected message = body at hq
  cases hq with
  | rejects _ hrole => exact hrole
  | plain hplain =>
    subst hbody
    cases hplain
  | handshakes hhand =>
    subst hbody
    cases hhand
  | _ => cases hbody

lemma Queue.queueOf_cases (h : Queue s body t) (hk : t.scheduler.queueOf k ≠ []) :
    s.scheduler.queueOf k ≠ [] ∧ (∀ message, body = .closeStream message → message.streamId ≠ k) ∨
      body.isData = true ∧ body.streamId = k := by
  rcases h.scheduler_cases with ⟨size, -, hclose, hsched⟩ | ⟨message, size, rfl, -, hsched⟩ |
    ⟨message, size, rfl, hsched⟩
  · refine .inl ⟨by simpa [hsched] using hk, fun message hbody => absurd hbody (hclose message)⟩
  · by_cases heq : k = message.streamId
    · exact .inr ⟨rfl, heq.symm⟩
    · rw [hsched, queueOf_pushStream, if_neg heq] at hk
      exact .inl ⟨hk, fun _ => Body.noConfusion⟩
  · rw [hsched, queueOf_pushControl, queueOf_cancelStream] at hk
    split at hk
    next => exact absurd rfl hk
    next heq =>
      refine .inl ⟨hk, ?_⟩
      rintro _ ⟨⟩
      exact Ne.symm heq

lemma Applies.queueOf_cases (h : Applies s body t) (hk : t.scheduler.queueOf k ≠ []) :
    s.scheduler.queueOf k ≠ [] ∧ ∀ message, body = .closeStream message → message.streamId ≠ k := by
  rcases h.scheduler_cases with ⟨hsched, hclose⟩ | ⟨message, rfl, hsched⟩
  · exact ⟨hsched ▸ hk, fun message hbody => absurd hbody (hclose message)⟩
  · rw [hsched, queueOf_cancelStream] at hk
    split at hk
    next => exact absurd rfl hk
    next heq =>
      refine ⟨hk, ?_⟩
      rintro _ ⟨⟩
      exact Ne.symm heq

structure Answering (k : UInt64) (s : Session) (answers : List Body) : Prop where
  numbered : s.Numbered
  opening : ∀ x, s.status k = some x → x.phase = .open ∨ x.phase = s.localRole.opening
  answered : answers.length ≤ 1
  unseen : s.maximumSeen < k → answers = []
  waiting : ∀ x, s.status k = some x → x.phase = .openingRemote → answers = []
  queued : s.scheduler.queueOf k ≠ [] → ∃ half, s.status k = some ⟨.open, half⟩

namespace Answering

lemma opening_of_inTime (h : Answering message.streamId s answers)
    (htime : s.InTime (.tcpStreamRejected message)) {x : Status}
    (hx : s.status message.streamId = some x) : x.phase = s.localRole.opening := by
  refine (h.opening x hx).resolve_left fun hopen => htime ?_
  rw [hx, Option.map_some, hopen]

section

variable (h : Answering k s answers)
include h

lemma lives (hl : Lives side s body t) (hrole : t.localRole = s.localRole) :
    (∀ x, t.status k = some x → x.phase = .open ∨ x.phase = t.localRole.opening) ∧
      (t.maximumSeen < k → answers = []) ∧
      ∀ x, t.status k = some x → x.phase = .openingRemote → answers = [] := by
  have hturns := hl.turns k
  refine ⟨fun x hx => ?_, fun hlt => h.unseen (UInt64.lt_of_le_of_lt hl.maximumSeen_le hlt),
    fun x hx hphase => ?_⟩
  · rw [hx] at hturns
    rw [hrole]
    rcases hturns.of_held with ⟨w, hw, hsame | hopen⟩ | ⟨hoffers, hoffer⟩
    · rw [hsame]
      exact h.opening w hw
    · exact .inl hopen
    · rcases hl.seen with ⟨hnone, -⟩ | ⟨hopener, -, -⟩
      · rw [hnone] at hoffer
        cases hoffer
      · refine .inr ?_
        rw [hopener, hoffers]
        cases side <;> rfl
  · rw [hx] at hturns
    rcases hturns.of_held with ⟨w, hw, hsame | hopen⟩ | ⟨-, hoffer⟩
    · exact h.waiting w hw (hsame.symm.trans hphase)
    · rw [hopen] at hphase
      cases hphase
    · rcases hl.seen with ⟨hnone, -⟩ | ⟨-, hone, hlt⟩
      · rw [hnone] at hoffer
        cases hoffer
      · rw [hone] at hoffer
        rw [(List.cons.inj hoffer).1] at hlt
        exact h.unseen hlt

lemma stays_open (hl : Lives side s body t) (htime : s.InTime body)
    (hk : s.scheduler.queueOf k ≠ [])
    (hclose : ∀ message, body = .closeStream message → message.streamId ≠ k) :
    ∃ half, t.status k = some ⟨.open, half⟩ := by
  obtain ⟨half, hx⟩ := h.queued hk
  have hturns := hl.turns k
  rw [hx] at hturns
  rcases hturns.keeps_open with hopen | ⟨message, rfl, rfl⟩ | ⟨message, hbody, hid⟩
  · exact hopen
  · exact absurd (by rw [hx]; rfl) htime
  · exact absurd hid (hclose message hbody)

lemma queue_answers (hq : QueueWhere InTime s body t) (hans : body.answers k = true) :
    answers = [] ∧ k ≤ s.maximumSeen ∧
      ∀ x, t.status k = some x → x.phase = .open := by
  obtain ⟨hq, htime⟩ := hq
  rcases (hq.lives.turns k).of_answer hans with ⟨half, hx, hy⟩ | ⟨message, v, rfl, rfl, hx, hy⟩
  · refine ⟨h.waiting _ hx rfl, h.numbered k _ hx, ?_⟩
    rintro x hx'
    rw [hy] at hx'
    cases hx'
    rfl
  · have hphase := h.opening_of_inTime htime hx
    rw [hq.localRole_of_rejected] at hphase
    refine ⟨h.waiting v hx hphase, h.numbered _ _ hx, ?_⟩
    rintro x hx'
    rw [hy] at hx'
    cases hx'

lemma queue (hq : QueueWhere InTime s body t) :
    Answering k t (answers ++ [body].filter (Body.answers k)) := by
  have hlives := hq.1.lives
  obtain ⟨hopening, hunseen, hwaiting⟩ := h.lives hlives hq.1.kept.localRole
  have hqueued : t.scheduler.queueOf k ≠ [] → ∃ half, t.status k = some ⟨.open, half⟩ := by
    intro hk
    rcases hq.1.queueOf_cases hk with ⟨hk, hclose⟩ | ⟨hdata, hk⟩
    · exact h.stays_open hlives hq.2 hk hclose
    · have hturns := hlives.turns k
      rw [hturns.of_data hdata hk] at hturns
      rcases hturns.keeps_open with hopen | ⟨message, rfl, -⟩ | ⟨message, rfl, -⟩
      · exact hopen
      · cases hdata
      · cases hdata
  cases hans : body.answers k with
  | false =>
    have hnone : [body].filter (Body.answers k) = [] := by simp [hans]
    rw [hnone, List.append_nil]
    exact ⟨hlives.numbered h.numbered, hopening, h.answered, hunseen, hwaiting, hqueued⟩
  | true =>
    obtain ⟨rfl, hle, hopen⟩ := h.queue_answers hq hans
    have hone : [] ++ [body].filter (Body.answers k) = [body] := by simp [hans]
    rw [hone]
    refine ⟨hlives.numbered h.numbered, hopening, Nat.le_refl _, fun hlt => ?_, ?_, hqueued⟩
    · exact absurd (UInt64.le_trans hle hlives.maximumSeen_le) (UInt64.not_le.mpr hlt)
    · intro x hx hphase
      rw [hopen x hx] at hphase
      cases hphase

lemma apply (ha : Applies s body t) (htime : s.InTime body) : Answering k t answers := by
  obtain ⟨hopening, hunseen, hwaiting⟩ := h.lives ha.lives ha.kept.localRole
  refine ⟨ha.lives.numbered h.numbered, hopening, h.answered, hunseen, hwaiting, fun hk => ?_⟩
  obtain ⟨hk, hclose⟩ := ha.queueOf_cases hk
  exact h.stays_open ha.lives htime hk hclose

lemma trace {bodies : List Body} (ht : Trace (QueueWhere InTime) s bodies t) :
    Answering k t (answers ++ bodies.filter (Body.answers k)) := by
  induction ht with
  | nil => simpa using h
  | snoc _ hlast ih =>
    rw [List.filter_append, ← List.append_assoc]
    exact ih.queue hlast

lemma shrink (hrole : t.localRole = s.localRole) (hflow : t.flow = s.flow)
    (hqueue : t.scheduler.queueOf k ⊆ s.scheduler.queueOf k) : Answering k t answers := by
  have hseen : t.maximumSeen = s.maximumSeen := Session.maximumSeen_of_flow hflow
  have hstatus := status_congr hflow k
  refine ⟨h.numbered.of_flow hflow, ?_, h.answered, hseen ▸ h.unseen, ?_, fun hk => ?_⟩
  · rw [hstatus, hrole]
    exact h.opening
  · rw [hstatus]
    exact h.waiting
  · rw [hstatus]
    refine h.queued fun hnil => hk ?_
    rw [hnil] at hqueue
    exact List.subset_nil.mp hqueue

lemma step {e : Event} (hstep : Step s e t) (he : e.InTime) :
    Answering k t (answers ++ e.queued.filter (Body.answers k)) := by
  have hwhere := hstep.queues_where (fun _ _ => trivial) he.callsMeet
  have hbefore := hstep.1
  have ho := hstep.outcome
  generalize e.queued = bodies at ho hwhere
  generalize e.sent = frame at ho
  cases ho with
  | idles hidle =>
    have hsame := h.shrink hidle.kept.localRole hidle.flow
      (by rw [hidle.scheduler]; exact List.Subset.refl _)
    simpa using hsame
  | queues _ htrace => exact h.trace (hwhere htrace)
  | waits | sends =>
    rw [List.filter_nil, List.append_nil]
    exact h.shrink rfl rfl (queueOf_popNext_subset s.scheduler k)
  | closes hrole hflow _ _ hqueue =>
    have hsame := h.shrink hrole hflow (hqueue k).subset
    simpa using hsame
  | @applies frame now body _ haction _ _ hbody happly =>
    have htime : s.counted.InTime body := by
      rw [Event.InTime, haction] at he
      have hbody' := he body hbody
      rw [hbefore] at hbody'
      exact hbody'
    have hcounted := h.shrink (t := s.counted) rfl rfl (List.Subset.refl _)
    simpa using hcounted.apply happly htime

end

lemma rejectsWaiting {e : Event} (h : ∀ k, ∃ answers, Answering k s answers) (hstep : Step s e t)
    (he : e.InTime) : e.RejectsWaiting := by
  have hbefore := hstep.1
  constructor
  · intro message hmem
    obtain ⟨hqueue, htime⟩ := hstep.queued_where he.callsMeet hmem fun _ => Body.noConfusion
    obtain ⟨answers, hk⟩ := h message.streamId
    have hans : (Body.tcpStreamRejected message).answers message.streamId = true := by
      simp [Body.answers]
    rw [hbefore]
    rcases (hqueue.lives.turns message.streamId).of_answer hans with ⟨half, hx, -⟩ |
      ⟨_, x, -, -, hx, -⟩
    · rw [hx]
      rfl
    · rw [hx, Option.map_some, hk.opening_of_inTime htime hx, hqueue.localRole_of_rejected]
      rfl
  · intro frame now message body u haction hbody hreceive
    rw [hbefore] at hreceive ⊢
    have htime : s.InTime (.tcpStreamRejected message) := by
      rw [Event.InTime, haction, hbefore] at he
      exact he _ hbody
    have hcases := receive_cases s frame now
    rw [hreceive] at hcases
    generalize hr : EStateM.Result.ok body u = r at hcases
    cases hcases with
    | accepted _ _ hbody' happly =>
      obtain rfl := Option.some.inj (hbody'.symm.trans hbody)
      have happlied := applyInbound_cases (.tcpStreamRejected message) now s.counted
      rw [happly] at happlied
      obtain ⟨x, hx⟩ := (happlied.lives.turns message.streamId).of_rejected
      have hstatus : s.status message.streamId = some x := hx
      obtain ⟨answers, hk⟩ := h message.streamId
      have hrole : s.localRole = .client := happlied.localRole_of_answer (.inr ⟨_, rfl⟩)
      rw [hstatus, Option.map_some, hk.opening_of_inTime htime hstatus, hrole]
      rfl
    | _ => cases hr

end Answering

lemma Fresh.answering (h : s.Fresh) (k : UInt64) : Answering k s [] := by
  have hnone : ∀ {x}, s.status k = some x → False := fun hx => by
    rw [h.status k] at hx
    cases hx
  refine ⟨fun j x hx => ?_, fun x hx => (hnone hx).elim, Nat.zero_le _, fun _ => rfl,
    fun x hx => (hnone hx).elim, fun hk => ?_⟩
  · rw [h.status j] at hx
    cases hx
  · rw [queueOf, h.streams] at hk
    exact absurd rfl hk

end Session

theorem one_answer {s t : Session} {events : List Event} (h : Trace Session.Step s events t)
    (hfresh : s.Fresh) (htime : ∀ e ∈ events, e.InTime) : OneAnswer events t := by
  have hrun : (∀ k, Session.Answering k t (answersOn k events)) ∧
      ∀ e ∈ events, e.RejectsWaiting := by
    induction h with
    | nil => exact ⟨hfresh.answering, fun _ he => absurd he List.not_mem_nil⟩
    | @snoc events t u e hrun hstep ih =>
      obtain ⟨hk, hwaiting⟩ := ih fun e he => htime e (List.mem_append_left _ he)
      have he := htime e (List.mem_append_right _ List.mem_cons_self)
      refine ⟨fun k => ?_, fun e' he' => ?_⟩
      · have hstep' := (hk k).step hstep he
        simpa [answersOn] using hstep'
      · rcases List.mem_append.mp he' with he' | he'
        · exact hwaiting e' he'
        · obtain rfl := List.mem_singleton.mp he'
          exact Session.Answering.rejectsWaiting (fun k => ⟨_, hk k⟩) hstep he
  obtain ⟨hk, hwaiting⟩ := hrun
  refine ⟨fun k => (hk k).answered, hwaiting, fun k hqueue => ?_⟩
  obtain ⟨half, hstatus⟩ := (hk k).queued hqueue
  rw [hstatus]
  rfl

namespace Sample

def rejection (k : UInt64) : TcpStreamRejected :=
  ⟨k, 5, 1⟩

def answerTwo : List Action :=
  [inbound 1 (.openTcpStream openRequest), .call (.acceptTcp 1 4096) 0,
    .call (.tryQueueData 1 [1, 2, 3]) 0,
    inbound 2 (.openTcpStream { openRequest with streamId := 3 }),
    .call (.rejectTcp (rejection 3)) 0]

def answerTwice : List Action :=
  [inbound 1 (.openTcpStream openRequest), .call (.acceptTcp 1 4096) 0,
    .call (.tryQueueData 1 [1, 2, 3]) 0, .call (.rejectTcp (rejection 1)) 0]

def rejectedOpen : List Action :=
  openStream ++ [.call (.tryQueueData 1 [1, 2, 3]) 0, inbound 2 (.tcpStreamRejected (rejection 1))]

end Sample

open Sample in
theorem one_answer_two :
    OneAnswer ((session .server).eventsOf answerTwo)
      ((session .server).runs answerTwo) :=
  one_answer (Session.trace_eventsOf _ _) (session_fresh .server) (by decide +kernel)

open Sample in
/-- The gateway answers twice, and on either side data waits on a stream that is gone. -/
theorem two_answers :
    ((answersOn 1 ((session .server).eventsOf answerTwice)).length = 2 ∧
      ¬ OneAnswer ((session .server).eventsOf answerTwice)
        ((session .server).runs answerTwice)) ∧
    ((session .client).runs rejectedOpen).phase = .active ∧
      ¬ OneAnswer ((session .client).eventsOf rejectedOpen)
        ((session .client).runs rejectedOpen) := by
  refine ⟨⟨by decide +kernel, fun h => ?_⟩, by decide +kernel, fun h => ?_⟩
  · exact absurd (h.answers 1) (by decide +kernel)
  · exact absurd (h.live 1) (by decide +kernel)

end OnionRoute.GatewayProtocol
