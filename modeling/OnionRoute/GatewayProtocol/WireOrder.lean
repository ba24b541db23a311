import OnionRoute.GatewayProtocol.CreditConservation

/-! The order in which the frames of one stream leave the two queues of a session. -/

namespace OnionRoute.GatewayProtocol

open Library FairScheduler Session

def onStream (k : UInt64) (bodies : List Body) : List Body :=
  bodies.filter fun body => body.streamId = k

def queuedOn (k : UInt64) (events : List Event) : List Body :=
  onStream k (events.flatMap Event.queued)

def sentOn (k : UInt64) (events : List Event) : List Body :=
  onStream k (events.filterMap fun e => e.sent.bind GatewayFrame.body)

def Body.isHalfClose : Body → Bool
  | .halfClose _ => true
  | _ => false

def Answered (bodies : List Body) : Prop :=
  ∀ before message after, bodies = before ++ .data message :: after →
    ∃ answer, .tcpStreamOpened answer ∈ before

structure LeavesInOrder (k : UInt64) (s : Session) (events : List Event) : Prop where
  order : (sentOn k events).Sublist (queuedOn k events)
  halfClose : (sentOn k events).Pairwise fun a b => a.isHalfClose → ¬ b.isData
  opened : s.localRole = .server → Answered (sentOn k events)

def Session.Fits (s : Session) : Body → Prop
  | .data message => ∀ item ∈ s.scheduler.control, item.body.streamId ≠ message.streamId
  | .closeStream _ => True
  | body => body.streamId ≠ 0 → s.scheduler.queueOf body.streamId = []

instance (s : Session) (body : Body) : Decidable (s.Fits body) := by
  apply Body.casesOn (motive := fun body => Decidable (s.Fits body)) body <;> intro message <;>
    dsimp only [Session.Fits] <;> infer_instance

def Event.InTurn (e : Event) : Prop :=
  e.CallsMeet Session.Fits

instance (e : Event) : Decidable e.InTurn :=
  inferInstanceAs (Decidable (e.CallsMeet Session.Fits))

structure Session.Fresh (s : Session) : Prop where
  control : ∀ item ∈ s.scheduler.control, item.body.streamId = 0
  streams : s.scheduler.streams = ∅
  status : ∀ k, s.status k = none

variable {s t : Session} {k : UInt64} {body : Body} {queued sent : List Body}

@[simp] lemma onStream_append (bodies bodies' : List Body) :
    onStream k (bodies ++ bodies') = onStream k bodies ++ onStream k bodies' :=
  List.filter_append _ _

lemma onStream_one (h : body.streamId = k) : onStream k [body] = [body] := by
  simp [onStream, h]

lemma onStream_other (h : body.streamId ≠ k) : onStream k [body] = [] := by
  simp [onStream, h]

variable {item : OutboundItem}

namespace Session

def waitingControl (s : Session) (k : UInt64) : List Body :=
  onStream k (s.scheduler.control.map OutboundItem.body)

def waitingData (s : Session) (k : UInt64) : List Body :=
  (s.scheduler.queueOf k).map OutboundItem.body

def waiting (s : Session) (k : UInt64) : List Body :=
  s.waitingControl k ++ s.waitingData k

def Apart (s : Session) (k : UInt64) : Prop :=
  s.waitingControl k = [] ∨ s.waitingData k = []

lemma Apart.of_sublist (h : s.Apart k) (hcontrol : (t.waitingControl k).Sublist (s.waitingControl k))
    (hdata : (t.waitingData k).Sublist (s.waitingData k)) : t.Apart k := by
  rcases h with hnil | hnil
  · rw [hnil, List.sublist_nil] at hcontrol
    exact .inl hcontrol
  · rw [hnil, List.sublist_nil] at hdata
    exact .inr hdata

lemma queueOf_of_fits (hfit : s.Fits body) (hdata : body.isData = false)
    (hclose : ∀ message, body ≠ .closeStream message) (hzero : s.scheduler.queueOf 0 = []) :
    s.scheduler.queueOf body.streamId = [] := by
  by_cases hk : body.streamId = 0
  · rw [hk]
    exact hzero
  · cases body with
    | data => cases hdata
    | closeStream message => exact absurd rfl (hclose message)
    | _ => exact hfit hk

lemma Queue.waiting (hq : Queue s body t) (hfit : s.Fits body)
    (hzero : s.scheduler.queueOf 0 = []) (hs : s.Apart k) :
    t.Apart k ∧ ∃ kept, kept <+: s.waiting k ∧ t.waiting k = kept ++ onStream k [body] ∧
      (kept = s.waiting k ∨ ∃ message, body = .closeStream message ∧ message.streamId = k) := by
  have helsewhere : body.streamId ≠ k → t.waitingControl k = s.waitingControl k →
      t.waitingData k = s.waitingData k → t.Apart k ∧ ∃ kept, kept <+: s.waiting k ∧
        t.waiting k = kept ++ onStream k [body] ∧
        (kept = s.waiting k ∨ ∃ message, body = .closeStream message ∧ message.streamId = k) := by
    intro hk hcontrol hdata
    refine ⟨?_, s.waiting k, List.prefix_refl _, ?_, .inl rfl⟩
    · rwa [Apart, hcontrol, hdata]
    · rw [onStream_other hk, List.append_nil, Session.waiting, Session.waiting, hcontrol, hdata]
  rcases hq.scheduler_cases with ⟨size, hdata, hclose, hsched⟩ |
    ⟨message, size, rfl, -, hsched⟩ | ⟨message, size, rfl, hsched⟩
  · have hcontrol : t.waitingControl k = s.waitingControl k ++ onStream k [body] := by
      simp [waitingControl, hsched]
    have hsame : t.waitingData k = s.waitingData k := by simp [waitingData, hsched]
    by_cases hk : body.streamId = k
    · have hnil : s.waitingData k = [] := by
        rw [waitingData, ← hk, queueOf_of_fits hfit hdata hclose hzero]
        rfl
      refine ⟨.inr (hsame.trans hnil), s.waiting k, List.prefix_refl _, ?_, .inl rfl⟩
      simp [Session.waiting, hcontrol, hsame, hnil]
    · rw [onStream_other hk, List.append_nil] at hcontrol
      exact helsewhere hk hcontrol hsame
  · have hcontrol : t.waitingControl k = s.waitingControl k := by simp [waitingControl, hsched]
    by_cases hk : message.streamId = k
    · subst hk
      have hnil : s.waitingControl message.streamId = [] := by
        refine List.filter_eq_nil_iff.mpr fun b hb => ?_
        obtain ⟨item, hmem, rfl⟩ := List.mem_map.mp hb
        simpa using hfit item hmem
      have hdata : t.waitingData message.streamId =
          s.waitingData message.streamId ++ [.data message] := by
        simp [waitingData, hsched, queueOf_pushStream]
      have hone : onStream message.streamId [Body.data message] = [.data message] :=
        onStream_one rfl
      refine ⟨.inl (hcontrol.trans hnil), s.waiting _, List.prefix_refl _, ?_, .inl rfl⟩
      rw [waiting, waiting, hcontrol, hnil, hdata, hone]
      rfl
    · refine helsewhere hk hcontrol ?_
      simp [waitingData, hsched, queueOf_pushStream, Ne.symm hk]
  · have hcontrol : t.waitingControl k =
        s.waitingControl k ++ onStream k [.closeStream message] := by
      simp [waitingControl, hsched]
    by_cases hk : message.streamId = k
    · have hdata : t.waitingData k = [] := by
        simp [waitingData, hsched, queueOf_cancelStream, hk]
      refine ⟨.inr hdata, s.waitingControl k, List.prefix_append _ _, ?_, .inr ⟨message, rfl, hk⟩⟩
      rw [waiting, hcontrol, hdata, List.append_nil]
    · have hother : onStream k [Body.closeStream message] = [] := onStream_other hk
      rw [hother, List.append_nil] at hcontrol
      refine helsewhere hk hcontrol ?_
      simp [waitingData, hsched, queueOf_cancelStream, Ne.symm hk]

lemma waiting_popNext (hs : s.scheduler.HoldsData) (hpop : s.scheduler.popNext.1 = some item)
    (hsched : t.scheduler = s.scheduler.popNext.2) (hapart : s.Apart k) :
    t.Apart k ∧ s.waiting k = onStream k [item.body] ++ t.waiting k := by
  rcases popNext_cases s.scheduler with
    ⟨hn, -, -⟩ | ⟨item', hi, hc, hq⟩ | ⟨j, item', items, hi, hc, hq, hq', he⟩
  · rw [hpop] at hn
    cases hn
  · obtain rfl := Option.some.inj (hpop.symm.trans hi)
    have hdata : t.waitingData k = s.waitingData k := by
      rw [waitingData, waitingData, hsched, queueOf, queueOf, hq]
    have hcontrol : s.waitingControl k = onStream k [item.body] ++ t.waitingControl k := by
      rw [waitingControl, waitingControl, hc, hsched, ← onStream_append]
      rfl
    refine ⟨hapart.of_sublist ?_ (by rw [hdata]), ?_⟩
    · rw [hcontrol]
      exact List.sublist_append_right _ _
    · rw [waiting, waiting, hcontrol, hdata, List.append_assoc]
  · obtain rfl := Option.some.inj (hpop.symm.trans hi)
    have hcontrol : t.waitingControl k = s.waitingControl k := by
      rw [waitingControl, waitingControl, hsched, hc]
    obtain ⟨payload, hbody⟩ := hs j item (hq ▸ List.mem_cons_self)
    by_cases hk : j = k
    · subst hk
      have hdata : s.waitingData j = item.body :: t.waitingData j := by
        rw [waitingData, waitingData, hsched, hq, hq']
        rfl
      have hnil : s.waitingControl j = [] :=
        hapart.resolve_right (by rw [hdata]; exact List.cons_ne_nil _ _)
      refine ⟨.inl (hcontrol.trans hnil), ?_⟩
      rw [waiting, waiting, hcontrol, hnil, hdata, onStream_one (by rw [hbody]; rfl)]
      rfl
    · have hdata : t.waitingData k = s.waitingData k := by
        rw [waitingData, waitingData, hsched, queueOf_of_erase he (Ne.symm hk)]
      have hother : item.body.streamId ≠ k := by
        rw [hbody]
        exact hk
      refine ⟨?_, ?_⟩
      · rwa [Apart, hcontrol, hdata]
      · rw [onStream_other hother, waiting, waiting, hcontrol, hdata]
        rfl

lemma Applies.waiting (h : Applies s body t) (hs : s.Apart k) :
    t.Apart k ∧ t.waiting k <+: s.waiting k ∧
      (t.waiting k = s.waiting k ∨ ∃ message, body = .closeStream message ∧
        message.streamId = k) := by
  have hcontrol : t.waitingControl k = s.waitingControl k := by
    rw [waitingControl, waitingControl, h.control]
  have hdata := (h.queueOf_suffix k).sublist.map OutboundItem.body
  refine ⟨hs.of_sublist (by rw [hcontrol]) hdata, ?_⟩
  rw [Session.waiting, Session.waiting, hcontrol, waitingData, waitingData]
  rcases h.scheduler_cases with ⟨hsched, -⟩ | ⟨message, rfl, hsched⟩
  · rw [hsched]
    exact ⟨List.prefix_refl _, .inl rfl⟩
  · rw [hsched, queueOf_cancelStream]
    split
    next hk =>
      rw [List.map_nil, List.append_nil]
      exact ⟨List.prefix_append _ _, .inr ⟨message, rfl, hk.symm⟩⟩
    next => exact ⟨List.prefix_refl _, .inl rfl⟩

end Session

namespace Answered

variable {bodies bodies' : List Body}

lemma nil : Answered [] := by
  rintro before message after heq
  simp at heq

lemma of_initial (h : Answered bodies) (hsub : bodies' <+: bodies) : Answered bodies' := by
  obtain ⟨rest, rfl⟩ := hsub
  rintro before message after rfl
  exact h before message (after ++ rest) (by simp)

lemma snoc (h : Answered bodies)
    (hbody : body.isData = true → ∃ answer, .tcpStreamOpened answer ∈ bodies) :
    Answered (bodies ++ [body]) := by
  intro before message after heq
  rcases List.eq_nil_or_concat after with rfl | ⟨rest, last, rfl⟩
  · obtain ⟨rfl, hlast⟩ := List.append_inj' heq rfl
    obtain rfl := (List.cons.inj hlast).1
    exact hbody rfl
  · rw [List.concat_eq_append, ← List.cons_append, ← List.append_assoc] at heq
    obtain ⟨rfl, -⟩ := List.append_inj' heq rfl
    exact h before message rest rfl

end Answered

structure Lined (k : UInt64) (s : Session) (queued sent : List Body) : Prop where
  holdsData : s.scheduler.HoldsData
  connection : s.scheduler.queueOf 0 = []
  apart : s.Apart k
  order : (sent ++ s.waiting k).Sublist queued

namespace Lined

variable (h : Lined k s queued sent)
include h

lemma queue (hq : s.Queue body t) (hfit : s.Fits body) :
    Lined k t (queued ++ onStream k [body]) sent := by
  obtain ⟨hapart, kept, hkept, hwaiting, -⟩ := hq.waiting hfit h.connection h.apart
  refine ⟨hq.holdsData h.holdsData, ?_, hapart, ?_⟩
  · rcases hq.scheduler_cases with ⟨_, -, -, hsched⟩ | ⟨message, _, -, hk, hsched⟩ |
      ⟨message, _, -, hsched⟩
    · simpa [hsched] using h.connection
    · simpa [hsched, queueOf_pushStream, Ne.symm hk] using h.connection
    · simp [hsched, queueOf_cancelStream, h.connection]
  · rw [hwaiting, ← List.append_assoc]
    exact ((hkept.sublist.append_left _).trans h.order).append_right _

lemma pop (hpop : s.scheduler.popNext.1 = some item)
    (hsched : t.scheduler = s.scheduler.popNext.2) :
    Lined k t queued (sent ++ onStream k [item.body]) := by
  obtain ⟨hapart, hwaiting⟩ := waiting_popNext h.holdsData hpop hsched h.apart
  have hsub := queueOf_popNext_suffix s.scheduler
  refine ⟨?_, ?_, hapart, ?_⟩
  · rw [hsched]
    exact h.holdsData.of_subset fun j => (hsub j).subset
  · have hzero := hsub 0
    rw [h.connection, List.suffix_nil] at hzero
    rw [hsched, hzero]
  · rw [List.append_assoc, ← hwaiting]
    exact h.order

lemma shrink (hcontrol : t.scheduler.control <:+ s.scheduler.control)
    (hqueue : ∀ j, t.scheduler.queueOf j <:+ s.scheduler.queueOf j) : Lined k t queued sent := by
  have hcontrol' : (t.waitingControl k).Sublist (s.waitingControl k) :=
    (hcontrol.sublist.map _).filter _
  have hdata' : (t.waitingData k).Sublist (s.waitingData k) := (hqueue k).sublist.map _
  refine ⟨h.holdsData.of_subset fun j => (hqueue j).subset, ?_,
    h.apart.of_sublist hcontrol' hdata', ?_⟩
  · have hzero := hqueue 0
    rwa [h.connection, List.suffix_nil] at hzero
  · exact ((hcontrol'.append hdata').append_left _).trans h.order

lemma apply (ha : s.Applies body t) : Lined k t queued sent := by
  refine h.shrink ?_ ha.queueOf_suffix
  rw [ha.control]

end Lined

namespace Session

lemma Lives.halfClosed {side : Side} (h : Lives side s body t)
    (hclosed : k ≤ s.maximumSeen ∧ ∀ x, s.status k = some x → x.halfClosed = true) :
    k ≤ t.maximumSeen ∧ ∀ x, t.status k = some x → x.halfClosed = true :=
  ⟨UInt64.le_trans hclosed.1 h.maximumSeen_le,
    (h.turns k).keeps_halfClosed hclosed.2 (h.offered_ne hclosed.1)⟩

structure Silent (k : UInt64) (s : Session) (queued : List Body) : Prop where
  numbered : s.Numbered
  silent : queued.Pairwise fun a b => a.isHalfClose → ¬ b.isData
  halfClosed : ∀ message, .halfClose message ∈ queued → k ≤ s.maximumSeen ∧
    ∀ x, s.status k = some x → x.halfClosed = true

lemma Silent.queue (h : Silent k s queued) (hq : Queue s body t) :
    Silent k t (queued ++ onStream k [body]) := by
  have hnumbered := hq.lives.numbered h.numbered
  have hturns := hq.lives.turns k
  have hmem : ∀ {b}, b ∈ onStream k [body] → b = body ∧ body.streamId = k := by
    intro b hb
    obtain ⟨rfl, hk⟩ : b = body ∧ b.streamId = k := by simpa [onStream] using hb
    exact ⟨rfl, hk⟩
  refine ⟨hnumbered, ?_, ?_⟩
  · refine List.pairwise_append.mpr ⟨h.silent, ?_, ?_⟩
    · exact (List.pairwise_singleton _ _).filter _
    · intro a ha b hb hhalf hdata
      obtain ⟨rfl, hk⟩ := hmem hb
      cases a with
      | halfClose message =>
        obtain ⟨-, hclosed⟩ := h.halfClosed message ha
        cases hclosed _ (hturns.of_data hdata hk)
      | _ => cases hhalf
  · intro message hm
    rcases List.mem_append.mp hm with hm | hm
    · exact hq.lives.halfClosed (h.halfClosed message hm)
    · obtain ⟨rfl, hk⟩ := hmem hm
      generalize s.status k = x at hturns
      generalize hy : t.status k = y at hturns
      cases hturns with
      | elsewhere hne => exact absurd hk hne
      | halfCloses _ hhalf =>
        refine ⟨hnumbered k _ hy, ?_⟩
        rintro _ ⟨⟩
        exact hhalf rfl
      | plain hplain => cases hplain

lemma Silent.apply (h : Silent k s queued) (ha : Applies s body t) : Silent k t queued where
  numbered := ha.lives.numbered h.numbered
  silent := h.silent
  halfClosed message hm := ha.lives.halfClosed (h.halfClosed message hm)

lemma Silent.of_flow (h : Silent k s queued) (hflow : t.flow = s.flow) : Silent k t queued := by
  have hseen : t.maximumSeen = s.maximumSeen := maximumSeen_of_flow hflow
  refine ⟨h.numbered.of_flow hflow, h.silent, fun message hm => ?_⟩
  rw [hseen, status_congr hflow]
  exact h.halfClosed message hm

structure Opening (k : UInt64) (s : Session) (sent : List Body) : Prop where
  left : Answered sent
  waiting : s.phase ≠ .closed → Answered (sent ++ s.waiting k)
  opened : s.phase ≠ .closed → ∀ half, s.status k = some ⟨.open, half⟩ →
    ∃ answer, .tcpStreamOpened answer ∈ sent ++ s.waiting k

namespace Opening

variable (h : Opening k s sent)
include h

lemma queue (hq : Queue s body t) (hfit : s.Fits body) (hlined : Lined k s queued sent) :
    Opening k t sent := by
  obtain ⟨-, kept, hkept, hwaiting, hcases⟩ := hq.waiting hfit hlined.connection hlined.apart
  have hs := hq.before_ne_closed
  have hturns := hq.lives.turns k
  have hanswered : Answered (sent ++ kept) :=
    Answered.of_initial (h.waiting hs) ((List.prefix_append_right_inj _).mpr hkept)
  refine ⟨h.left, fun _ => ?_, fun _ half hstatus => ?_⟩
  · rw [hwaiting, ← List.append_assoc]
    by_cases hk : body.streamId = k
    · rw [onStream_one hk]
      refine hanswered.snoc fun hdata => ?_
      rcases hcases with rfl | ⟨message, rfl, -⟩
      · exact h.opened hs _ (hturns.of_data hdata hk)
      · cases hdata
    · rwa [onStream_other hk, List.append_nil]
  · rw [hstatus] at hturns
    rcases hturns.of_open with ⟨half', hx, hne⟩ | ⟨message, rfl, hk⟩
    · obtain ⟨answer, hmem⟩ := h.opened hs half' hx
      rcases hcases with rfl | ⟨message, rfl, hk⟩
      · exact ⟨answer, by rw [hwaiting, ← List.append_assoc]; exact List.mem_append_left _ hmem⟩
      · exact absurd hk (hne message rfl)
    · have hone : onStream k [Body.tcpStreamOpened message] = [.tcpStreamOpened message] :=
        onStream_one hk
      exact ⟨message, by simp [hwaiting, hone]⟩

lemma apply (ha : Applies s body t) (hs : s.phase ≠ .closed) (hrole : s.localRole = .server)
    (hapart : s.Apart k) : Opening k t sent := by
  obtain ⟨-, hsub, hcases⟩ := ha.waiting hapart
  refine ⟨h.left, fun _ => ?_, fun _ half hstatus => ?_⟩
  · exact Answered.of_initial (h.waiting hs) ((List.prefix_append_right_inj _).mpr hsub)
  · have hturns := ha.lives.turns k
    rw [hstatus] at hturns
    rcases hturns.of_open with ⟨half', hx, hne⟩ | ⟨message, rfl, -⟩
    · rcases hcases with heq | ⟨message, rfl, hk⟩
      · rw [heq]
        exact h.opened hs half' hx
      · exact absurd hk (hne message rfl)
    · rw [ha.localRole_of_answer (.inl ⟨_, rfl⟩)] at hrole
      cases hrole

lemma pop (hlined : Lined k s queued sent) (hs : s.phase ≠ .closed)
    (hpop : s.scheduler.popNext.1 = some item) (hsched : t.scheduler = s.scheduler.popNext.2)
    (hflow : t.flow = s.flow) : Opening k t (sent ++ onStream k [item.body]) := by
  obtain ⟨-, hwaiting⟩ := waiting_popNext hlined.holdsData hpop hsched hlined.apart
  have hsame : sent ++ onStream k [item.body] ++ t.waiting k = sent ++ s.waiting k := by
    rw [List.append_assoc, ← hwaiting]
  refine ⟨?_, fun _ => ?_, fun _ half hstatus => ?_⟩
  · exact Answered.of_initial (h.waiting hs) (hsame ▸ List.prefix_append _ _)
  · rw [hsame]
    exact h.waiting hs
  · rw [hsame]
    exact h.opened hs half (status_congr hflow k ▸ hstatus)

lemma of_same (hphase : t.phase ≠ .closed → s.phase ≠ .closed) (hflow : t.flow = s.flow)
    (hwaiting : t.waiting k = s.waiting k) : Opening k t sent := by
  refine ⟨h.left, fun ht => ?_, fun ht half hstatus => ?_⟩
  · rw [hwaiting]
    exact h.waiting (hphase ht)
  · rw [hwaiting]
    exact h.opened (hphase ht) half (status_congr hflow k ▸ hstatus)

lemma closed (ht : t.phase = .closed) : Opening k t sent :=
  ⟨h.left, fun hne => absurd ht hne, fun hne => absurd ht hne⟩

end Opening

structure Wire (k : UInt64) (s : Session) (queued sent : List Body) : Prop where
  lined : Lined k s queued sent
  silent : Silent k s queued
  opening : s.localRole = .server → Opening k s sent

namespace Wire

variable (h : Wire k s queued sent)
include h

lemma queue (hq : QueueWhere Fits s body t) :
    Wire k t (queued ++ onStream k [body]) sent where
  lined := h.lined.queue hq.1 hq.2
  silent := h.silent.queue hq.1
  opening hrole := (h.opening (hq.1.kept.localRole ▸ hrole)).queue hq.1 hq.2 h.lined

lemma trace {bodies : List Body} (ht : Trace (QueueWhere Fits) s bodies t) :
    Wire k t (queued ++ onStream k bodies) sent := by
  induction ht with
  | nil => simpa [onStream] using h
  | snoc _ hlast ih =>
    rw [onStream_append, ← List.append_assoc]
    exact ih.queue hlast

lemma of_same (hrole : t.localRole = s.localRole) (hphase : t.phase ≠ .closed → s.phase ≠ .closed)
    (hflow : t.flow = s.flow) (hcontrol : t.scheduler.control = s.scheduler.control)
    (hqueue : ∀ j, t.scheduler.queueOf j = s.scheduler.queueOf j) : Wire k t queued sent where
  lined := h.lined.shrink (hcontrol ▸ List.suffix_refl _) fun j => hqueue j ▸ List.suffix_refl _
  silent := h.silent.of_flow hflow
  opening hserver := by
    refine (h.opening (hrole ▸ hserver)).of_same hphase hflow ?_
    simp only [waiting, waitingControl, waitingData, hcontrol, hqueue]

lemma outcome {a : Action} {bodies : List Body} {frame : Option GatewayFrame}
    (ho : Outcome s a bodies frame t)
    (hfits : Trace Queue s bodies t → Trace (QueueWhere Fits) s bodies t) :
    Wire k t (queued ++ onStream k bodies)
      (sent ++ onStream k (frame.bind GatewayFrame.body).toList) := by
  cases ho with
  | idles hidle =>
    have hsame := h.of_same hidle.kept.localRole (mt hidle.closed.mpr) hidle.flow
      (by rw [hidle.scheduler]) fun j => by rw [hidle.scheduler]
    simpa [onStream] using hsame
  | queues _ htrace =>
    have hqueue := h.trace (hfits htrace)
    simpa [onStream] using hqueue
  | waits hopen hpop =>
    have hsame := h.of_same (t := { s with scheduler := s.scheduler.popNext.2 }) rfl (fun _ => hopen)
      rfl (control_of_popNext_none hpop) (queueOf_of_popNext_none hpop)
    simpa [onStream] using hsame
  | @sends item hopen hpop =>
    have hlined := h.lined.pop (t := { s with
      scheduler := s.scheduler.popNext.2
      nextSendSequence := s.nextSendSequence + 1 }) hpop rfl
    have hopening := fun hrole => (h.opening hrole).pop (t := { s with
      scheduler := s.scheduler.popNext.2
      nextSendSequence := s.nextSendSequence + 1 }) h.lined hopen hpop rfl rfl
    have hsilent := h.silent.of_flow (t := { s with
      scheduler := s.scheduler.popNext.2
      nextSendSequence := s.nextSendSequence + 1 }) rfl
    rw [onStream, List.filter_nil, List.append_nil]
    exact ⟨hlined, hsilent, hopening⟩
  | closes hrole hflow hclosed hcontrol hqueue =>
    rw [onStream, List.filter_nil, List.append_nil]
    simp only [Option.bind_none, Option.toList_none, onStream, List.filter_nil, List.append_nil]
    exact ⟨h.lined.shrink hcontrol hqueue, h.silent.of_flow hflow,
      fun hserver => (h.opening (hrole ▸ hserver)).closed hclosed⟩
  | applies _ hopen _ _ happly =>
    have hcounted := h.of_same (t := s.counted) rfl id rfl rfl fun _ => rfl
    have hwire : Wire k t queued sent :=
      ⟨hcounted.lined.apply happly, hcounted.silent.apply happly, fun hrole =>
        have hserver := happly.kept.localRole ▸ hrole
        (hcounted.opening hserver).apply happly hopen hserver hcounted.lined.apart⟩
    simpa [onStream] using hwire

lemma step {e : Event} (hstep : Step s e t) (hturn : e.InTurn) :
    Wire k t (queued ++ onStream k e.queued)
      (sent ++ onStream k (e.sent.bind GatewayFrame.body).toList) := by
  exact h.outcome hstep.outcome (hstep.queues_where (fun _ _ => trivial) hturn)

end Wire

end Session

lemma queuedOn_snoc (events : List Event) (e : Event) :
    queuedOn k (events ++ [e]) = queuedOn k events ++ onStream k e.queued := by
  simp [queuedOn]

lemma sentOn_snoc (events : List Event) (e : Event) :
    sentOn k (events ++ [e]) =
      sentOn k events ++ onStream k (e.sent.bind GatewayFrame.body).toList := by
  rw [sentOn, List.filterMap_append, onStream_append]
  cases hsent : e.sent.bind GatewayFrame.body <;> simp [hsent, sentOn]

lemma Session.Fresh.wire (h : s.Fresh) (hk : k ≠ 0) : Wire k s [] [] := by
  have hqueue : ∀ j, s.scheduler.queueOf j = [] := by
    intro j
    rw [queueOf, h.streams]
    rfl
  have hcontrol : s.waitingControl k = [] := by
    refine List.filter_eq_nil_iff.mpr fun b hb => ?_
    obtain ⟨item, hmem, rfl⟩ := List.mem_map.mp hb
    simpa [h.control item hmem] using hk.symm
  have hwaiting : s.waiting k = [] := by
    rw [waiting, hcontrol, waitingData, hqueue]
    rfl
  refine ⟨⟨fun j item hitem => ?_, hqueue 0, .inl hcontrol, by simp [hwaiting]⟩,
    ⟨fun j x hx => ?_, .nil, fun message hm => absurd hm List.not_mem_nil⟩, fun _ => ⟨.nil, ?_, ?_⟩⟩
  · rw [hqueue] at hitem
    cases hitem
  · rw [h.status j] at hx
    cases hx
  · rw [hwaiting]
    exact fun _ => .nil
  · intro _ half hx
    rw [h.status k] at hx
    cases hx

theorem leaves_in_order {events : List Event} (h : Trace Session.Step s events t)
    (hfresh : s.Fresh) (hturn : ∀ e ∈ events, e.InTurn) (hk : k ≠ 0) :
    LeavesInOrder k s events := by
  have hwire : Session.Wire k t (queuedOn k events) (sentOn k events) ∧
      t.localRole = s.localRole := by
    induction h with
    | nil => exact ⟨hfresh.wire hk, rfl⟩
    | @snoc events t u e hrun hstep ih =>
      obtain ⟨ih, hrole⟩ := ih fun e he => hturn e (List.mem_append_left _ he)
      rw [queuedOn_snoc, sentOn_snoc]
      exact ⟨ih.step hstep (hturn e (by simp)), hstep.outcome.localRole.trans hrole⟩
  obtain ⟨hwire, hrole⟩ := hwire
  have horder : (sentOn k events).Sublist (queuedOn k events) :=
    (List.sublist_append_left _ _).trans hwire.lined.order
  exact ⟨horder, hwire.silent.silent.sublist horder,
    fun hserver => (hwire.opening (hrole.trans hserver)).left⟩

namespace Sample

def halfCloseAfter : List Action :=
  openStream ++ [.call (.tryQueueData 1 [1, 2, 3]) 0, .flush, .call (.halfClose 1) 0, .flush]

def halfCloseWaiting : List Action :=
  openStream ++ [.call (.tryQueueData 1 [1, 2, 3]) 0, .call (.halfClose 1) 0, .flush, .flush]

def answerWaiting : List Action :=
  inbound 1 (.openTcpStream openRequest) ::
    List.replicate 8 (.call (.queueControl (.ping ⟨[1, 2, 3, 4, 5, 6, 7, 8]⟩)) 0) ++
    [.call (.acceptTcp 1 4096) 0, .call (.tryQueueData 1 [1, 2, 3]) 0] ++ List.replicate 10 .flush

lemma session_fresh (localRole : PeerRole) : (session localRole).Fresh where
  control _ hitem := absurd hitem List.not_mem_nil
  streams := rfl
  status _ := rfl

end Sample

open Sample in
theorem leaves_in_order_halfClose :
    LeavesInOrder 1 (session .client)
      ((session .client).eventsOf halfCloseAfter) :=
  leaves_in_order (Session.trace_eventsOf _ _) (session_fresh .client) (by decide +kernel)
    (by decide)

open Sample in
/-- The half-close overtakes the data, and the gateway's data overtakes the answer. -/
theorem leaves_out_of_order :
    ¬ LeavesInOrder 1 (session .client)
        ((session .client).eventsOf halfCloseWaiting) ∧
      ¬ LeavesInOrder 1 (session .server)
        ((session .server).eventsOf answerWaiting) := by
  constructor
  · intro h
    exact absurd h.halfClose (by decide +kernel)
  · intro h
    have hsent : sentOn 1 ((session .server).eventsOf answerWaiting) =
        [.data ⟨1, [1, 2, 3]⟩, .tcpStreamOpened ⟨1, 4096⟩] := by decide +kernel
    obtain ⟨answer, hmem⟩ := h.opened rfl [] _ _ hsent
    cases hmem

end OnionRoute.GatewayProtocol
