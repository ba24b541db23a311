import OnionRoute.Library.RoundRobin
import OnionRoute.GatewayProtocol.SchedulerOutcomes

/-! The scheduler over whole runs. -/

namespace OnionRoute.GatewayProtocol

open Library RoundRobin

inductive SchedulerCall
  | enqueueControl (item : OutboundItem)
  | enqueueStream (streamId : UInt64) (item : OutboundItem)
  | popNext
  | cancelStream (streamId : UInt64)

def accounted (items : List OutboundItem) : ℕ :=
  (items.map OutboundItem.accountedBytes).sum

@[simp] lemma accounted_nil : accounted [] = 0 := rfl

@[simp] lemma accounted_cons (item : OutboundItem) (items : List OutboundItem) :
    accounted (item :: items) = item.accountedBytes + accounted items := by
  simp [accounted]

@[simp] lemma accounted_append (items items' : List OutboundItem) :
    accounted (items ++ items') = accounted items + accounted items' := by
  simp [accounted]

lemma foldl_accounted (items : List OutboundItem) (sum : ℕ) (h : sum + accounted items ≤ u64Max) :
    items.foldl (fun sum item => min (sum + item.accountedBytes) u64Max) sum =
      sum + accounted items := by
  induction items generalizing sum with
  | nil => rfl
  | cons item items ih =>
    rw [accounted_cons] at h
    have hmin : min (sum + item.accountedBytes) u64Max = sum + item.accountedBytes := by omega
    rw [List.foldl_cons, hmin, ih _ (by omega), accounted_cons]
    omega

namespace FairScheduler

def served (s : FairScheduler) : Option UInt64 :=
  if s.popNext.2.control = s.control then s.active.head? else none

def perform (s : FairScheduler) : SchedulerCall → Move UInt64 OutboundItem × FairScheduler
  | .enqueueControl item =>
    match s.enqueueControl item with
    | .ok t => (.push none item, t)
    | .error _ => (.idle, s)
  | .enqueueStream k item =>
    match s.enqueueStream k item with
    | .ok t => (.push (some k) item, t)
    | .error _ => (.idle, s)
  | .popNext =>
    match s.popNext with
    | (some item, t) => (.pop s.served item, t)
    | (none, t) => (.idle, t)
  | .cancelStream k => (.cancel k, s.cancelStream k)

def Step (s : FairScheduler) (m : Move UInt64 OutboundItem) (t : FairScheduler) : Prop :=
  ∃ call, s.perform call = (m, t)

def rota (s : FairScheduler) : Rota UInt64 OutboundItem :=
  ⟨s.control, s.queueOf, s.active, s.controlBurst⟩

variable {s t : FairScheduler} {item : OutboundItem} {k : UInt64} {m : Move UInt64 OutboundItem}

lemma served_of_control (h : s.popNext.2.control ≠ s.control) : s.served = none :=
  if_neg h

lemma served_of_stream (h : s.popNext.2.control = s.control) : s.served = s.active.head? :=
  if_pos h

lemma perform_popNext (s : FairScheduler) :
    s.perform .popNext =
      (s.popNext.1.elim .idle fun item => .pop s.served item, s.popNext.2) := by
  simp only [perform]
  split
  next h => simp [h]
  next h => simp [h]

inductive Moved (s : FairScheduler) : Move UInt64 OutboundItem → FairScheduler → Prop
  | idle : Moved s .idle s
  | pushControl {item : OutboundItem} (h : s.canEnqueueControl item.accountedBytes = .ok ()) :
      Moved s (.push none item) (s.pushControl item)
  | pushStream {k : UInt64} {item : OutboundItem}
      (h : s.canEnqueueStream k item.accountedBytes = .ok ()) :
      Moved s (.push (some k) item) (s.pushStream k item)
  | popControl {item : OutboundItem} {rest : List OutboundItem} (hc : s.control = item :: rest)
      (hb : s.controlBurst < maxControlBurst ∨ s.active = []) :
      Moved s (.pop none item) { s with
        control := rest
        controlBurst := s.controlBurst + 1
        queuedBytes := s.queuedBytes - item.accountedBytes }
  | popStream {k : UInt64} {rest : List UInt64} {item : OutboundItem} {items : List OutboundItem}
      (ha : s.active = k :: rest) (hq : s.queueOf k = item :: items) :
      Moved s (.pop (some k) item) (s.serveStream k rest item items)
  | cancel (k : UInt64) : Moved s (.cancel k) (s.cancelStream k)

lemma Step.moved (hs : s.rota.Sound) (h : s.Step m t) : s.Moved m t := by
  obtain ⟨call, hcall⟩ := h
  cases call with
  | enqueueControl item =>
    simp only [perform] at hcall
    split at hcall <;> obtain ⟨rfl, rfl⟩ := Prod.mk.inj hcall
    next hok =>
      obtain ⟨_, hcan, ht⟩ := bind_eq_ok.mp hok
      obtain rfl := Except.ok.inj ht
      exact .pushControl hcan
    next => exact .idle
  | enqueueStream k item =>
    simp only [perform] at hcall
    split at hcall <;> obtain ⟨rfl, rfl⟩ := Prod.mk.inj hcall
    next hok =>
      obtain ⟨_, hcan, ht⟩ := bind_eq_ok.mp hok
      obtain rfl := Except.ok.inj ht
      exact .pushStream hcan
    next => exact .idle
  | popNext =>
    rw [perform_popNext] at hcall
    obtain ⟨rfl, rfl⟩ := Prod.mk.inj hcall
    have hpop := popNext_popped s
    have hcontrol := served_of_control (s := s)
    have hstream := served_of_stream (s := s)
    generalize s.popNext.1 = result at hpop ⊢
    generalize s.popNext.2 = t at hpop hcontrol hstream ⊢
    cases hpop with
    | empty => exact .idle
    | @stale k _ ha hq => exact absurd hq ((hs.active k).mp (by simp [rota, ha]))
    | control hc hb =>
      simp only [Option.elim_some, hcontrol (by simp [hc])]
      exact .popControl hc hb
    | stream ha hq =>
      simp only [Option.elim_some, hstream rfl, ha, List.head?_cons]
      exact .popStream ha hq
  | cancelStream k =>
    obtain ⟨rfl, rfl⟩ := Prod.mk.inj hcall
    exact .cancel k

variable {items : List OutboundItem}

lemma rota_of_queueOf (h : ∀ j, t.queueOf j = if j = k then items else s.queueOf j) :
    t.rota = ⟨t.control, Function.update s.queueOf k items, t.active, t.controlBurst⟩ := by
  have hqueue : t.queueOf = Function.update s.queueOf k items := by
    funext j
    rw [h, Function.update_apply]
  rw [rota, hqueue]

lemma Moved.rota_step (h : s.Moved m t) : Rota.Step maxControlBurst s.rota m t.rota := by
  cases h with
  | idle => exact .idle
  | pushControl => exact .pushControl _
  | pushStream =>
    rw [rota_of_queueOf queueOf_pushStream]
    exact .push (r := s.rota) _ _
  | popControl hc hb => exact .popControl hc hb
  | popStream ha hq =>
    rw [rota_of_queueOf (queueOf_serveStream _ _)]
    exact .pop (r := s.rota) ha hq
  | cancel k =>
    rw [rota_of_queueOf queueOf_cancelStream]
    exact .cancel (r := s.rota) k

structure Accounted (s : FairScheduler) : Prop where
  streams : ∀ k, s.perStreamBytes.lookup k =
    if s.queueOf k = [] then none else some (accounted (s.queueOf k))
  total : s.queuedBytes = accounted s.control + Table.sumBy accounted s.streams
  perStream : ∀ k, accounted (s.queueOf k) ≤ s.maximumQueuedBytesPerStream
  limit : s.queuedBytes ≤ s.maximumQueuedBytes
  word : s.queuedBytes ≤ u64Max
  frames : s.control.length ≤ s.maximumControlFrames

namespace Accounted

variable (h : s.Accounted)
include h

lemma streamBytes (k : UInt64) : s.streamBytes k = accounted (s.queueOf k) := by
  rw [FairScheduler.streamBytes, h.streams k]
  split
  next hq => simp [hq]
  next => rfl

lemma split (k : UInt64) : s.queuedBytes =
    accounted s.control + (accounted (s.queueOf k) + Table.sumBy accounted (s.streams.erase k)) := by
  rw [h.total, sumBy_streams accounted_nil s k]

lemma pushControl (hcan : s.canEnqueueControl item.accountedBytes = .ok ()) :
    (s.pushControl item).Accounted := by
  simp only [canEnqueueControl, reserveGlobal, guard_eq_ok, ite_throw_eq_ok, not_le, ge_iff_le,
    gt_iff_lt, not_lt] at hcan
  obtain ⟨hlen, hmax, hle, -⟩ := hcan
  have htotal := h.total
  refine ⟨h.streams, ?_, h.perStream, hle, hmax, ?_⟩
  · simp only [FairScheduler.pushControl, accounted_append, accounted_cons, accounted_nil]
    omega
  · simp only [FairScheduler.pushControl, List.length_append, List.length_singleton]
    omega

lemma pushStream (hcan : s.canEnqueueStream k item.accountedBytes = .ok ()) :
    (s.pushStream k item).Accounted := by
  simp only [canEnqueueStream, reserveGlobal, bind_eq_ok, guard_eq_ok, ite_throw_eq_ok,
    gt_iff_lt, not_lt] at hcan
  obtain ⟨_, ⟨hmax, hle, -⟩, -, hper, -⟩ := hcan
  have hsplit := h.split k
  have hk := h.streamBytes k
  refine ⟨fun j => ?_, ?_, fun j => ?_, hle, hmax, h.frames⟩
  · rw [queueOf_pushStream]
    by_cases hj : j = k
    · subst hj
      simp [FairScheduler.pushStream, hk]
    · simp [FairScheduler.pushStream, hj, h.streams j]
  · simp only [FairScheduler.pushStream, Table.sumBy_insert, accounted_append, accounted_cons,
      accounted_nil]
    omega
  · rw [queueOf_pushStream]
    split
    · rw [accounted_append, accounted_cons, accounted_nil, ← hk]
      exact hper
    · exact h.perStream j

lemma popControl {rest : List OutboundItem} (hc : s.control = item :: rest) :
    Accounted { s with
      control := rest
      controlBurst := s.controlBurst + 1
      queuedBytes := s.queuedBytes - item.accountedBytes } := by
  have htotal := h.total
  have hlimit := h.limit
  have hword := h.word
  have hframes := h.frames
  rw [hc, accounted_cons] at htotal
  rw [hc, List.length_cons] at hframes
  refine ⟨h.streams, ?_, h.perStream, ?_, ?_, ?_⟩ <;> simp only <;> omega

lemma serveStream {rest : List UInt64} (hq : s.queueOf k = item :: items) :
    (s.serveStream k rest item items).Accounted := by
  have hsplit := h.split k
  have hk := h.streamBytes k
  have hper := h.perStream k
  have hlimit := h.limit
  have hword := h.word
  rw [hq, accounted_cons] at hsplit hk hper
  have hsub : s.streamBytes k - item.accountedBytes = accounted items := by omega
  refine ⟨fun j => ?_, ?_, fun j => ?_, ?_, ?_, h.frames⟩
  · rw [queueOf_serveStream]
    by_cases hj : j = k
    · subst hj
      by_cases hi : items = [] <;> simp [FairScheduler.serveStream, hi, hsub]
    · by_cases hi : items = [] <;> simp [FairScheduler.serveStream, hi, hj, h.streams j]
  · rw [sumBy_streams accounted_nil _ k, queueOf_serveStream, if_pos rfl, erase_serveStream]
    simp only [FairScheduler.serveStream]
    omega
  · rw [queueOf_serveStream]
    split
    · exact (Nat.le_add_left _ _).trans hper
    · exact h.perStream j
  · exact (Nat.sub_le _ _).trans hlimit
  · exact (Nat.sub_le _ _).trans hword

lemma cancelStream (k : UInt64) : (s.cancelStream k).Accounted := by
  have hsplit := h.split k
  have hword := h.word
  -- the saturating sum of the source is exact, as the queue is part of what is counted
  have hsum := foldl_accounted (s.queueOf k) 0 (by omega)
  refine ⟨fun j => ?_, ?_, fun j => ?_, (Nat.sub_le _ _).trans h.limit,
    (Nat.sub_le _ _).trans hword, h.frames⟩
  · rw [queueOf_cancelStream]
    by_cases hj : j = k
    · subst hj
      simp [FairScheduler.cancelStream]
    · simp [FairScheduler.cancelStream, hj, h.streams j]
  · simp only [FairScheduler.cancelStream, hsum]
    omega
  · rw [queueOf_cancelStream]
    split
    · exact Nat.zero_le _
    · exact h.perStream j

lemma moved (hm : s.Moved m t) : t.Accounted := by
  cases hm with
  | idle => exact h
  | pushControl hcan => exact h.pushControl hcan
  | pushStream hcan => exact h.pushStream hcan
  | popControl hc => exact h.popControl hc
  | popStream _ hq => exact h.serveStream hq
  | cancel k => exact h.cancelStream k

end Accounted

structure Bookkept (s : FairScheduler) (moves : List (Move UInt64 OutboundItem)) : Prop where
  nodup : s.active.Nodup
  active : ∀ k, k ∈ s.active ↔ s.queueOf k ≠ []
  accounted : s.Accounted
  control : (Move.logs none moves).1 = (Move.logs none moves).2 ++ s.control
  stream : ∀ k, (Move.logs (some k) moves).1 = (Move.logs (some k) moves).2 ++ s.queueOf k

lemma new_inv {maximum perStream frames : ℕ} (h : new maximum perStream frames = .ok s) :
    s.rota = ⟨[], fun _ => [], [], 0⟩ ∧ s.Accounted := by
  rw [new, ite_throw_eq_ok] at h
  obtain ⟨-, rfl⟩ := h
  refine ⟨rfl, fun k => rfl, rfl, fun k => Nat.zero_le _, Nat.zero_le _, Nat.zero_le _,
    Nat.zero_le _⟩

end FairScheduler

theorem scheduler_bookkeeping {maximum perStream frames : ℕ} {s t : FairScheduler}
    {moves : List (Move UInt64 OutboundItem)} (hnew : FairScheduler.new maximum perStream frames = .ok s)
    (h : Trace FairScheduler.Step s moves t) : t.Bookkept moves := by
  obtain ⟨hrota, haccounted⟩ := FairScheduler.new_inv hnew
  have hsound : s.rota.Sound := by
    rw [hrota]
    exact ⟨List.nodup_nil, by simp⟩
  obtain ⟨hrun, ht, hbytes⟩ : Trace (Rota.Step maxControlBurst) s.rota moves t.rota ∧ t.rota.Sound ∧
      t.Accounted := by
    induction h with
    | nil => exact ⟨.nil _, hsound, haccounted⟩
    | snoc _ hstep ih =>
      obtain ⟨hrun, hs, hbytes⟩ := ih
      have hmoved := hstep.moved hs
      exact ⟨hrun.snoc hmoved.rota_step, hs.step hmoved.rota_step, hbytes.moved hmoved⟩
  have hlog := fun l => Rota.log_run hrun l (by rw [hrota]; cases l <;> rfl)
  exact ⟨ht.nodup, ht.active, hbytes, hlog none, fun k => hlog (some k)⟩

namespace Sample

def smallScheduler : FairScheduler where
  control := []
  streams := ∅
  perStreamBytes := ∅
  active := []
  queuedBytes := 0
  maximumQueuedBytes := 1024
  maximumQueuedBytesPerStream := 512
  maximumControlFrames := 64
  controlBurst := 0

def item (k : UInt64) (marker : UInt8) : OutboundItem := ⟨.data ⟨k, [marker]⟩, 1⟩

lemma scheduler_run : Trace FairScheduler.Step smallScheduler
    [.push (some 1) (item 1 7), .push (some 1) (item 1 8), .pop (some 1) (item 1 7)]
    ((smallScheduler.pushStream 1 (item 1 7)).pushStream 1 (item 1 8)).popNext.2 :=
  .snoc (.snoc (.single ⟨.enqueueStream 1 (item 1 7), rfl⟩) ⟨.enqueueStream 1 (item 1 8), rfl⟩)
    ⟨.popNext, rfl⟩

end Sample

open Sample in
theorem scheduler_bookkeeping_three :
    FairScheduler.new 1024 512 64 = .ok smallScheduler ∧
      ((smallScheduler.pushStream 1 (item 1 7)).pushStream 1
        (item 1 8)).popNext.2.Bookkept
        [.push (some 1) (item 1 7), .push (some 1) (item 1 8),
          .pop (some 1) (item 1 7)] :=
  have hnew : FairScheduler.new 1024 512 64 = .ok smallScheduler := rfl
  ⟨hnew, scheduler_bookkeeping hnew scheduler_run⟩

end OnionRoute.GatewayProtocol
