import OnionRoute.Library.Outcome
import OnionRoute.GatewayProtocol.Scheduler

/-! What the scheduler holds, seen through its queues, and what each method does to it. -/

namespace OnionRoute.GatewayProtocol

open Library

def load (weight : Body → ℕ) (items : List OutboundItem) : ℕ :=
  (items.map fun item => weight item.body).sum

@[simp] lemma load_nil (weight : Body → ℕ) : load weight [] = 0 := rfl

@[simp] lemma load_cons (weight : Body → ℕ) (item : OutboundItem) (items : List OutboundItem) :
    load weight (item :: items) = weight item.body + load weight items := by
  simp [load]

@[simp] lemma load_append (weight : Body → ℕ) (items items' : List OutboundItem) :
    load weight (items ++ items') = load weight items + load weight items' := by
  simp [load]

namespace FairScheduler

variable {s s' : FairScheduler} {item : OutboundItem} {k : UInt64}

def total (weight : Body → ℕ) (s : FairScheduler) : ℕ :=
  load weight s.control + Table.sumBy (load weight) s.streams

lemma sumBy_streams {f : List OutboundItem → ℕ} (hf : f [] = 0) (s : FairScheduler) (k : UInt64) :
    Table.sumBy f s.streams = f (s.queueOf k) + Table.sumBy f (s.streams.erase k) := by
  cases h : s.streams.lookup k with
  | none => simp [queueOf, h, Table.erase_of_lookup h, hf]
  | some q => rw [Table.sumBy_of_lookup h, queueOf, h, Option.getD_some]

variable {u : Unit} {bytes : ℕ}

lemma enqueueControl_eq_ok (h : s.canEnqueueControl bytes = .ok u) (body : Body) :
    enqueueControl ⟨body, bytes⟩ s = .ok (s.pushControl ⟨body, bytes⟩) := by
  rw [enqueueControl, h]
  rfl

lemma enqueueStream_eq_ok (h : s.canEnqueueStream k bytes = .ok u) (body : Body) :
    enqueueStream k ⟨body, bytes⟩ s = .ok (s.pushStream k ⟨body, bytes⟩) := by
  rw [enqueueStream, h]
  rfl

lemma canEnqueueControl_cancelStream (h : s.canEnqueueControl bytes = .ok u) :
    (s.cancelStream k).canEnqueueControl bytes = .ok () := by
  simp only [canEnqueueControl, reserveGlobal, guard_eq_ok, ite_throw_eq_ok, not_le, ge_iff_le,
    gt_iff_lt, not_lt, cancelStream] at h ⊢
  obtain ⟨hlen, hmax, hle, -⟩ := h
  exact ⟨hlen, by omega, by omega, trivial⟩

@[simp] lemma control_pushControl : (s.pushControl item).control = s.control ++ [item] := rfl

@[simp] lemma queueOf_pushControl (j : UInt64) :
    (s.pushControl item).queueOf j = s.queueOf j := rfl

@[simp] lemma total_pushControl (weight : Body → ℕ) :
    (s.pushControl item).total weight = s.total weight + weight item.body := by
  simp [total, pushControl]
  omega

@[simp] lemma control_pushStream : (s.pushStream k item).control = s.control := rfl

lemma queueOf_pushStream (j : UInt64) :
    (s.pushStream k item).queueOf j =
      if j = k then s.queueOf k ++ [item] else s.queueOf j := by
  by_cases hj : j = k
  · subst hj
    simp [pushStream, queueOf]
  · simp [pushStream, queueOf, hj]

@[simp] lemma total_pushStream (weight : Body → ℕ) :
    (s.pushStream k item).total weight = s.total weight + weight item.body := by
  have hsplit := sumBy_streams (load_nil weight) s k
  simp only [total, pushStream, Table.sumBy_insert, load_append, load_cons, load_nil]
  omega

@[simp] lemma control_cancelStream : (s.cancelStream k).control = s.control := rfl

lemma queueOf_cancelStream (j : UInt64) :
    (s.cancelStream k).queueOf j = if j = k then [] else s.queueOf j := by
  by_cases hj : j = k
  · subst hj
    simp [cancelStream, queueOf]
  · simp [cancelStream, queueOf, hj]

lemma total_cancelStream (weight : Body → ℕ) :
    s.total weight = (s.cancelStream k).total weight + load weight (s.queueOf k) := by
  have hsplit := sumBy_streams (load_nil weight) s k
  simp only [total, cancelStream]
  omega

def serveStream (k : UInt64) (rest : List UInt64) (item : OutboundItem) (items : List OutboundItem)
    (s : FairScheduler) : FairScheduler :=
  { s with
    controlBurst := 0
    queuedBytes := s.queuedBytes - item.accountedBytes
    active := if items = [] then rest else rest ++ [k]
    streams := if items = [] then s.streams.erase k else s.streams.insert k items
    perStreamBytes := if items = [] then s.perStreamBytes.erase k
      else s.perStreamBytes.insert k (s.streamBytes k - item.accountedBytes) }

lemma queueOf_serveStream (rest : List UInt64) (items : List OutboundItem) (j : UInt64) :
    (s.serveStream k rest item items).queueOf j = if j = k then items else s.queueOf j := by
  by_cases hi : items = [] <;> by_cases hj : j = k
  · subst hj
    simp [serveStream, queueOf, hi]
  · simp [serveStream, queueOf, hi, hj]
  · subst hj
    simp [serveStream, queueOf, hi]
  · simp [serveStream, queueOf, hi, hj]

lemma erase_serveStream (rest : List UInt64) (items : List OutboundItem) :
    (s.serveStream k rest item items).streams.erase k = s.streams.erase k := by
  rw [serveStream]
  split
  · exact Table.erase_erase_self _ _
  · exact Table.erase_insert_self _ _ _

inductive Popped (s : FairScheduler) : Option OutboundItem → FairScheduler → Prop
  | empty (hc : s.control = []) (ha : s.active = []) : Popped s none s
  | stale {k : UInt64} {rest : List UInt64} (ha : s.active = k :: rest) (hq : s.queueOf k = []) :
      Popped s none { s with active := rest }
  | control {item : OutboundItem} {rest : List OutboundItem} (hc : s.control = item :: rest)
      (hb : s.controlBurst < maxControlBurst ∨ s.active = []) :
      Popped s (some item) { s with
        control := rest
        controlBurst := s.controlBurst + 1
        queuedBytes := s.queuedBytes - item.accountedBytes }
  | stream {k : UInt64} {rest : List UInt64} {item : OutboundItem} {items : List OutboundItem}
      (ha : s.active = k :: rest) (hq : s.queueOf k = item :: items) :
      Popped s (some item) (s.serveStream k rest item items)

lemma popNext_popped (s : FairScheduler) : Popped s s.popNext.1 s.popNext.2 := by
  rw [popNext]
  split
  next h =>
    obtain ⟨item, rest, hc⟩ := List.exists_cons_of_ne_nil h.1
    simp only [popControl, hc]
    exact .control hc h.2
  next h =>
    cases ha : s.active with
    | nil =>
      have hc : s.control = [] := by_contra fun hne => h ⟨hne, .inr ha⟩
      simp only [popControl, hc]
      exact .empty hc ha
    | cons k rest =>
      cases hq : s.queueOf k with
      | nil =>
        simp only [popStream, hq]
        exact .stale ha hq
      | cons item items =>
        have hserve : s.popStream k rest = (some item, s.serveStream k rest item items) := by
          simp only [popStream, hq, serveStream]
          by_cases hi : items = []
          · simp only [hi, if_true]
          · simp only [hi, if_false]
            rfl
        simp only [hserve]
        exact .stream ha hq

lemma popNext_cases (s : FairScheduler) :
    (s.popNext.1 = none ∧ s.popNext.2.control = s.control ∧
      s.popNext.2.streams = s.streams) ∨
    (∃ item, s.popNext.1 = some item ∧ s.control = item :: s.popNext.2.control ∧
      s.popNext.2.streams = s.streams) ∨
    ∃ k item items, s.popNext.1 = some item ∧ s.popNext.2.control = s.control ∧
      s.queueOf k = item :: items ∧ s.popNext.2.queueOf k = items ∧
      s.popNext.2.streams.erase k = s.streams.erase k := by
  have hpop := popNext_popped s
  generalize s.popNext.1 = result at hpop
  generalize s.popNext.2 = t at hpop
  cases hpop with
  | empty | stale => exact .inl ⟨rfl, rfl, rfl⟩
  | control hc => exact .inr (.inl ⟨_, rfl, hc, rfl⟩)
  | @stream k _ item items _ hq =>
    refine .inr (.inr ⟨k, item, items, rfl, rfl, hq, ?_, erase_serveStream _ _⟩)
    rw [queueOf_serveStream, if_pos rfl]

lemma control_of_popNext_none (h : s.popNext.1 = none) : s.popNext.2.control = s.control := by
  rcases popNext_cases s with ⟨-, hc, -⟩ | ⟨item, hi, -, -⟩ | ⟨k, item, items, hi, -, -, -, -⟩
  · exact hc
  · rw [h] at hi
    cases hi
  · rw [h] at hi
    cases hi

lemma queueOf_of_popNext_none (h : s.popNext.1 = none) (j : UInt64) :
    s.popNext.2.queueOf j = s.queueOf j := by
  rcases popNext_cases s with ⟨-, -, hs⟩ | ⟨item, hi, -, -⟩ | ⟨k, item, items, hi, -, -, -, -⟩
  · rw [queueOf, queueOf, hs]
  · rw [h] at hi
    cases hi
  · rw [h] at hi
    cases hi

lemma queueOf_of_erase {j : UInt64} (h : s'.streams.erase k = s.streams.erase k) (hj : j ≠ k) :
    s'.queueOf j = s.queueOf j := by
  rw [queueOf, queueOf, ← Table.lookup_erase_of_ne s'.streams hj, h,
    Table.lookup_erase_of_ne s.streams hj]

lemma total_popNext (weight : Body → ℕ) (s : FairScheduler) :
    s.total weight =
      s.popNext.1.elim 0 (fun item => weight item.body) + s.popNext.2.total weight := by
  rcases popNext_cases s with ⟨hn, hc, hs⟩ | ⟨item, hi, hc, hs⟩ |
    ⟨k, item, items, hi, hc, hq, hq', he⟩
  · simp [total, hn, hc, hs]
  · simp only [total, hi, hs, Option.elim_some]
    rw [hc, load_cons]
    omega
  · have hsplit := sumBy_streams (load_nil weight) s k
    have hsplit' := sumBy_streams (load_nil weight) s.popNext.2 k
    rw [hq, load_cons] at hsplit
    rw [hq', he] at hsplit'
    simp only [total, hi, hc, Option.elim_some]
    omega

def HoldsData (s : FairScheduler) : Prop :=
  ∀ j, ∀ item ∈ s.queueOf j, ∃ payload, item.body = .data ⟨j, payload⟩

lemma HoldsData.of_subset (h : s.HoldsData) (hsub : ∀ j, s'.queueOf j ⊆ s.queueOf j) :
    s'.HoldsData :=
  fun j _ hi => h j _ (hsub j hi)

lemma control_popNext_suffix (s : FairScheduler) : s.popNext.2.control <:+ s.control := by
  rcases popNext_cases s with ⟨-, hc, -⟩ | ⟨item, -, hc, -⟩ | ⟨k, item, items, -, hc, -, -, -⟩
  · rw [hc]
  · rw [hc]
    exact List.suffix_cons _ _
  · rw [hc]

lemma queueOf_popNext_suffix (s : FairScheduler) (j : UInt64) :
    s.popNext.2.queueOf j <:+ s.queueOf j := by
  rcases popNext_cases s with ⟨-, -, hs⟩ | ⟨_, -, -, hs⟩ | ⟨k, item, items, -, -, hq, hq', he⟩
  · rw [queueOf, queueOf, hs]
  · rw [queueOf, queueOf, hs]
  · by_cases hj : j = k
    · subst hj
      rw [hq, hq']
      exact List.suffix_cons _ _
    · rw [queueOf_of_erase he hj]

lemma queueOf_popNext_subset (s : FairScheduler) (j : UInt64) :
    s.popNext.2.queueOf j ⊆ s.queueOf j :=
  (queueOf_popNext_suffix s j).subset

lemma queueOf_cancelStream_suffix (j : UInt64) :
    (s.cancelStream k).queueOf j <:+ s.queueOf j := by
  rw [queueOf_cancelStream]
  split
  · exact List.nil_suffix
  · exact List.suffix_refl _

lemma queueOf_cancelStream_subset (j : UInt64) : (s.cancelStream k).queueOf j ⊆ s.queueOf j :=
  (queueOf_cancelStream_suffix j).subset

lemma HoldsData.pushStream (h : s.HoldsData) {payload : Bytes} {size : ℕ} :
    (s.pushStream k ⟨.data ⟨k, payload⟩, size⟩).HoldsData := by
  intro j item hi
  rw [queueOf_pushStream] at hi
  split at hi
  next hj =>
    subst hj
    rcases List.mem_append.mp hi with hi | hi
    · exact h j item hi
    · rw [List.mem_singleton.mp hi]
      exact ⟨payload, rfl⟩
  next => exact h j item hi

end FairScheduler

end OnionRoute.GatewayProtocol
