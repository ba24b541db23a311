import Mathlib.Data.List.Nodup
import Mathlib.Logic.Function.Basic
import OnionRoute.Library.Trace

/-! A control queue and a queue per key, served in turn after a bounded burst of control. -/

namespace OnionRoute.Library.RoundRobin

/-- The control queue is the lane `none`. -/
inductive Move (κ α : Type)
  | push (lane : Option κ) (a : α)
  | pop (lane : Option κ) (a : α)
  | cancel (k : κ)
  | idle

structure Rota (κ α : Type) where
  control : List α
  queue : κ → List α
  active : List κ
  burst : ℕ

variable {κ α σ : Type} [DecidableEq κ]

namespace Move

def pops (lane : Option κ) : Move κ α → Bool
  | pop l _ => l = lane
  | _ => false

def log (lane : Option κ) (h : List α × List α) : Move κ α → List α × List α
  | push l a => if l = lane then (h.1 ++ [a], h.2) else h
  | pop l a => if l = lane then (h.1, h.2 ++ [a]) else h
  | cancel k => if lane = some k then ([], []) else h
  | idle => h

def logs (lane : Option κ) (moves : List (Move κ α)) : List α × List α :=
  moves.foldl (log lane) ([], [])

end Move

def During (Step : σ → Move κ α → σ → Prop) (C : σ → Move κ α → Prop) :
    σ → List (Move κ α) → σ → Prop :=
  Trace fun s m t => Step s m t ∧ C s m

variable {C : Rota κ α → Move κ α → Prop}

namespace Rota

def lane (r : Rota κ α) : Option κ → List α
  | none => r.control
  | some k => r.queue k

inductive Step (limit : ℕ) (r : Rota κ α) : Move κ α → Rota κ α → Prop
  | idle : Step limit r .idle r
  | pushControl (a : α) : Step limit r (.push none a) { r with control := r.control ++ [a] }
  | push (k : κ) (a : α) : Step limit r (.push (some k) a)
      { r with
        active := if r.queue k = [] then r.active ++ [k] else r.active
        queue := Function.update r.queue k (r.queue k ++ [a]) }
  | popControl {a : α} {rest : List α} : r.control = a :: rest →
      r.burst < limit ∨ r.active = [] →
      Step limit r (.pop none a) { r with control := rest, burst := r.burst + 1 }
  | pop {k : κ} {rest : List κ} {a : α} {items : List α} : r.active = k :: rest →
      r.queue k = a :: items →
      Step limit r (.pop (some k) a)
        { r with
          active := if items = [] then rest else rest ++ [k]
          queue := Function.update r.queue k items
          burst := 0 }
  | cancel (k : κ) : Step limit r (.cancel k)
      { r with
        active := r.active.filter fun j => j ≠ k
        queue := Function.update r.queue k [] }

structure Sound (r : Rota κ α) : Prop where
  nodup : r.active.Nodup
  active : ∀ k, k ∈ r.active ↔ r.queue k ≠ []

variable {limit : ℕ} {r t : Rota κ α} {m : Move κ α} {moves : List (Move κ α)} {j k : κ}

lemma Sound.step (hs : r.Sound) (h : Step limit r m t) : t.Sound := by
  obtain ⟨hnodup, hactive⟩ := hs
  cases h with
  | idle | pushControl | popControl => exact ⟨hnodup, hactive⟩
  | push k a =>
    have hk := hactive k
    split
    next hq =>
      rw [hq] at hk
      have hnot : k ∉ r.active := fun hm => hk.mp hm rfl
      refine ⟨hnodup.append (List.nodup_singleton k) (by simpa using hnot), fun j => ?_⟩
      by_cases hj : j = k
      · simp [hj]
      · simp [hj, hactive j]
    next hq =>
      refine ⟨hnodup, fun j => ?_⟩
      by_cases hj : j = k
      · simpa [hj] using hk.mpr hq
      · simp [hj, hactive j]
  | @pop k rest a items ha hq =>
    rw [ha, List.nodup_cons] at hnodup
    have hrest : ∀ j, j ≠ k → (j ∈ rest ↔ r.queue j ≠ []) := fun j hj => by
      rw [← hactive j, ha, List.mem_cons, or_iff_right hj]
    split
    next hi =>
      refine ⟨hnodup.2, fun j => ?_⟩
      by_cases hj : j = k
      · simp [hj, hi, hnodup.1]
      · simp [hj, hrest j hj]
    next hi =>
      refine ⟨hnodup.2.append (List.nodup_singleton k) (by simpa using hnodup.1), fun j => ?_⟩
      by_cases hj : j = k
      · simp [hj, hi]
      · simp [hj, hrest j hj]
  | cancel k =>
    refine ⟨hnodup.filter _, fun j => ?_⟩
    by_cases hj : j = k
    · simp [hj]
    · simp [hj, hactive j]

lemma log_step (h : Step limit r m t) (l : Option κ) {p : List α × List α}
    (hp : p.1 = p.2 ++ r.lane l) : (m.log l p).1 = (m.log l p).2 ++ t.lane l := by
  cases h with
  | idle => exact hp
  | pushControl a | popControl hc =>
    cases l with
    | none => simp_all [Move.log, lane]
    | some j => simpa [Move.log, lane] using hp
  | push k | @pop k _ _ _ ha hq =>
    cases l with
    | none => simpa [Move.log, lane] using hp
    | some j =>
      by_cases hj : j = k
      · subst hj
        simp_all [Move.log, lane]
      · simpa [Move.log, lane, hj, Ne.symm hj] using hp
  | cancel k =>
    cases l with
    | none => simpa [Move.log, lane] using hp
    | some j =>
      by_cases hj : j = k
      · simp [Move.log, lane, hj]
      · simpa [Move.log, lane, hj] using hp

lemma log_run (h : Trace (Step limit) r moves t) (l : Option κ) (hl : r.lane l = []) :
    (Move.logs l moves).1 = (Move.logs l moves).2 ++ t.lane l := by
  induction h with
  | nil => simp [Move.logs, hl]
  | snoc _ hstep ih =>
    rw [Move.logs, List.foldl_append]
    exact log_step hstep l ih

lemma burst_run (h : During (Step limit) (fun r m => (∃ k, r.queue k ≠ []) ∧
      ∀ k, m.pops (some k) = false) r moves t) (hs : r.Sound) :
    t.Sound ∧ t.burst = r.burst + moves.countP (Move.pops none) ∧
      t.burst ≤ max limit r.burst := by
  induction h with
  | nil => exact ⟨hs, rfl, Nat.le_max_right _ _⟩
  | snoc _ hlast ih =>
    obtain ⟨hstep, ⟨k, hk⟩, hnone⟩ := hlast
    obtain ⟨ht, hcount, hle⟩ := ih
    refine ⟨ht.step hstep, ?_⟩
    rw [List.countP_append]
    cases hstep with
    | popControl _ hc =>
      have hlt := hc.resolve_right (List.ne_nil_of_mem ((ht.active k).mpr hk))
      simp only [List.countP_singleton, Move.pops, decide_true, if_true]
      omega
    | @pop k => simpa [Move.pops] using hnone k
    | idle | pushControl | push | cancel =>
      refine ⟨?_, hle⟩
      simpa [Move.pops] using hcount

def ahead (k : κ) (active : List κ) : List κ :=
  active.takeWhile fun j => j ≠ k

def due (j k : κ) (r : Rota κ α) : ℕ :=
  if j ∈ ahead k r.active then 1 else 0

lemma ahead_append {active : List κ} (h : k ∈ active) (rest : List κ) :
    ahead k (active ++ rest) = ahead k active := by
  induction active with
  | nil => cases h
  | cons i active ih =>
    by_cases hi : i = k
    · simp [ahead, hi]
    · have hmem : k ∈ active := (List.mem_cons.mp h).resolve_left (Ne.symm hi)
      simpa [ahead, hi] using ih hmem

lemma ahead_filter {i : κ} (hi : k ≠ i) (active : List κ) :
    ahead k (active.filter fun x => x ≠ i) = (ahead k active).filter fun x => x ≠ i := by
  induction active with
  | nil => rfl
  | cons x active ih =>
    simp only [ahead, ne_eq, decide_not] at ih ⊢
    by_cases hx : x = i
    · simpa [hx, Ne.symm hi] using ih
    · by_cases hk : x = k
      · simp [hk, hi]
      · simpa [hx, hk] using ih

lemma due_step (hs : r.Sound) (h : Step limit r m t) (hk : k ∈ r.active) (hk' : k ∈ t.active)
    (hm : m.pops (some k) = false) :
    [m].countP (Move.pops (some j)) + due j k t ≤ due j k r ∧
      (j ∈ t.active → [m].countP (Move.pops (some j)) + due j k t = due j k r) := by
  cases h with
  | idle | pushControl | popControl => simp [Move.pops, due]
  | push i a =>
    have hahead : ahead k (if r.queue i = [] then r.active ++ [i] else r.active) =
        ahead k r.active := by
      split
      · exact ahead_append hk [i]
      · rfl
    simp [Move.pops, due, hahead]
  | @pop i rest a items ha hq =>
    have hi : i ≠ k := by simpa [Move.pops] using hm
    have hrest : k ∈ rest := (List.mem_cons.mp (ha ▸ hk)).resolve_left (Ne.symm hi)
    have hahead : ahead k (if items = [] then rest else rest ++ [i]) = ahead k rest := by
      split
      · rfl
      · exact ahead_append hrest [i]
    have hnot : i ∉ ahead k rest := fun hmem => by
      have hnodup := hs.nodup
      rw [ha, List.nodup_cons] at hnodup
      exact hnodup.1 ((List.takeWhile_sublist _).subset hmem)
    have hcons : ahead k (i :: rest) = i :: ahead k rest := by simp [ahead, hi]
    by_cases hij : i = j
    · subst hij
      simp [Move.pops, due, hahead, ha, hcons, hnot]
    · simp [Move.pops, due, hahead, ha, hcons, hij, Ne.symm hij]
  | cancel i =>
    have hi : k ≠ i := by simpa using (List.mem_filter.mp hk').2
    simp only [List.countP_singleton, Move.pops, Bool.false_eq_true, if_false, due, ahead_filter hi,
      List.mem_filter, Nat.zero_add, decide_eq_true_eq]
    refine ⟨?_, fun hmem => by simp [hmem.2]⟩
    split
    next hc => exact Nat.le_of_eq (if_pos hc.1).symm
    next => exact Nat.zero_le _

lemma due_run (h : During (Step limit) C r moves t) (hs : r.Sound)
    (hC : ∀ r m, C r m → r.queue k ≠ [] ∧ m.pops (some k) = false) (hk : t.queue k ≠ []) :
    r.queue k ≠ [] ∧ t.Sound ∧
      moves.countP (Move.pops (some j)) + due j k t ≤ due j k r ∧
      ((∀ r m, C r m → r.queue j ≠ []) → t.queue j ≠ [] →
        r.queue j ≠ [] ∧ moves.countP (Move.pops (some j)) + due j k t = due j k r) := by
  induction h with
  | nil => exact ⟨hk, hs, by simp, fun _ hj => ⟨hj, by simp⟩⟩
  | snoc _ hlast ih =>
    obtain ⟨hstep, hc⟩ := hlast
    obtain ⟨hk', hpop⟩ := hC _ _ hc
    obtain ⟨hr, hsound, hle, heq⟩ := ih hk'
    have hsound' := hsound.step hstep
    obtain ⟨hle', heq'⟩ := due_step (j := j) hsound hstep ((hsound.active k).mpr hk')
      ((hsound'.active k).mpr hk) hpop
    rw [List.countP_append]
    refine ⟨hr, hsound', by omega, fun hj ht => ?_⟩
    obtain ⟨hr', heq⟩ := heq hj (hj _ _ hc)
    have heq' := heq' ((hsound'.active j).mpr ht)
    exact ⟨hr', by omega⟩

end Rota

/-- After `k` was served, at most `limit` control items go before the next key while some key
waits, and before `k` is served again every other key is served at most once. -/
structure Fair (Step : σ → Move κ α → σ → Prop) (queue : σ → κ → List α) (limit : ℕ) (start : σ) :
    Prop where
  control : ∀ {past s k a t moves u}, Trace Step start past s → Step s (.pop (some k) a) t →
    During Step (fun s m => (∃ j, queue s j ≠ []) ∧ ∀ j, m.pops (some j) = false) t moves u →
    moves.countP (Move.pops none) ≤ limit
  once : ∀ {past s k a t moves u b v}, Trace Step start past s → Step s (.pop (some k) a) t →
    During Step (fun s m => queue s k ≠ [] ∧ m.pops (some k) = false) t moves u →
    Step u (.pop (some k) b) v → ∀ j, j ≠ k → moves.countP (Move.pops (some j)) ≤ 1
  exactly : ∀ {past s k a t moves u b v j}, Trace Step start past s → Step s (.pop (some k) a) t →
    During Step (fun s m => (queue s k ≠ [] ∧ m.pops (some k) = false) ∧ queue s j ≠ []) t moves u →
    Step u (.pop (some k) b) v → queue u j ≠ [] → j ≠ k →
    moves.countP (Move.pops (some j)) = 1

namespace Rota

variable {Step' : σ → Move κ α → σ → Prop} {rota : σ → Rota κ α} {limit : ℕ} {s t : σ}
  {moves : List (Move κ α)} {k : κ}

lemma during_map (hsim : ∀ s m t, (rota s).Sound → Step' s m t → Step limit (rota s) m (rota t))
    (h : During Step' (fun s => C (rota s)) s moves t) (hs : (rota s).Sound) :
    During (Step limit) C (rota s) moves (rota t) ∧ (rota t).Sound := by
  induction h with
  | nil => exact ⟨.nil _, hs⟩
  | snoc _ hlast ih =>
    obtain ⟨hrun, hsound⟩ := ih
    have hstep := hsim _ _ _ hsound hlast.1
    exact ⟨hrun.snoc ⟨hstep, hlast.2⟩, hsound.step hstep⟩

lemma due_le_one (j k : κ) (r : Rota κ α) : due j k r ≤ 1 := by
  rw [due]
  split <;> omega

section Pop

variable {r r' : Rota κ α} {a : α} (h : Step limit r (.pop (some k) a) r') {j : κ}
include h

lemma pop_front : r.queue k ≠ [] ∧ due j k r = 0 := by
  cases h with
  | pop ha hq => simp [hq, due, ahead, ha]

lemma pop_behind (hs : r.Sound) (hk : r'.queue k ≠ []) (hj : r'.queue j ≠ []) (hne : j ≠ k) :
    due j k r' = 1 := by
  have hmem := ((hs.step h).active j).mpr hj
  cases h with
  | @pop _ rest _ items ha _ =>
    have hi : items ≠ [] := by simpa using hk
    have hnot : k ∉ rest := by
      have hnodup := hs.nodup
      rw [ha, List.nodup_cons] at hnodup
      exact hnodup.1
    have hahead : ahead k (rest ++ [k]) = rest := by
      rw [ahead, List.takeWhile_append_of_pos]
      · simp
      · intro x hx
        simpa using fun he : x = k => hnot (he ▸ hx)
    simp only [if_neg hi, List.mem_append, List.mem_singleton, hne, or_false] at hmem
    simp [due, hi, hahead, hmem]

end Pop

theorem fair_of_simulation (rota : σ → Rota κ α)
    (hsim : ∀ s m t, (rota s).Sound → Step' s m t → Step limit (rota s) m (rota t))
    (hs : (rota s).Sound) : Fair Step' (fun s => (rota s).queue) limit s := by
  have hpast : ∀ {past u}, Trace Step' s past u → (rota u).Sound := fun h =>
    Trace.invariant (I := fun u => (rota u).Sound)
      (fun hstep hu => hu.step (hsim _ _ _ hu hstep)) h hs
  constructor
  · intro past u k a t moves v h hpop hrun
    have hu := hpast h
    have hstep := hsim _ _ _ hu hpop
    obtain ⟨hrun, -⟩ := during_map (C := fun r m => (∃ j, r.queue j ≠ []) ∧
      ∀ j, m.pops (some j) = false) hsim hrun (hu.step hstep)
    obtain ⟨-, hcount, hle⟩ := burst_run hrun (hu.step hstep)
    have hzero : (rota t).burst = 0 := by
      generalize rota t = r at hstep
      cases hstep
      rfl
    omega
  · intro past u k a t moves v b w h hpop hrun hlast j _
    have hu := hpast h
    have hstep := hsim _ _ _ hu hpop
    obtain ⟨hrun, hv⟩ := during_map (C := fun r m => r.queue k ≠ [] ∧ m.pops (some k) = false)
      hsim hrun (hu.step hstep)
    obtain ⟨hk, -⟩ := pop_front (j := j) (hsim _ _ _ hv hlast)
    obtain ⟨-, -, hle, -⟩ := due_run (j := j) hrun (hu.step hstep) (fun _ _ => id) hk
    have hone := due_le_one j k (rota t)
    omega
  · intro past u k a t moves v b w j h hpop hrun hlast hj hne
    have hu := hpast h
    have hstep := hsim _ _ _ hu hpop
    obtain ⟨hrun, hv⟩ := during_map (C := fun r m => (r.queue k ≠ [] ∧ m.pops (some k) = false) ∧
      r.queue j ≠ []) hsim hrun (hu.step hstep)
    obtain ⟨hk, hzero⟩ := pop_front (j := j) (hsim _ _ _ hv hlast)
    obtain ⟨ht, -, -, heq⟩ := due_run (j := j) hrun (hu.step hstep) (fun _ _ hc => hc.1) hk
    obtain ⟨hj', heq⟩ := heq (fun _ _ hc => hc.2) hj
    rw [hzero, pop_behind hstep hu ht hj' hne] at heq
    exact heq

end Rota

end OnionRoute.Library.RoundRobin
