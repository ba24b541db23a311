import Mathlib.Data.List.Induction

/-! Labelled runs of a transition relation, extended one step at a time at the end. -/

namespace OnionRoute.Library

variable {σ ε : Type}

inductive Trace (Step : σ → ε → σ → Prop) : σ → List ε → σ → Prop
  | nil (s : σ) : Trace Step s [] s
  | snoc {s t u : σ} {es : List ε} {e : ε} :
      Trace Step s es t → Step t e u → Trace Step s (es ++ [e]) u

namespace Trace

variable {Step : σ → ε → σ → Prop} {s t u : σ} {es fs : List ε} {e : ε}

lemma single (h : Step s e t) : Trace Step s [e] t :=
  .snoc (.nil s) h

lemma append (h : Trace Step s es t) (k : Trace Step t fs u) : Trace Step s (es ++ fs) u := by
  induction k with
  | nil => simpa using h
  | snoc _ hs ih =>
    rw [← List.append_assoc]
    exact .snoc ih hs

lemma cons (h : Step s e t) (k : Trace Step t es u) : Trace Step s (e :: es) u :=
  (single h).append k

lemma invariant {I : σ → Prop} (hstep : ∀ {s e t}, Step s e t → I s → I t)
    (h : Trace Step s es t) (hs : I s) : I t := by
  induction h with
  | nil => exact hs
  | snoc _ he ih => exact hstep he ih

lemma of_foldlM {act : σ → ε → Option σ} (hstep : ∀ {s e t}, act s e = some t → Step s e t)
    (h : es.foldlM act s = some t) : Trace Step s es t := by
  induction es generalizing s with
  | nil =>
    obtain rfl : s = t := by simpa using h
    exact .nil s
  | cons e es ih =>
    rw [List.foldlM_cons, Option.bind_eq_bind, Option.bind_eq_some_iff] at h
    obtain ⟨u, hu, h⟩ := h
    exact .cons (hstep hu) (ih h)

lemma snoc_inv (h : Trace Step s (es ++ [e]) u) : ∃ t, Trace Step s es t ∧ Step t e u := by
  generalize hl : es ++ [e] = l at h
  cases h with
  | nil => simp at hl
  | snoc ht hs =>
    obtain ⟨rfl, hc⟩ := List.append_inj' hl rfl
    obtain rfl : e = _ := by simpa using hc
    exact ⟨_, ht, hs⟩

lemma split (h : Trace Step s (es ++ fs) u) : ∃ t, Trace Step s es t ∧ Trace Step t fs u := by
  induction fs using List.reverseRecOn generalizing u with
  | nil => exact ⟨u, by simpa using h, .nil u⟩
  | append_singleton fs f ih =>
    rw [← List.append_assoc] at h
    obtain ⟨v, hv, hf⟩ := snoc_inv h
    obtain ⟨t, ht, hk⟩ := ih hv
    exact ⟨t, ht, .snoc hk hf⟩

lemma cons_inv (h : Trace Step s (e :: es) u) : ∃ t, Step s e t ∧ Trace Step t es u := by
  have h' : Trace Step s ([e] ++ es) u := h
  obtain ⟨t, ht, hk⟩ := split h'
  have ht' : Trace Step s ([] ++ [e]) t := ht
  obtain ⟨v, hv, hs⟩ := snoc_inv ht'
  generalize hl : ([] : List ε) = l at hv
  cases hv with
  | nil => exact ⟨t, hs, hk⟩
  | snoc => simp at hl

lemma single_inv (h : Trace Step s [e] t) : Step s e t := by
  obtain ⟨u, hs, hu⟩ := cons_inv h
  generalize hl : ([] : List ε) = l at hu
  cases hu with
  | nil => exact hs
  | snoc => simp at hl

end Trace

end OnionRoute.Library
