import Mathlib.Tactic

/-! Machines that read a word letter by letter, write letters of their own, and may fail. -/

namespace OnionRoute.Library

abbrev Written (ο ε σ : Type) := List ο × Except ε σ

namespace Transducer

variable {σ ι ο ε : Type}

def resume (first : Written ο ε σ) (next : σ → Written ο ε σ) : Written ο ε σ :=
  match first.2 with
  | .ok t => (first.1 ++ (next t).1, (next t).2)
  | .error e => (first.1, .error e)

def run (step : σ → ι → Except ε (Option ο × σ)) (s : σ) : List ι → Written ο ε σ
  | [] => ([], .ok s)
  | i :: word =>
    match step s i with
    | .ok (o, t) => resume (o.toList, .ok t) fun t => run step t word
    | .error e => ([], .error e)

def runAll (feed : σ → List ι → Written ο ε σ) (s : σ) : List (List ι) → Written ο ε σ
  | [] => ([], .ok s)
  | piece :: pieces => resume (feed s piece) fun t => runAll feed t pieces

variable {step : σ → ι → Except ε (Option ο × σ)} {s t : σ}

lemma resume_nil (next : σ → Written ο ε σ) : resume ([], .ok s) next = next s := by
  simp [resume]

lemma resume_resume (first : Written ο ε σ) (next last : σ → Written ο ε σ) :
    resume (resume first next) last = resume first fun t => resume (next t) last := by
  obtain ⟨written, state⟩ := first
  cases state with
  | error e => rfl
  | ok t =>
    cases hnext : (next t).2 with
    | error e => simp [resume, hnext]
    | ok u => simp [resume, hnext]

lemma run_append (s : σ) (xs ys : List ι) :
    run step s (xs ++ ys) = resume (run step s xs) fun t => run step t ys := by
  induction xs generalizing s with
  | nil => simp [run, resume_nil]
  | cons i xs ih =>
    rw [List.cons_append, run, run]
    cases step s i with
    | error e => rfl
    | ok next =>
      obtain ⟨o, t⟩ := next
      rw [resume_resume]
      simp only [resume, ih]

lemma resume_eq_ok {first : Written ο ε σ} {next : σ → Written ο ε σ} (h : (resume first next).2 = .ok t) :
    ∃ u, first.2 = .ok u ∧ (next u).2 = .ok t := by
  rw [resume] at h
  split at h
  next u hu => exact ⟨u, hu, h⟩
  next => cases h

lemma run_invariant {I : σ → Prop}
    (hstep : ∀ {s i o t}, step s i = .ok (o, t) → I s → I t) {word : List ι}
    (h : (run step s word).2 = .ok t) (hs : I s) : I t := by
  induction word generalizing s with
  | nil =>
    cases h
    exact hs
  | cons i word ih =>
    rw [run] at h
    split at h
    next o u hu =>
      obtain ⟨v, hv, hrest⟩ := resume_eq_ok h
      cases hv
      exact ih hrest (hstep hu hs)
    next => cases h

lemma runAll_eq_run {feed : σ → List ι → Written ο ε σ} {I : σ → Prop}
    (hstep : ∀ {s i o t}, step s i = .ok (o, t) → I s → I t)
    (hfeed : ∀ {s}, I s → ∀ word, feed s word = run step s word) (hs : I s)
    (pieces : List (List ι)) : runAll feed s pieces = run step s pieces.flatten := by
  induction pieces generalizing s with
  | nil => rfl
  | cons piece pieces ih =>
    rw [runAll, hfeed hs, List.flatten_cons, run_append, resume, resume]
    cases hrun : (run step s piece).2 with
    | error e => rfl
    | ok t => simp only [ih (run_invariant hstep hrun hs)]

end Transducer

end OnionRoute.Library
