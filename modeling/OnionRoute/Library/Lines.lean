import Mathlib.Data.List.Basic

/-! Streams cut into lines at a delimiter. -/

namespace OnionRoute.Library

variable {α : Type} [DecidableEq α] {d : α} {f x y : List α}

def linesFrom (d : α) (fragment : List α) : List α → List (List α)
  | [] => []
  | a :: rest => if a = d then fragment :: linesFrom d [] rest else linesFrom d (fragment ++ [a]) rest

def fragmentAfter (d : α) (fragment : List α) : List α → List α
  | [] => fragment
  | a :: rest => if a = d then fragmentAfter d [] rest else fragmentAfter d (fragment ++ [a]) rest

lemma linesFrom_append :
    linesFrom d f (x ++ y) = linesFrom d f x ++ linesFrom d (fragmentAfter d f x) y := by
  induction x generalizing f with
  | nil => rfl
  | cons a rest ih =>
    by_cases ha : a = d
    · simp [linesFrom, fragmentAfter, ha, ih]
    · simp [linesFrom, fragmentAfter, ha, ih]

lemma fragmentAfter_append :
    fragmentAfter d f (x ++ y) = fragmentAfter d (fragmentAfter d f x) y := by
  induction x generalizing f with
  | nil => rfl
  | cons a rest ih =>
    by_cases ha : a = d
    · simp [fragmentAfter, ha, ih]
    · simp [fragmentAfter, ha, ih]

lemma linesFrom_of_notMem (h : d ∉ x) : linesFrom d f x = [] ∧ fragmentAfter d f x = f ++ x := by
  induction x generalizing f with
  | nil => simp [linesFrom, fragmentAfter]
  | cons a rest ih =>
    rw [List.mem_cons, not_or] at h
    obtain ⟨hne, hrest⟩ := h
    simp [linesFrom, fragmentAfter, Ne.symm hne, ih hrest]

lemma linesFrom_line (h : d ∉ x) :
    linesFrom d f (x ++ [d]) = [f ++ x] ∧ fragmentAfter d f (x ++ [d]) = [] := by
  obtain ⟨hlines, hfragment⟩ := linesFrom_of_notMem (f := f) h
  rw [linesFrom_append, fragmentAfter_append, hlines, hfragment]
  simp [linesFrom, fragmentAfter]

def throughDelimiter (d : α) : List α → List α
  | [] => []
  | a :: rest => if a = d then [a] else a :: throughDelimiter d rest

lemma throughDelimiter_append_drop (d : α) (x : List α) :
    throughDelimiter d x ++ x.drop (throughDelimiter d x).length = x := by
  induction x with
  | nil => rfl
  | cons a rest ih =>
    by_cases ha : a = d
    · simp [throughDelimiter, ha]
    · simpa [throughDelimiter, ha] using ih

lemma throughDelimiter_cases (d : α) (x : List α) :
    (d ∉ x ∧ throughDelimiter d x = x) ∨ ∃ y, d ∉ y ∧ throughDelimiter d x = y ++ [d] := by
  induction x with
  | nil => exact .inl ⟨by simp, rfl⟩
  | cons a rest ih =>
    by_cases ha : a = d
    · exact .inr ⟨[], by simp, by simp [throughDelimiter, ha]⟩
    · rcases ih with ⟨hnot, heq⟩ | ⟨y, hnot, heq⟩
      · refine .inl ⟨?_, by simp [throughDelimiter, ha, heq]⟩
        simp [hnot, Ne.symm ha]
      · refine .inr ⟨a :: y, ?_, by simp [throughDelimiter, ha, heq]⟩
        simp [hnot, Ne.symm ha]

omit [DecidableEq α] in
lemma cut_unique {u v : List α} (hx : d ∉ x) (hy : d ∉ y) (h : x ++ d :: u = y ++ d :: v) :
    x = y ∧ u = v := by
  induction x generalizing y with
  | nil =>
    cases y with
    | nil => exact ⟨rfl, by simpa using h⟩
    | cons b y =>
      obtain ⟨rfl, -⟩ := List.cons.inj h
      simp at hy
  | cons a x ih =>
    cases y with
    | nil =>
      obtain ⟨rfl, -⟩ := List.cons.inj h
      simp at hx
    | cons b y =>
      obtain ⟨rfl, htail⟩ := List.cons.inj h
      rw [List.mem_cons, not_or] at hx hy
      obtain ⟨rfl, rfl⟩ := ih hx.2 hy.2 htail
      exact ⟨rfl, rfl⟩

end OnionRoute.Library
