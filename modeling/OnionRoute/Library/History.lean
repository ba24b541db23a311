import Mathlib.Data.List.Induction

/-! Lists that grow at their end, where what is added must fit what is there. -/

namespace OnionRoute.Library

variable {α : Type} {P : List α → α → Prop} {xs ys : List α} {x : α}

lemma snoc_eq_append_cons {y : α} {before after : List α} (h : xs ++ [y] = before ++ x :: after) :
    (x = y ∧ before = xs ∧ after = []) ∨
      ∃ rest, after = rest ++ [y] ∧ xs = before ++ x :: rest := by
  cases after using List.reverseRecOn with
  | nil =>
    obtain ⟨rfl, hx⟩ := List.append_inj' h rfl
    exact .inl ⟨by simpa using hx.symm, rfl, rfl⟩
  | append_singleton rest z =>
    have h' : xs ++ [y] = (before ++ x :: rest) ++ [z] := by simpa using h
    obtain ⟨rfl, hz⟩ := List.append_inj' h' rfl
    exact .inr ⟨rest, by rw [List.singleton_inj.mp hz], rfl⟩

inductive History (P : List α → α → Prop) : List α → Prop
  | nil : History P []
  | snoc {xs : List α} {x : α} : History P xs → P xs x → History P (xs ++ [x])

lemma History.at_split (h : History P (xs ++ x :: ys)) : P xs x := by
  generalize hl : xs ++ x :: ys = l at h
  induction h generalizing ys with
  | nil => simp at hl
  | snoc hzs hz ih =>
    rcases snoc_eq_append_cons hl.symm with ⟨rfl, rfl, rfl⟩ | ⟨rest, rfl, rfl⟩
    · exact hz
    · exact ih rfl

end OnionRoute.Library
