import Mathlib.Tactic

/-! Encodings that tell where they end. -/

namespace OnionRoute.Library

variable {α β : Type}

def SelfDelimiting (enc : α → List β) : Prop :=
  ∀ ⦃a b x y⦄, enc a ++ x = enc b ++ y → a = b ∧ x = y

lemma SelfDelimiting.flatMap_inj {enc : α → List β} (h : SelfDelimiting enc)
    (hne : ∀ a, enc a ≠ []) {as bs : List α} (heq : as.flatMap enc = bs.flatMap enc) : as = bs := by
  induction as generalizing bs with
  | nil =>
    cases bs with
    | nil => rfl
    | cons b bs => simp [hne] at heq
  | cons a as ih =>
    cases bs with
    | nil => simp [hne] at heq
    | cons b bs =>
      rw [List.flatMap_cons, List.flatMap_cons] at heq
      obtain ⟨rfl, hrest⟩ := h heq
      rw [ih hrest]

end OnionRoute.Library
