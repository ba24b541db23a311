import Mathlib.Tactic

/-! Paths along a relation that visit nothing twice. -/

namespace OnionRoute.Library

variable {α : Type}

def SimplePath (R : α → α → Prop) (a b : α) (n : ℕ) : Prop :=
  ∃ l : List α, l.head? = some a ∧ l.getLast? = some b ∧ l.IsChain R ∧ l.Nodup ∧ l.length ≤ n + 1

namespace SimplePath

variable {R S : α → α → Prop} {a b c : α} {m n : ℕ}

lemma refl (a : α) : SimplePath R a a 0 :=
  ⟨[a], rfl, rfl, by simp, by simp, by simp⟩

lemma mono (h : SimplePath R a b m) (hRS : ∀ x y, R x y → S x y) (hmn : m ≤ n) :
    SimplePath S a b n := by
  obtain ⟨l, hhead, hlast, hchain, hnodup, hlen⟩ := h
  exact ⟨l, hhead, hlast, hchain.imp hRS, hnodup, by omega⟩

lemma snoc (h : SimplePath R a b n) (hbc : R b c) : SimplePath R a c (n + 1) := by
  obtain ⟨l, hhead, hlast, hchain, hnodup, hlen⟩ := h
  by_cases hc : c ∈ l
  · obtain ⟨before, after, rfl⟩ := List.append_of_mem hc
    have hcut : before ++ c :: after = (before ++ [c]) ++ after := by simp
    have hsub : (before ++ [c]).Sublist (before ++ c :: after) := hcut ▸ List.sublist_append_left _ _
    refine ⟨before ++ [c], ?_, by simp, ?_, hnodup.sublist hsub, ?_⟩
    · cases before <;> simpa using hhead
    · rw [hcut] at hchain
      exact (List.isChain_append.mp hchain).1
    · have := hsub.length_le
      omega
  · refine ⟨l ++ [c], ?_, by simp, ?_, ?_, ?_⟩
    · cases l with
      | nil => simp at hhead
      | cons x rest => simpa using hhead
    · refine List.isChain_append.mpr ⟨hchain, by simp, ?_⟩
      intro x hx y hy
      obtain rfl : b = x := by simpa [hlast] using hx
      obtain rfl : c = y := by simpa using hy
      exact hbc
    · exact List.nodup_append.mpr ⟨hnodup, by simp, by
        intro x hx y hy hxy
        obtain rfl : y = c := by simpa using hy
        exact hc (hxy ▸ hx)⟩
    · simp only [List.length_append, List.length_singleton]
      omega

end SimplePath

end OnionRoute.Library
