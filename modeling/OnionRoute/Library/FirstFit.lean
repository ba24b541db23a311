import Mathlib.Data.Finset.Insert
import Mathlib.Data.List.Forall2

/-! Filling places one after another, each with the first item that fits and is not taken. -/

namespace OnionRoute.Library

variable {ρ γ ι : Type} [DecidableEq ι] (pool : List γ) (fits : ρ → γ → Bool) (name : γ → ι)

def Open (taken : Finset ι) (r : ρ) (g : γ) : Bool := fits r g && name g ∉ taken

def firstFits : List ρ → Finset ι → Option (List γ)
  | [], _ => some []
  | r :: rest, taken =>
    match pool.find? (Open fits name taken r) with
    | none => none
    | some g => (firstFits rest (insert (name g) taken)).map (g :: ·)

inductive Assigns : List ρ → Finset ι → List γ → Prop
  | nil (taken : Finset ι) : Assigns [] taken []
  | cons {r : ρ} {rest : List ρ} {taken : Finset ι} {g : γ} {gs : List γ} :
      g ∈ pool → Open fits name taken r g = true → Assigns rest (insert (name g) taken) gs →
      Assigns (r :: rest) taken (g :: gs)

def names (r : ρ) : List ι := (pool.filter (fits r)).map name

variable {pool fits name} {roles : List ρ} {taken : Finset ι} {gs : List γ} {r : ρ} {g : γ}

lemma find?_names (taken : Finset ι) (r : ρ) : (names pool fits name r).find? (· ∉ taken) =
    (pool.find? (Open fits name taken r)).map name := by
  have hopen : (fun g => decide (fits r g = true ∧ ((fun n => decide (n ∉ taken)) ∘ name) g = true)) =
      Open fits name taken r := by
    funext g
    simp [Open]
  rw [names, List.find?_map, List.find?_filter, hopen]

@[simp] lemma firstFits_nil_isSome : (firstFits pool fits name [] taken).isSome := rfl

@[simp] lemma exists_assigns_nil : ∃ gs, Assigns pool fits name [] taken gs := ⟨[], .nil taken⟩

lemma firstFits_cons_isSome : (firstFits pool fits name (r :: roles) taken).isSome ↔
    ∃ n, (names pool fits name r).find? (· ∉ taken) = some n ∧
      (firstFits pool fits name roles (insert n taken)).isSome := by
  rw [firstFits, find?_names]
  cases pool.find? (Open fits name taken r) <;> simp

lemma exists_assigns_cons : (∃ gs, Assigns pool fits name (r :: roles) taken gs) ↔
    ∃ n ∈ names pool fits name r, n ∉ taken ∧
      ∃ gs, Assigns pool fits name roles (insert n taken) gs := by
  constructor
  · rintro ⟨_, ⟨⟩⟩
    rename_i g gs hmem hopen hrest
    obtain ⟨hfits, hname⟩ : fits r g = true ∧ name g ∉ taken := by simpa [Open] using hopen
    exact ⟨name g, List.mem_map_of_mem (List.mem_filter.mpr ⟨hmem, hfits⟩), hname, gs, hrest⟩
  · rintro ⟨_, hn, hname, gs, hrest⟩
    obtain ⟨g, hg, rfl⟩ := List.mem_map.mp hn
    obtain ⟨hmem, hfits⟩ := List.mem_filter.mp hg
    exact ⟨g :: gs, .cons hmem (by simp [Open, hfits, hname]) hrest⟩

lemma Assigns.of_firstFits (h : firstFits pool fits name roles taken = some gs) :
    Assigns pool fits name roles taken gs := by
  induction roles generalizing taken gs with
  | nil =>
    obtain rfl := Option.some.inj h
    exact .nil taken
  | cons r rest ih =>
    rw [firstFits] at h
    cases hfind : pool.find? (Open fits name taken r) with
    | none => simp [hfind] at h
    | some g =>
      simp only [hfind, Option.map_eq_some_iff] at h
      obtain ⟨gs, hrest, rfl⟩ := h
      exact .cons (List.mem_of_find?_eq_some hfind) (List.find?_some hfind) (ih hrest)

lemma assigns_iff : Assigns pool fits name roles taken gs ↔
    List.Forall₂ (fun r g => g ∈ pool ∧ fits r g = true) roles gs ∧ (gs.map name).Nodup ∧
      ∀ g ∈ gs, name g ∉ taken := by
  induction roles generalizing taken gs with
  | nil =>
    constructor
    · rintro ⟨⟩
      exact ⟨.nil, List.nodup_nil, by simp⟩
    · rintro ⟨⟨⟩, -, -⟩
      exact .nil taken
  | cons r rest ih =>
    constructor
    · rintro ⟨⟩
      rename_i g gs hmem hopen hrest
      obtain ⟨hall, hnodup, hfresh⟩ := ih.mp hrest
      obtain ⟨hfits, hname⟩ : fits r g = true ∧ name g ∉ taken := by simpa [Open] using hopen
      refine ⟨.cons ⟨hmem, hfits⟩ hall, List.nodup_cons.mpr ⟨?_, hnodup⟩, ?_⟩
      · intro hdup
        obtain ⟨g', hg', heq⟩ := List.mem_map.mp hdup
        exact hfresh g' hg' (heq ▸ Finset.mem_insert_self _ _)
      · intro g' hg'
        rcases List.mem_cons.mp hg' with rfl | hg'
        · exact hname
        · exact fun h => hfresh g' hg' (Finset.mem_insert_of_mem h)
    · rintro ⟨hall, hnodup, hfresh⟩
      cases hall with
      | cons hhead hall =>
        obtain ⟨hnew, hnodup⟩ := List.nodup_cons.mp hnodup
        refine .cons hhead.1 ?_ (ih.mpr ⟨hall, hnodup, fun g' hg' h => ?_⟩)
        · simpa [Open] using ⟨hhead.2, hfresh _ List.mem_cons_self⟩
        · rcases Finset.mem_insert.mp h with heq | h
          · exact hnew (heq ▸ List.mem_map_of_mem hg')
          · exact hfresh g' (List.mem_cons_of_mem _ hg') h

end OnionRoute.Library
