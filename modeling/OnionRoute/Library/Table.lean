import Mathlib.Algebra.GroupWithZero.Nat
import Mathlib.Data.Finmap

/-! Finite tables as association lists with distinct keys; facts are stated through `lookup`. -/

namespace OnionRoute.Library

abbrev Table (κ ν : Type) := AList (fun _ : κ => ν)

namespace Table

variable {κ ν μ ρ : Type}

def mapWithKey (f : κ → ν → μ) (t : Table κ ν) : Table κ μ :=
  ⟨t.entries.map (Sigma.map id f), t.nodupKeys.map₂ f t.entries⟩

def mapValues (f : ν → μ) (t : Table κ ν) : Table κ μ :=
  t.mapWithKey fun _ => f

def retain (p : κ → ν → Bool) (t : Table κ ν) : Table κ ν :=
  ⟨t.entries.filter fun e => p e.1 e.2, t.nodupKeys.sublist List.filter_sublist⟩

def values (t : Table κ ν) : List ν :=
  t.entries.map Sigma.snd

def size (t : Table κ ν) : ℕ :=
  t.entries.length

lemma mapValues_mapValues (f : ν → μ) (g : μ → ρ) (t : Table κ ν) :
    (t.mapValues f).mapValues g = t.mapValues fun v => g (f v) := by
  apply AList.ext
  simp [mapValues, mapWithKey, Sigma.map, Function.comp_def]

lemma mapValues_id (t : Table κ ν) : t.mapValues id = t :=
  AList.ext (List.map_id t.entries)

lemma values_mapValues (f : ν → μ) (t : Table κ ν) : (t.mapValues f).values = t.values.map f := by
  simp [values, mapValues, mapWithKey, Sigma.map, Function.comp_def]

variable [DecidableEq κ]

def modify (k : κ) (f : ν → ν) (t : Table κ ν) : Table κ ν :=
  t.mapWithKey fun k' v => if k' = k then f v else v

def contains (k : κ) (t : Table κ ν) : Bool :=
  (t.lookup k).isSome

@[simp] lemma lookup_mapWithKey (f : κ → ν → μ) (t : Table κ ν) (k : κ) :
    (t.mapWithKey f).lookup k = (t.lookup k).map (f k) :=
  List.dlookup_map₂ k

@[simp] lemma lookup_mapValues (f : ν → μ) (t : Table κ ν) (k : κ) :
    (t.mapValues f).lookup k = (t.lookup k).map f :=
  lookup_mapWithKey _ t k

lemma lookup_modify (t : Table κ ν) (k j : κ) (f : ν → ν) :
    (t.modify k f).lookup j = if j = k then (t.lookup j).map f else t.lookup j := by
  rw [modify, lookup_mapWithKey]
  by_cases h : j = k <;> simp [h]

variable {k j : κ}

lemma lookup_insert_of_ne (t : Table κ ν) (h : j ≠ k) (v : ν) :
    (t.insert k v).lookup j = t.lookup j :=
  AList.lookup_insert_ne h

lemma lookup_erase_of_ne (t : Table κ ν) (h : j ≠ k) : (t.erase k).lookup j = t.lookup j :=
  AList.lookup_erase_ne h

variable {t : Table κ ν} {v : ν}

lemma lookup_erase_eq_some (h : (t.erase k).lookup j = some v) : j ≠ k ∧ t.lookup j = some v := by
  by_cases hj : j = k
  · subst hj
    rw [AList.lookup_erase] at h
    cases h
  · exact ⟨hj, by rwa [lookup_erase_of_ne t hj] at h⟩

lemma erase_insert (h : t.lookup k = none) (v : ν) : (t.insert k v).erase k = t := by
  have hk : k ∉ t := List.dlookup_eq_none.mp h
  apply AList.ext
  calc List.kerase k (t.insert k v).entries
      = List.kerase k (⟨k, v⟩ :: t.entries) := by rw [AList.entries_insert_of_notMem hk]
    _ = t.entries := List.kerase_cons_eq rfl

lemma lookup_eq_some_iff : t.lookup k = some v ↔ (⟨k, v⟩ : Σ _ : κ, ν) ∈ t.entries :=
  AList.mem_lookup_iff

lemma lookup_retain (p : κ → ν → Bool) (t : Table κ ν) (k : κ) :
    (t.retain p).lookup k = (t.lookup k).filter (p k) := by
  apply Option.ext
  intro v
  rw [lookup_eq_some_iff, Option.filter_eq_some_iff, lookup_eq_some_iff]
  simp [retain, List.mem_filter]

lemma lookup_retain_eq_some {p : κ → ν → Bool} :
    (t.retain p).lookup k = some v ↔ t.lookup k = some v ∧ p k v = true := by
  rw [lookup_retain, Option.filter_eq_some_iff]

lemma contains_iff : t.contains k = true ↔ ∃ v, t.lookup k = some v :=
  Option.isSome_iff_exists

lemma mem_keys_iff : k ∈ t.keys ↔ ∃ v, t.lookup k = some v := by
  rw [← AList.mem_keys, ← AList.lookup_isSome, Option.isSome_iff_exists]

lemma mem_values_iff : v ∈ t.values ↔ ∃ k, t.lookup k = some v := by
  simp only [values, List.mem_map, Sigma.exists, lookup_eq_some_iff]
  constructor
  · rintro ⟨k, w, hm, rfl⟩
    exact ⟨k, hm⟩
  · rintro ⟨k, hm⟩
    exact ⟨k, v, hm, rfl⟩

lemma mapValues_inj {f g : ν → μ} : t.mapValues f = t.mapValues g ↔ ∀ v ∈ t.values, f v = g v := by
  constructor
  · intro h v hv
    obtain ⟨k, hk⟩ := mem_values_iff.mp hv
    have hl := congrArg (fun u => AList.lookup k u) h
    simp only [lookup_mapValues, hk, Option.map_some, Option.some.injEq] at hl
    exact hl
  · intro h
    apply AList.ext
    refine List.map_congr_left ?_
    rintro ⟨k, v⟩ hv
    simp only [Sigma.map, id, h v (List.mem_map_of_mem hv)]

lemma erase_mapValues (f : ν → μ) (t : Table κ ν) (k : κ) :
    (t.mapValues f).erase k = mapValues f (t.erase k) := by
  apply AList.ext
  simp only [AList.erase, mapValues, mapWithKey, List.kerase, List.eraseP_map]
  rfl

lemma entries_eq_nil_iff : t.entries = [] ↔ ∀ k, t.lookup k = none := by
  constructor
  · intro h k
    simp [AList.lookup, h]
  · intro h
    apply List.eq_nil_iff_forall_not_mem.mpr
    rintro ⟨k, v⟩ hm
    have hk := h k
    rw [lookup_eq_some_iff.mpr hm] at hk
    cases hk

lemma eq_empty_iff : t = ∅ ↔ ∀ k, t.lookup k = none := by
  rw [← entries_eq_nil_iff]
  exact ⟨fun h => by rw [h]; rfl, fun h => AList.ext h⟩

lemma lookup_of_perm {u : Table κ ν} (h : t.entries.Perm u.entries) (k : κ) :
    t.lookup k = u.lookup k :=
  AList.perm_lookup h

def sumBy (f : ν → ℕ) (t : Table κ ν) : ℕ :=
  (t.values.map f).sum

lemma sumBy_insert (f : ν → ℕ) (t : Table κ ν) (k : κ) (v : ν) :
    sumBy f (t.insert k v) = f v + sumBy f (t.erase k) := by
  simp [sumBy, values, AList.insert, AList.erase, List.kinsert]

lemma sumBy_of_lookup (h : t.lookup k = some v) (f : ν → ℕ) :
    sumBy f t = f v + sumBy f (t.erase k) := by
  have hk : k ∈ t.entries.keys := AList.mem_keys.mp (AList.lookup_isSome.mp (by simp [h]))
  obtain ⟨b, l, r, -, heq, her⟩ := List.exists_of_kerase hk
  have hb : t.lookup k = some b := lookup_eq_some_iff.mpr (by simp [heq])
  obtain rfl : v = b := Option.some.inj (h.symm.trans hb)
  simp only [sumBy, values, AList.erase, her]
  rw [heq]
  simp only [List.map_append, List.map_cons, List.sum_append, List.sum_cons]
  omega

lemma erase_of_lookup (h : t.lookup k = none) : t.erase k = t := by
  apply AList.ext
  exact List.kerase_of_notMem_keys (List.dlookup_eq_none.mp h)

lemma size_insert (t : Table κ ν) (k : κ) (v : ν) :
    size (t.insert k v) = size (t.erase k) + 1 := by
  simp [size, AList.insert, AList.erase, List.kinsert]

lemma size_of_lookup (h : t.lookup k = some v) : t.size = size (t.erase k) + 1 := by
  have hk : k ∈ t.entries.keys := AList.mem_keys.mp (AList.lookup_isSome.mp (by simp [h]))
  obtain ⟨b, l, r, -, heq, her⟩ := List.exists_of_kerase hk
  simp only [size, AList.erase, her]
  rw [heq]
  simp only [List.length_append, List.length_cons]
  omega

variable (t : Table κ ν)

lemma size_erase_le (k : κ) : size (t.erase k) ≤ t.size := by
  cases h : t.lookup k with
  | none => rw [erase_of_lookup h]
  | some v => rw [size_of_lookup h]; omega

lemma erase_erase_self (k : κ) : (t.erase k).erase k = t.erase k :=
  erase_of_lookup (AList.lookup_erase k t)

lemma erase_insert_self (k : κ) (v : ν) : (t.insert k v).erase k = t.erase k := by
  apply AList.ext
  exact List.kerase_cons_eq rfl

end Table

end OnionRoute.Library
