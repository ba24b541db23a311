import Mathlib.Tactic

/-! Computations that may fail. Those with a state keep what they have done when they fail. -/

namespace OnionRoute.Library

variable {ε σ α β : Type}

section Except

variable {x : Except ε α} {f : α → Except ε β} {y : Except ε β} {a a' : α} {b : β} {e e' : ε}

lemma bind_eq_ok : (x >>= f) = .ok b ↔ ∃ a, x = .ok a ∧ f a = .ok b := by
  cases x with
  | ok a => simp [bind, Except.bind]
  | error e => simp [bind, Except.bind]

lemma bind_eq_error :
    (x >>= f) = .error e ↔ x = .error e ∨ ∃ a, x = .ok a ∧ f a = .error e := by
  cases x with
  | ok a => simp [bind, Except.bind]
  | error e => simp [bind, Except.bind]

lemma pure_eq_ok : (pure a : Except ε α) = .ok a' ↔ a = a' := by
  simp [pure, Except.pure]

lemma pure_eq_error : (pure a : Except ε α) = .error e ↔ False := by
  simp [pure, Except.pure]

lemma throw_eq_ok : (throw e : Except ε α) = .ok a ↔ False := by
  simp [throw, throwThe, MonadExceptOf.throw]

lemma throw_eq_error : (throw e : Except ε α) = .error e' ↔ e = e' := by
  simp [throw, throwThe, MonadExceptOf.throw]

variable {p : Prop} [Decidable p]

lemma guard_eq_ok : (if p then throw e >>= f else y) = .ok b ↔ ¬ p ∧ y = .ok b := by
  by_cases hp : p
  · simp [hp, bind_eq_ok, throw_eq_ok]
  · simp [hp]

lemma guard_eq_error :
    (if p then throw e >>= f else y) = .error e' ↔ p ∧ e = e' ∨ ¬ p ∧ y = .error e' := by
  by_cases hp : p
  · simp [hp, bind_eq_error, throw_eq_error, throw_eq_ok]
  · simp [hp]

lemma ite_throw_eq_ok : (if p then throw e else pure a : Except ε α) = .ok a' ↔ ¬ p ∧ a = a' := by
  by_cases hp : p
  · simp [hp, throw_eq_ok]
  · simp [hp, pure_eq_ok]

lemma ite_throw_eq_error :
    (if p then throw e else pure a : Except ε α) = .error e' ↔ p ∧ e = e' := by
  by_cases hp : p
  · simp [hp, throw_eq_error]
  · simp [hp, pure_eq_error]

lemma forIn_eq_ok {check : α → Except ε Unit} {u : PUnit} {list : List α} :
    (forIn list PUnit.unit fun a _ => do
      check a
      pure (ForInStep.yield PUnit.unit)) = .ok u ↔ ∀ a ∈ list, check a = .ok () := by
  induction list with
  | nil => simp [pure_eq_ok]
  | cons b rest ih =>
    rw [List.forIn_cons, List.forall_mem_cons, ← ih]
    cases hb : check b with
    | ok v => simp [bind, Except.bind, pure, Except.pure]
    | error e => simp [bind, Except.bind]

end Except

variable {g : σ → σ} {m : EStateM ε σ α} {f : α → EStateM ε σ β} {s t : σ} {e : ε}
  {post : α → σ → Prop} {post' : β → σ → Prop}

section State

instance liftExcept : MonadLift (Except ε) (EStateM ε σ) where
  monadLift x s :=
    match x with
    | .ok a => .ok a s
    | .error e => .error e s

variable {a a' : α} {b : β}

lemma state_get : (get : EStateM ε σ σ) s = .ok s s := rfl

lemma state_set : (set t : EStateM ε σ PUnit) s = .ok ⟨⟩ t := rfl

lemma state_throw : (throw e : EStateM ε σ α) s = .error e s := rfl

lemma state_modify : (modify g : EStateM ε σ PUnit) s = .ok ⟨⟩ (g s) := rfl

lemma state_bind_eq_ok : (m >>= f) s = .ok b t ↔ ∃ a u, m s = .ok a u ∧ f a u = .ok b t := by
  simp only [bind, EStateM.bind]
  cases m s with
  | ok a u => simp
  | error e u => simp

lemma state_bind_eq_error : (m >>= f) s = .error e t ↔
    m s = .error e t ∨ ∃ a u, m s = .ok a u ∧ f a u = .error e t := by
  simp only [bind, EStateM.bind]
  cases m s with
  | ok a u => simp
  | error e u => simp

lemma state_pure_eq_ok : (pure a : EStateM ε σ α) s = .ok a' t ↔ a = a' ∧ s = t := by
  simp [pure, EStateM.pure]

lemma state_get_eq_ok {s' : σ} : (get : EStateM ε σ σ) s = .ok s' t ↔ s = s' ∧ s = t := by
  simp [state_get]

lemma state_set_eq_ok {s' : σ} {u : PUnit} :
    (set s' : EStateM ε σ PUnit) s = .ok u t ↔ s' = t := by
  simp [state_set]

lemma state_guard_eq_ok {p : Prop} [Decidable p] {k : EStateM ε σ β} :
    (if p then throw e >>= f else k) s = .ok b t ↔ ¬ p ∧ k s = .ok b t := by
  by_cases hp : p
  · simp [hp, bind, EStateM.bind, state_throw]
  · simp [hp]

lemma state_lift_eq_ok {x : Except ε α} :
    (liftM x : EStateM ε σ α) s = .ok a t ↔ x = .ok a ∧ s = t := by
  cases x with
  | ok b =>
    have hlift : (liftM (Except.ok b : Except ε α) : EStateM ε σ α) s = .ok b s := rfl
    simp [hlift]
  | error e =>
    have hlift : (liftM (Except.error e : Except ε α) : EStateM ε σ α) s = .error e s := rfl
    simp [hlift]

end State

def finalState (m : EStateM ε σ α) (s : σ) : σ :=
  match m s with
  | .ok _ t => t
  | .error _ t => t

def Ends (m : EStateM ε σ α) (s : σ) (post : α → σ → Prop) (fail : σ → Prop) : Prop :=
  match m s with
  | .ok a t => post a t
  | .error _ t => fail t

instance (m : EStateM ε σ α) (s : σ) (post : α → σ → Prop) (fail : σ → Prop)
    [∀ a t, Decidable (post a t)] [∀ t, Decidable (fail t)] : Decidable (Ends m s post fail) :=
  match h : m s with
  | .ok a t => decidable_of_iff (post a t) (by rw [Ends, h])
  | .error _ t => decidable_of_iff (fail t) (by rw [Ends, h])

variable {post₁ : α → σ → Prop}

namespace Ends

variable {k : EStateM ε σ β} {mid : α → σ → Prop} {fail : σ → Prop}

lemma of_pure {a : α} (h : post a s) : Ends (pure a : EStateM ε σ α) s post fail := h

lemma of_throw (h : fail s) : Ends (throw e : EStateM ε σ α) s post fail := h

lemma bind (h : Ends m s mid fail) (hf : ∀ a t, mid a t → Ends (f a) t post' fail) :
    Ends (m >>= f) s post' fail := by
  rw [Ends] at h ⊢
  have hb : (m >>= f) s = EStateM.bind m f s := rfl
  rw [hb, EStateM.bind]
  cases hm : m s with
  | ok a t =>
    rw [hm] at h
    exact hf a t h
  | error e t => rw [hm] at h; exact h

lemma get_bind {f : σ → EStateM ε σ β} (h : Ends (f s) s post' fail) :
    Ends (get >>= f) s post' fail := h

lemma modify_bind {f : PUnit → EStateM ε σ β} (h : Ends (f ⟨⟩) (g s) post' fail) :
    Ends (modify g >>= f) s post' fail := h

lemma of_modify {post : PUnit → σ → Prop} (h : post ⟨⟩ (g s)) :
    Ends (modify g : EStateM ε σ PUnit) s post fail := h

lemma set_bind {f : PUnit → EStateM ε σ β} (h : Ends (f ⟨⟩) t post' fail) :
    Ends (set t >>= f) s post' fail := h

lemma of_set {post : PUnit → σ → Prop} (h : post ⟨⟩ t) :
    Ends (set t : EStateM ε σ PUnit) s post fail := h

lemma lift_bind {x : Except ε α} (hok : ∀ a, x = .ok a → Ends (f a) s post' fail)
    (herror : fail s) : Ends ((liftM x : EStateM ε σ α) >>= f) s post' fail := by
  cases x with
  | ok a => exact hok a rfl
  | error e => exact herror

lemma lift_ok_bind {x : Except ε α} {a : α} (hx : x = .ok a) (h : Ends (f a) s post' fail) :
    Ends ((liftM x : EStateM ε σ α) >>= f) s post' fail := by
  subst hx
  exact h

lemma guard {p : Prop} [Decidable p] (hp : p → fail s) (hk : ¬ p → Ends k s post' fail) :
    Ends (if p then throw e >>= f else k) s post' fail := by
  by_cases h : p
  · rw [if_pos h]
    exact hp h
  · rw [if_neg h]
    exact hk h

lemma mono {fail₁ : σ → Prop} (h : Ends m s post fail) (hp : ∀ a t, post a t → post₁ a t)
    (hfail : ∀ t, fail t → fail₁ t) : Ends m s post₁ fail₁ := by
  rw [Ends] at h ⊢
  cases hm : m s with
  | ok a t => rw [hm] at h; exact hp a t h
  | error e t => rw [hm] at h; exact hfail t h

lemma of_ok (h : Ends m s post fail) {a : α} (hm : m s = .ok a t) : post a t := by
  rw [Ends, hm] at h
  exact h

lemma exists_ok (h : Ends m s post fun _ => False) : ∃ a t, m s = .ok a t ∧ post a t := by
  rw [Ends] at h
  cases hm : m s with
  | ok a t => rw [hm] at h; exact ⟨a, t, rfl, h⟩
  | error e t => rw [hm] at h; exact h.elim

lemma finalState (h : Ends m s post fail) {inv : σ → Prop} (hpost : ∀ a t, post a t → inv t)
    (hfail : ∀ t, fail t → inv t) : inv (finalState m s) := by
  rw [Ends] at h
  rw [Library.finalState]
  cases hm : m s with
  | ok a t => rw [hm] at h; exact hpost a t h
  | error e t => rw [hm] at h; exact hfail t h

end Ends

def Atomic (m : EStateM ε σ α) (s : σ) (post : α → σ → Prop) : Prop :=
  match m s with
  | .ok a t => post a t
  | .error _ t => t = s

namespace Atomic

lemma mono (h : Atomic m s post) (hp : ∀ a t, post a t → post₁ a t) : Atomic m s post₁ := by
  rw [Atomic] at h ⊢
  cases hm : m s with
  | ok a t => rw [hm] at h; exact hp a t h
  | error e t => rw [hm] at h; exact h

lemma bind {p : α → Prop} (h : Atomic m s fun a t => t = s ∧ p a)
    (hf : ∀ a, p a → Atomic (f a) s post') : Atomic (m >>= f) s post' := by
  rw [Atomic] at h ⊢
  have hb : (m >>= f) s = EStateM.bind m f s := rfl
  rw [hb, EStateM.bind]
  cases hm : m s with
  | ok a t =>
    rw [hm] at h
    obtain ⟨rfl, ha⟩ := h
    exact hf a ha
  | error e t => rw [hm] at h; exact h

lemma then_ok (h : Atomic m s post) (hf : ∀ a t, post a t → ∃ b u, f a t = .ok b u ∧ post' b u) :
    Atomic (m >>= f) s post' := by
  rw [Atomic] at h ⊢
  have hb : (m >>= f) s = EStateM.bind m f s := rfl
  rw [hb, EStateM.bind]
  cases hm : m s with
  | ok a t =>
    rw [hm] at h
    obtain ⟨b, u, hu, hpost⟩ := hf a t h
    simp only [hu, hpost]
  | error e t => rw [hm] at h; exact h

lemma finalState_cases (h : Atomic m s post) :
    finalState m s = s ∨ ∃ a, m s = .ok a (finalState m s) ∧ post a (finalState m s) := by
  rw [Atomic] at h
  rw [finalState]
  cases hm : m s with
  | ok a t => rw [hm] at h; exact .inr ⟨a, rfl, h⟩
  | error e t => rw [hm] at h; exact .inl h

lemma of_ok (h : Atomic m s post) {a : α} (hm : m s = .ok a t) : post a t := by
  rw [Atomic, hm] at h
  exact h

end Atomic

end OnionRoute.Library
