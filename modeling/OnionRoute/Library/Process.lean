import Mathlib.Logic.Relation
import Mathlib.Tactic

/-! Programs that write and read messages, and two of them that talk to each other. -/

namespace OnionRoute.Library

open Relation (ReflGen ReflTransGen)

variable {μ ε α β : Type}

inductive Process (μ ε α : Type)
  | ends (result : Except ε α)
  | writes (message : μ) (next : Process μ ε α)
  | reads (next : μ → Process μ ε α)

inductive Transfer (μ : Type)
  | sent (message : μ)
  | received (message : μ)

namespace Transfer

def dual : Transfer μ → Transfer μ
  | sent message => received message
  | received message => sent message

def outgoing : Transfer μ → Option μ
  | sent message => some message
  | received _ => none

def incoming : Transfer μ → Option μ
  | sent _ => none
  | received message => some message

end Transfer

variable {q : Process μ ε β}

namespace Process

protected def bind (f : α → Process μ ε β) : Process μ ε α → Process μ ε β
  | ends (.ok a) => f a
  | ends (.error e) => ends (.error e)
  | writes message next => writes message (next.bind f)
  | reads next => reads fun message => (next message).bind f

protected def tryCatch (handler : ε → Process μ ε α) : Process μ ε α → Process μ ε α
  | ends (.ok a) => ends (.ok a)
  | ends (.error e) => handler e
  | writes message next => writes message (next.tryCatch handler)
  | reads next => reads fun message => (next message).tryCatch handler

instance : Monad (Process μ ε) where
  pure a := ends (.ok a)
  bind p f := p.bind f

instance : MonadExceptOf ε (Process μ ε) where
  throw e := ends (.error e)
  tryCatch p handler := p.tryCatch handler

instance : MonadLift (Except ε) (Process μ ε) where
  monadLift := ends

protected def write (message : μ) : Process μ ε Unit :=
  writes message (ends (.ok ()))

protected def read : Process μ ε μ :=
  reads fun message => ends (.ok message)

inductive Completes : Process μ ε α → List (Transfer μ) → α → Prop
  | ends (a : α) : Completes (ends (.ok a)) [] a
  | writes {message : μ} {next : Process μ ε α} {transfers : List (Transfer μ)} {a : α} :
      Completes next transfers a → Completes (writes message next) (.sent message :: transfers) a
  | reads {message : μ} {next : μ → Process μ ε α} {transfers : List (Transfer μ)} {a : α} :
      Completes (next message) transfers a →
      Completes (reads next) (.received message :: transfers) a

variable {p : Process μ ε α} {f : α → Process μ ε β} {ts : List (Transfer μ)} {a : α} {b : β}
  {result : Except ε α}

lemma completes_ends : Completes (ends result : Process μ ε α) ts a ↔ result = .ok a ∧ ts = [] := by
  constructor
  · rintro ⟨⟩
    exact ⟨rfl, rfl⟩
  · rintro ⟨rfl, rfl⟩
    exact .ends a

lemma completes_writes {message : μ} {next : Process μ ε α} :
    Completes (writes message next) ts a ↔
      ∃ rest, ts = .sent message :: rest ∧ Completes next rest a := by
  constructor
  · rintro ⟨⟩
    exact ⟨_, rfl, by assumption⟩
  · rintro ⟨rest, rfl, h⟩
    exact .writes h

lemma completes_reads {next : μ → Process μ ε α} :
    Completes (reads next) ts a ↔
      ∃ message rest, ts = .received message :: rest ∧ Completes (next message) rest a := by
  constructor
  · rintro ⟨⟩
    exact ⟨_, _, rfl, by assumption⟩
  · rintro ⟨message, rest, rfl, h⟩
    exact .reads h

lemma completes_bind :
    Completes (p >>= f) ts b ↔
      ∃ a us vs, ts = us ++ vs ∧ Completes p us a ∧ Completes (f a) vs b := by
  change Completes (p.bind f) ts b ↔ _
  induction p generalizing ts with
  | ends result =>
    cases result with
    | ok a =>
      constructor
      · intro h
        exact ⟨a, [], ts, rfl, .ends a, h⟩
      · rintro ⟨a', us, vs, rfl, ⟨⟩, h⟩
        exact h
    | error e =>
      constructor
      · rintro ⟨⟩
      · rintro ⟨a', us, vs, rfl, ⟨⟩, h⟩
  | writes message next ih =>
    rw [Process.bind, completes_writes]
    constructor
    · rintro ⟨rest, rfl, h⟩
      obtain ⟨a, us, vs, rfl, hp, hf⟩ := ih.mp h
      exact ⟨a, _, vs, rfl, .writes hp, hf⟩
    · rintro ⟨a, us, vs, rfl, hp, hf⟩
      obtain ⟨rest, rfl, hnext⟩ := completes_writes.mp hp
      exact ⟨rest ++ vs, rfl, ih.mpr ⟨a, rest, vs, rfl, hnext, hf⟩⟩
  | reads next ih =>
    rw [Process.bind, completes_reads]
    constructor
    · rintro ⟨message, rest, rfl, h⟩
      obtain ⟨a, us, vs, rfl, hp, hf⟩ := (ih message).mp h
      exact ⟨a, _, vs, rfl, .reads hp, hf⟩
    · rintro ⟨a, us, vs, rfl, hp, hf⟩
      obtain ⟨message, rest, rfl, hnext⟩ := completes_reads.mp hp
      exact ⟨message, rest ++ vs, rfl, (ih message).mpr ⟨a, rest, vs, rfl, hnext, hf⟩⟩

lemma completes_pure {a' : α} :
    Completes (pure a' : Process μ ε α) ts a ↔ a' = a ∧ ts = [] := by
  change Completes (ends (.ok a')) ts a ↔ _
  rw [completes_ends, Except.ok.injEq]

lemma completes_throw {e : ε} : Completes (throw e : Process μ ε α) ts a ↔ False := by
  change Completes (ends (.error e)) ts a ↔ _
  simp [completes_ends]

lemma completes_lift_bind :
    Completes (liftM result >>= f) ts b ↔ ∃ a, result = .ok a ∧ Completes (f a) ts b := by
  change Completes ((ends result).bind f) ts b ↔ _
  cases result with
  | ok a => simp [Process.bind]
  | error e => simp [Process.bind, completes_ends]

lemma completes_read_bind {f : μ → Process μ ε β} :
    Completes (Process.read >>= f) ts b ↔
      ∃ message rest, ts = .received message :: rest ∧ Completes (f message) rest b :=
  completes_reads

lemma completes_guard {c : Prop} [Decidable c] {e : ε} {k : PUnit → Process μ ε β} :
    Completes (if c then throw e >>= k else q) ts b ↔ ¬ c ∧ Completes q ts b := by
  by_cases hc : c
  · have hthrow : ((throw e : Process μ ε PUnit) >>= k) = throw e := rfl
    simp [hc, hthrow, completes_throw]
  · simp [hc]

end Process

structure Exchange (μ ε α β : Type) where
  left : Process μ ε α
  right : Process μ ε β
  toLeft : List μ
  toRight : List μ

namespace Exchange

inductive Step : Exchange μ ε α β → Exchange μ ε α β → Prop
  | leftWrites {m : μ} {p : Process μ ε α} {q : Process μ ε β} {l r : List μ} :
      Step ⟨.writes m p, q, l, r⟩ ⟨p, q, l, r ++ [m]⟩
  | leftReads {m : μ} {p : μ → Process μ ε α} {q : Process μ ε β} {l r : List μ} :
      Step ⟨.reads p, q, m :: l, r⟩ ⟨p m, q, l, r⟩
  | rightWrites {m : μ} {p : Process μ ε α} {q : Process μ ε β} {l r : List μ} :
      Step ⟨p, .writes m q, l, r⟩ ⟨p, q, l ++ [m], r⟩
  | rightReads {m : μ} {p : Process μ ε α} {q : μ → Process μ ε β} {l r : List μ} :
      Step ⟨p, .reads q, l, m :: r⟩ ⟨p, q m, l, r⟩

def Reaches : Exchange μ ε α β → Exchange μ ε α β → Prop :=
  ReflTransGen Step

def success (a : α) (b : β) : Exchange μ ε α β :=
  ⟨.ends (.ok a), .ends (.ok b), [], []⟩

variable {x y z : Exchange μ ε α β} {a : α} {b : β}

lemma Step.diamond (hy : Step x y) (hz : Step x z) :
    ∃ w, ReflGen Step y w ∧ ReflTransGen Step z w := by
  cases hy with
  | leftWrites =>
    cases hz with
    | leftWrites => exact ⟨_, .refl, .refl⟩
    | rightWrites => exact ⟨_, .single .rightWrites, .single .leftWrites⟩
    | rightReads => exact ⟨_, .single .rightReads, .single .leftWrites⟩
  | leftReads =>
    cases hz with
    | leftReads => exact ⟨_, .refl, .refl⟩
    | rightWrites => exact ⟨_, .single .rightWrites, .single .leftReads⟩
    | rightReads => exact ⟨_, .single .rightReads, .single .leftReads⟩
  | rightWrites =>
    cases hz with
    | leftWrites => exact ⟨_, .single .leftWrites, .single .rightWrites⟩
    | leftReads => exact ⟨_, .single .leftReads, .single .rightWrites⟩
    | rightWrites => exact ⟨_, .refl, .refl⟩
  | rightReads =>
    cases hz with
    | leftWrites => exact ⟨_, .single .leftWrites, .single .rightReads⟩
    | leftReads => exact ⟨_, .single .leftReads, .single .rightReads⟩
    | rightReads => exact ⟨_, .refl, .refl⟩

lemma not_step_success : ¬ Step (success a b) y := by
  rintro ⟨⟩

theorem Reaches.of_success (hx : x.Reaches (success a b)) (hy : x.Reaches y) :
    y.Reaches (success a b) := by
  obtain ⟨w, hw, hw'⟩ := Relation.church_rosser (fun _ _ _ => Step.diamond) hx hy
  obtain rfl | ⟨_, hstep, -⟩ := hw.cases_head
  · exact hw'
  · exact absurd hstep not_step_success

lemma reaches_success {p : Process μ ε α} {ts : List (Transfer μ)} (hp : p.Completes ts a)
    (hq : q.Completes (ts.map Transfer.dual) b) : Reaches ⟨p, q, [], []⟩ (success a b) := by
  induction ts generalizing p q with
  | nil =>
    cases hp
    cases hq
    exact .refl
  | cons t ts ih =>
    cases t with
    | sent m =>
      cases hp with
      | writes hp =>
        cases hq with
        | reads hq => exact .head .leftWrites (.head .rightReads (ih hp hq))
    | received m =>
      cases hp with
      | reads hp =>
        cases hq with
        | writes hq => exact .head .rightWrites (.head .leftReads (ih hp hq))

lemma Reaches.completes {l r : List μ} (h : x.Reaches ⟨.ends (.ok a), .ends (.ok b), l, r⟩) :
    ∃ ts us, x.left.Completes ts a ∧ x.right.Completes us b ∧
      x.toLeft ++ us.filterMap Transfer.outgoing = ts.filterMap Transfer.incoming ++ l ∧
      x.toRight ++ ts.filterMap Transfer.outgoing = us.filterMap Transfer.incoming ++ r := by
  induction h using ReflTransGen.head_induction_on with
  | refl => exact ⟨[], [], .ends a, .ends b, by simp, by simp⟩
  | head hstep _ ih =>
    obtain ⟨ts, us, hp, hq, hl, hr⟩ := ih
    cases hstep with
    | @leftWrites m =>
      refine ⟨.sent m :: ts, us, .writes hp, hq, hl, ?_⟩
      simpa [Transfer.outgoing] using hr
    | @leftReads m =>
      refine ⟨.received m :: ts, us, .reads hp, hq, ?_, hr⟩
      simpa [Transfer.incoming] using hl
    | @rightWrites m =>
      refine ⟨ts, .sent m :: us, hp, .writes hq, ?_, hr⟩
      simpa [Transfer.outgoing] using hl
    | @rightReads m =>
      refine ⟨ts, .received m :: us, hp, .reads hq, hl, ?_⟩
      simpa [Transfer.incoming] using hr

def advance : Exchange μ ε α β → Exchange μ ε α β
  | ⟨.writes m p, q, l, r⟩ => ⟨p, q, l, r ++ [m]⟩
  | ⟨p, .writes m q, l, r⟩ => ⟨p, q, l ++ [m], r⟩
  | ⟨.reads p, q, m :: l, r⟩ => ⟨p m, q, l, r⟩
  | ⟨p, .reads q, l, m :: r⟩ => ⟨p, q m, l, r⟩
  | x => x

lemma reaches_advance (x : Exchange μ ε α β) : x.Reaches x.advance := by
  unfold advance
  split
  · exact .single .leftWrites
  · exact .single .rightWrites
  · exact .single .leftReads
  · exact .single .rightReads
  · exact .refl

def succeeded : Exchange μ ε α β → Bool
  | ⟨.ends (.ok _), .ends (.ok _), _, _⟩ => true
  | _ => false

lemma reaches_of_succeeded (n : ℕ) (h : (advance^[n] x).succeeded = true) :
    ∃ a b l r, x.Reaches ⟨.ends (.ok a), .ends (.ok b), l, r⟩ := by
  induction n generalizing x with
  | zero =>
    unfold succeeded at h
    split at h
    next hx =>
      obtain rfl : x = _ := hx
      exact ⟨_, _, _, _, .refl⟩
    next => cases h
  | succ n ih =>
    obtain ⟨a, b, l, r, hreach⟩ := ih h
    exact ⟨a, b, l, r, (reaches_advance x).trans hreach⟩

end Exchange

end OnionRoute.Library
