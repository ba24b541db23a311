import OnionRoute.Library.Trace
import OnionRoute.GatewayDaemon.Messages

/-! The credit that paces egress data. What the loop and a reader do is cut at every operation on
the semaphore and on the counter. -/

namespace OnionRoute.GatewayDaemon

open Library

structure FlowCredit where
  permits : ℕ
  outstanding : ℕ
  maximum : ℕ
  deriving DecidableEq

namespace FlowCredit

def new (initial maximum : ℕ) : FlowCredit := ⟨initial, initial, maximum⟩

def raise (amount : ℕ) (c : FlowCredit) : GatewayResult FlowCredit :=
  if c.outstanding + amount ≤ c.maximum then
    .ok { c with outstanding := c.outstanding + amount }
  else
    .error .protocolViolation

def addPermits (amount : ℕ) (c : FlowCredit) : FlowCredit :=
  { c with permits := c.permits + amount }

def grant (amount : ℕ) (c : FlowCredit) : GatewayResult FlowCredit := do
  let raised ← c.raise amount
  return raised.addPermits amount

def demand (maximum : ℕ) (c : FlowCredit) : ℕ := min (max c.permits 1) maximum

def takePermits (amount : ℕ) (c : FlowCredit) : FlowCredit :=
  { c with permits := c.permits - amount }

def lower (amount : ℕ) (c : FlowCredit) : FlowCredit :=
  { c with outstanding := c.outstanding - amount }

def putBack (amount : ℕ) (c : FlowCredit) : FlowCredit :=
  { c with outstanding := c.outstanding + amount }

end FlowCredit

inductive Reader
  | idle
  | waiting (amount : ℕ)
  | taken (amount : ℕ)
  | reading (reserved : ℕ)
  | restoring (amount : ℕ) (report : Option Bytes)
  | crediting (amount : ℕ) (report : Option Bytes)
  | paying (payload : Bytes)
  | sending (event : StreamEvent)
  | finished
  deriving DecidableEq

namespace Reader

def settled (streamId : UInt64) : Option Bytes → Reader
  | none => .sending (.halfClosed streamId)
  | some payload => .paying payload

def sent : StreamEvent → Reader
  | .data _ _ => .idle
  | _ => .finished

end Reader

/-- One stream of a session: its credit and its reader, what is left of `grant`, its events in the
channel, the `Data` bytes sent and the credit granted. -/
structure PacedStream where
  credit : FlowCredit
  reader : Reader
  granting : ℕ
  queue : List StreamEvent
  sent : ℕ
  granted : ℕ

def StreamEvent.size : StreamEvent → ℕ
  | .data _ payload => payload.length
  | _ => 0

namespace PacedStream

def start (initialWindow maxStreamWindow : ℕ) : PacedStream where
  credit := .new initialWindow maxStreamWindow
  reader := .idle
  granting := 0
  queue := []
  sent := 0
  granted := 0

inductive Event
  | grant (amount : ℕ)
  | work

inductive Step (streamId : UInt64) (maxData : ℕ) : PacedStream → Event → PacedStream → Prop
  | grant {s : PacedStream} {amount : ℕ} {c : FlowCredit} : s.granting = 0 →
      s.credit.raise amount = .ok c →
      Step streamId maxData s (.grant amount)
        { s with credit := c, granting := amount, granted := s.granted + amount }
  -- A refused grant ends the session, which aborts the reader.
  | refuse {s : PacedStream} {amount : ℕ} {e : GatewayErrorCode} : s.granting = 0 →
      s.credit.raise amount = .error e →
      Step streamId maxData s (.grant amount) { s with reader := .finished }
  | permit {s : PacedStream} :
      Step streamId maxData s .work
        { s with credit := s.credit.addPermits s.granting, granting := 0 }
  | acquire {s : PacedStream} : s.reader = .idle →
      Step streamId maxData s .work { s with reader := .waiting (s.credit.demand maxData) }
  | take {s : PacedStream} {amount : ℕ} : s.reader = .waiting amount →
      amount ≤ s.credit.permits →
      Step streamId maxData s .work
        { s with credit := s.credit.takePermits amount, reader := .taken amount }
  | lower {s : PacedStream} {amount : ℕ} : s.reader = .taken amount →
      Step streamId maxData s .work
        { s with credit := s.credit.lower amount, reader := .reading amount }
  | read {s : PacedStream} {reserved : ℕ} {payload : Bytes} : s.reader = .reading reserved →
      payload ≠ [] → payload.length ≤ reserved →
      Step streamId maxData s .work
        { s with reader := .restoring (reserved - payload.length) (some payload) }
  | endOfFile {s : PacedStream} {reserved : ℕ} : s.reader = .reading reserved →
      Step streamId maxData s .work { s with reader := .restoring reserved none }
  | readError {s : PacedStream} {reserved : ℕ} {e : GatewayErrorCode} :
      s.reader = .reading reserved → e = .egressFailure ∨ e = .timeout →
      Step streamId maxData s .work { s with reader := .sending (.failed streamId e) }
  | putBack {s : PacedStream} {amount : ℕ} {report : Option Bytes} :
      s.reader = .restoring amount report → 0 < amount →
      Step streamId maxData s .work
        { s with credit := s.credit.putBack amount, reader := .crediting amount report }
  | nothingLeft {s : PacedStream} {report : Option Bytes} : s.reader = .restoring 0 report →
      Step streamId maxData s .work { s with reader := .settled streamId report }
  | credit {s : PacedStream} {amount : ℕ} {report : Option Bytes} :
      s.reader = .crediting amount report →
      Step streamId maxData s .work
        { s with credit := s.credit.addPermits amount, reader := .settled streamId report }
  | pay {s : PacedStream} {payload : Bytes} : s.reader = .paying payload →
      Step streamId maxData s .work { s with reader := .sending (.data streamId payload) }
  | exhausted {s : PacedStream} {payload : Bytes} {e : GatewayErrorCode} :
      s.reader = .paying payload →
      Step streamId maxData s .work { s with reader := .sending (.failed streamId e) }
  | send {s : PacedStream} {event : StreamEvent} : s.reader = .sending event →
      Step streamId maxData s .work { s with reader := .sent event, queue := s.queue ++ [event] }
  | deliver {s : PacedStream} {event : StreamEvent} {rest : List StreamEvent} :
      s.queue = event :: rest →
      Step streamId maxData s .work { s with queue := rest, sent := s.sent + event.size }
  | ignore {s : PacedStream} {event : StreamEvent} {rest : List StreamEvent} :
      s.queue = event :: rest →
      Step streamId maxData s .work { s with queue := rest }
  | abort {s : PacedStream} : Step streamId maxData s .work { s with reader := .finished }

def held (s : PacedStream) : ℕ :=
  match s.reader with
  | .reading reserved => reserved
  | .restoring amount _ => amount
  | _ => 0

def ahead (s : PacedStream) : ℕ :=
  match s.reader with
  | .taken amount => amount
  | .crediting amount _ => amount
  | _ => 0

def carried (s : PacedStream) : ℕ :=
  match s.reader with
  | .restoring _ report => (report.getD []).length
  | .crediting _ report => (report.getD []).length
  | .paying payload => payload.length
  | .sending event => event.size
  | _ => 0

def queued (s : PacedStream) : ℕ := (s.queue.map StreamEvent.size).sum

def Covered (s : PacedStream) : Event → Prop
  | .grant amount => s.credit.outstanding + s.held + amount ≤ s.credit.maximum
  | .work => True

structure Balanced (initial : ℕ) (s : PacedStream) : Prop where
  permits : s.credit.permits + s.ahead + s.granting ≤ s.credit.outstanding
  bytes : s.credit.outstanding + s.held + s.carried + s.queued + s.sent ≤ initial + s.granted

variable {streamId : UInt64} {maxData initial window : ℕ} {s t : PacedStream} {e : Event}

lemma raise_eq_ok {c d : FlowCredit} {amount : ℕ} : c.raise amount = .ok d ↔
    c.outstanding + amount ≤ c.maximum ∧ d = { c with outstanding := c.outstanding + amount } := by
  unfold FlowCredit.raise
  split_ifs with h
  · simp [h, eq_comm]
  · simp [h]

lemma Balanced.step (hs : Balanced initial s) (h : Step streamId maxData s e t) :
    Balanced initial t := by
  obtain ⟨hp, hb⟩ := hs
  cases h with
  | grant hg hc =>
    obtain ⟨-, rfl⟩ := raise_eq_ok.mp hc
    constructor
    · simp only [ahead] at hp ⊢
      omega
    · simp only [held, carried, queued] at hb ⊢
      omega
  | refuse | abort =>
    constructor
    · simp only [ahead] at hp ⊢
      omega
    · simp only [held, carried, queued] at hb ⊢
      omega
  | permit =>
    constructor
    · simp only [ahead, FlowCredit.addPermits] at hp ⊢
      omega
    · exact hb
  | acquire hr | endOfFile hr | pay hr =>
    simp only [ahead, held, carried, queued, hr] at hp hb
    exact ⟨hp, hb⟩
  | take hr hle =>
    simp only [ahead, held, carried, queued, hr] at hp hb
    constructor
    · simp only [ahead, FlowCredit.takePermits]
      omega
    · exact hb
  | lower hr =>
    simp only [ahead, held, carried, queued, hr] at hp hb
    constructor
    · simp only [ahead, FlowCredit.lower]
      omega
    · simp only [held, carried, queued, FlowCredit.lower]
      omega
  | read hr hne hle =>
    simp only [ahead, held, carried, queued, hr] at hp hb
    constructor
    · exact hp
    · simp only [held, carried, queued, Option.getD_some]
      omega
  | readError hr | exhausted hr =>
    simp only [ahead, held, carried, queued, hr] at hp hb
    constructor
    · exact hp
    · simp only [held, carried, queued, StreamEvent.size]
      omega
  | putBack hr hpos =>
    simp only [ahead, held, carried, queued, hr] at hp hb
    constructor
    · simp only [ahead, FlowCredit.putBack]
      omega
    · simp only [held, carried, queued, FlowCredit.putBack]
      omega
  | @nothingLeft report hr =>
    simp only [ahead, held, carried, queued, hr] at hp hb
    cases report <;> exact ⟨hp, hb⟩
  | @credit amount report hr =>
    simp only [ahead, held, carried, queued, hr] at hp hb
    have hp' : s.credit.permits + amount + 0 + s.granting ≤ s.credit.outstanding := by omega
    cases report <;> exact ⟨hp', hb⟩
  | @send event hr =>
    simp only [ahead, held, carried, queued, hr] at hp hb
    cases event <;> constructor <;>
      simp only [ahead, held, carried, queued, Reader.sent, List.map_append, List.map_cons,
        List.map_nil, List.sum_append, List.sum_cons, List.sum_nil] <;> omega
  | deliver hq | ignore hq =>
    simp only [queued, hq, List.map_cons, List.sum_cons] at hb
    constructor
    · exact hp
    · simp only [held, carried, queued] at hb ⊢
      omega

lemma Step.maximum (h : Step streamId maxData s e t) :
    t.credit.maximum = s.credit.maximum := by
  cases h with
  | grant hg hc =>
    obtain ⟨-, rfl⟩ := raise_eq_ok.mp hc
    rfl
  | _ => rfl

lemma Step.outstanding (hs : Balanced initial s) (h : Step streamId maxData s e t) :
    t.credit.outstanding + t.held ≤ s.credit.outstanding + s.held ∨
      ∃ amount, e = .grant amount ∧
        t.credit.outstanding + t.held = s.credit.outstanding + s.held + amount := by
  have hp := hs.permits
  cases h with
  | @grant amount c hg hc =>
    obtain ⟨-, rfl⟩ := raise_eq_ok.mp hc
    refine .inr ⟨amount, rfl, ?_⟩
    simp only [held]
    omega
  | lower hr =>
    simp only [held, ahead, hr, FlowCredit.lower] at hp ⊢
    omega
  | @nothingLeft report hr => cases report <;> exact .inl (by simp [held, hr, Reader.settled])
  | @credit amount report hr =>
    cases report <;> exact .inl (by simp [held, hr, Reader.settled, FlowCredit.addPermits])
  | @send event hr => cases event <;> exact .inl (by simp [held, hr, Reader.sent])
  | read hr | endOfFile hr | readError hr | putBack hr | acquire hr | take hr | pay hr
  | exhausted hr =>
    simp only [held, hr, FlowCredit.putBack, FlowCredit.takePermits]
    omega
  | refuse | permit | deliver | ignore | abort =>
    simp only [held, FlowCredit.addPermits]
    omega

lemma balanced_start (initial window : ℕ) : Balanced initial (start initial window) := by
  constructor <;> simp [start, FlowCredit.new, ahead, held, carried, queued]

lemma balanced_of_trace {es : List Event}
    (h : Trace (Step streamId maxData) (start initial window) es s) : Balanced initial s :=
  h.invariant (fun hstep hs => hs.step hstep) (balanced_start initial window)

def CoveredStep (streamId : UInt64) (maxData : ℕ) (s : PacedStream) (e : Event) (t : PacedStream) :
    Prop :=
  Step streamId maxData s e t ∧ s.Covered e

structure Windowed (initial window : ℕ) (s : PacedStream) : Prop where
  balanced : Balanced initial s
  maximum : s.credit.maximum = window
  outstanding : s.credit.outstanding + s.held ≤ window

lemma Windowed.step (hs : Windowed initial window s) (h : CoveredStep streamId maxData s e t) :
    Windowed initial window t := by
  obtain ⟨hstep, hc⟩ := h
  refine ⟨hs.balanced.step hstep, hstep.maximum.trans hs.maximum, ?_⟩
  rcases hstep.outstanding hs.balanced with hle | ⟨amount, rfl, heq⟩
  · exact hle.trans hs.outstanding
  · rw [heq, ← hs.maximum]
    simp only [Covered] at hc
    omega

lemma windowed_of_trace {es : List Event} (hi : initial ≤ window)
    (h : Trace (CoveredStep streamId maxData) (start initial window) es s) :
    Windowed initial window s := by
  refine h.invariant (fun hstep hs => hs.step hstep) ⟨balanced_start _ _, rfl, ?_⟩
  simpa [start, FlowCredit.new, held] using hi

theorem credit_paces {streamId : UInt64} {maxData initial window : ℕ} (hi : initial ≤ window) :
    (∀ es s, Trace (Step streamId maxData) (start initial window) es s →
      s.sent ≤ initial + s.granted) ∧
    (∀ es s, Trace (CoveredStep streamId maxData) (start initial window) es s →
      s.credit.outstanding ≤ window ∧ s.credit.permits ≤ window) := by
  constructor
  · intro es s h
    have hb := (balanced_of_trace h).bytes
    omega
  · intro es s h
    have hw := windowed_of_trace hi h
    have hp := hw.balanced.permits
    have ho := hw.outstanding
    omega

theorem credit_paces_grant : ∃ s, Trace (CoveredStep 1 4) (start 3 5) [.grant 2] s ∧
    s.sent ≤ 3 + s.granted ∧ s.credit.outstanding ≤ 5 ∧ s.credit.permits ≤ 5 := by
  have hi : 3 ≤ 5 := by decide
  have hstep : Step 1 4 (start 3 5) (.grant 2) _ := .grant rfl (raise_eq_ok.mpr ⟨by decide, rfl⟩)
  have hc : (start 3 5).Covered (.grant 2) := by simp [Covered, start, FlowCredit.new, held]
  have hpaces := @credit_paces 1 4 3 5 hi
  exact ⟨_, .single ⟨hstep, hc⟩, hpaces.1 _ _ (.single hstep), hpaces.2 _ _ (.single ⟨hstep, hc⟩)⟩

/-- The client grants what the reader has reserved; the reader meets the end of the file and gives
its reservation back. -/
theorem credit_overflows : ∃ s, Trace (Step 1 32768) (start 4194304 4194304)
      [.work, .work, .work, .grant 32768, .work, .work, .work, .work] s ∧
    s.credit.maximum = 4194304 ∧ s.credit.outstanding = 4227072 ∧ s.credit.permits = 4227072 := by
  refine ⟨_, .cons (.acquire rfl) <| .cons (.take rfl (by decide)) <| .cons (.lower rfl) <|
    .cons (.grant rfl (raise_eq_ok.mpr ⟨by decide, rfl⟩)) <| .cons .permit <|
    .cons (.endOfFile rfl) <| .cons (.putBack rfl (by decide)) <| .cons (.credit rfl) (.nil _), ?_⟩
  exact ⟨rfl, by decide, by decide⟩

end PacedStream

end OnionRoute.GatewayDaemon
