import OnionRoute.GatewayProtocol.Bookkeeping
import OnionRoute.GatewayMultihop.Messages

/-! The fair queue of the relay multiplexer, and the turns of both schedulers. -/

namespace OnionRoute.GatewayMultihop

open Library RoundRobin
open GatewayProtocol (FairScheduler)

def controlBurstLimit : ℕ := 8

def accountingOverhead : ℕ := 128

inductive OutboundCommand
  | «open» (sessionId : UInt64) (encoded : Bytes)
  | data (sessionId : UInt64) (payload : Bytes)
  | control (encoded : Bytes)
  deriving DecidableEq

namespace OutboundCommand

def sessionId : OutboundCommand → Option UInt64
  | «open» sessionId _ | data sessionId _ => some sessionId
  | control _ => none

def payload : OutboundCommand → Bytes
  | «open» _ encoded | control encoded => encoded
  | data _ payload => payload

def accountedBytes (command : OutboundCommand) : Result ℕ :=
  if command.payload.length + accountingOverhead > u64Max then throw .resourceExhausted
  else pure (command.payload.length + accountingOverhead)

/-- The count that the queue gives back, 0 where the source's `unwrap_or` applies. -/
def releasedBytes (command : OutboundCommand) : ℕ :=
  command.accountedBytes.toOption.getD 0

end OutboundCommand

structure FairMuxQueue where
  control : List OutboundCommand
  sessions : Table UInt64 (List OutboundCommand)
  active : List UInt64
  perSessionBytes : Table UInt64 ℕ
  queuedBytes : ℕ
  maximumBytes : ℕ
  maximumPerSessionBytes : ℕ
  maximumControlFrames : ℕ
  controlBurst : ℕ

inductive MuxCall
  | tryPush (command : OutboundCommand)
  | popNext
  | cancelSession (sessionId : UInt64)

variable {commands : List OutboundCommand} {command : OutboundCommand}

namespace FairMuxQueue

def new (maximumBytes maximumPerSessionBytes maximumControlFrames : ℕ) : Result FairMuxQueue :=
  if maximumBytes = 0 ∨ maximumPerSessionBytes = 0 ∨ maximumPerSessionBytes > maximumBytes ∨
      maximumControlFrames = 0 then
    throw .invalidConfiguration
  else
    pure {
      control := []
      sessions := ∅
      active := []
      perSessionBytes := ∅
      queuedBytes := 0
      maximumBytes
      maximumPerSessionBytes
      maximumControlFrames
      controlBurst := 0 }

def queueOf (q : FairMuxQueue) (sessionId : UInt64) : List OutboundCommand :=
  (q.sessions.lookup sessionId).getD []

def sessionBytes (q : FairMuxQueue) (sessionId : UInt64) : ℕ :=
  (q.perSessionBytes.lookup sessionId).getD 0

def pushSession (sessionId : UInt64) (command : OutboundCommand) (bytes : ℕ) (q : FairMuxQueue) :
    FairMuxQueue :=
  { q with
    active := if q.queueOf sessionId = [] then q.active ++ [sessionId] else q.active
    sessions := q.sessions.insert sessionId (q.queueOf sessionId ++ [command])
    perSessionBytes := q.perSessionBytes.insert sessionId (q.sessionBytes sessionId + bytes)
    queuedBytes := q.queuedBytes + bytes }

def tryPush (command : OutboundCommand) (q : FairMuxQueue) : Result FairMuxQueue := do
  let bytes ← command.accountedBytes
  if q.queuedBytes + bytes > u64Max then throw .resourceExhausted
  if q.queuedBytes + bytes > q.maximumBytes then throw .backpressure
  match command.sessionId with
  | none =>
    if q.control.length ≥ q.maximumControlFrames then throw .backpressure
    pure { q with control := q.control ++ [command], queuedBytes := q.queuedBytes + bytes }
  | some sessionId =>
    if sessionId = 0 ∨ sessionId &&& 1 = 0 then throw .protocolViolation
    if q.sessionBytes sessionId + bytes > u64Max then throw .resourceExhausted
    if q.sessionBytes sessionId + bytes > q.maximumPerSessionBytes then throw .backpressure
    pure (q.pushSession sessionId command bytes)

def popControl (q : FairMuxQueue) : Option OutboundCommand × FairMuxQueue :=
  match q.control with
  | [] => (none, q)
  | command :: rest =>
    (some command, { q with
      control := rest
      queuedBytes := q.queuedBytes - command.releasedBytes })

def popSession (sessionId : UInt64) (rest : List UInt64) (q : FairMuxQueue) :
    Option OutboundCommand × FairMuxQueue :=
  match q.queueOf sessionId with
  | [] => (none, { q with active := rest })
  | command :: commands =>
    let q := { q with
      controlBurst := 0
      queuedBytes := q.queuedBytes - command.releasedBytes }
    if commands = [] then
      (some command, { q with
        active := rest
        sessions := q.sessions.erase sessionId
        perSessionBytes := q.perSessionBytes.erase sessionId })
    else
      (some command, { q with
        active := rest ++ [sessionId]
        sessions := q.sessions.insert sessionId commands
        perSessionBytes := q.perSessionBytes.insert sessionId
          (q.sessionBytes sessionId - command.releasedBytes) })

def popNext (q : FairMuxQueue) : Option OutboundCommand × FairMuxQueue :=
  if q.control ≠ [] ∧ (q.controlBurst < controlBurstLimit ∨ q.active = []) then
    { q with controlBurst := q.controlBurst + 1 }.popControl
  else
    match q.active with
    | sessionId :: rest => q.popSession sessionId rest
    | [] => q.popControl

def cancelSession (sessionId : UInt64) (q : FairMuxQueue) : FairMuxQueue :=
  { q with
    sessions := q.sessions.erase sessionId
    perSessionBytes := q.perSessionBytes.erase sessionId
    active := q.active.filter fun candidate => candidate ≠ sessionId
    queuedBytes := q.queuedBytes -
      (q.queueOf sessionId).foldl (fun total command => min (total + command.releasedBytes) u64Max) 0 }

def served (q : FairMuxQueue) : Option UInt64 :=
  if q.popNext.2.control = q.control then q.active.head? else none

def perform (q : FairMuxQueue) : MuxCall → Move UInt64 OutboundCommand × FairMuxQueue
  | .tryPush command =>
    match q.tryPush command with
    | .ok r => (.push command.sessionId command, r)
    | .error _ => (.idle, q)
  | .popNext => (q.popNext.1.elim .idle fun command => .pop q.served command, q.popNext.2)
  | .cancelSession sessionId => (.cancel sessionId, q.cancelSession sessionId)

def Step (q : FairMuxQueue) (m : Move UInt64 OutboundCommand) (r : FairMuxQueue) : Prop :=
  ∃ call, q.perform call = (m, r)

def rota (q : FairMuxQueue) : Rota UInt64 OutboundCommand :=
  ⟨q.control, q.queueOf, q.active, q.controlBurst⟩

variable {q r : FairMuxQueue} {k : UInt64} {m : Move UInt64 OutboundCommand}

lemma rota_step_of_queueOf (hqueue : ∀ j, r.queueOf j = if j = k then commands else q.queueOf j)
    (h : Rota.Step controlBurstLimit q.rota m
      ⟨r.control, Function.update q.queueOf k commands, r.active, r.controlBurst⟩) :
    Rota.Step controlBurstLimit q.rota m r.rota := by
  have heq : r.queueOf = Function.update q.queueOf k commands := by
    funext j
    rw [hqueue, Function.update_apply]
  rw [← heq] at h
  exact h

lemma rota_step_insert (hsessions : r.sessions = q.sessions.insert k commands)
    (h : Rota.Step controlBurstLimit q.rota m
      ⟨r.control, Function.update q.queueOf k commands, r.active, r.controlBurst⟩) :
    Rota.Step controlBurstLimit q.rota m r.rota := by
  refine rota_step_of_queueOf (fun j => ?_) h
  by_cases hj : j = k
  · subst hj
    simp [queueOf, hsessions]
  · simp [queueOf, hsessions, hj]

lemma rota_step_erase (hsessions : r.sessions = q.sessions.erase k)
    (h : Rota.Step controlBurstLimit q.rota m
      ⟨r.control, Function.update q.queueOf k [], r.active, r.controlBurst⟩) :
    Rota.Step controlBurstLimit q.rota m r.rota := by
  refine rota_step_of_queueOf (fun j => ?_) h
  by_cases hj : j = k
  · subst hj
    simp [queueOf, hsessions]
  · simp [queueOf, hsessions, hj]

lemma tryPush_rota (h : q.tryPush command = .ok r) :
    Rota.Step controlBurstLimit q.rota (.push command.sessionId command) r.rota := by
  obtain ⟨bytes, -, h⟩ := bind_eq_ok.mp h
  simp only [guard_eq_ok] at h
  obtain ⟨-, -, h⟩ := h
  split at h
  next hid =>
    obtain ⟨-, h⟩ := guard_eq_ok.mp h
    obtain rfl := Except.ok.inj h
    rw [hid]
    exact .pushControl command
  next k hid =>
    simp only [guard_eq_ok] at h
    obtain ⟨-, -, -, h⟩ := h
    obtain rfl := Except.ok.inj h
    rw [hid]
    exact rota_step_insert rfl (.push k command)

lemma popNext_of_control {rest : List OutboundCommand}
    (hc : q.control = command :: rest) (hb : q.controlBurst < controlBurstLimit ∨ q.active = []) :
    q.popNext = (some command, { q with
      control := rest
      controlBurst := q.controlBurst + 1
      queuedBytes := q.queuedBytes - command.releasedBytes }) := by
  simp [popNext, popControl, hc, hb]

lemma popNext_of_session {rest : List UInt64} (ha : q.active = k :: rest)
    (hb : q.control = [] ∨ controlBurstLimit ≤ q.controlBurst) :
    q.popNext = q.popSession k rest := by
  have hnot : ¬ (q.control ≠ [] ∧ (q.controlBurst < controlBurstLimit ∨ q.active = [])) := by
    rintro ⟨hc, hburst | hactive⟩
    · exact hb.elim hc fun hle => absurd hburst (Nat.not_lt.mpr hle)
    · simp [ha] at hactive
  rw [popNext, if_neg hnot, ha]

lemma popSession_rota {rest : List UInt64} (ha : q.active = k :: rest)
    (hq : q.queueOf k = command :: commands) :
    ∃ r, q.popSession k rest = (some command, r) ∧ r.control = q.control ∧
      Rota.Step controlBurstLimit q.rota (.pop (some k) command) r.rota := by
  have hstep : Rota.Step controlBurstLimit q.rota _ _ := .pop ha hq
  by_cases hc : commands = []
  · simp only [popSession, hq, if_pos hc, Prod.mk.injEq, true_and, exists_eq_left']
    subst hc
    exact rota_step_erase rfl hstep
  · simp only [popSession, hq, if_neg hc, Prod.mk.injEq, true_and, exists_eq_left']
    rw [if_neg hc] at hstep
    exact rota_step_insert rfl hstep

lemma popNext_rota (hs : q.rota.Sound) :
    Rota.Step controlBurstLimit q.rota
      (q.popNext.1.elim .idle fun command => .pop q.served command) q.popNext.2.rota := by
  by_cases hb : q.control = [] ∨ controlBurstLimit ≤ q.controlBurst ∧ q.active ≠ []
  · cases ha : q.active with
    | nil =>
      have hc : q.control = [] := by simpa [ha] using hb
      have hpop : q.popNext = (none, q) := by simp [popNext, popControl, hc, ha]
      rw [hpop]
      exact .idle
    | cons k rest =>
      obtain ⟨command, commands, hq⟩ :=
        List.exists_cons_of_ne_nil ((hs.active k).mp (by simp [rota, ha]))
      obtain ⟨r, hpop, hr, hstep⟩ := popSession_rota ha hq
      rw [← popNext_of_session ha (hb.imp_right And.left)] at hpop
      have hserved : q.served = some k := by simp [served, hpop, hr, ha]
      rw [hserved, hpop]
      exact hstep
  · rw [not_or, not_and_or, Nat.not_le, not_not] at hb
    obtain ⟨command, rest, hc⟩ := List.exists_cons_of_ne_nil hb.1
    have hpop := popNext_of_control hc hb.2
    have hserved : q.served = none := by simp [served, hpop, hc]
    rw [hserved, hpop]
    exact .popControl hc hb.2

lemma Step.rota_step (hs : q.rota.Sound) (h : q.Step m r) :
    Rota.Step controlBurstLimit q.rota m r.rota := by
  obtain ⟨call, hcall⟩ := h
  cases call with
  | tryPush command =>
    simp only [perform] at hcall
    split at hcall <;> obtain ⟨rfl, rfl⟩ := Prod.mk.inj hcall
    next hok => exact tryPush_rota hok
    next => exact .idle
  | popNext =>
    obtain ⟨rfl, rfl⟩ := Prod.mk.inj hcall
    exact popNext_rota hs
  | cancelSession k =>
    obtain ⟨rfl, rfl⟩ := Prod.mk.inj hcall
    exact rota_step_erase rfl (.cancel k)

lemma new_rota {maximum perSession frames : ℕ} (h : new maximum perSession frames = .ok q) :
    q.rota = ⟨[], fun _ => [], [], 0⟩ := by
  rw [new, ite_throw_eq_ok] at h
  obtain ⟨-, rfl⟩ := h
  rfl

end FairMuxQueue

/-- Between two pops of streams at most eight control items leave either queue, and the streams
that wait take turns. -/
theorem schedulers_fair {maximum perStream frames maximum' perSession frames' : ℕ}
    {s : FairScheduler} {q : FairMuxQueue}
    (hs : FairScheduler.new maximum perStream frames = .ok s)
    (hq : FairMuxQueue.new maximum' perSession frames' = .ok q) :
    Fair FairScheduler.Step FairScheduler.queueOf 8 s ∧
      Fair FairMuxQueue.Step FairMuxQueue.queueOf 8 q := by
  constructor
  · refine Rota.fair_of_simulation FairScheduler.rota (fun _ _ _ hs h => ?_) ?_
    · exact (h.moved hs).rota_step
    · rw [(FairScheduler.new_inv hs).1]
      exact ⟨List.nodup_nil, by simp⟩
  · refine Rota.fair_of_simulation FairMuxQueue.rota (fun _ _ _ hs h => ?_) ?_
    · exact h.rota_step hs
    · rw [FairMuxQueue.new_rota hq]
      exact ⟨List.nodup_nil, by simp⟩

theorem schedulers_fair_small :
    ∃ s q, FairScheduler.new 1024 512 64 = .ok s ∧ FairMuxQueue.new 1024 512 64 = .ok q ∧
      Fair FairScheduler.Step FairScheduler.queueOf 8 s ∧
      Fair FairMuxQueue.Step FairMuxQueue.queueOf 8 q := by
  have hs : ∃ s, FairScheduler.new 1024 512 64 = .ok s := ⟨_, rfl⟩
  have hq : ∃ q, FairMuxQueue.new 1024 512 64 = .ok q := ⟨_, rfl⟩
  obtain ⟨s, hs⟩ := hs
  obtain ⟨q, hq⟩ := hq
  exact ⟨s, q, hs, hq, schedulers_fair hs hq⟩

/-- No command is lost, doubled or overtaken within its lane, whatever is pushed, popped and
cancelled meanwhile. -/
theorem FairMuxQueue.served_in_order {maximum perSession frames : ℕ} {q r : FairMuxQueue}
    {moves : List (Move UInt64 OutboundCommand)} (hq : new maximum perSession frames = .ok q)
    (h : Trace Step q moves r) :
    r.active.Nodup ∧ (∀ k, k ∈ r.active ↔ r.queueOf k ≠ []) ∧
      ∀ lane, (Move.logs lane moves).1 = (Move.logs lane moves).2 ++ r.rota.lane lane := by
  have hnew := new_rota hq
  have hrun : Trace (Rota.Step controlBurstLimit) q.rota moves r.rota ∧ r.rota.Sound := by
    induction h with
    | nil =>
      rw [hnew]
      exact ⟨.nil _, List.nodup_nil, by simp⟩
    | snoc _ hstep ih =>
      have hrota := hstep.rota_step ih.2
      exact ⟨ih.1.snoc hrota, ih.2.step hrota⟩
  refine ⟨hrun.2.nodup, hrun.2.active, fun lane => Rota.log_run hrun.1 lane ?_⟩
  rw [hnew]
  cases lane <;> rfl

theorem FairMuxQueue.served_in_order_two :
    ∃ q r moves, new 1024 512 64 = .ok q ∧ Trace Step q moves r ∧
      Move.logs (some 1) moves = ([.data 1 [7], .data 1 [8]], [.data 1 [7]]) ∧
      [.data 1 [7], .data 1 [8]] = [.data 1 [7]] ++ r.queueOf 1 := by
  have hstart : Trace Step ⟨[], ∅, [], ∅, 0, 1024, 512, 64, 0⟩ [] _ := .nil _
  have hpushed := ((hstart.snoc ⟨.tryPush (.data 1 [7]), rfl⟩).snoc
    ⟨.tryPush (.control [9]), rfl⟩).snoc ⟨.tryPush (.data 1 [8]), rfl⟩
  have h := (hpushed.snoc ⟨.popNext, rfl⟩).snoc ⟨.popNext, rfl⟩
  exact ⟨_, _, _, rfl, h, rfl, (served_in_order (show new 1024 512 64 = .ok _ from rfl) h).2.2 (some 1)⟩

end OnionRoute.GatewayMultihop
