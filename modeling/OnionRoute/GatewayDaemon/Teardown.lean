import OnionRoute.GatewayDaemon.FrameIntegrity
import OnionRoute.GatewayDaemon.SessionSafety

/-! The readers of a session when `run_session` returns: a return by `?` does not abort them. -/

namespace OnionRoute.GatewayDaemon

open Library

def SessionState.Settled (s : SessionState) (id : UInt64) : Prop :=
  (∃ task ∈ s.aborted, task.streamId = id) ∨
    ∃ stream, s.streams.lookup id = some stream ∧ stream.reader.phase = .finished

namespace RunSession

variable {ctx : SessionContext} {decode : Bytes → Option GatewayFrame} {s t : RunSession}
  {o : Outcomes} {e : Event}

def LeavesEarly (ctx : SessionContext) (decode : Bytes → Option GatewayFrame) (s : RunSession) :
    Event → Prop
  | .read _ =>
    match s.unread with
    | [] => False
    | byte :: _ =>
      match s.call.push decode ctx.limits.maxFrameBytes byte with
      | .error _ => True
      | .ok (none, _) => False
      | .ok (some frame, _) =>
        validateEnvelope frame s.clientSequence ctx.sessionId = .ok () ∧
          s.clientSequence = maxSequence
  | .endOfFile _ => s.call ≠ .first
  | .readError => True
  | _ => False

lemma finish_lookup (result : GatewayResult Unit) (id : UInt64) :
    (s.finish o result).state.streams.lookup id = none := by
  obtain ⟨report, r, hfinish⟩ := finish_eq o result s
  rw [hfinish]
  rfl

lemma handled_lookup {result : EStateM.Result GatewayErrorCode SessionState Unit}
    (hrunning : s.returned = none) (hreturned : (handled o s result).returned ≠ none)
    (id : UInt64) : (handled o s result).state.streams.lookup id = none := by
  cases result with
  | ok u state => exact absurd hrunning hreturned
  | error e state => exact finish_lookup (.error e) id

lemma Step.returns (h : Step ctx decode s e t) (hreturned : t.returned ≠ none) :
    LeavesEarly ctx decode s e ∧ t.state = s.state ∨
      ¬ LeavesEarly ctx decode s e ∧ ∀ id, t.state.streams.lookup id = none := by
  have hrunning := h.1
  cases h.moves with
  | arrive | readMore | dialed | pump | linger => exact absurd hrunning hreturned
  | readFailed hunread hpush => exact .inl ⟨by simp [LeavesEarly, hunread, hpush], rfl⟩
  | refused hunread hpush henvelope =>
    exact .inr ⟨by simp [LeavesEarly, hunread, hpush, henvelope], finish_lookup _⟩
  | overflow hunread hpush henvelope hmax =>
    exact .inl ⟨by simpa [LeavesEarly, hunread, hpush] using ⟨henvelope, hmax⟩, rfl⟩
  | frame hunread hpush henvelope hmax =>
    exact .inr ⟨by simp [LeavesEarly, hunread, hpush, hmax], handled_lookup hrunning hreturned⟩
  | endOfFile hunread hcall => exact .inr ⟨by simp [LeavesEarly, hcall], finish_lookup _⟩
  | cutOff hunread hcall => exact .inl ⟨hcall, rfl⟩
  | readError => exact .inl ⟨trivial, rfl⟩
  | expire | idle => exact .inr ⟨fun h => h.elim, finish_lookup _⟩
  | receive => exact .inr ⟨fun h => h.elim, handled_lookup hrunning hreturned⟩

end RunSession

open RunSession

/-- When `run_session` returns, every reader it has started has been aborted or has finished, unless
it returns by `?` with a stream in the table whose reader has not finished. -/
theorem readers_settled_iff {ctx : SessionContext} {decode : Bytes → Option GatewayFrame}
    {clientSequence serverSequence : UInt64} {es : List Event} {e : Event} {s t : RunSession}
    (h : Trace (Step ctx decode) (start clientSequence serverSequence) es s)
    (hstep : Step ctx decode s e t) (hreturned : t.returned ≠ none) :
    (∀ id, Logged (LogEntry.Opens id) t.state.log → t.state.Settled id) ↔
      ¬ (LeavesEarly ctx decode s e ∧ ∃ id stream,
        s.state.streams.lookup id = some stream ∧ stream.reader.phase ≠ .finished) := by
  have hsound := ((kept_of_trace h).sound hstep.1).1
  have hsafe := (hstep.kept (kept_of_trace h)).safe
  constructor
  · rintro hsettled ⟨hearly, id, stream, hstream, hphase⟩
    have hstate : t.state = s.state := by
      rcases hstep.returns hreturned with ⟨-, hstate⟩ | ⟨hlate, -⟩
      · exact hstate
      · exact absurd hearly hlate
    rw [hstate] at hsettled
    have hregistered := hsound.registered id
    rcases hsettled id (hregistered.streams stream hstream).opened with
      ⟨task, htask, hid⟩ | ⟨stream', hstream', hphase'⟩
    · rw [(hregistered.aborted task htask hid).2.1] at hstream
      cases hstream
    · obtain rfl := Option.some.inj (hstream.symm.trans hstream')
      exact hphase hphase'
  · intro hlate id hopens
    rcases hsafe.started id hopens with ⟨stream, hstream, -⟩ | haborted
    · rcases hstep.returns hreturned with ⟨hearly, hstate⟩ | ⟨-, hempty⟩
      · refine .inr ⟨stream, hstream, ?_⟩
        by_contra hphase
        exact hlate ⟨hearly, id, stream, hstate ▸ hstream, hphase⟩
      · rw [hempty id] at hstream
        cases hstream
    · exact .inl haborted

namespace Sample

def expiring : List Event := opening ++ [.receive calm]

lemma run_expiring : (runSample expiring).map (fun s => (s.returned,
      (s.act sessionContext decodeFrame (.expire calm)).map fun t => (t.returned, t.state.log))) =
    some (none, some (some (.error .sessionExpired),
      [.received openFrame, .sent (.openTcpResponse ⟨1, true, none⟩),
        .sent (.error (GatewayErrorCode.sessionExpired.toStatus []))])) := by
  decide +kernel

def starving : List Event :=
  opening ++ [.receive calm] ++
    ([.acquire, .take, .lower, .read [1, 2, 3, 4, 5], .restore, .pay (.ok ()), .send, .acquire] :
      List ReaderTask.Action).map (.pump 1) ++ [.receive calm, .arrive [0], .read calm]

lemma run_starving : (runSample starving).map (fun s => (s.returned, s.state.log)) =
    some (some (.error .messageTooLarge),
      [.received openFrame, .sent (.openTcpResponse ⟨1, true, none⟩),
        .sent (.data ⟨1, [1, 2, 3, 4, 5]⟩)]) := by
  decide +kernel

lemma run_starving_reader : (runSample starving).map (fun s =>
      (s.state.aborted.length, (s.state.streams.lookup 1).map fun stream =>
        (stream.reader.phase, stream.reader.credit.permits))) =
    some (0, some (.waiting 1, 0)) := by
  decide +kernel

end Sample

open Sample in
theorem readers_settled_expired : ∃ es s t,
    Trace (Step sessionContext decodeFrame) (start 3 3) es s ∧
      Step sessionContext decodeFrame s (.expire calm) t ∧
      Logged (LogEntry.Opens 1) t.state.log ∧ t.state.Settled 1 := by
  obtain ⟨s, hs, hlast⟩ := Option.map_eq_some_iff.mp run_expiring
  simp only [Prod.mk.injEq] at hlast
  obtain ⟨hnone, hexpire⟩ := hlast
  obtain ⟨t, ht, hlast⟩ := Option.map_eq_some_iff.mp hexpire
  simp only [Prod.mk.injEq] at hlast
  obtain ⟨hreturned, hlog⟩ := hlast
  have hstep : Step sessionContext decodeFrame s (.expire calm) t := ⟨hnone, ht⟩
  have hopens : Logged (LogEntry.Opens 1) t.state.log := by
    rw [hlog]
    exact ⟨_, List.mem_cons_of_mem _ List.mem_cons_self, rfl, rfl⟩
  refine ⟨_, s, t, trace_of_runEvents hs, hstep, hopens, ?_⟩
  refine (readers_settled_iff (trace_of_runEvents hs) hstep (by simp [hreturned])).mpr ?_ 1 hopens
  rintro ⟨hearly, -⟩
  exact hearly

open Sample in
/-- The session has returned, and the reader of its stream waits for credit that no one can grant. -/
theorem reader_left_waiting : ∃ es s stream,
    Trace (Step sessionContext decodeFrame) (start 3 3) es s ∧
      s.returned = some (.error .messageTooLarge) ∧ Logged (LogEntry.Opens 1) s.state.log ∧
      s.state.streams.lookup 1 = some stream ∧ stream.reader.phase = .waiting 1 ∧
      stream.reader.credit.permits = 0 ∧ ¬ s.state.Settled 1 := by
  obtain ⟨s, hs, hlast⟩ := Option.map_eq_some_iff.mp run_starving
  have hreader := run_starving_reader
  rw [hs] at hreader
  simp only [Option.map_some, Option.some.injEq, Prod.mk.injEq, List.length_eq_zero_iff] at hlast hreader
  obtain ⟨hreturned, hlog⟩ := hlast
  obtain ⟨haborted, hreader⟩ := hreader
  obtain ⟨stream, hstream, hlast⟩ := Option.map_eq_some_iff.mp hreader
  obtain ⟨hphase, hpermits⟩ := Prod.mk.inj hlast
  refine ⟨_, s, stream, trace_of_runEvents hs, hreturned, ?_, hstream, hphase, hpermits, ?_⟩
  · rw [hlog]
    exact ⟨_, List.mem_cons_of_mem _ List.mem_cons_self, rfl, rfl⟩
  · rintro (⟨task, htask, -⟩ | ⟨stream', hstream', hfinished⟩)
    · rw [haborted] at htask
      cases htask
    · obtain rfl := Option.some.inj (hstream.symm.trans hstream')
      rw [hphase] at hfinished
      cases hfinished

end OnionRoute.GatewayDaemon
