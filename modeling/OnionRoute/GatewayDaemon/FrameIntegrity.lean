import OnionRoute.GatewayDaemon.SessionEffects
import OnionRoute.Library.Transducer

/-! Which frames the loop of a session hands on. -/

namespace OnionRoute.GatewayDaemon

open Library Transducer

def framesOf (ctx : SessionContext) (decode : Bytes → Option GatewayFrame) (bytes : Bytes) :
    List GatewayFrame :=
  (run (ReadFrame.push decode ctx.limits.maxFrameBytes) .first bytes).1

def LogEntry.frame? : LogEntry → Option GatewayFrame
  | .received frame => some frame
  | .sent _ => none

def SessionState.frames (s : SessionState) : List GatewayFrame :=
  s.log.filterMap LogEntry.frame?

namespace SessionState

variable {ctx : SessionContext} {s t : SessionState}

lemma frames_logged (body : Body) (n : UInt64) : (s.logged body n).frames = s.frames := by
  simp [frames, logged, LogEntry.frame?]

lemma Effect.frames {c : Cause} {ok : Bool} (h : Effect ctx s c ok t) : t.frames = s.frames := by
  cases h with
  | rejected | ignored | raised | dialing | granted | closing | closed | reset | dropped | forgotten => rfl
  | refused | written | answered | failed | opened | notOpened | delivered | remoteClosing =>
    exact frames_logged _ _
  | @remoteClosed id stream n => exact frames_logged (.halfClose ⟨id⟩) n

end SessionState

namespace RunSession

variable {ctx : SessionContext} {decode : Bytes → Option GatewayFrame} {s t : RunSession}
  {o : Outcomes}

structure Aligned (ctx : SessionContext) (decode : Bytes → Option GatewayFrame) (s : RunSession) :
    Prop where
  handed : s.state.frames <+: framesOf ctx decode s.consumed
  exact : s.returned = none →
    run (ReadFrame.push decode ctx.limits.maxFrameBytes) .first s.consumed =
      (s.state.frames, .ok s.call)

lemma Aligned.finish (hhanded : s.state.frames <+: framesOf ctx decode s.consumed)
    (result : GatewayResult Unit) : Aligned ctx decode (s.finish o result) := by
  obtain ⟨report, r, hfinish⟩ := finish_eq o result s
  rw [hfinish]
  refine ⟨?_, fun h => by simp at h⟩
  have hframes : (s.state.tornDown report).frames = s.state.frames := by
    cases report <;> simp [SessionState.frames, SessionState.tornDown, LogEntry.frame?]
  exact hframes ▸ hhanded

lemma run_read {call : ReadFrame} {frames : List GatewayFrame} {bytes : Bytes}
    (h : run (ReadFrame.push decode ctx.limits.maxFrameBytes) .first bytes = (frames, .ok call))
    (byte : UInt8) : run (ReadFrame.push decode ctx.limits.maxFrameBytes) .first (bytes ++ [byte]) =
      match call.push decode ctx.limits.maxFrameBytes byte with
      | .ok (frame, next) => (frames ++ frame.toList, .ok next)
      | .error e => (frames, .error e) := by
  simp only [run_append, h, resume, run]
  cases call.push decode ctx.limits.maxFrameBytes byte with
  | error e => simp
  | ok next => simp

lemma aligned_handled {m : SessionM Unit} {state : SessionState} {frames : List GatewayFrame}
    (hhanded : frames <+: framesOf ctx decode s.consumed)
    (hexact : run (ReadFrame.push decode ctx.limits.maxFrameBytes) .first s.consumed =
      (frames, .ok s.call))
    (hends : Ends m state (fun _ u => u.frames = frames) fun u => u.frames = frames) :
    Aligned ctx decode (handled o s (m state)) := by
  rw [Ends] at hends
  cases hrun : m state with
  | ok u state' =>
    rw [hrun] at hends
    obtain rfl := hends
    exact ⟨hhanded, fun _ => hexact⟩
  | error e state' =>
    rw [hrun] at hends
    obtain rfl := hends
    exact Aligned.finish hhanded (.error e)

lemma handleClientFrame_frames (frame : GatewayFrame) (state : SessionState) :
    Ends (handleClientFrame ctx o frame) state (fun _ u => u.frames = state.frames ++ [frame])
      fun u => u.frames = state.frames ++ [frame] := by
  have hlog : (state.receive frame).frames = state.frames ++ [frame] := by
    simp [SessionState.frames, SessionState.receive, LogEntry.frame?]
  refine (handleClientFrame_ends frame).mono ?_ ?_
  · rintro _ u ⟨body, -, h⟩
    rw [h.frames, hlog]
  · rintro u (rfl | ⟨body, -, h⟩)
    · exact hlog
    · rw [h.frames, hlog]

lemma Aligned.leave (hhanded : s.state.frames <+: framesOf ctx decode s.consumed)
    (e : GatewayErrorCode) : Aligned ctx decode (s.leave e) :=
  ⟨hhanded, fun hreturned => by simp [RunSession.leave] at hreturned⟩

def CalmStep (ctx : SessionContext) (decode : Bytes → Option GatewayFrame) (s : RunSession)
    (e : Event) (t : RunSession) : Prop :=
  Step ctx decode s e t ∧ ∀ o, e = .receive o → s.call = .first

lemma CalmStep.aligned {e : Event} (h : CalmStep ctx decode s e t) (hs : Aligned ctx decode s) :
    Aligned ctx decode t := by
  obtain ⟨hstep, hcalm⟩ := h
  have hexact := hs.exact hstep.1
  -- the frames handed on so far are frames of the stream, also when one more byte has been read
  have hread : ∀ byte, s.state.frames <+: framesOf ctx decode (s.consumed ++ [byte]) := by
    intro byte
    rw [framesOf, run_read hexact]
    split
    next => exact List.prefix_append _ _
    next => exact List.prefix_refl _
  cases hstep.moves with
  | arrive bytes => exact ⟨hs.handed, hs.exact⟩
  | @readFailed o byte rest e hunread hpush => exact .leave (hread byte) e
  | @readMore o byte rest call hunread hpush =>
    refine ⟨hread byte, fun _ => ?_⟩
    change run _ _ (s.consumed ++ [byte]) = _
    rw [run_read hexact, hpush]
    simp [consume]
  | @refused o byte rest frame call e hunread hpush henvelope => exact .finish (hread byte) _
  | @overflow o byte rest frame call hunread hpush henvelope hmax => exact .leave (hread byte) _
  | @frame o byte rest frame call hunread hpush henvelope hmax =>
    have hrun : run (ReadFrame.push decode ctx.limits.maxFrameBytes) .first
        (s.consumed ++ [byte]) = (s.state.frames ++ [frame], .ok call) := by
      rw [run_read hexact, hpush]
      rfl
    refine aligned_handled ?_ hrun (handleClientFrame_frames frame s.state)
    change _ <+: (run _ _ (s.consumed ++ [byte])).1
    rw [hrun]
  | endOfFile | expire | idle => exact .finish hs.handed _
  | cutOff | readError => exact .leave hs.handed _
  | @receive o event rest hchannel =>
    refine aligned_handled hs.handed (hcalm o rfl ▸ hexact) ?_
    exact (handleStreamEvent_ends event).mono (fun _ _ heffect => heffect.frames)
      fun _ heffect => heffect.frames
  | dialed | pump | linger => exact ⟨hs.handed, hs.exact⟩

lemma calm_of_no_receive {es : List Event} (h : Trace (Step ctx decode) s es t)
    (hes : ∀ e ∈ es, ∀ o, e ≠ .receive o) : Trace (CalmStep ctx decode) s es t := by
  induction h with
  | nil => exact .nil _
  | snoc _ hstep ih =>
    refine .snoc (ih fun e he => hes e (List.mem_append_left _ he)) ⟨hstep, fun o heq => ?_⟩
    exact absurd heq (hes _ (by simp) o)

def Event.bytes : Event → Bytes
  | .arrive bytes => bytes
  | _ => []

lemma finish_bytes (o : Outcomes) (result : GatewayResult Unit) (s : RunSession) :
    (s.finish o result).consumed ++ (s.finish o result).unread = s.consumed ++ s.unread := by
  obtain ⟨report, r, hfinish⟩ := finish_eq o result s
  rw [hfinish]

lemma handled_bytes (o : Outcomes) (result : EStateM.Result GatewayErrorCode SessionState Unit)
    (s : RunSession) :
    (handled o s result).consumed ++ (handled o s result).unread = s.consumed ++ s.unread := by
  cases result with
  | ok u state => rfl
  | error e state => exact finish_bytes o _ _

lemma Moves.bytes {e : Event} (h : Moves ctx decode s e t) :
    t.consumed ++ t.unread = s.consumed ++ s.unread ++ e.bytes := by
  have hconsume : ∀ {byte rest}, s.unread = byte :: rest →
      (s.consume byte rest).consumed ++ (s.consume byte rest).unread = s.consumed ++ s.unread := by
    intro byte rest hunread
    simp [consume, hunread]
  cases h with
  | arrive bytes => simp [Event.bytes]
  | readFailed hunread | readMore hunread | overflow hunread =>
    simpa [leave, Event.bytes] using hconsume hunread
  | refused hunread =>
    rw [finish_bytes]
    simpa [Event.bytes] using hconsume hunread
  | frame hunread =>
    rw [handled_bytes]
    simpa [Event.bytes] using hconsume hunread
  | endOfFile | expire | idle =>
    rw [finish_bytes]
    simp [Event.bytes]
  | receive =>
    rw [handled_bytes]
    simp [Event.bytes]
  | cutOff | readError | dialed | pump | linger => simp [leave, Event.bytes]

lemma framesOf_append (bytes later : Bytes) :
    framesOf ctx decode bytes <+: framesOf ctx decode (bytes ++ later) := by
  rw [framesOf, framesOf, run_append, resume]
  split
  next => exact List.prefix_append _ _
  next => exact List.prefix_refl _

lemma aligned_start (clientSequence serverSequence : UInt64) :
    Aligned ctx decode (start clientSequence serverSequence) :=
  ⟨List.prefix_refl _, fun _ => rfl⟩

lemma aligned_run {clientSequence serverSequence : UInt64} {es : List Event}
    (h : Trace (CalmStep ctx decode) (start clientSequence serverSequence) es s) :
    Aligned ctx decode s ∧ s.consumed ++ s.unread = es.flatMap Event.bytes := by
  induction h with
  | nil => exact ⟨aligned_start _ _, rfl⟩
  | snoc _ hstep ih =>
    refine ⟨hstep.aligned ih.1, ?_⟩
    rw [hstep.1.moves.bytes, ih.2]
    simp

end RunSession

open RunSession in
/-- In a run in which every event of a stream is received between two frames, the frames handed to
`handle_client_frame` are the first frames of the client's byte stream, and while the session runs
they are all the frames of the bytes read. -/
theorem frames_intact {ctx : SessionContext} {decode : Bytes → Option GatewayFrame}
    {clientSequence serverSequence : UInt64} {es : List Event} {s : RunSession}
    (h : Trace (CalmStep ctx decode) (start clientSequence serverSequence) es s) :
    s.state.frames <+: framesOf ctx decode (es.flatMap Event.bytes) ∧
      s.consumed <+: es.flatMap Event.bytes ∧
      (s.returned = none → s.state.frames = framesOf ctx decode s.consumed) := by
  obtain ⟨haligned, hbytes⟩ := aligned_run h
  refine ⟨?_, ?_, fun hnone => ?_⟩
  · rw [← hbytes]
    exact haligned.handed.trans (framesOf_append _ _)
  · rw [← hbytes]
    exact List.prefix_append _ _
  · rw [framesOf, haligned.exact hnone]

namespace Sample

def sessionId : Bytes := List.replicate 16 0x5e

def sessionContext : SessionContext := ⟨{}, ["tcp-connect-v1", "dns-wire-v1"], sessionId⟩

def frameOf (sequence : UInt64) (body : Body) : GatewayFrame :=
  ⟨some ⟨1, 0⟩, sessionId, sequence, some body⟩

def envelope (sequence : UInt8) : Bytes := [10, 2, 8, 1, 18, 16] ++ sessionId ++ [24, sequence]

def openFrame : GatewayFrame :=
  frameOf 3 (.openTcpRequest ⟨1, some ⟨some (.hostname (ascii "example.org"))⟩, 443, 5⟩)

def openBytes : Bytes :=
  envelope 3 ++ [114, 22, 8, 1, 18, 13, 10, 11] ++ ascii "example.org" ++ [24, 187, 3, 32, 5]

def pingFrame : GatewayFrame := frameOf 4 (.ping ⟨List.replicate 16 0x70⟩)

def pingBytes : Bytes := envelope 4 ++ [178, 1, 18, 10, 16] ++ List.replicate 16 0x70

def dataFrame : GatewayFrame := frameOf 4 (.data ⟨1, 45 :: pingBytes⟩)

def dataBytes : Bytes := envelope 4 ++ [146, 1, 50, 8, 1, 18, 46, 45] ++ pingBytes

def decodeFrame : Bytes → Option GatewayFrame := fun bytes =>
  [(openBytes, openFrame), (pingBytes, pingFrame), (dataBytes, dataFrame)].lookup bytes

def calm : Outcomes := ⟨.ok (), .ok [], .ok (), true, .done, fun _ => .error .timeout⟩

def opening : List RunSession.Event :=
  [.arrive (48 :: openBytes)] ++ List.replicate 49 (.read calm) ++ [.dialed 0 (.ok ())]

def interrupted : List RunSession.Event :=
  opening ++ [.arrive (77 :: dataBytes)] ++ List.replicate 32 (.read calm) ++ [.receive calm] ++
    List.replicate 46 (.read calm)

def runSample (es : List RunSession.Event) : Option RunSession :=
  RunSession.runEvents sessionContext decodeFrame (.start 3 3) es

lemma run_interrupted : (runSample interrupted).map (fun s =>
      (s.state.frames, framesOf sessionContext decodeFrame s.consumed, s.returned)) =
    some ([openFrame, pingFrame], [openFrame, dataFrame], none) := by
  decide +kernel

lemma run_interrupted_consumed : (runSample interrupted).map RunSession.consumed =
    some (interrupted.flatMap RunSession.Event.bytes) := by
  decide +kernel

lemma run_opening : (runSample opening).map (fun s =>
      (s.returned, s.call,
        (s.act sessionContext decodeFrame (.receive calm)).map fun t => t.state.frames)) =
    some (none, .first, some [openFrame]) := by
  decide +kernel

end Sample

open RunSession Sample in
theorem frames_intact_opened : ∃ es s,
    Trace (CalmStep sessionContext decodeFrame) (start 3 3) es s ∧
      s.state.frames = [openFrame] ∧
      s.state.frames <+: framesOf sessionContext decodeFrame
        (es.flatMap Event.bytes) := by
  obtain ⟨s, hs, hlast⟩ := Option.map_eq_some_iff.mp run_opening
  simp only [Prod.mk.injEq] at hlast
  obtain ⟨hnone, hcall, hreceive⟩ := hlast
  obtain ⟨t, ht, hframes⟩ := Option.map_eq_some_iff.mp hreceive
  have hopening := calm_of_no_receive (trace_of_runEvents hs) fun e he o => by
    rintro rfl
    simp [opening] at he
  have hrun := hopening.snoc ⟨⟨hnone, ht⟩, fun _ _ => hcall⟩
  exact ⟨_, t, hrun, hframes, (frames_intact hrun).1⟩

open RunSession Sample in
/-- An event that comes when a frame has been read in part makes the session take the data of this
frame for a frame. -/
theorem data_taken_for_frame : ∃ es s,
    Trace (Step sessionContext decodeFrame) (start 3 3) es s ∧ s.returned = none ∧
      s.consumed = es.flatMap Event.bytes ∧
      framesOf sessionContext decodeFrame s.consumed =
        [openFrame, dataFrame] ∧
      s.state.frames = [openFrame, pingFrame] := by
  obtain ⟨s, hs, hlast⟩ := Option.map_eq_some_iff.mp run_interrupted
  simp only [Prod.mk.injEq] at hlast
  obtain ⟨hframes, hdecoded, hreturned⟩ := hlast
  have hconsumed := run_interrupted_consumed
  rw [hs] at hconsumed
  exact ⟨_, s, trace_of_runEvents hs, hreturned, Option.some.inj hconsumed, hdecoded, hframes⟩

end OnionRoute.GatewayDaemon
