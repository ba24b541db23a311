import OnionRoute.GatewayDaemon.FrameIntegrity
import OnionRoute.GatewayDaemon.SessionSafety

/-! The grammar of what a session sends for each of its streams. -/

namespace OnionRoute.GatewayDaemon

open Library RunSession

/-- Over every run and for every stream: the gateway answers an open once, and only an open of the
client; it sends anything else only when it has opened the stream, no data after its own half-close,
and nothing when the stream has been reset or closed by both sides. The streams and the pending opens
are different ones, and within the limit. -/
theorem output_grammar {ctx : SessionContext} {decode : Bytes → Option GatewayFrame}
    {clientSequence serverSequence : UInt64} {es : List Event} {s : RunSession}
    (h : Trace (Step ctx decode) (start clientSequence serverSequence) es s) :
    (∀ before entry after, s.state.log = before ++ entry :: after → Allowed before entry) ∧
      s.state.streams.size + s.state.pending.card ≤ ctx.limits.maxStreamsPerSession ∧
      ∀ id ∈ s.state.pending, s.state.streams.lookup id = none := by
  obtain ⟨hhistory, hroom, hdisjoint, -⟩ := (kept_of_trace h).safe
  refine ⟨fun before entry after hlog => ?_, hroom, hdisjoint⟩
  rw [hlog] at hhistory
  exact hhistory.at_split

namespace Sample

def transferring : List Event :=
  opening ++ [.receive calm] ++
    ([.acquire, .take, .lower, .read [1, 2, 3], .restore, .restore, .pay (.ok ()), .send] :
      List ReaderTask.Action).map (.pump 1) ++ [.receive calm] ++
    ([.acquire, .take, .lower, .endOfFile, .restore, .restore, .send] :
      List ReaderTask.Action).map (.pump 1) ++ [.receive calm]

lemma run_transferring : (runSample transferring).map (fun s => s.state.log) =
    some [.received openFrame, .sent (.openTcpResponse ⟨1, true, none⟩), .sent (.data ⟨1, [1, 2, 3]⟩),
      .sent (.halfClose ⟨1⟩)] := by
  decide +kernel

end Sample

open Sample in
theorem output_grammar_transfer : ∃ es s,
    Trace (Step sessionContext decodeFrame) (start 3 3) es s ∧
      s.state.log = [.received openFrame, .sent (.openTcpResponse ⟨1, true, none⟩),
        .sent (.data ⟨1, [1, 2, 3]⟩), .sent (.halfClose ⟨1⟩)] ∧
      ∀ before entry after, s.state.log = before ++ entry :: after → Allowed before entry := by
  obtain ⟨s, hs, hlog⟩ := Option.map_eq_some_iff.mp run_transferring
  exact ⟨_, s, trace_of_runEvents hs, hlog, (output_grammar (trace_of_runEvents hs)).1⟩

end OnionRoute.GatewayDaemon
