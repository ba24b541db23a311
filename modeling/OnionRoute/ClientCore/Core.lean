import OnionRoute.DnsEngine.CacheRuns
import OnionRoute.PacketEngine.FailClosed
import OnionRoute.PolicyEngine.Decision

/-! The packet core of the client: a route for each packet, and the queue of actions. -/

namespace OnionRoute.ClientCore

open Library CommonTypes DnsEngine PacketEngine PolicyEngine

structure ActiveRoute where
  isolationKey : IsolationKey
  anonymityProfile : AnonymityMode
  gatewayId : Option GatewayId

structure Core where
  packet : PacketProcessor
  dns : Cache
  policy : TcpFlowRequest → OnionResult PolicyDecision
  route : ActiveRoute

namespace Core

def opening (packet : Bytes) : Option TcpSegment :=
  match classify packet with
  | .ok (.tcp segment) =>
    if segment.flags.syn ∧ ¬ segment.flags.ack ∧ segment.destinationPort ≠ 53 then some segment
    else none
  | _ => none

def routeForPacket (core : Core) (packet : Bytes) (platform : PlatformMetadata) (now : ℕ) :
    Option ProtectedRoute × Cache :=
  match opening packet with
  | none => (none, core.dns)
  | some segment =>
    let (hostname, dns) := core.dns.lookupHostname now segment.destination
    let request : TcpFlowRequest := {
      flowId := ⟨0⟩
      host := (hostname.map TcpHost.hostname).getD (.ip (.v4 segment.destination))
      port := segment.destinationPort
      application := platform.application }
    match core.policy request with
    | .error _ => (none, dns)
    | .ok decision =>
      (some {
        decision
        hostname
        isolationKey := core.route.isolationKey
        anonymityProfile := core.route.anonymityProfile
        gatewayId := core.route.gatewayId }, dns)

/-- The first half of `handle_packet`: what the processor asks for. -/
def receive (core : Core) (packet : Bytes) (platform : PlatformMetadata)
    (connectionState : ClientConnectionState) (now : ℕ) : Core × List EngineAction :=
  let (route, dns) := core.routeForPacket packet platform now
  let (processor, actions) := core.packet.process { packet, platform, route, connectionState }
  ({ core with packet := processor, dns }, actions)

end Core

structure Execution where
  packet : PacketProcessor
  queue : List EngineAction

/-- One turn of `execute`, with the request it sends to the gateway. What the dispatcher and the
DNS engine return is not determined. -/
inductive Turn (now : ℕ) : Execution → Option TcpFlowRequest → Execution → Prop
  | opened (p : PacketProcessor) (rest : List EngineAction) (request : TcpFlowRequest)
      (key : IsolationKey) (profile : AnonymityMode) (gateway : Option GatewayId) :
      Turn now ⟨p, .openProtectedStream request key profile gateway :: rest⟩ (some request)
        ⟨(p.protectedStreamOpened request.flowId now).1,
          rest ++ (p.protectedStreamOpened request.flowId now).2⟩
  | openFailed (p : PacketProcessor) (rest : List EngineAction) (request : TcpFlowRequest)
      (key : IsolationKey) (profile : AnonymityMode) (gateway : Option GatewayId) :
      Turn now ⟨p, .openProtectedStream request key profile gateway :: rest⟩ (some request)
        ⟨(p.failFlow request.flowId .downstreamFailure).1,
          (p.failFlow request.flowId .downstreamFailure).2⟩
  | forwarded (p : PacketProcessor) (rest : List EngineAction) (flowId : FlowId) (payload : Bytes) :
      Turn now ⟨p, .forwardPayload flowId payload :: rest⟩ none
        ⟨(p.acknowledgeForwarded flowId payload.length now).1,
          rest ++ (p.acknowledgeForwarded flowId payload.length now).2⟩
  | forwardFailed (p : PacketProcessor) (rest : List EngineAction) (flowId : FlowId)
      (payload : Bytes) :
      Turn now ⟨p, .forwardPayload flowId payload :: rest⟩ none
        ⟨(p.failFlow flowId .downstreamFailure).1, (p.failFlow flowId .downstreamFailure).2⟩
  | resolved (p : PacketProcessor) (rest : List EngineAction) (query : DnsQuery)
      (target : DnsResponseTarget) (response : Bytes) :
      Turn now ⟨p, .resolveDns query target :: rest⟩ none
        ⟨(p.completeDns query.queryId response now).1,
          rest ++ (p.completeDns query.queryId response now).2⟩
  | writeClosed (p : PacketProcessor) (rest : List EngineAction) (flowId : FlowId) :
      Turn now ⟨p, .closeProtectedStream flowId .write :: rest⟩ none ⟨p, rest⟩
  | writeCloseFailed (p : PacketProcessor) (rest : List EngineAction) (flowId : FlowId) :
      Turn now ⟨p, .closeProtectedStream flowId .write :: rest⟩ none
        ⟨(p.failFlow flowId .downstreamFailure).1, (p.failFlow flowId .downstreamFailure).2⟩
  | closed (p : PacketProcessor) (rest : List EngineAction) (flowId : FlowId) :
      Turn now ⟨p, .closeProtectedStream flowId .both :: rest⟩ none ⟨p, rest⟩
  | sent (p : PacketProcessor) (rest : List EngineAction) (packet : Bytes) :
      Turn now ⟨p, .sendSyntheticResponse packet :: rest⟩ none ⟨p, rest⟩
  | blocked (p : PacketProcessor) (rest : List EngineAction) (flowId : Option FlowId)
      (reason : BlockReason) :
      Turn now ⟨p, .blockFlow flowId reason :: rest⟩ none ⟨p, rest⟩
  | recorded (p : PacketProcessor) (rest : List EngineAction) (code : DiagnosticCode)
      (flowId : Option FlowId) :
      Turn now ⟨p, .recordDiagnostic code flowId :: rest⟩ none ⟨p, rest⟩

section Work

open PacketProcessor

variable {p : PacketProcessor} {id : FlowId} {now : ℕ} {e e' : Execution}

def weight : EngineAction → ℕ
  | .openProtectedStream _ _ _ _ | .forwardPayload _ _ | .resolveDns _ _
  | .closeProtectedStream _ .write => 4
  | _ => 1

def work (queue : List EngineAction) : ℕ :=
  (queue.map weight).sum

lemma work_le (queue : List EngineAction) : work queue ≤ 4 * queue.length := by
  induction queue with
  | nil => exact le_rfl
  | cons action rest ih =>
    have haction : weight action ≤ 4 := by
      unfold weight
      split <;> omega
    simp only [work, List.map_cons, List.sum_cons, List.length_cons] at ih ⊢
    omega

lemma work_failFlow {reason : BlockReason} : work (p.failFlow id reason).2 ≤ 3 := by
  unfold failFlow
  split <;> simp [work, weight]

lemma work_protectedStreamOpened : work (p.protectedStreamOpened id now).2 ≤ 3 := by
  unfold protectedStreamOpened FlowRecord.opened
  split
  · simp [work, weight]
  · split_ifs <;> simp [work, weight]

lemma work_acknowledgeForwarded {bytes : ℕ} : work (p.acknowledgeForwarded id bytes now).2 ≤ 3 := by
  unfold acknowledgeForwarded FlowRecord.acknowledged
  split <;> simp [work, weight]

lemma work_completeDns {queryId : UInt64} {wire : Bytes} :
    work (p.completeDns queryId wire now).2 ≤ 3 := by
  have hblock : ∀ {s : PacketProcessor} {flowId reason}, work (s.block flowId reason).2 ≤ 3 := by
    simp [PacketProcessor.block, work, weight]
  unfold completeDns FlowRecord.sendPayload
  split
  · simp [work]
  · dsimp only
    split <;> split
    · exact work_failFlow
    · exact hblock
    · split
      · exact hblock
      · simp [work, weight]
    · split
      · simp [work]
      · split
        · exact work_failFlow
        · simp [work, weight]

lemma Turn.work_lt {sent : Option TcpFlowRequest} (h : Turn now e sent e') :
    work e'.queue < work e.queue := by
  have hnext : ∀ {rest new}, work new ≤ 3 → work (rest ++ new) < 4 + work rest := by
    intro rest new hnew
    have happend : work (rest ++ new) = work rest + work new := by simp [work]
    omega
  cases h with
  | opened => exact hnext work_protectedStreamOpened
  | forwarded => exact hnext work_acknowledgeForwarded
  | resolved => exact hnext work_completeDns
  -- a failure replaces the queue
  | openFailed | forwardFailed | writeCloseFailed =>
    exact Nat.lt_add_right _ (Nat.lt_succ_of_le work_failFlow)
  | writeClosed | closed | sent | blocked | recorded =>
    exact Nat.lt_add_of_pos_left (Nat.succ_pos _)

/-- However its calls end, `execute` makes at most four turns for each action it was given. -/
theorem execute_turns_le {sent : List (Option TcpFlowRequest)} (h : Trace (Turn now) e sent e') :
    sent.length ≤ 4 * e.queue.length := by
  have hwork : sent.length + work e'.queue ≤ work e.queue := by
    induction h with
    | nil => simp
    | snoc _ hturn ih =>
      have hlt := hturn.work_lt
      rw [List.length_append, List.length_singleton]
      omega
  have hle := work_le e.queue
  omega

end Work

open Sample in
/-- A payload that the gateway does not take makes three further actions. -/
theorem execute_turns_le_failed : ∃ e', Trace (Turn 0)
    ⟨start.openFlow opened, [.forwardPayload flowId [104]]⟩
      [none, none, none, none] e' ∧ e'.queue = [] ∧
    [(none : Option TcpFlowRequest), none, none, none].length ≤ 4 * 1 := by
  have hfail : (start.openFlow opened).failFlow flowId .downstreamFailure =
      ((start.openFlow opened).removeFlow key,
        [.sendSyntheticResponse opened.rstPacket,
          .blockFlow (some flowId) .downstreamFailure,
          .closeProtectedStream flowId .both]) := rfl
  have hfailed : Turn 0 _ none _ :=
    .forwardFailed (start.openFlow opened) [] flowId [104]
  rw [hfail] at hfailed
  have h := Trace.cons hfailed (.cons (.sent _ _ _) (.cons (.blocked _ _ _ _)
    (.single (.closed _ _ _))))
  exact ⟨_, h, rfl, execute_turns_le h⟩

end OnionRoute.ClientCore
