import OnionRoute.PacketEngine.Answers
import OnionRoute.PacketEngine.Ordering

/-! Acknowledgements wait for the protected side. -/

namespace OnionRoute.PacketEngine

open Library PacketProcessor

structure Ledger where
  forwarded : ℕ
  confirmed : ℕ

namespace Ledger

def forward (n : ℕ) (l : Ledger) : Ledger := ⟨l.forwarded + n, l.confirmed⟩

def confirm (n : ℕ) (l : Ledger) : Ledger := ⟨l.forwarded, min l.forwarded (l.confirmed + n)⟩

def covered (l : Ledger) (fin : Bool) : ℕ :=
  l.confirmed + if fin = true ∧ l.confirmed = l.forwarded then 1 else 0

lemma confirm_zero {l : Ledger} (h : l.confirmed ≤ l.forwarded) : l.confirm 0 = l := by
  rw [confirm, Nat.add_zero, Nat.min_eq_right h]

lemma covered_mono (l : Ledger) {a b : Bool} (h : a = true → b = true) :
    l.covered a ≤ l.covered b := by
  simp only [covered]
  split_ifs with h1 h2
  · exact le_rfl
  · exact absurd ⟨h h1.1, h1.2⟩ h2
  · omega
  · exact le_rfl

lemma covered_le_confirm (l : Ledger) (h : l.confirmed ≤ l.forwarded) (fin : Bool) (n : ℕ) :
    l.covered fin ≤ (l.confirm n).covered fin := by
  cases fin with
  | false =>
    simp only [covered, confirm, Bool.false_eq_true, false_and, if_false]
    omega
  | true =>
    simp only [covered, confirm, true_and]
    split_ifs <;> omega

lemma covered_le_forward (l : Ledger) (n : ℕ) : l.covered false ≤ (l.forward n).covered false := by
  simp [covered, forward]

end Ledger

def Within (isn : UInt32) (bound : ℕ) (acknowledgement : UInt32) : Prop :=
  ∃ n ≤ bound, acknowledgement = isn + 1 + UInt32.ofNat n

variable {isn : UInt32}

lemma Within.mono {a b : ℕ} {acknowledgement : UInt32} (h : Within isn a acknowledgement)
    (hle : a ≤ b) : Within isn b acknowledgement := by
  obtain ⟨n, hn, he⟩ := h
  exact ⟨n, hn.trans hle, he⟩

structure Held (isn : UInt32) (l : Ledger) (flow : FlowRecord) : Prop where
  plain : flow.dnsTcp = false
  le : l.confirmed ≤ l.forwarded
  queued : flow.snapshot.queuedToGateway + l.confirmed = l.forwarded
  clientNext : flow.clientNext = isn + 1 + UInt32.ofNat (l.forwarded + flow.fins)
  handshake : ¬ flow.Open → flow.snapshot.queuedToGateway = 0
  stored : ∀ o, flow.outstandingToApplication = some o →
    Within isn (l.covered flow.finAccepted) o.acknowledgement

namespace Held

variable {isn : UInt32} {l : Ledger} {flow next : FlowRecord} (h : Held isn l flow)
include h

lemma covered_eq (hq : flow.snapshot.queuedToGateway = 0) :
    l.covered flow.finAccepted = l.forwarded + flow.fins := by
  have hle := h.queued
  have hall : l.confirmed = l.forwarded := by omega
  simp only [Ledger.covered, FlowRecord.fins, hall, and_true]

lemma within (hq : flow.snapshot.queuedToGateway = 0) :
    Within isn (l.covered flow.finAccepted) flow.clientNext :=
  ⟨_, (h.covered_eq hq).ge, h.clientNext⟩

lemma of_same (hd : next.dnsTcp = flow.dnsTcp)
    (hq : next.snapshot.queuedToGateway = flow.snapshot.queuedToGateway)
    (hc : next.clientNext = flow.clientNext) (hf : next.finAccepted = flow.finAccepted)
    (hs : ¬ next.Open → flow.snapshot.queuedToGateway = 0)
    (ho : ∀ o, next.outstandingToApplication = some o →
      Within isn (l.covered flow.finAccepted) o.acknowledgement) : Held isn l next :=
  ⟨by rw [hd, h.plain], h.le, by rw [hq, h.queued],
    by rw [hc, FlowRecord.fins, hf, h.clientNext]; rfl, fun h' => by rw [hq, hs h'],
    by rw [hf]; exact ho⟩

lemma forward (hf : flow.finAccepted = false) (hopen : flow.Open) (payload : Bytes) :
    Held isn (l.forward payload.length) (flow.forward payload) := by
  have hfin : (flow.forward payload).finAccepted = false := hf
  refine ⟨h.plain, h.le.trans (Nat.le_add_right _ _), ?_, ?_, fun hn => absurd hopen hn,
    fun o ho => ?_⟩
  · have := h.queued
    simp only [FlowRecord.forward, Ledger.forward]
    omega
  · have hzero : flow.fins = 0 := by simp [FlowRecord.fins, hf]
    have hzero' : (flow.forward payload).fins = 0 := by simp [FlowRecord.fins, hfin]
    rw [hzero', FlowRecord.forward, h.clientNext, hzero]
    exact add_ofNat_add_ofNat _ _ _
  · have hw := h.stored o ho
    rw [hf] at hw
    rw [hfin]
    exact hw.mono (l.covered_le_forward payload.length)

lemma acceptFin (hf : flow.finAccepted = false) {state : TcpFlowState}
    (hs : state = .halfClosedLocal ∨ state = .closing) : Held isn l (flow.acceptFin state) := by
  have hfin : (flow.acceptFin state).finAccepted = true := (FlowRecord.finAccepted_iff _).mpr hs
  have hopen : (flow.acceptFin state).Open := by
    rcases hs with rfl | rfl <;> exact ⟨nofun, nofun⟩
  refine ⟨h.plain, h.le, h.queued, ?_, fun hn => absurd hopen hn, fun o ho => ?_⟩
  · rw [FlowRecord.fins_acceptFin _ hs, FlowRecord.acceptFin, h.clientNext, FlowRecord.fins, hf]
    exact add_ofNat_add_ofNat _ _ 1
  · rw [hfin]
    exact (h.stored o ho).mono (l.covered_mono fun _ => rfl)

end Held

inductive Acknowledges (key : FlowKey) (isn : UInt32) (bound : ℕ) : EngineAction → Prop
  | packet {flow : FlowRecord} (hk : flow.key = key) (sequence : UInt32) {acknowledgement : UInt32}
      (flags : TcpFlags) (window : UInt16) (payload : Bytes)
      (h : Within isn bound acknowledgement) :
      Acknowledges key isn bound (.sendSyntheticResponse
        (responseFromValues flow sequence acknowledgement flags window payload))
  | other {a : EngineAction} (h : ∀ packet, a ≠ .sendSyntheticResponse packet) :
      Acknowledges key isn bound a

lemma Acknowledges.mono {key : FlowKey} {a b : ℕ} {action : EngineAction}
    (h : Acknowledges key isn a action) (hle : a ≤ b) : Acknowledges key isn b action := by
  cases h with
  | packet hk sequence flags window payload h => exact .packet hk _ _ _ _ (h.mono hle)
  | other h => exact .other h

variable {flow : FlowRecord}

lemma Held.failActions {l : Ledger} (h : Held isn l flow) (hq : flow.snapshot.queuedToGateway = 0)
    (reason : BlockReason) :
    ∀ a ∈ flow.failActions reason,
      Acknowledges flow.key isn (l.covered flow.finAccepted) a := by
  simp only [FlowRecord.failActions, List.forall_mem_cons]
  exact ⟨.packet rfl _ _ _ _ (h.within hq), .other fun _ ha => (by cases ha),
    .other fun _ ha => (by cases ha), List.forall_mem_nil _⟩

structure FlowRecord.Waits (config : EngineConfig) (segment : TcpSegment) (flow : FlowRecord) :
    Prop where
  notAhead : segment.flags.ack = true →
    sequenceBefore flow.serverNext segment.acknowledgement = false
  acknowledged : segment.payload ≠ [] ∨ segment.flags.fin = true → segment.flags.ack = true
  data : segment.payload ≠ [] → flow.finAccepted = false ∧ segment.sequence = flow.clientNext ∧
    saturatingAdd flow.snapshot.queuedToGateway segment.payload.length ≤
      config.buffers.toGatewayBytes
  fin : segment.payload = [] → segment.flags.fin = true →
    segment.sequence ≠ flow.clientNext ∧ segment.sequence + 1 ≠ flow.clientNext

instance (config : EngineConfig) (segment : TcpSegment) (flow : FlowRecord) :
    Decidable (flow.Waits config segment) :=
  decidable_of_iff (_ ∧ _ ∧ _ ∧ _)
    ⟨fun ⟨h1, h2, h3, h4⟩ => ⟨h1, h2, h3, h4⟩, fun ⟨h1, h2, h3, h4⟩ => ⟨h1, h2, h3, h4⟩⟩

variable {config : EngineConfig}

lemma FlowRecord.Waits.of_same {segment : TcpSegment} {next : FlowRecord}
    (h : flow.Waits config segment) (hs : next.serverNext = flow.serverNext)
    (hc : next.clientNext = flow.clientNext) (hf : next.finAccepted = flow.finAccepted)
    (hq : next.snapshot.queuedToGateway = flow.snapshot.queuedToGateway) :
    next.Waits config segment :=
  ⟨by rw [hs]; exact h.notAhead, h.acknowledged, by rw [hf, hc, hq]; exact h.data,
    by rw [hc]; exact h.fin⟩

lemma FlowRecord.establish_client (flow : FlowRecord) :
    flow.establish.serverNext = flow.serverNext ∧ flow.establish.clientNext = flow.clientNext ∧
      flow.establish.finAccepted = flow.finAccepted ∧
      flow.establish.snapshot.queuedToGateway = flow.snapshot.queuedToGateway := by
  simp only [establish]
  split_ifs with hs
  · exact ⟨rfl, rfl, by simp [finAccepted, hs], rfl⟩
  · exact ⟨rfl, rfl, rfl, rfl⟩

def Silent (actions : List EngineAction) : Prop :=
  ∀ packet, .sendSyntheticResponse packet ∉ actions

lemma Silent.append {xs ys : List EngineAction} (hx : Silent xs) (hy : Silent ys) :
    Silent (xs ++ ys) := fun packet hm =>
  (List.mem_append.mp hm).elim (hx packet) (hy packet)

lemma silent_nil : Silent [] := fun _ => List.not_mem_nil

variable {actions : List EngineAction}

namespace SegmentProgress

variable {config : EngineConfig} {segment : TcpSegment} {key : FlowKey} {isn : UInt32}
  {l : Ledger} {p q : SegmentProgress}

def entered (l : Ledger) (p : SegmentProgress) : Ledger :=
  l.forward (forwardedBytes p.actions).length

structure Deferring (key : FlowKey) (isn : UInt32) (l : Ledger) (p : SegmentProgress) : Prop where
  keyed : p.flow.key = key
  held : Held isn (p.entered l) p.flow
  sent : ∀ a ∈ p.actions, Acknowledges key isn ((p.entered l).forwarded + p.flow.fins) a

namespace Deferring

variable (h : Deferring key isn l p)
include h

lemma extend (hq : q.actions = p.actions ++ actions) (hn : forwardedBytes actions = [])
    (hk : q.flow.key = p.flow.key) (hheld : Held isn (p.entered l) q.flow)
    (hfin : p.flow.fins ≤ q.flow.fins)
    (ha : ∀ a ∈ actions, Acknowledges key isn ((p.entered l).forwarded + q.flow.fins) a) :
    Deferring key isn l q := by
  have he : q.entered l = p.entered l := by
    simp only [entered, hq, forwardedBytes_append, hn, List.append_nil]
  refine ⟨hk.trans h.keyed, by rw [he]; exact hheld, fun a hm => ?_⟩
  rw [he]
  rw [hq] at hm
  rcases List.mem_append.mp hm with hm | hm
  · exact (h.sent a hm).mono (Nat.add_le_add_left hfin _)
  · exact ha a hm

lemma packet (sequence : UInt32) (flags : TcpFlags) (window : UInt16) (payload : Bytes) :
    Acknowledges key isn ((p.entered l).forwarded + p.flow.fins)
      (.sendSyntheticResponse
        (responseFromValues p.flow sequence p.flow.clientNext flags window payload)) :=
  .packet h.keyed _ _ _ _ ⟨_, le_rfl, h.held.clientNext⟩

lemma reports (hr : p.flow.Reporting config actions) :
    ∀ a ∈ actions, Acknowledges key isn ((p.entered l).forwarded + p.flow.fins) a := by
  intro a ha
  cases hr a ha with
  | diagnostic | blocked => exact .other fun _ ha => (by cases ha)
  | ack | synAck => exact h.packet _ _ _ _

lemma forward (hf : p.flow.finAccepted = false) (hopen : p.flow.Open) :
    Deferring key isn l (({ p with flow := p.flow.forward segment.payload }).emit
      [.forwardPayload p.flow.flowId segment.payload]) := by
  have he : entered l (({ p with flow := p.flow.forward segment.payload }).emit
      [.forwardPayload p.flow.flowId segment.payload]) =
      (p.entered l).forward segment.payload.length := by
    simp only [entered, emit_actions, forwardedBytes_append, List.length_append, Ledger.forward,
      Nat.add_assoc]
    simp [forwardedBytes]
  refine ⟨h.keyed, by rw [he]; exact h.held.forward hf hopen segment.payload, ?_⟩
  rw [he]
  simp only [emit_actions, List.forall_mem_append, List.forall_mem_singleton]
  exact ⟨fun a ha => (h.sent a ha).mono (Nat.add_le_add_right (Nat.le_add_right _ _) _),
    .other fun _ ha => (by cases ha)⟩

lemma edit (honce : p.flow.FinOnce segment) (he : Edit config segment p q) :
    Deferring key isn l q := by
  cases he with
  | report hr | refuse hr =>
    exact h.extend rfl (forwardedBytes_of_reporting hr) rfl h.held le_rfl (h.reports hr)
  | establish hs =>
    have hf : p.flow.establish.finAccepted = p.flow.finAccepted := by
      simp [FlowRecord.establish, FlowRecord.finAccepted, hs]
    refine h.extend (List.append_nil _).symm rfl (FlowRecord.establish_same _).key ?_ ?_
      (List.forall_mem_nil _)
    · rw [FlowRecord.establish, if_pos hs] at hf ⊢
      exact h.held.of_same rfl rfl rfl hf (fun _ => h.held.handshake fun ho => ho.2 hs) h.held.stored
    · rw [FlowRecord.fins, FlowRecord.fins, hf]
  | clear =>
    exact h.extend (List.append_nil _).symm rfl rfl
      (h.held.of_same rfl rfl rfl rfl h.held.handshake fun o ho => (by cases ho)) le_rfl
      (List.forall_mem_nil _)
  | forward _ hf _ _ _ hopen => exact h.forward hf hopen
  | buffer _ _ _ hd | ask hd =>
    rw [h.held.plain] at hd
    cases hd
  | close hfin hend hf =>
    refine h.extend rfl rfl rfl (h.held.acceptFin (honce.open hfin hend hf) (.inr rfl)) ?_ ?_
    · exact p.flow.fins_le.trans (p.flow.fins_acceptFin (.inr rfl)).ge
    · exact List.forall_mem_singleton.mpr (.other fun _ ha => (by cases ha))
  | halfClose hfin hend hf =>
    rw [h.held.plain]
    refine h.extend rfl rfl rfl (h.held.acceptFin (honce.open hfin hend hf) (.inl rfl)) ?_ ?_
    · exact p.flow.fins_le.trans (p.flow.fins_acceptFin (.inl rfl)).ge
    · exact List.forall_mem_singleton.mpr (.other fun _ ha => (by cases ha))
  | complete =>
    exact h.extend rfl rfl rfl h.held le_rfl
      (List.forall_mem_singleton.mpr (.other fun _ ha => (by cases ha)))
  | finish =>
    refine h.extend rfl rfl rfl h.held le_rfl (List.forall_mem_cons.mpr ⟨h.packet _ _ _ _, ?_⟩)
    exact List.forall_mem_singleton.mpr (.other fun _ ha => (by cases ha))

end Deferring

def Answers (config : EngineConfig) (segment : TcpSegment) (p q : SegmentProgress) : Prop :=
  q.flow.snapshot.queuedToGateway = p.flow.snapshot.queuedToGateway ∧
    ¬ p.flow.Waits config segment

lemma receiveFin_queued (config : EngineConfig) (segment : TcpSegment) (p : SegmentProgress) :
    (p.receiveFin config segment).finish.flow.snapshot.queuedToGateway =
      p.flow.snapshot.queuedToGateway := by
  rw [finish_flow]
  have hcases := receiveFin_cases config segment p
  generalize p.receiveFin config segment = q at hcases
  cases hcases <;> rfl

lemma receiveFin_silent (hd : p.flow.dnsTcp = false) (hr : p.resetAfter = false)
    (hs : Silent p.actions) (hfin : segment.flags.fin = true →
      segment.payload ≠ [] ∧ finEnd segment = p.flow.clientNext ∨
        finEnd segment ≠ p.flow.clientNext ∧ finEnd segment + 1 ≠ p.flow.clientNext) :
    Silent (p.receiveFin config segment).finish.actions := by
  have hcases := receiveFin_cases config segment p
  generalize p.receiveFin config segment = q at hcases
  have hclose : ∀ direction, Silent [p.flow.close direction] := fun direction packet hm => by
    simp [FlowRecord.close] at hm
  cases hcases with
  | skipped =>
    rw [finish, hr]
    exact hs
  | closes hf _ he =>
    have hp := (hfin hf).elim (·.1) fun h => absurd he h.1
    simpa [finish, hr, hp] using hs.append (hclose .both)
  | halfCloses hf _ he =>
    have hp := (hfin hf).elim (·.1) fun h => absurd he h.1
    simpa [finish, hr, hp, hd] using hs.append (hclose .write)
  | repeated hf _ hne he => exact (hfin hf).elim (fun h => absurd h.2 hne) fun h => absurd he h.2

lemma receiveContent_answers (hd : p.flow.dnsTcp = false) (hs : Silent p.actions)
    (hr : p.resetAfter = true → ¬ p.flow.Waits config segment) :
    Silent (p.receiveContent config segment).actions ∨
      Answers config segment p (p.receiveContent config segment) := by
  have hplain : (p.receivePayload config segment).flow.dnsTcp = false := by
    rw [← hd]
    exact receivePayload_dnsTcp config segment p
  rw [receiveContent, resolveQueries_of_not_dns _ _ hplain, Answers, receiveFin_queued]
  have hcases := receivePayload_cases config segment p
  generalize p.receivePayload config segment = q at hcases hplain
  cases hcases with
  | skipped hskip =>
    by_cases hw : p.flow.Waits config segment
    · have hopen := Bool.eq_false_iff.mpr fun hreset => hr hreset hw
      have hp := hskip.resolve_right (by rw [hopen]; exact Bool.false_ne_true)
      refine .inl (receiveFin_silent hd hopen hs fun hfin => .inr ?_)
      rw [finEnd_of_empty hp]
      exact hw.fin hp hfin
    · exact .inr ⟨rfl, hw⟩
  | afterFin hp _ hf =>
    refine .inr ⟨rfl, fun hw => ?_⟩
    rw [(hw.data hp).1] at hf
    cases hf
  | overflow hp _ _ _ hover =>
    rw [hd, if_neg Bool.false_ne_true] at hover
    exact .inr ⟨rfl, fun hw => absurd (hw.data hp).2.2 (not_le.mpr hover)⟩
  | buffered _ _ _ _ hdns =>
    rw [hd] at hdns
    cases hdns
  | forwarded hp hopen _ hseq =>
    refine .inl (receiveFin_silent hd hopen (hs.append fun packet hm => ?_) fun _ => .inl ⟨hp, ?_⟩)
    · simp at hm
    · rw [finEnd, hseq]
      rfl
  | duplicate hp _ _ hseq | early hp _ _ hseq =>
    exact .inr ⟨rfl, fun hw => hseq (hw.data hp).2.1⟩

lemma receiveData_answers (config : EngineConfig) (segment : TcpSegment)
    (hd : p.flow.dnsTcp = false) (hs : p.actions = []) (hr : p.resetAfter = false) :
    Silent (FlowRecord.receiveData config segment p).actions ∨
      Answers config segment p (FlowRecord.receiveData config segment p) := by
  have hack : Silent (p.receiveAcknowledgement segment).actions ∧
      (p.receiveAcknowledgement segment).flow.snapshot.queuedToGateway =
        p.flow.snapshot.queuedToGateway ∧
      (p.flow.Waits config segment ↔
        (p.receiveAcknowledgement segment).flow.Waits config segment) ∧
      ((p.receiveAcknowledgement segment).resetAfter = true → ¬ p.flow.Waits config segment) := by
    have hcases := receiveAcknowledgement_cases segment p
    generalize p.receiveAcknowledgement segment = q at hcases
    cases hcases with
    | ahead hack hb =>
      refine ⟨?_, rfl, Iff.rfl, fun _ hw => ?_⟩
      · rw [resetWith_actions, hs]
        exact fun packet hm => by simp [FlowRecord.blocked, FlowRecord.diagnostic] at hm
      · rw [hw.notAhead hack] at hb
        cases hb
    | cleared | kept =>
      refine ⟨by rw [hs]; exact silent_nil, rfl,
        ⟨fun hw => hw.of_same rfl rfl rfl rfl, fun hw => hw.of_same rfl rfl rfl rfl⟩, fun hreset => ?_⟩
      rw [hr] at hreset
      cases hreset
  obtain ⟨hsilent, hqueue, hwaits, hreset⟩ := hack
  have hplain := (edits_same (receiveAcknowledgement_edits config segment p)).dnsTcp.trans hd
  have hcases := receiveData_cases config segment p
  generalize FlowRecord.receiveData config segment p = q at hcases
  cases hcases with
  | unacknowledged hcontent hno =>
    refine .inr ⟨rfl, fun hw => ?_⟩
    rw [hw.acknowledged hcontent] at hno
    cases hno
  | completed => exact .inl (hsilent.append fun packet hm => by simp [FlowRecord.close] at hm)
  | content =>
    exact (receiveContent_answers hplain hsilent fun hr hw => hreset hr (hwaits.mpr hw)).imp id
      fun h => ⟨h.1.trans hqueue, fun hw => h.2 (hwaits.mp hw)⟩

end SegmentProgress

def FlowEvent.confirms : FlowEvent → ℕ
  | .acknowledged bytes _ => bytes
  | _ => 0

variable {event : FlowEvent}

namespace FlowRecord

open SegmentProgress

def takesFin (config : EngineConfig) (flow : FlowRecord) : FlowEvent → Bool
  | .segment table nextId segment now =>
    (flow.receiveSegment config table nextId segment now).flow.finAccepted
  | _ => flow.finAccepted

def Defers (config : EngineConfig) (flow : FlowRecord) : FlowEvent → Prop
  | .segment _ _ segment _ =>
    (flow.snapshot.queuedToGateway = 0 ∨ segment.flags.syn = true ∨ flow.Waits config segment) ∧
      (flow.finAccepted = true → segment.flags.fin = true → segment.payload = [] →
        segment.sequence ≠ flow.clientNext)
  | .acknowledged bytes _ => flow.snapshot.queuedToGateway ≤ bytes
  | .payload payload _ => payload = [] ∨ flow.snapshot.queuedToGateway = 0
  | .fin _ => flow.snapshot.queuedToGateway = 0
  | .failed _ => flow.snapshot.queuedToGateway = 0
  | _ => True

instance (config : EngineConfig) (flow : FlowRecord) : DecidablePred (flow.Defers config)
  | .segment _ _ _ _ => inferInstanceAs (Decidable (_ ∧ (_ → _ → _ → _)))
  | .acknowledged _ _ => inferInstanceAs (Decidable (_ ≤ _))
  | .payload _ _ => inferInstanceAs (Decidable (_ ∨ _))
  | .fin _ | .failed _ => inferInstanceAs (Decidable (_ = _))
  | .reset | .opened _ | .tick _ | .postponed _ => inferInstanceAs (Decidable True)

variable {config : EngineConfig} {isn : UInt32} {l : Ledger} {flow : FlowRecord}

lemma receiveSegment_deferring (h : Held isn l flow) (pendingDns : PendingDns)
    (nextDnsId : UInt64) {segment : TcpSegment} (now : ℕ) (honce : flow.FinOnce segment) :
    Deferring flow.key isn l (flow.receiveSegment config pendingDns nextDnsId segment now) := by
  have hedit : ∀ {p q}, Deferring flow.key isn l p ∧ p.flow.FinOnce segment →
      Edit config segment p q → Deferring flow.key isn l q ∧ q.flow.FinOnce segment :=
    fun h he => ⟨h.1.edit h.2 he, h.2.edit he⟩
  have h0 : Deferring flow.key isn l (flow.arrival pendingDns nextDnsId now) :=
    ⟨rfl, h.of_same rfl rfl rfl rfl h.handshake h.stored, List.forall_mem_nil _⟩
  exact (receiveSegment_invariant hedit ⟨h0, honce⟩).1

lemma receiveSegment_calm (h : Held isn l flow) (pendingDns : PendingDns) (nextDnsId : UInt64)
    {segment : TcpSegment} (now : ℕ) (hd : flow.snapshot.queuedToGateway = 0 ∨
      segment.flags.syn = true ∨ flow.Waits config segment) :
    Silent (flow.receiveSegment config pendingDns nextDnsId segment now).actions ∨
      (flow.receiveSegment config pendingDns nextDnsId segment now).flow.snapshot.queuedToGateway =
        0 := by
  have hcases := receiveSegment_cases config pendingDns nextDnsId segment now flow
  generalize flow.receiveSegment config pendingDns nextDnsId segment now = q at hcases
  have hqueue : flow.state = .synAckSent → flow.snapshot.queuedToGateway = 0 :=
    fun hs => h.handshake fun ho => ho.2 hs
  cases hcases with
  | repeatedSyn =>
    by_cases hs : (flow.arrival pendingDns nextDnsId now).flow.state = .synAckSent
    · exact .inr (hqueue hs)
    · rw [if_neg hs]
      exact .inl fun packet hm => by simp [arrival, FlowRecord.diagnostic] at hm
  | connecting => exact .inl silent_nil
  | unanswered _ hs => exact .inr (hqueue hs)
  | data hsyn hc =>
    obtain ⟨hserver, hnext, hfin, hqueued⟩ := (flow.touch now).establish_client
    have hplain : (flow.touch now).establish.dnsTcp = false := (establish_same _).dnsTcp.trans h.plain
    refine (receiveData_answers config segment hplain rfl rfl).imp id fun ha => ?_
    refine (ha.1.trans hqueued).trans (hd.resolve_right fun hd => ?_)
    rcases hd with hs | hw
    · rw [hsyn] at hs
      cases hs
    · exact ha.2 (hw.of_same hserver hnext hfin hqueued)

def account (config : EngineConfig) (flow : FlowRecord) (event : FlowEvent) (l : Ledger) : Ledger :=
  (l.forward (forwardedBytes (flow.step config event).2).length).confirm event.confirms

lemma account_of_not_segment
    (h : ∀ pendingDns nextDnsId segment now, event ≠ .segment pendingDns nextDnsId segment now) :
    flow.account config event l = l.confirm event.confirms := by
  rw [account, step_forwarded_of_not_segment config flow h]
  rfl

structure Kept (config : EngineConfig) (isn : UInt32) (l : Ledger) (flow : FlowRecord)
    (event : FlowEvent) : Prop where
  sent : ∀ a ∈ (flow.step config event).2, Acknowledges flow.key isn
    ((flow.account config event l).covered (flow.takesFin config event)) a
  held : ∀ next, (flow.step config event).1 = some next →
    Held isn (flow.account config event l) next ∧
      next.finAccepted = flow.takesFin config event

lemma Stepping.deferring {r : Option FlowRecord} (hstep : Stepping config flow event r actions)
    (h : Held isn l flow)
    (hseg : ∀ pendingDns nextDnsId segment now, event ≠ .segment pendingDns nextDnsId segment now)
    (hack : ∀ bytes now, event ≠ .acknowledged bytes now) (hd : flow.Defers config event) :
    (∀ a ∈ actions, Acknowledges flow.key isn (l.covered flow.finAccepted) a) ∧
      ∀ next, r = some next → Held isn l next := by
  have hnone : ∀ next : FlowRecord, none = some next → Held isn l next := fun next hn => by cases hn
  have hsame : ∀ next, some flow = some next → Held isn l next := fun next hn =>
    Option.some.inj hn ▸ h
  cases hstep with
  | received | removed => exact absurd rfl (hseg _ _ _ _)
  | acknowledged | finished => exact absurd rfl (hack _ _)
  | reset => exact ⟨List.forall_mem_singleton.mpr (.other fun _ ha => (by cases ha)), hnone⟩
  | known | empty | quiet => exact ⟨List.forall_mem_nil _, hsame⟩
  | opened now hs =>
    have hq := h.handshake fun ho => ho.1 hs
    refine ⟨List.forall_mem_singleton.mpr (.packet rfl _ _ _ _ (h.within hq)), fun next hn => ?_⟩
    obtain rfl := Option.some.inj hn
    exact h.of_same rfl rfl rfl (by simp [finAccepted, withState, touch, hs]) (fun _ => hq) h.stored
  | sent payload now hp =>
    have hw := h.within (hd.resolve_left hp)
    refine ⟨List.forall_mem_singleton.mpr (.packet rfl _ _ _ _ hw), fun next hn => ?_⟩
    obtain rfl := Option.some.inj hn
    refine h.of_same rfl rfl rfl rfl h.handshake fun o ho => ?_
    obtain rfl := Option.some.inj ho
    exact hw
  | refused payload now hp => exact ⟨h.failActions (hd.resolve_left hp) _, hnone⟩
  | closed now hopen =>
    refine ⟨List.forall_mem_singleton.mpr (.packet rfl _ _ _ _ (h.within hd)), fun next hn => ?_⟩
    have hrun : (flow.step config (.fin now)).1 = some next := by simpa [step, hopen] using hn
    have hfin := (step_client_of_not_segment config hseg hrun).2.1
    obtain rfl := Option.some.inj hn
    refine h.of_same rfl rfl rfl hfin (fun _ => hd) fun o ho => ?_
    obtain rfl := Option.some.inj ho
    exact h.within hd
  | unclosed | failed => exact ⟨h.failActions hd _, hnone⟩
  | @repeated now o ho =>
    refine ⟨List.forall_mem_cons.mpr ⟨.other fun _ ha => (by cases ha),
      List.forall_mem_singleton.mpr (.packet rfl _ _ _ _ (h.stored o ho))⟩, fun next hn => ?_⟩
    obtain rfl := Option.some.inj hn
    refine h.of_same rfl rfl rfl rfl h.handshake fun o' ho' => ?_
    obtain rfl := Option.some.inj ho'
    exact h.stored o ho
  | postponed slept =>
    refine ⟨List.forall_mem_nil _, fun next hn => ?_⟩
    obtain rfl := Option.some.inj hn
    exact h.of_same rfl rfl rfl rfl h.handshake h.stored

lemma Kept.of_idle (h : Held isn l flow)
    (hseg : ∀ pendingDns nextDnsId segment now, event ≠ .segment pendingDns nextDnsId segment now)
    (hack : ∀ bytes now, event ≠ .acknowledged bytes now) (hd : flow.Defers config event) :
    Kept config isn l flow event := by
  obtain ⟨hsent, hheld⟩ := (step_cases config flow event).deferring h hseg hack hd
  have hconf : event.confirms = 0 := by
    cases event with
    | acknowledged bytes now => exact absurd rfl (hack bytes now)
    | _ => rfl
  have hl : flow.account config event l = l := by
    rw [account_of_not_segment hseg, hconf, Ledger.confirm_zero h.le]
  have hfin : flow.takesFin config event = flow.finAccepted := by
    cases event with
    | segment a b c d => exact absurd rfl (hseg a b c d)
    | _ => rfl
  refine ⟨by rw [hl, hfin]; exact hsent, fun next hn => ?_⟩
  rw [hl, hfin]
  exact ⟨hheld next hn, (step_client_of_not_segment config hseg hn).2.1⟩

lemma step_kept (h : Held isn l flow) (hd : flow.Defers config event) :
    Kept config isn l flow event := by
  cases event with
  | segment pendingDns nextDnsId segment now =>
    have hp : Deferring flow.key isn l
        (flow.receiveSegment config pendingDns nextDnsId segment now) :=
      receiveSegment_deferring h pendingDns nextDnsId now hd.2
    have hl : flow.account config (.segment pendingDns nextDnsId segment now) l =
        (flow.receiveSegment config pendingDns nextDnsId segment now).entered l :=
      Ledger.confirm_zero (h.le.trans (Nat.le_add_right _ _))
    refine ⟨fun a ha => ?_, fun next hn => ?_⟩
    · rw [hl]
      rcases receiveSegment_calm h pendingDns nextDnsId now hd.1 with hsilent | hq
      · exact .other fun packet he => hsilent packet (he ▸ ha)
      · exact (hp.sent a ha).mono (hp.held.covered_eq hq).ge
    · simp only [step] at hn
      split_ifs at hn
      obtain rfl := Option.some.inj hn
      rw [hl]
      exact ⟨hp.held, rfl⟩
  | acknowledged bytes now =>
    have hd : flow.snapshot.queuedToGateway ≤ bytes := hd
    have hl : flow.account config (.acknowledged bytes now) l = l.confirm bytes := rfl
    have hall : (l.confirm bytes).confirmed = l.forwarded := by
      have := h.queued
      simp only [Ledger.confirm]
      omega
    have hheld : Held isn (l.confirm bytes) (flow.acknowledged config bytes now).1 := by
      refine ⟨h.plain, hall.le, ?_, h.clientNext, fun _ => Nat.sub_eq_zero_of_le hd, fun o ho => ?_⟩
      · rw [hall]
        exact (congrArg (· + l.forwarded) (Nat.sub_eq_zero_of_le hd)).trans (Nat.zero_add _)
      · exact (h.stored o ho).mono (l.covered_le_confirm h.le _ bytes)
    refine ⟨?_, fun next hn => ?_⟩
    · rw [hl]
      simp only [step, acknowledged, List.forall_mem_singleton]
      exact .packet rfl _ _ _ _ (hheld.within (Nat.sub_eq_zero_of_le hd))
    · simp only [step] at hn
      split_ifs at hn
      obtain rfl := Option.some.inj hn
      exact ⟨hheld, rfl⟩
  | _ => exact .of_idle h (fun _ _ _ _ he => (by cases he)) (fun _ _ he => (by cases he)) hd

end FlowRecord

def Event.confirms (key : FlowKey) (e : Event) : ℕ :=
  match e.call with
  | .acknowledgeForwarded flowId bytes _ => if e.before.ids.lookup flowId = some key then bytes else 0
  | _ => 0

def Ledger.record (key : FlowKey) (l : Ledger) (e : Event) : Ledger :=
  (l.forward (e.forwarded key).length).confirm (e.confirms key)

def ledger (key : FlowKey) (events : List Event) : Ledger :=
  events.foldl (Ledger.record key) ⟨0, 0⟩

def Event.takesFin (config : EngineConfig) (key : FlowKey) (e : Event) : Bool :=
  match e.before.flows.lookup key with
  | none => false
  | some flow =>
    match e.before.deliveries key flow e.call with
    | [] => flow.finAccepted
    | event :: _ => flow.takesFin config event

def Event.Defers (config : EngineConfig) (key : FlowKey) (e : Event) : Prop :=
  ∀ flow ∈ e.before.flows.lookup key,
    ∀ event ∈ e.before.deliveries key flow e.call, flow.Defers config event

instance (config : EngineConfig) (key : FlowKey) (e : Event) : Decidable (e.Defers config key) :=
  inferInstanceAs (Decidable (∀ flow ∈ _, ∀ event ∈ _, _))

lemma Event.confirms_eq (key : FlowKey) (flow : FlowRecord) (e : Event) :
    e.confirms key = ((e.before.deliveries key flow e.call).map FlowEvent.confirms).sum := by
  by_cases hack : ∃ flowId bytes now, e.call = .acknowledgeForwarded flowId bytes now
  · obtain ⟨flowId, bytes, now, hc⟩ := hack
    simp only [Event.confirms, hc, deliveries, directed,
      callback, failures, failuresOf_nil]
    split_ifs <;> rfl
  · have hzero : e.confirms key = 0 := by
      simp only [Event.confirms]
      split
      · rename_i flowId bytes now hc
        exact absurd ⟨flowId, bytes, now, hc⟩ hack
      · rfl
    rw [hzero, eq_comm]
    refine List.sum_eq_zero fun n hn => ?_
    obtain ⟨event, hm, rfl⟩ := List.mem_map.mp hn
    have hd := delivered_of_mem hm
    generalize e.call = call at hd hack
    cases hd with
    | acknowledged bytes now => exact absurd ⟨_, bytes, now, rfl⟩ hack
    | _ => rfl

lemma Event.Ran.kept {e : Event} {key : FlowKey} {l : Ledger} (h : e.Ran config)
    (hf : e.before.flows.lookup key = some flow) (hheld : Held isn l flow)
    (hd : e.Defers config key) :
    (∀ a ∈ (flow.run config (e.before.deliveries key flow e.call)).2,
      Acknowledges flow.key isn ((l.record key e).covered (e.takesFin config key)) a) ∧
    ∀ next, e.after.flows.lookup key = some next → Held isn (l.record key e) next := by
  have hdefer := hd flow hf
  rw [h.lookup hf]
  simp only [Ledger.record, h.forwarded_eq hf, e.confirms_eq key flow, Event.takesFin, hf]
  obtain hds | ⟨event, hds⟩ | ⟨now, reason, hds⟩ := deliveries_cases hf e.call
  · have hl : (l.forward (forwardedBytes []).length).confirm 0 = l := Ledger.confirm_zero hheld.le
    simp only [hds, FlowRecord.run_nil, List.map_nil, List.sum_nil, hl]
    refine ⟨List.forall_mem_nil _, fun next hn => ?_⟩
    obtain rfl := Option.some.inj hn
    exact hheld
  · have hk := FlowRecord.step_kept hheld (hdefer event (by rw [hds]; exact List.mem_cons_self))
    simp only [hds, FlowRecord.run_single, List.map_cons, List.map_nil, List.sum_cons, List.sum_nil,
      Nat.add_zero]
    exact ⟨hk.sent, fun next hn => (hk.held next hn).1⟩
  · have hk := FlowRecord.step_kept hheld
      (hdefer (.tick now) (by rw [hds]; exact List.mem_cons_self))
    have hq : flow.snapshot.queuedToGateway = 0 :=
      hdefer (.failed reason) (by rw [hds]; exact List.mem_cons_of_mem _ List.mem_cons_self)
    -- a sweep changes neither the ledger nor what the failure may acknowledge
    have hstep : (flow.step config (.tick now)).1 = some (flow.afterTick config now) := rfl
    have hl : flow.account config (.tick now) l = l := by
      rw [FlowRecord.account_of_not_segment fun _ _ _ _ he => (by cases he)]
      exact Ledger.confirm_zero hheld.le
    obtain ⟨hnext, hfin⟩ := hk.held _ hstep
    rw [hl] at hnext
    have hq' : (flow.afterTick config now).snapshot.queuedToGateway = 0 := by
      obtain ⟨hf, _⟩ | ⟨o, _, hf, _⟩ := flow.afterTick_cases config now <;> rw [hf] <;> exact hq
    have hrun : flow.run config [.tick now, .failed reason] =
        (none, flow.tickActions config now ++ (flow.afterTick config now).failActions reason) := rfl
    have hsent := hk.sent
    have hfwd : forwardedBytes (flow.step config (.tick now)).2 = [] :=
      FlowRecord.step_forwarded_of_not_segment config flow nofun
    simp only [FlowRecord.step] at hfwd
    have hl' : (l.forward (forwardedBytes (flow.tickActions config now ++
        (flow.afterTick config now).failActions reason)).length).confirm
          (FlowEvent.confirms (.tick now) + (FlowEvent.confirms (.failed reason) + 0)) = l := by
      rw [forwardedBytes_append, hfwd]
      exact Ledger.confirm_zero hheld.le
    rw [hl] at hsent
    simp only [hds, hrun, List.map_cons, List.map_nil, List.sum_cons, List.sum_nil, hl',
      List.forall_mem_append]
    refine ⟨⟨hsent, ?_⟩, fun next hn => (by cases hn)⟩
    have hfail := hnext.failActions hq' reason
    rw [(flow.afterTick_same config now).key, hfin] at hfail
    exact hfail

/-- Every packet to the application of the flow acknowledges at most what the ledger, this call's
entries included, has confirmed. -/
def AcksConfirmed (config : EngineConfig) (key : FlowKey) (isn : UInt32) (past : List Event)
    (e : Event) : Prop :=
  ∀ packet, .sendSyntheticResponse packet ∈ e.actions →
    ∀ answer, classify packet = .ok (.tcp answer) → answer.answers = key →
      Within isn ((ledger key (past ++ [e])).covered (e.takesFin config key)) answer.acknowledgement

lemma ledger_concat (key : FlowKey) (past : List Event) (e : Event) :
    ledger key (past ++ [e]) = (ledger key past).record key e := by
  simp [ledger]

lemma acksConfirmed_of_kept {events past : List Event} {s : PacketProcessor} {e : Event}
    {key : FlowKey} (h : Run config events s) (he : e ∈ events)
    (hf : e.before.flows.lookup key = some flow)
    (hsent : ∀ a ∈ (flow.run config (e.before.deliveries key flow e.call)).2,
      Acknowledges flow.key isn
        ((ledger key (past ++ [e])).covered (e.takesFin config key)) a) :
    AcksConfirmed config key isn past e := by
  rintro packet hm answer hc rfl
  have hack := hsent _ (h.answer_source he hm hc hf)
  generalize ha : EngineAction.sendSyntheticResponse packet = a at hack
  cases hack with
  | packet hk sequence flags window payload hw =>
    obtain rfl := EngineAction.sendSyntheticResponse.inj ha
    have hports := h.ports he hf
    rw [← hk] at hports
    have hnumber : answer.acknowledgement = _ :=
      congrArg TcpSegment.acknowledgement (response_inv hports.1 hports.2 hc)
    rw [hnumber]
    exact hw
  | other hn => exact absurd ha.symm (hn packet)

theorem acks_confirmed {config : EngineConfig} {key : FlowKey} {opening : Event}
    {flow : FlowRecord} {life : List Event} {s : PacketProcessor} {syn : TcpSegment}
    (h : Lifetime config key opening flow life s) (hd : flow.dnsTcp = false)
    (hsyn : opening.call.segment = some syn) (hdefer : ∀ e ∈ life, e.Defers config key) :
    ∀ past e, past ++ [e] <+: life → AcksConfirmed config key syn.sequence past e := by
  obtain ⟨hstate, hqueued, hout⟩ := h.connecting hd
  obtain ⟨history, hrun⟩ := h.run
  have hfin : flow.finAccepted = false := by simp [FlowRecord.finAccepted, hstate]
  have hstart : Held syn.sequence (ledger key []) flow := by
    refine ⟨hd, le_rfl, by rw [hqueued]; rfl, ?_, fun _ => hqueued, fun o ho => ?_⟩
    · rw [FlowRecord.fins, hfin, h.clientNext hsyn]
      exact (UInt32.add_zero _).symm
    · rw [hout] at ho
      cases ho
  have hall := life_induction (P := fun past r =>
    (∀ past' e, past' ++ [e] <+: past → AcksConfirmed config key syn.sequence past' e) ∧
      ∀ next, r = some next → Held syn.sequence (ledger key past) next)
    h.trace h.ran.after_sound h.ran.after_config h.live ?_ ?_
  · exact hall.1
  · refine ⟨fun past' e hp => ?_, fun next hn => ?_⟩
    · simp at hp
    · rw [h.opened] at hn
      obtain rfl := Option.some.inj hn
      exact hstart
  · intro past e g hpast hP hran hg
    have he : e ∈ life := hpast.subset (by simp)
    obtain ⟨hsent, hnext⟩ := hran.kept hg (hP.2 g rfl) (hdefer e he)
    rw [← ledger_concat] at hsent hnext
    refine ⟨fun past' e' hp => ?_, hnext⟩
    rcases List.prefix_concat_iff.mp hp with hp | hp
    · obtain ⟨rfl, he'⟩ := List.append_inj' hp rfl
      obtain rfl := List.singleton_inj.mp he'
      exact acksConfirmed_of_kept hrun (by simp [he]) hg hsent
    · exact hP.1 past' e' hp

open Sample in
def confirmedCalls : List Call :=
  [.protectedStreamOpened flowId 0, segment 8 serverNext .ackOnly [],
    segment 8 serverNext .ackOnly [104, 105],
    .acknowledgeForwarded flowId 2 0, segment 10 serverNext .finAck []]

def confirmedLife : List Event :=
  eventsOf (eventOf Sample.start Sample.opening).after confirmedCalls

open Sample in
theorem acks_confirmed_hello :
    (ledger key confirmedLife).confirmed = 2 ∧
      ∀ past e, past ++ [e] <+: confirmedLife → AcksConfirmed .default key 7 past e := by
  have hlife : Lifetime .default key (eventOf start opening) opened
      confirmedLife (finalOf start (opening :: confirmedCalls)) :=
    .of_calls new_default (by decide +kernel) (by decide +kernel) (by decide +kernel)
  have hsyn : opening.segment = some synSegment := by decide +kernel
  have hdefer : ∀ e ∈ confirmedLife, e.Defers .default key := by decide +kernel
  have hconfirmed : (ledger key confirmedLife).confirmed = 2 := by decide +kernel
  have hacks := acks_confirmed hlife rfl hsyn hdefer
  exact ⟨hconfirmed, hacks⟩

open Sample in
def unconfirmedCalls : List Call :=
  [.protectedStreamOpened flowId 0, segment 8 serverNext .ackOnly [],
    segment 8 serverNext .ackOnly [104, 105]]

def unconfirmedLife : List Event :=
  eventsOf (eventOf Sample.start Sample.opening).after unconfirmedCalls

open Sample in
def repeatedData : Event :=
  eventOf (finalOf start (opening :: unconfirmedCalls))
    (segment 8 serverNext .ackOnly [104, 105])

open Sample in
theorem repeated_data_acks_unconfirmed :
    Run .default (eventOf start opening :: unconfirmedLife ++ [repeatedData])
        repeatedData.after ∧
      ledger key (unconfirmedLife ++ [repeatedData]) = ⟨2, 0⟩ ∧
      .sendSyntheticResponse (responseFromValues opened serverNext 10 .ackOnly 32768 [])
        ∈ repeatedData.actions ∧
      ¬ AcksConfirmed .default key 7 unconfirmedLife repeatedData := by
  have hrun := run_eventsOf new_default (opening :: unconfirmedCalls ++
    [segment 8 serverNext .ackOnly [104, 105]])
  rw [eventsOf_append, finalOf_append] at hrun
  have hforwarded : (ledger key (unconfirmedLife ++ [repeatedData])).forwarded = 2 := by
    decide +kernel
  have hconfirmed : (ledger key (unconfirmedLife ++ [repeatedData])).confirmed = 0 := by
    decide +kernel
  have hsent : .sendSyntheticResponse
      (responseFromValues opened serverNext 10 .ackOnly 32768 []) ∈
        repeatedData.actions := by decide +kernel
  have hanswer := classify_response opened serverNext 10 .ackOnly 32768 []
    (by decide) (by decide) (Nat.zero_le _)
  refine ⟨hrun, ?_, hsent, fun hacks => ?_⟩
  · rw [← hforwarded, ← hconfirmed]
  · obtain ⟨n, hn, he⟩ := hacks _ hsent _ hanswer rfl
    have hfin : repeatedData.takesFin .default key = false := by decide +kernel
    rw [Ledger.covered, hfin, hconfirmed] at hn
    simp only [Bool.false_eq_true, false_and, if_false, Nat.add_zero, Nat.le_zero] at hn
    subst hn
    exact absurd he (by decide)

end OnionRoute.PacketEngine
