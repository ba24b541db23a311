import OnionRoute.Library.Outcome
import OnionRoute.GatewayProtocol.Flow

/-! What each method of the flow controller has done when it succeeds. -/

namespace OnionRoute.GatewayProtocol

open Library

variable {u : Unit} {p : Prop} {field : String}

lemma require_eq_ok [Decidable p] : require p field = .ok u ↔ p := by
  rw [require]
  by_cases hp : p <;> simp [hp, pure, Except.pure, throw, throwThe, MonadExceptOf.throw]

variable {e : ProtocolError}

lemma require_eq_error [Decidable p] :
    require p field = .error e ↔ ¬ p ∧ e = .invalidField field := by
  rw [require]
  by_cases hp : p <;> simp [hp, pure, Except.pure, throw, throwThe, MonadExceptOf.throw, eq_comm]

lemma validateStreamId_eq_ok {k : UInt64} : validateStreamId k = .ok u ↔ k ≠ 0 ∧ k &&& 1 ≠ 0 := by
  rw [validateStreamId, ← not_or]
  by_cases hk : k = 0 ∨ k &&& 1 = 0 <;>
    simp [hk, pure, Except.pure, throw, throwThe, MonadExceptOf.throw]

lemma validateStreamId_eq_error {k : UInt64} :
    validateStreamId k = .error e ↔ (k = 0 ∨ k &&& 1 = 0) ∧ e = .invalidStreamId := by
  rw [validateStreamId, eq_comm (a := e)]
  by_cases hk : k = 0 ∨ k &&& 1 = 0 <;>
    simp [hk, pure, Except.pure, throw, throwThe, MonadExceptOf.throw]

variable {window : UInt32}

lemma validateWindow_eq_ok :
    validateWindow window = .ok u ↔ window ≠ 0 ∧ window.toNat ≤ maxStreamWindow :=
  require_eq_ok

variable {current n maximum : ℕ}

lemma checkedCreditAdd_eq_ok {credit : ℕ} :
    checkedCreditAdd current credit maximum = .ok n ↔
      current + credit ≤ u64Max ∧ current + credit ≤ maximum ∧ current + credit = n := by
  simp only [checkedCreditAdd, guard_eq_ok, pure_eq_ok, not_lt, gt_iff_lt]

lemma checkedCreditAdd_eq_error {credit : ℕ} (hmax : maximum ≤ u64Max)
    (h : checkedCreditAdd current credit maximum = .error e) : maximum < current + credit := by
  simp only [checkedCreditAdd, guard_eq_error, pure_eq_error, and_false, or_false, gt_iff_lt] at h
  rcases h with ⟨hlt, -⟩ | ⟨-, hlt, -⟩
  · omega
  · exact hlt

namespace FlowController

variable {flow flow' : FlowController} {k : UInt64} {now : ℕ}

@[simp] lemma lookup_putStream (j : UInt64) (stream : StreamState) :
    (flow.putStream k stream).streams.lookup j =
      if j = k then (flow.streams.lookup j).map fun _ => stream else flow.streams.lookup j :=
  Table.lookup_modify _ _ _ _

lemma streamMut_eq_ok {stream : StreamState} :
    flow.streamMut k = .ok stream ↔
      (k ≠ 0 ∧ k &&& 1 ≠ 0) ∧ flow.streams.lookup k = some stream := by
  rw [streamMut, bind_eq_ok]
  cases hl : flow.streams.lookup k with
  | none => simp [throw_eq_ok]
  | some other => simp [validateStreamId_eq_ok, pure_eq_ok]

lemma streamMut_eq_error (h : flow.streamMut k = .error e) :
    e = .invalidStreamId := by
  rw [streamMut, bind_eq_error] at h
  rcases h with h | ⟨_, _, h⟩
  · exact (validateStreamId_eq_error.mp h).2
  · cases hl : flow.streams.lookup k with
    | none => rw [hl] at h; exact (throw_eq_error.mp h).symm
    | some other => rw [hl] at h; exact (pure_eq_error.mp h).elim

lemma insertNewStream_eq_ok {phase : StreamPhase} {send recv : UInt32}
    (h : flow.insertNewStream k phase send recv now = .ok flow') :
    (k ≠ 0 ∧ k &&& 1 ≠ 0) ∧ flow.maximumSeenStreamId < k ∧ flow.streams.lookup k = none ∧
      flow.streams.size < flow.maximumConcurrentStreams ∧
      send.toNat ≤ maxStreamWindow ∧ recv.toNat ≤ maxStreamWindow ∧
      flow' = { flow with
        maximumSeenStreamId := k
        streams := flow.streams.insert k
          ⟨phase, send.toNat, recv.toNat, false, false, now⟩ } := by
  simp only [insertNewStream, guard_eq_ok, bind_eq_ok, not_or] at h
  obtain ⟨_, hk, ⟨hseen, hfresh⟩, hsize, h⟩ := h
  have hnone : flow.streams.lookup k = none := by
    simpa [Table.contains] using hfresh
  have hwindow : ∀ (w : UInt32) (x : Result FlowController),
      (if w ≠ 0 then validateWindow w >>= fun _ => x else x) = .ok flow' →
      w.toNat ≤ maxStreamWindow ∧ x = .ok flow' := by
    intro w x hx
    by_cases hw : w = 0
    · rw [if_neg (not_not.mpr hw)] at hx
      exact ⟨hw ▸ Nat.zero_le _, hx⟩
    · rw [if_pos hw, bind_eq_ok] at hx
      obtain ⟨_, hv, hx⟩ := hx
      exact ⟨(validateWindow_eq_ok.mp hv).2, hx⟩
  obtain ⟨hsend, h⟩ := hwindow send _ h
  obtain ⟨hrecv, h⟩ := hwindow recv _ h
  exact ⟨validateStreamId_eq_ok.mp hk, UInt64.not_le.mp hseen, hnone, not_le.mp hsize, hsend, hrecv,
    (pure_eq_ok.mp h).symm⟩

lemma confirmLocalOpen_eq_ok (h : flow.confirmLocalOpen k window now = .ok flow') :
    ∃ stream, flow.streams.lookup k = some stream ∧ stream.phase = .openingLocal ∧
      window.toNat ≤ maxStreamWindow ∧ (k ≠ 0 ∧ k &&& 1 ≠ 0) ∧
      flow' = flow.putStream k { stream with
        phase := .open
        sendWindow := window.toNat
        lastActivity := now } := by
  simp only [confirmLocalOpen, guard_eq_ok, bind_eq_ok, pure_eq_ok, streamMut_eq_ok, not_not] at h
  obtain ⟨_, hw, stream, ⟨hk, hs⟩, hp, rfl⟩ := h
  exact ⟨stream, hs, hp, (validateWindow_eq_ok.mp hw).2, hk, rfl⟩

lemma acceptRemoteOpen_eq_ok (h : flow.acceptRemoteOpen k window now = .ok flow') :
    ∃ stream, flow.streams.lookup k = some stream ∧ stream.phase = .openingRemote ∧
      window.toNat ≤ maxStreamWindow ∧ (k ≠ 0 ∧ k &&& 1 ≠ 0) ∧
      flow' = flow.putStream k { stream with
        phase := .open
        receiveWindow := window.toNat
        lastActivity := now } := by
  simp only [acceptRemoteOpen, guard_eq_ok, bind_eq_ok, pure_eq_ok, streamMut_eq_ok, not_not] at h
  obtain ⟨_, hw, stream, ⟨hk, hs⟩, hp, rfl⟩ := h
  exact ⟨stream, hs, hp, (validateWindow_eq_ok.mp hw).2, hk, rfl⟩

lemma rejectOrClose_eq_ok :
    rejectOrClose k flow = .ok flow' ↔ ∃ stream, flow.streams.lookup k = some stream ∧
      (k ≠ 0 ∧ k &&& 1 ≠ 0) ∧ flow' = { flow with streams := flow.streams.erase k } := by
  simp only [rejectOrClose, bind_eq_ok, pure_eq_ok, streamMut_eq_ok]
  constructor
  · rintro ⟨stream, ⟨hk, hs⟩, rfl⟩
    exact ⟨stream, hs, hk, rfl⟩
  · rintro ⟨stream, hs, hk, rfl⟩
    exact ⟨stream, ⟨hk, hs⟩, rfl⟩

lemma debitSend_eq_ok (h : flow.debitSend k n now = .ok flow') :
    ∃ stream, flow.streams.lookup k = some stream ∧ stream.phase = .open ∧
      stream.localHalfClosed = false ∧ n ≠ 0 ∧ n ≤ stream.sendWindow ∧
      n ≤ flow.connectionSendWindow ∧ (k ≠ 0 ∧ k &&& 1 ≠ 0) ∧
      flow' = { flow.putStream k { stream with
          sendWindow := stream.sendWindow - n
          lastActivity := now } with
        connectionSendWindow := flow.connectionSendWindow - n } := by
  simp only [debitSend, guard_eq_ok, bind_eq_ok, pure_eq_ok, not_or, not_not, not_lt,
    Bool.not_eq_true] at h
  obtain ⟨hn, hconn, stream, hs, ⟨hp, hhalf⟩, hsend, rfl⟩ := h
  obtain ⟨hk, hs⟩ := streamMut_eq_ok.mp hs
  exact ⟨stream, hs, hp, hhalf, hn, hsend, hconn, hk, rfl⟩

lemma debitReceive_eq_ok (h : flow.debitReceive k n now = .ok flow') :
    ∃ stream, flow.streams.lookup k = some stream ∧ stream.phase = .open ∧
      stream.remoteHalfClosed = false ∧ n ≠ 0 ∧ n ≤ stream.receiveWindow ∧
      n ≤ flow.connectionReceiveWindow ∧ (k ≠ 0 ∧ k &&& 1 ≠ 0) ∧
      flow' = { flow.putStream k { stream with
          receiveWindow := stream.receiveWindow - n
          lastActivity := now } with
        connectionReceiveWindow := flow.connectionReceiveWindow - n } := by
  simp only [debitReceive, guard_eq_ok, bind_eq_ok, pure_eq_ok, not_or, not_lt] at h
  obtain ⟨⟨hn, hconn, hvalid⟩, stream, hs, rfl⟩ := h
  obtain ⟨hk, hs⟩ := streamMut_eq_ok.mp hs
  rw [hs] at hvalid
  simp only [Option.elim_some, Bool.or_eq_true, decide_eq_true_eq, not_or, not_not, not_lt,
    Bool.not_eq_true] at hvalid
  obtain ⟨⟨hp, hhalf⟩, hrecv⟩ := hvalid
  exact ⟨stream, hs, hp, hhalf, hn, hrecv, hconn, hk, rfl⟩

lemma debitReceive_eq_error (h : flow.debitReceive k n now = .error .flowControlViolation) :
    n = 0 ∨ flow.connectionReceiveWindow < n ∨ flow.streams.lookup k = none ∨
      ∃ stream, flow.streams.lookup k = some stream ∧
        (stream.phase ≠ .open ∨ stream.remoteHalfClosed = true ∨ stream.receiveWindow < n) := by
  simp only [debitReceive, guard_eq_error, bind_eq_error, pure_eq_error, and_false, exists_false,
    or_false] at h
  rcases h with ⟨hn | hconn | hvalid, -⟩ | ⟨-, h⟩
  · exact .inl hn
  · exact .inr (.inl hconn)
  · cases hl : flow.streams.lookup k with
    | none => exact .inr (.inr (.inl rfl))
    | some stream =>
      rw [hl] at hvalid
      simp only [Option.elim_some, Bool.or_eq_true, decide_eq_true_eq, or_assoc] at hvalid
      exact .inr (.inr (.inr ⟨stream, rfl, hvalid⟩))
  · cases streamMut_eq_error h

variable {credit : UInt32}

lemma receiveWindowUpdate_eq_ok (h : flow.receiveWindowUpdate k credit now = .ok flow') :
    (k = 0 ∧ flow.connectionSendWindow + credit.toNat ≤ maxConnectionWindow ∧
      flow' = { flow with
        connectionSendWindow := flow.connectionSendWindow + credit.toNat }) ∨
    ∃ stream, flow.streams.lookup k = some stream ∧ (k ≠ 0 ∧ k &&& 1 ≠ 0) ∧
      stream.sendWindow + credit.toNat ≤ maxStreamWindow ∧
      flow' = flow.putStream k { stream with
        sendWindow := stream.sendWindow + credit.toNat
        lastActivity := now } := by
  simp only [receiveWindowUpdate, guard_eq_ok] at h
  obtain ⟨-, h⟩ := h
  by_cases hk : k = 0
  · simp only [if_pos hk, bind_eq_ok, pure_eq_ok, checkedCreditAdd_eq_ok] at h
    obtain ⟨_, ⟨-, hle, rfl⟩, rfl⟩ := h
    exact .inl ⟨hk, hle, rfl⟩
  · simp only [if_neg hk, bind_eq_ok, pure_eq_ok, checkedCreditAdd_eq_ok, streamMut_eq_ok] at h
    obtain ⟨stream, ⟨hv, hs⟩, _, ⟨-, hle, rfl⟩, rfl⟩ := h
    exact .inr ⟨stream, hs, hv, hle, rfl⟩

lemma receiveWindowUpdate_eq_error (h : flow.receiveWindowUpdate k credit now = .error e) :
    credit = 0 ∨ (k = 0 ∧ maxConnectionWindow < flow.connectionSendWindow + credit.toNat) ∨
      e = .invalidStreamId ∨ ∃ stream, flow.streams.lookup k = some stream ∧ k ≠ 0 ∧
        maxStreamWindow < stream.sendWindow + credit.toNat := by
  simp only [receiveWindowUpdate, guard_eq_error] at h
  rcases h with ⟨hzero, -⟩ | ⟨-, h⟩
  · exact .inl hzero
  by_cases hk : k = 0
  · simp only [if_pos hk, bind_eq_error, pure_eq_error, and_false, exists_false, or_false] at h
    exact .inr (.inl ⟨hk, checkedCreditAdd_eq_error (by decide) h⟩)
  · simp only [if_neg hk, bind_eq_error, pure_eq_error, and_false, exists_false, or_false] at h
    rcases h with h | ⟨stream, hs, h⟩
    · exact .inr (.inr (.inl (streamMut_eq_error h)))
    · exact .inr (.inr (.inr ⟨stream, (streamMut_eq_ok.mp hs).2, hk,
        checkedCreditAdd_eq_error (by decide) h⟩))

lemma grantReceiveCredit_eq_ok (h : flow.grantReceiveCredit k credit now = .ok flow') :
    (k = 0 ∧ flow.connectionReceiveWindow + credit.toNat ≤ maxConnectionWindow ∧
      flow' = { flow with
        connectionReceiveWindow := flow.connectionReceiveWindow + credit.toNat }) ∨
    ∃ stream, flow.streams.lookup k = some stream ∧ (k ≠ 0 ∧ k &&& 1 ≠ 0) ∧
      stream.receiveWindow + credit.toNat ≤ maxStreamWindow ∧
      flow' = flow.putStream k { stream with
        receiveWindow := stream.receiveWindow + credit.toNat
        lastActivity := now } := by
  simp only [grantReceiveCredit, guard_eq_ok] at h
  obtain ⟨-, h⟩ := h
  by_cases hk : k = 0
  · simp only [if_pos hk, bind_eq_ok, pure_eq_ok, checkedCreditAdd_eq_ok] at h
    obtain ⟨_, ⟨-, hle, rfl⟩, rfl⟩ := h
    exact .inl ⟨hk, hle, rfl⟩
  · simp only [if_neg hk, bind_eq_ok, pure_eq_ok, checkedCreditAdd_eq_ok, streamMut_eq_ok] at h
    obtain ⟨stream, ⟨hv, hs⟩, _, ⟨-, hle, rfl⟩, rfl⟩ := h
    exact .inr ⟨stream, hs, hv, hle, rfl⟩

lemma localHalfClose_eq_ok (h : flow.localHalfClose k now = .ok flow') :
    ∃ stream, flow.streams.lookup k = some stream ∧ stream.phase = .open ∧
      stream.localHalfClosed = false ∧ (k ≠ 0 ∧ k &&& 1 ≠ 0) ∧
      flow' = flow.putStream k { stream with localHalfClosed := true, lastActivity := now } := by
  simp only [localHalfClose, guard_eq_ok, bind_eq_ok, pure_eq_ok, not_or, not_not,
    Bool.not_eq_true] at h
  obtain ⟨stream, hs, ⟨hp, hhalf⟩, rfl⟩ := h
  obtain ⟨hk, hs⟩ := streamMut_eq_ok.mp hs
  exact ⟨stream, hs, hp, hhalf, hk, rfl⟩

lemma receiveHalfClose_eq_ok (h : flow.receiveHalfClose k now = .ok flow') :
    ∃ stream, flow.streams.lookup k = some stream ∧ stream.phase = .open ∧
      stream.remoteHalfClosed = false ∧ (k ≠ 0 ∧ k &&& 1 ≠ 0) ∧
      flow' = flow.putStream k { stream with remoteHalfClosed := true, lastActivity := now } := by
  simp only [receiveHalfClose, guard_eq_ok, bind_eq_ok, pure_eq_ok, not_or, not_not,
    Bool.not_eq_true] at h
  obtain ⟨stream, hs, ⟨hp, hhalf⟩, rfl⟩ := h
  obtain ⟨hk, hs⟩ := streamMut_eq_ok.mp hs
  exact ⟨stream, hs, hp, hhalf, hk, rfl⟩

end FlowController

end OnionRoute.GatewayProtocol
