import OnionRoute.GatewayProtocol.Limits

/-! The byte quota of an entry relay. Both directions run in one task, so polls never overlap. -/

namespace OnionRoute.GatewayMultihop

open Library

/-- What an inner writer answers to a write of `offered`. -/
inductive InnerPoll (offered : Bytes)
  | pending
  | ready (written : Fin (offered.length + 1))
  | failed

inductive WritePoll
  | pending
  | ready (written : ℕ)
  | failed
  | permissionDenied

def WritePoll.written : WritePoll → ℕ
  | .ready written => written
  | _ => 0

/-- `QuotaWriter::poll_write`; returned with the poll is the counter it leaves behind. -/
def pollWrite (inner : ∀ offered, InnerPoll offered) (buffer : Bytes) (remaining : UInt64) :
    WritePoll × UInt64 :=
  if remaining = 0 then (.permissionDenied, remaining) else
  let reserved := min remaining (UInt64.ofNat buffer.length)
  let remaining := remaining - reserved
  match inner (buffer.take reserved.toNat) with
  | .pending => (.pending, remaining + reserved)
  | .ready written => (.ready written, remaining + UInt64.ofNat (reserved.toNat - written))
  | .failed => (.failed, remaining + reserved)

inductive Direction
  | toExit
  | toClient
  deriving DecidableEq

structure RelayPoll where
  direction : Direction
  buffer : Bytes
  inner : ∀ offered, InnerPoll offered

structure Relay where
  remaining : UInt64
  relayed : Direction → Bytes

namespace Relay

def start (maximumRelayBytes : UInt64) : Relay := ⟨maximumRelayBytes, fun _ => []⟩

def poll (relay : Relay) (p : RelayPoll) : Relay :=
  let (result, remaining) := pollWrite p.inner p.buffer relay.remaining
  { remaining
    relayed := Function.update relay.relayed p.direction
      (relay.relayed p.direction ++ p.buffer.take result.written) }

def writtenTotal (relay : Relay) : ℕ :=
  (relay.relayed .toExit).length + (relay.relayed .toClient).length

end Relay

section PollWrite

variable (inner : ∀ offered, InnerPoll offered) (buffer : Bytes) (remaining : UInt64)

lemma toNat_reserved_le : (min remaining (UInt64.ofNat buffer.length)).toNat ≤ remaining.toNat ∧
    (min remaining (UInt64.ofNat buffer.length)).toNat ≤ buffer.length := by
  have hlen : (UInt64.ofNat buffer.length).toNat ≤ buffer.length := by
    simpa using Nat.mod_le _ _
  change (if _ then _ else _ : UInt64).toNat ≤ _ ∧ (if _ then _ else _ : UInt64).toNat ≤ _
  split <;> rename_i h <;> rw [UInt64.le_iff_toNat_le] at h <;> omega

variable {remaining}

lemma toNat_refunded {reserved refund : UInt64} (h : reserved.toNat ≤ remaining.toNat)
    (hr : refund.toNat ≤ reserved.toNat) :
    (remaining - reserved + refund).toNat = remaining.toNat - reserved.toNat + refund.toNat := by
  have hlt := remaining.toNat_lt
  rw [UInt64.toNat_add, UInt64.toNat_sub_of_le _ _ (UInt64.le_iff_toNat_le.mpr h),
    Nat.mod_eq_of_lt (by omega)]

variable (remaining)

lemma pollWrite_conserves :
    (pollWrite inner buffer remaining).1.written ≤ buffer.length ∧
      (pollWrite inner buffer remaining).1.written + (pollWrite inner buffer remaining).2.toNat =
        remaining.toNat := by
  unfold pollWrite
  split
  · exact ⟨Nat.zero_le _, Nat.zero_add _⟩
  obtain ⟨hle, hb⟩ := toNat_reserved_le buffer remaining
  generalize min remaining (UInt64.ofNat buffer.length) = reserved at hb hle
  have whole := toNat_refunded hle (le_refl reserved.toNat)
  dsimp only
  split
  case h_1 => exact ⟨Nat.zero_le _, by simp only [WritePoll.written, whole]; omega⟩
  case h_2 written _ =>
    have hw : (written : ℕ) ≤ reserved.toNat :=
      (Nat.le_of_lt_succ written.isLt).trans (List.length_take_le _ _)
    have hrest : (UInt64.ofNat (reserved.toNat - written)).toNat = reserved.toNat - written :=
      UInt64.toNat_ofNat_of_lt' (by have := reserved.toNat_lt; simp only [UInt64.size]; omega)
    have unwritten := toNat_refunded hle (hrest ▸ Nat.sub_le _ _)
    simp only [WritePoll.written, unwritten, hrest]
    omega
  case h_3 => exact ⟨Nat.zero_le _, by simp only [WritePoll.written, whole]; omega⟩

end PollWrite

lemma Relay.poll_conserves (relay : Relay) (p : RelayPoll) :
    (relay.poll p).writtenTotal + (relay.poll p).remaining.toNat =
      relay.writtenTotal + relay.remaining.toNat := by
  obtain ⟨hle, hsum⟩ := pollWrite_conserves p.inner p.buffer relay.remaining
  cases hd : p.direction <;>
    simp [Relay.poll, writtenTotal, hd, Nat.min_eq_left hle] <;> omega

end OnionRoute.GatewayMultihop
