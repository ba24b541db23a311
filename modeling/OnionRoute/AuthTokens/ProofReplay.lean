import OnionRoute.AuthTokens.SessionLimit

/-! Which redemptions are accepted again: the store forgets one when its lease is released. -/

namespace OnionRoute.AuthTokens

open Library InMemoryTokenStore Sample

structure Redemption where
  tokenId : TokenId
  gatewayBinding : Vector UInt8 32
  challenge : Vector UInt8 32
  deriving DecidableEq

structure Ledger where
  store : InMemoryTokenStore
  clock : Int64
  accepted : List (Redemption × VerifiedCapability)
  released : List SessionLease

def redeemed {ε σ : Type} (request : VerificationRequest) :
    EStateM.Result ε σ VerifiedCapability → List (Redemption × VerifiedCapability)
  | .ok capability _ =>
    [(⟨capability.lease.tokenId, request.gatewayBinding, request.challenge⟩, capability)]
  | .error _ _ => []

namespace Ledger

def start (clock : Int64) : Ledger := ⟨.default, clock, [], []⟩

-- A capability can be copied, and so be released more than once.
inductive Step (verifier : LocalTokenVerifier) : Ledger → Operation → Ledger → Prop
  | verify {s : Ledger} {revocations : RevocationProvider} {request : VerificationRequest}
      (htime : s.clock ≤ request.now) :
      Step verifier s (.verify revocations request)
        { store := finalState (verifier.verify revocations request) s.store
          clock := request.now
          accepted := redeemed request (verifier.verify revocations request s.store) ++ s.accepted
          released := s.released }
  | release {s : Ledger} {capability : VerifiedCapability}
      (hgiven : capability ∈ s.accepted.map Prod.snd) :
      Step verifier s (.release capability)
        { s with
          store := finalState (LocalTokenVerifier.release capability) s.store
          released := capability.lease :: s.released }

variable {verifier : LocalTokenVerifier} {s t : Ledger} {op : Operation}
  {expiry : TokenId → Int64}

lemma redeemed_eq {ε σ : Type} (request : VerificationRequest)
    (r : EStateM.Result ε σ VerifiedCapability) : redeemed request r = ((given r).map fun capability =>
      (⟨capability.lease.tokenId, request.gatewayBinding, request.challenge⟩, capability)).toList := by
  cases r <;> rfl

def leaseOf (verifier : LocalTokenVerifier) (r : Redemption) : SessionLease where
  tokenId := r.tokenId
  sessionId := verifier.crypto.sha256 (GatewayProtocol.utf8Bytes "onionroute-session-lease-v1\x00" ++
    r.tokenId.bytes.toList ++ r.gatewayBinding.toList ++ r.challenge.toList)

lemma leaseOf_presented (claims : CapabilityClaims) (request : VerificationRequest) :
    leaseOf verifier ⟨claims.tokenId, request.gatewayBinding, request.challenge⟩ =
      ⟨claims.tokenId, verifier.sessionIdOf claims request⟩ := rfl

def Expires (verifier : LocalTokenVerifier) (expiry : TokenId → Int64) : Operation → Prop
  | .verify revocations request => ∀ claims,
    verifier.authenticate revocations request = .ok claims →
      claims.expiresAt = expiry claims.tokenId
  | .release _ => True

def Fresh (verifier : LocalTokenVerifier) (s : Ledger) : Operation → Prop
  | .verify revocations request => ∀ claims,
    verifier.authenticate revocations request = .ok claims →
      leaseOf verifier ⟨claims.tokenId, request.gatewayBinding, request.challenge⟩ ∉ s.released
  | .release _ => True

def FreshStep (verifier : LocalTokenVerifier) (s : Ledger) (op : Operation) (t : Ledger) : Prop :=
  Step verifier s op t ∧ Fresh verifier s op

structure Sound (verifier : LocalTokenVerifier) (expiry : TokenId → Int64) (s : Ledger) : Prop where
  lock : s.store.poisoned = false
  lease : ∀ a ∈ s.accepted, a.2.lease = leaseOf verifier a.1
  expires : ∀ {id entry}, s.store.entries.lookup id = some entry → entry.expiresAt = expiry id
  held : ∀ a ∈ s.accepted, s.clock < expiry a.1.tokenId → a.2.lease ∉ s.released →
    a.2.lease.sessionId ∈ s.store.slots a.1.tokenId
  nodup : (s.accepted.map Prod.fst).Nodup

lemma sound_start (clock : Int64) : Sound verifier expiry (start clock) where
  lock := rfl
  lease := by simp [start]
  expires h := by cases h
  held := by simp [start]
  nodup := List.nodup_nil

lemma Sound.keeps (h : Sound verifier expiry s) {id : TokenId} {now : Int64}
    (hlive : now < expiry id) : s.store.Keeps id now := by
  intro entry hentry
  rwa [h.expires hentry]

variable {request : VerificationRequest} {claims : CapabilityClaims}

lemma lt_expiresAt_of_authenticate {revocations : RevocationProvider}
    (h : verifier.authenticate revocations request = .ok claims) :
    request.now < claims.expiresAt := by
  simp only [LocalTokenVerifier.authenticate, bind_eq_ok, guard_eq_ok] at h
  obtain ⟨decoded, -, -, hlive, h⟩ := h
  obtain rfl : decoded.claims = claims := by
    cases hkey : verifier.keys.lookup decoded.claims.issuerKeyId with
    | none => simp [hkey, throw_eq_ok] at h
    | some key =>
      simp only [hkey, bind_eq_ok, guard_eq_ok, pure_eq_ok] at h
      obtain ⟨-, _, -, _, -, -, -, _, -, h⟩ := h
      exact h
  exact Int64.not_le.mp hlive

variable {store : InMemoryTokenStore} {result : Option SessionLease}

lemma expires_of_reserve {r : TokenReservation} {store' : InMemoryTokenStore}
    (hstore : InMemoryTokenStore.Reserve r store result store')
    (hexpires : ∀ {id entry}, store.entries.lookup id = some entry → entry.expiresAt = expiry id)
    (hexpiry : r.expiresAt = expiry r.tokenId) {id : TokenId} {entry : TokenSessions}
    (hentry : store'.entries.lookup id = some entry) : entry.expiresAt = expiry id := by
  obtain ⟨sessions, rfl⟩ : ∃ sessions, store' = store.reserved r sessions := by
    cases hstore with
    | refused => exact ⟨_, rfl⟩
    | granted => exact ⟨_, rfl⟩
  by_cases hid : id = r.tokenId
  · subst hid
    rw [lookup_reserved_self] at hentry
    have hfound := found_expiresAt (r := r) fun entry hentry =>
      (hexpires hentry).trans hexpiry.symm
    rw [← Option.some.inj hentry, hfound, ← hexpiry]
    exact ite_self _
  · have hold : (store.pruned r.now).lookup id = some entry := by
      rwa [reserved, Table.lookup_insert_of_ne _ hid] at hentry
    exact hexpires (Table.lookup_retain_eq_some.mp hold).1

lemma Sound.reserved (h : Sound verifier expiry s)
    (htime : s.clock ≤ request.now) (hexpiry : claims.expiresAt = expiry claims.tokenId)
    (hstore : InMemoryTokenStore.Reserve (verifier.reservationOf claims request) s.store result
      store) :
    Sound verifier expiry { s with store := store, clock := request.now } where
  lock := by cases hstore <;> exact h.lock
  lease := h.lease
  expires hentry := expires_of_reserve hstore h.expires hexpiry hentry
  held := by
    intro a ha hlive hkept
    have hbefore := Int64.lt_of_le_of_lt htime hlive
    exact hstore.slots_subset (h.keeps hlive) (h.held a ha hbefore hkept)
  nodup := h.nodup

variable {lease : SessionLease}

section

variable (h : Sound verifier expiry s)
include h

lemma Sound.not_accepted
    (htime : s.clock ≤ request.now) (hlive : request.now < expiry claims.tokenId)
    (hfresh : leaseOf verifier ⟨claims.tokenId, request.gatewayBinding, request.challenge⟩ ∉
      s.released)
    (hstore : InMemoryTokenStore.Reserve (verifier.reservationOf claims request) s.store
      (some lease) store) :
    ⟨claims.tokenId, request.gatewayBinding, request.challenge⟩ ∉ s.accepted.map Prod.fst := by
  intro hmem
  obtain ⟨⟨r, capability⟩, ha, rfl⟩ := List.mem_map.mp hmem
  have hlease : capability.lease = _ := h.lease _ ha
  have hheld := h.held _ ha (Int64.lt_of_le_of_lt htime hlive) (by rwa [hlease])
  have hkeeps : s.store.Keeps claims.tokenId request.now := h.keeps hlive
  have hfound := found_sessions (r := verifier.reservationOf claims request) hkeeps
  rw [hlease, leaseOf_presented] at hheld
  cases hstore with
  | granted hnew hroom => exact hnew (hfound ▸ hheld)

lemma Sound.released (hstore : InMemoryTokenStore.Release lease s.store store) :
    Sound verifier expiry { s with store := store, released := lease :: s.released } where
  lock := hstore.poisoned.trans h.lock
  lease := h.lease
  expires := by
    intro id entry hentry
    by_cases hid : id = lease.tokenId
    · subst hid
      obtain ⟨entry', hentry', heq⟩ := hstore.expiry entry hentry
      exact heq.trans (h.expires hentry')
    · exact h.expires ((hstore.others id hid).symm.trans hentry)
  held := by
    intro a ha hlive hkept
    rw [List.mem_cons, not_or] at hkept
    obtain ⟨hne, hkept⟩ := hkept
    have hheld := h.held a ha hlive hkept
    have hid : a.2.lease.tokenId = a.1.tokenId := by rw [h.lease a ha, leaseOf]
    by_cases hsame : a.1.tokenId = lease.tokenId
    · rw [hsame] at hheld ⊢
      refine hstore.own ▸ Finset.mem_erase.mpr ⟨?_, hheld⟩
      intro hsession
      exact hne (SessionLease.ext (hid.trans hsame) hsession)
    · rwa [slots, hstore.others _ hsame, ← slots]
  nodup := h.nodup

lemma Sound.step (hstep : Step verifier s op t) (hexpires : Expires verifier expiry op)
    (hfresh : Fresh verifier s op) : Sound verifier expiry t := by
  cases hstep with
  | @verify revocations request htime =>
    have hchange := change_verify verifier revocations request h.lock
    rw [redeemed_eq]
    generalize given (verifier.verify revocations request s.store) = result at hchange
    generalize finalState (verifier.verify revocations request) s.store = store at hchange
    cases hchange with
    | rejected =>
      exact { h with held := fun a ha hlive => h.held a ha (Int64.lt_of_le_of_lt htime hlive) }
    | refused hclaims hstore => exact h.reserved htime (hexpires _ hclaims) hstore
    | @granted _ _ claims _ hclaims hstore =>
      have hexpiry := hexpires claims hclaims
      have hlive : request.now < expiry claims.tokenId :=
        hexpiry ▸ lt_expiresAt_of_authenticate hclaims
      have hold := h.reserved htime hexpiry hstore
      refine { hold with lease := ?_, held := ?_, nodup := ?_ }
      · exact List.forall_mem_cons.mpr ⟨(leaseOf_presented claims request).symm, h.lease⟩
      · refine List.forall_mem_cons.mpr ⟨?_, hold.held⟩
        intro _ _
        cases hstore with
        | granted hnew hroom =>
          have hslots := @slots_reserved_self s.store
            (verifier.reservationOf claims request)
          exact (hslots _).symm ▸ Finset.mem_insert_self _ _
      · exact List.nodup_cons.mpr
          ⟨h.not_accepted htime hlive (hfresh claims hclaims) hstore, h.nodup⟩
  | @release capability hgiven =>
    have hchange := change_release verifier capability h.lock
    generalize finalState (LocalTokenVerifier.release capability) s.store = store at hchange
    cases hchange with
    | released hstore => exact h.released hstore

end

lemma sound_run {clock : Int64} {ops : List Operation}
    (h : Trace (FreshStep verifier) (start clock) ops s)
    (hexpires : ∀ op ∈ ops, Expires verifier expiry op) : Sound verifier expiry s := by
  induction h with
  | nil => exact sound_start clock
  | snoc _ hstep ih =>
    have hsound := ih fun op hop => hexpires op (List.mem_append_left _ hop)
    exact hsound.step hstep.1 (hexpires _ (by simp)) hstep.2

/-- In a run that presents no redemption after its lease was released, and in which each token has
one expiry, no redemption is accepted twice. -/
theorem redemption_accepted_once {clock : Int64} {ops : List Operation}
    (expiry : TokenId → Int64)
    (hrun : Trace (FreshStep verifier) (start clock) ops s)
    (hexpires : ∀ op ∈ ops, Expires verifier expiry op) :
    (s.accepted.map Prod.fst).Nodup :=
  (sound_run hrun hexpires).nodup

end Ledger

namespace Sample

def capability : VerifiedCapability := ⟨claims.policy, claims.expiresAt, claims.tokenId, sessionId⟩

def held : InMemoryTokenStore :=
  ⟨AList.singleton claims.tokenId ⟨claims.expiresAt, {sessionId}⟩, false⟩

lemma verify_request : verifier.verify revocations request .default = .ok capability held := by
  have hsession : verifier.sessionIdOf claims request = sessionId := by
    simp only [LocalTokenVerifier.sessionIdOf, verifier, crypto, request, if_true]
  rw [verify_authenticated authenticate_request, LocalTokenVerifier.reservationOf, hsession]
  rfl

lemma release_capability : LocalTokenVerifier.release capability held = .ok () .default := by
  rfl

end Sample

open Ledger Sample in
theorem redemption_accepted_again : ∃ s : Ledger,
    Trace (Step verifier) (start 1767225600)
      [.verify revocations request, .release capability,
        .verify revocations request] s ∧
    s.accepted.map Prod.fst =
      [⟨claims.tokenId, gatewayBinding, challenge⟩,
        ⟨claims.tokenId, gatewayBinding, challenge⟩] := by
  have hverify : ∀ clock accepted released, clock ≤ 1767225700 →
      Step verifier ⟨.default, clock, accepted, released⟩
        (.verify revocations request)
        ⟨held, 1767225700, (⟨claims.tokenId, gatewayBinding,
          challenge⟩, capability) :: accepted, released⟩ := by
    intro clock accepted released hclock
    have hstep : Step verifier ⟨.default, clock, accepted, released⟩
      (.verify revocations request) _ := .verify hclock
    rw [finalState, verify_request] at hstep
    exact hstep
  have hrelease : ∀ clock accepted released, capability ∈ accepted.map Prod.snd →
      Step verifier ⟨held, clock, accepted, released⟩ (.release capability)
        ⟨.default, clock, accepted, capability.lease :: released⟩ := by
    intro clock accepted released hgiven
    have hstep : Step verifier ⟨held, clock, accepted, released⟩
      (.release capability) _ := .release hgiven
    rw [finalState, release_capability] at hstep
    exact hstep
  refine ⟨_, .cons (hverify _ _ _ (by decide)) (.cons (hrelease _ _ _ (by simp))
    (.single (hverify _ _ _ (by decide)))), rfl⟩

open Ledger Sample in
theorem redemption_accepted_once_sample : ∃ s : Ledger,
    Trace (FreshStep verifier) (start 1767225600)
      [.verify revocations request] s ∧
    s.accepted.length = 1 ∧ (s.accepted.map Prod.fst).Nodup := by
  have hstep : Step verifier (start 1767225600)
      (.verify revocations request) _ := .verify (by decide)
  have hfresh : FreshStep verifier (start 1767225600)
      (.verify revocations request) _ := ⟨hstep, fun _ _ => List.not_mem_nil⟩
  have hrun := Trace.single hfresh
  refine ⟨_, hrun, ?_, redemption_accepted_once (fun _ => claims.expiresAt) hrun ?_⟩
  · rw [start, verify_request]
    rfl
  · intro op hop
    obtain rfl := List.mem_singleton.mp hop
    intro claims hclaims
    rw [Except.ok.inj (authenticate_request.symm.trans hclaims)]

end OnionRoute.AuthTokens
