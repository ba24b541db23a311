import OnionRoute.AuthTokens.CodecBijection
import OnionRoute.AuthTokens.Verifier
import OnionRoute.Library.Trace

/-! The sessions of a token that is still valid are counted exactly, whatever happens to others. -/

namespace OnionRoute.AuthTokens

open Library LocalTokenVerifier

variable {result : Option SessionLease}

namespace InMemoryTokenStore

variable {store store' : InMemoryTokenStore} {r : TokenReservation} {id : TokenId}

def default : InMemoryTokenStore := ⟨∅, false⟩

def slots (store : InMemoryTokenStore) (id : TokenId) : Finset (Vector UInt8 32) :=
  (store.entries.lookup id).elim ∅ TokenSessions.sessions

def pruned (store : InMemoryTokenStore) (now : Int64) : Table TokenId TokenSessions :=
  Table.retain (fun _ state => state.expiresAt > now) store.entries

def found (store : InMemoryTokenStore) (r : TokenReservation) : TokenSessions :=
  ((store.pruned r.now).lookup r.tokenId).getD ⟨r.expiresAt, ∅⟩

def reserved (store : InMemoryTokenStore) (r : TokenReservation)
    (sessions : Finset (Vector UInt8 32)) : InMemoryTokenStore :=
  let entry := { expiresAt := min (store.found r).expiresAt r.expiresAt, sessions }
  { store with entries := (store.pruned r.now).insert r.tokenId entry }

inductive Reserve (r : TokenReservation) (store : InMemoryTokenStore) :
    Option SessionLease → InMemoryTokenStore → Prop
  | refused : Reserve r store none (store.reserved r (store.found r).sessions)
  | granted (hnew : r.sessionId ∉ (store.found r).sessions)
      (hroom : (store.found r).sessions.card < r.maxActiveSessions.toNat) :
      Reserve r store (some ⟨r.tokenId, r.sessionId⟩)
        (store.reserved r (insert r.sessionId (store.found r).sessions))

lemma reserve_ends (h : store.poisoned = false) :
    Ends (reserve r) store (fun lease store' => Reserve r store (some lease) store')
      (Reserve r store none) := by
  rw [reserve]
  refine Ends.get_bind (Ends.guard (fun hp => by simp [h] at hp) fun _ => ?_)
  have hset : Ends (set (store.reserved r (store.found r).sessions) :
      EStateM TokenStoreError InMemoryTokenStore PUnit) store
      (fun _ store' => store' = store.reserved r (store.found r).sessions)
      (Reserve r store none) := rfl
  refine Ends.bind hset ?_
  rintro _ _ rfl
  refine Ends.guard (fun _ => .refused) fun hnew => ?_
  refine Ends.guard (fun _ => .refused) fun hroom => ?_
  exact Reserve.granted hnew (not_le.mp hroom)

def Keeps (store : InMemoryTokenStore) (id : TokenId) (now : Int64) : Prop :=
  ∀ entry, store.entries.lookup id = some entry → now < entry.expiresAt

lemma lookup_pruned {now : Int64} (h : store.Keeps id now) :
    (store.pruned now).lookup id = store.entries.lookup id := by
  rw [pruned, Table.lookup_retain]
  cases hentry : store.entries.lookup id with
  | none => rfl
  | some entry => exact Option.filter_eq_some_iff.mpr ⟨rfl, decide_eq_true (h entry hentry)⟩

lemma found_sessions (h : store.Keeps r.tokenId r.now) :
    (store.found r).sessions = store.slots r.tokenId := by
  rw [found, lookup_pruned h, slots]
  cases store.entries.lookup r.tokenId <;> rfl

lemma found_expiresAt
    (h : ∀ entry, store.entries.lookup r.tokenId = some entry → entry.expiresAt = r.expiresAt) :
    (store.found r).expiresAt = r.expiresAt := by
  rw [found]
  cases hentry : (store.pruned r.now).lookup r.tokenId with
  | none => rfl
  | some entry => exact h entry (Table.lookup_retain_eq_some.mp hentry).1

lemma lookup_reserved_self (sessions : Finset (Vector UInt8 32)) :
    (store.reserved r sessions).entries.lookup r.tokenId =
      some ⟨min (store.found r).expiresAt r.expiresAt, sessions⟩ :=
  AList.lookup_insert _

lemma lookup_reserved_of_ne (hne : id ≠ r.tokenId) (h : store.Keeps id r.now)
    (sessions : Finset (Vector UInt8 32)) :
    (store.reserved r sessions).entries.lookup id = store.entries.lookup id :=
  (Table.lookup_insert_of_ne _ hne _).trans (lookup_pruned h)

lemma slots_reserved_self (sessions : Finset (Vector UInt8 32)) :
    (store.reserved r sessions).slots r.tokenId = sessions := by
  rw [slots, lookup_reserved_self]
  rfl

lemma slots_reserved_of_ne (hne : id ≠ r.tokenId) (h : store.Keeps id r.now)
    (sessions : Finset (Vector UInt8 32)) :
    (store.reserved r sessions).slots id = store.slots id := by
  rw [slots, lookup_reserved_of_ne hne h, slots]

lemma Reserve.slots_subset (h : Reserve r store result store')
    (hkeeps : store.Keeps id r.now) : store.slots id ⊆ store'.slots id := by
  by_cases hid : id = r.tokenId
  · subst hid
    cases h with
    | refused => rw [slots_reserved_self, found_sessions hkeeps]
    | granted hnew hroom =>
      rw [slots_reserved_self, found_sessions hkeeps]
      exact Finset.subset_insert _ _
  · cases h with
    | refused | granted hnew hroom => rw [slots_reserved_of_ne hid hkeeps]

structure Release (lease : SessionLease) (store store' : InMemoryTokenStore) : Prop where
  poisoned : store'.poisoned = store.poisoned
  own : store'.slots lease.tokenId = (store.slots lease.tokenId).erase lease.sessionId
  others : ∀ id, id ≠ lease.tokenId → store'.entries.lookup id = store.entries.lookup id
  expiry : ∀ entry, store'.entries.lookup lease.tokenId = some entry →
    ∃ entry', store.entries.lookup lease.tokenId = some entry' ∧
      entry.expiresAt = entry'.expiresAt

lemma release_ends (lease : SessionLease) (h : store.poisoned = false) :
    Ends (release lease) store (fun _ store' => Release lease store store') fun _ => False := by
  rw [release]
  refine Ends.get_bind (Ends.guard (fun hp => by simp [h] at hp) fun _ => ?_)
  cases hentry : store.entries.lookup lease.tokenId with
  | none =>
    refine Ends.of_pure ⟨rfl, ?_, fun _ _ => rfl, fun entry he => ⟨entry, he, rfl⟩⟩
    simp [slots, hentry]
  | some state =>
    by_cases hempty : state.sessions.erase lease.sessionId = ∅
    · simp only [hempty, if_true]
      refine ⟨rfl, ?_, fun id hne => Table.lookup_erase_of_ne _ hne, fun entry he => ?_⟩
      · simp [slots, hentry, hempty, AList.lookup_erase]
      · simp [AList.lookup_erase] at he
    · simp only [hempty, if_false]
      refine ⟨rfl, ?_, fun id hne => Table.lookup_insert_of_ne _ hne _, fun entry he => ?_⟩
      · simp [slots, hentry]
      · obtain rfl := Option.some.inj ((AList.lookup_insert _).symm.trans he)
        exact ⟨state, hentry, rfl⟩

end InMemoryTokenStore

open InMemoryTokenStore

structure Execution where
  store : InMemoryTokenStore
  clock : Int64
  leases : List SessionLease

inductive Operation
  | verify (revocations : RevocationProvider) (request : VerificationRequest)
  | release (capability : VerifiedCapability)

def given {ε σ : Type} : EStateM.Result ε σ VerifiedCapability → Option VerifiedCapability
  | .ok capability _ => some capability
  | .error _ _ => none

section Verify

variable {verifier : LocalTokenVerifier} {revocations : RevocationProvider}
  {request : VerificationRequest} {claims : CapabilityClaims}

def capabilityOf (claims : CapabilityClaims) :
    EStateM.Result TokenStoreError InMemoryTokenStore SessionLease →
      EStateM.Result TokenError InMemoryTokenStore VerifiedCapability
  | .ok lease store => .ok ⟨claims.policy, claims.expiresAt, lease⟩ store
  | .error e store => .error (mapStoreError e) store

lemma verify_authenticated (h : verifier.authenticate revocations request = .ok claims)
    (store : InMemoryTokenStore) : verifier.verify revocations request store =
      capabilityOf claims (reserve (verifier.reservationOf claims request)
        store) := by
  rw [verify, h]
  change EStateM.bind (EStateM.adaptExcept _ _) _ store = _
  rw [EStateM.bind, EStateM.adaptExcept]
  cases reserve (verifier.reservationOf claims request) store <;> rfl

lemma verify_rejected {e : TokenError} (h : verifier.authenticate revocations request = .error e)
    (store : InMemoryTokenStore) : verifier.verify revocations request store = .error e store := by
  rw [verify, h]
  rfl

lemma release_ok {capability : VerifiedCapability} {store store' : InMemoryTokenStore}
    (h : release capability.lease store = .ok () store') :
    release capability store = .ok () store' := by
  rw [LocalTokenVerifier.release, EStateM.adaptExcept, h]

/-- What an operation does to the store, and the capability it gives. -/
inductive Change (verifier : LocalTokenVerifier) (store : InMemoryTokenStore) :
    Operation → Option VerifiedCapability → InMemoryTokenStore → Prop
  | rejected {revocations : RevocationProvider} {request : VerificationRequest} :
      Change verifier store (.verify revocations request) none store
  | refused {revocations : RevocationProvider} {request : VerificationRequest}
      {claims : CapabilityClaims} {store' : InMemoryTokenStore}
      (hclaims : verifier.authenticate revocations request = .ok claims)
      (hstore : Reserve (verifier.reservationOf claims request) store none
        store') :
      Change verifier store (.verify revocations request) none store'
  | granted {revocations : RevocationProvider} {request : VerificationRequest}
      {claims : CapabilityClaims} {store' : InMemoryTokenStore}
      (hclaims : verifier.authenticate revocations request = .ok claims)
      (hstore : Reserve (verifier.reservationOf claims request) store
        (some ⟨claims.tokenId, verifier.sessionIdOf claims request⟩) store') :
      Change verifier store (.verify revocations request)
        (some ⟨claims.policy, claims.expiresAt, claims.tokenId,
          verifier.sessionIdOf claims request⟩) store'
  | released {capability : VerifiedCapability} {store' : InMemoryTokenStore}
      (hstore : Release capability.lease store store') :
      Change verifier store (.release capability) none store'

variable {store store' : InMemoryTokenStore} {op : Operation}
  {capability : VerifiedCapability} {result : Option VerifiedCapability}

lemma change_verify (verifier : LocalTokenVerifier) (revocations : RevocationProvider)
    (request : VerificationRequest) (hlock : store.poisoned = false) :
    Change verifier store (.verify revocations request)
      (given (verifier.verify revocations request store))
      (finalState (verifier.verify revocations request) store) := by
  cases hclaims : verifier.authenticate revocations request with
  | error e =>
    rw [finalState, verify_rejected hclaims]
    exact .rejected
  | ok claims =>
    have hends := reserve_ends (r := verifier.reservationOf claims request) hlock
    rw [Ends] at hends
    rw [finalState, verify_authenticated hclaims]
    cases hrun : reserve (verifier.reservationOf claims request) store with
    | ok lease store' =>
      rw [hrun] at hends
      obtain rfl : lease = ⟨claims.tokenId, verifier.sessionIdOf claims request⟩ := by
        cases hends
        rfl
      exact .granted hclaims hends
    | error e store' =>
      rw [hrun] at hends
      exact .refused hclaims hends

lemma change_release (verifier : LocalTokenVerifier) (capability : VerifiedCapability)
    (hlock : store.poisoned = false) :
    Change verifier store (.release capability) none (finalState (release capability) store) := by
  obtain ⟨_, store', hrun, hstore⟩ :=
    (release_ends capability.lease hlock).exists_ok
  rw [finalState, release_ok hrun]
  exact .released hstore

lemma Change.poisoned (h : Change verifier store op result store')
    (hlock : store.poisoned = false) : store'.poisoned = false := by
  cases h with
  | rejected => exact hlock
  | refused _ hstore | granted _ hstore => cases hstore; all_goals exact hlock
  | released hstore => exact hstore.poisoned.trans hlock

def Releases (id : TokenId) : Operation → Prop
  | .verify _ _ => False
  | .release capability => capability.lease.tokenId = id

lemma Change.slots_subset {id : TokenId} (h : Change verifier store op result store')
    (hrelease : ¬ Releases id op) (hkeeps : ∀ revocations request,
      op = .verify revocations request → store.Keeps id request.now) :
    store.slots id ⊆ store'.slots id := by
  cases h with
  | rejected => exact Finset.Subset.refl _
  | refused _ hstore | granted _ hstore => exact hstore.slots_subset (hkeeps _ _ rfl)
  | released hstore =>
    rw [slots, slots, hstore.others _ (Ne.symm hrelease)]

end Verify

namespace Execution

variable {verifier : LocalTokenVerifier} {s t : Execution} {op : Operation}
  {token : CapabilityClaims} {id : TokenId}

def start (clock : Int64) : Execution := ⟨.default, clock, []⟩

inductive Step (verifier : LocalTokenVerifier) : Execution → Operation → Execution → Prop
  | verify {s : Execution} {revocations : RevocationProvider} {request : VerificationRequest}
      (htime : s.clock ≤ request.now) :
      Step verifier s (.verify revocations request)
        { store := finalState (verifier.verify revocations request) s.store
          clock := request.now
          leases := ((given (verifier.verify revocations request s.store)).map
            VerifiedCapability.lease).toList ++ s.leases }
  | release {s : Execution} {capability : VerifiedCapability}
      (hout : capability.lease ∈ s.leases) :
      Step verifier s (.release capability)
        { store := finalState (LocalTokenVerifier.release capability) s.store
          clock := s.clock
          leases := s.leases.erase capability.lease }

def leasesOf (s : Execution) (id : TokenId) : List SessionLease :=
  s.leases.filter fun lease => lease.tokenId = id

structure Counted (token : CapabilityClaims) (s : Execution) : Prop where
  nodup : (s.leasesOf token.tokenId).Nodup
  slots : ∀ session, ⟨token.tokenId, session⟩ ∈ s.leases ↔ session ∈ s.store.slots token.tokenId
  limit : (s.store.slots token.tokenId).card ≤
    token.policy.connectionLimits.maxActiveSessions.toNat
  expiry : ∀ entry, s.store.entries.lookup token.tokenId = some entry →
    entry.expiresAt = token.expiresAt

lemma mem_leasesOf {lease : SessionLease} :
    lease ∈ s.leasesOf id ↔ lease ∈ s.leases ∧ lease.tokenId = id := by
  simp [leasesOf]

lemma Counted.keeps (h : Counted token s) {now : Int64} (hlive : now < token.expiresAt) :
    s.store.Keeps token.tokenId now := by
  intro entry hentry
  rwa [h.expiry entry hentry]

lemma Counted.length (h : Counted token s) :
    (s.leasesOf token.tokenId).length = (s.store.slots token.tokenId).card := by
  rw [← List.toFinset_card_of_nodup h.nodup]
  refine Finset.card_bij' (fun lease _ => lease.sessionId)
    (fun session _ => ⟨token.tokenId, session⟩) ?_ ?_ ?_ ?_
  · intro lease hlease
    obtain ⟨hout, hid⟩ := mem_leasesOf.mp (List.mem_toFinset.mp hlease)
    exact (h.slots _).mp (hid ▸ hout)
  · intro session hsession
    exact List.mem_toFinset.mpr (mem_leasesOf.mpr ⟨(h.slots session).mpr hsession, rfl⟩)
  · intro lease hlease
    obtain ⟨-, hid⟩ := mem_leasesOf.mp (List.mem_toFinset.mp hlease)
    rw [← hid]
  · intro session _
    rfl

lemma Counted.of_same (h : Counted token s)
    (hleases : t.leasesOf token.tokenId = s.leasesOf token.tokenId)
    (hlookup : t.store.entries.lookup token.tokenId = s.store.entries.lookup token.tokenId) :
    Counted token t := by
  have hslots : t.store.slots token.tokenId = s.store.slots token.tokenId := by
    rw [InMemoryTokenStore.slots, hlookup, InMemoryTokenStore.slots]
  have hout : ∀ session, ⟨token.tokenId, session⟩ ∈ t.leases ↔
      ⟨token.tokenId, session⟩ ∈ s.leases := by
    intro session
    have hmem := @mem_leasesOf t token.tokenId ⟨token.tokenId, session⟩
    rw [hleases, mem_leasesOf] at hmem
    simpa using hmem.symm
  refine ⟨hleases ▸ h.nodup, fun session => ?_, hslots ▸ h.limit, hlookup ▸ h.expiry⟩
  rw [hout, hslots, h.slots]

variable {store : InMemoryTokenStore}

lemma Counted.reserved_other (h : Counted token s) {r : TokenReservation}
    (hlive : r.now < token.expiresAt) (hid : token.tokenId ≠ r.tokenId)
    (hstore : Reserve r s.store result store) :
    Counted token ⟨store, r.now, result.toList ++ s.leases⟩ := by
  have hkeeps := h.keeps hlive
  cases hstore with
  | refused => exact h.of_same rfl (lookup_reserved_of_ne hid hkeeps _)
  | granted hnew hroom =>
    refine h.of_same ?_ (lookup_reserved_of_ne hid hkeeps _)
    simp [leasesOf, hid.symm]

lemma Counted.reserved_own (h : Counted token s) {r : TokenReservation}
    (hlive : r.now < token.expiresAt)
    (hid : token.tokenId = r.tokenId) (hexpiry : r.expiresAt = token.expiresAt)
    (hlimit : r.maxActiveSessions = token.policy.connectionLimits.maxActiveSessions)
    (hstore : Reserve r s.store result store) :
    Counted token ⟨store, r.now, result.toList ++ s.leases⟩ := by
  have hkeeps : s.store.Keeps r.tokenId r.now := hid ▸ h.keeps hlive
  have hfound : (s.store.found r).sessions = s.store.slots token.tokenId := by
    rw [found_sessions hkeeps, hid]
  have hslots : ∀ sessions, (s.store.reserved r sessions).slots token.tokenId = sessions := by
    intro sessions
    rw [hid, slots_reserved_self]
  have hmin : min (s.store.found r).expiresAt r.expiresAt = token.expiresAt := by
    rw [found_expiresAt fun entry hentry =>
      (h.expiry entry (hid ▸ hentry)).trans hexpiry.symm, hexpiry]
    exact ite_self _
  have hentry : ∀ sessions entry,
      (s.store.reserved r sessions).entries.lookup token.tokenId = some entry →
        entry.expiresAt = token.expiresAt := by
    intro sessions entry he
    rw [hid, lookup_reserved_self] at he
    obtain rfl := Option.some.inj he
    exact hmin
  cases hstore with
  | refused =>
    refine ⟨h.nodup, fun session => ?_, ?_, hentry _⟩
    · rw [hslots, hfound]
      exact h.slots session
    · rw [hslots, hfound]
      exact h.limit
  | granted hnew hroom =>
    rw [hfound] at hnew hroom
    have hfresh : ⟨r.tokenId, r.sessionId⟩ ∉ s.leasesOf token.tokenId := by
      intro hmem
      exact hnew ((h.slots _).mp (hid ▸ (mem_leasesOf.mp hmem).1))
    have hleases : ∀ store clock,
        leasesOf ⟨store, clock, ⟨r.tokenId, r.sessionId⟩ :: s.leases⟩ token.tokenId =
          ⟨r.tokenId, r.sessionId⟩ :: s.leasesOf token.tokenId := by
      intro store clock
      simp [leasesOf, hid]
    refine ⟨?_, fun session => ?_, ?_, hentry _⟩
    · exact (hleases _ _).symm ▸ List.nodup_cons.mpr ⟨hfresh, h.nodup⟩
    · rw [hslots, hfound, Finset.mem_insert, ← h.slots]
      simp [hid]
    · rw [hslots, hfound, Finset.card_insert_of_notMem hnew, ← hlimit]
      exact hroom

lemma leasesOf_erase (store : InMemoryTokenStore) (clock : Int64) (lease : SessionLease) :
    leasesOf ⟨store, clock, s.leases.erase lease⟩ id = (s.leasesOf id).erase lease :=
  List.erase_filter.symm

lemma Counted.released (h : Counted token s) {lease : SessionLease}
    (hstore : Release lease s.store store) :
    Counted token ⟨store, s.clock, s.leases.erase lease⟩ := by
  by_cases hid : token.tokenId = lease.tokenId
  · have hslots : store.slots token.tokenId =
        (s.store.slots token.tokenId).erase lease.sessionId := by
      rw [hid, hstore.own]
    refine ⟨?_, fun session => ?_, ?_, fun entry hentry => ?_⟩
    · rw [leasesOf_erase]
      exact h.nodup.erase lease
    · have hmem := @mem_leasesOf ⟨store, s.clock, s.leases.erase lease⟩ token.tokenId
        ⟨token.tokenId, session⟩
      rw [leasesOf_erase, h.nodup.mem_erase_iff, mem_leasesOf] at hmem
      rw [hslots, Finset.mem_erase, ← h.slots]
      obtain ⟨tokenId, sessionId⟩ := lease
      simpa [hid] using hmem.symm
    · rw [hslots]
      exact (Finset.card_erase_le).trans h.limit
    · rw [hid] at hentry
      obtain ⟨entry', hentry', hsame⟩ := hstore.expiry entry hentry
      rw [hsame, h.expiry entry' (hid ▸ hentry')]
  · refine h.of_same ?_ (hstore.others _ hid)
    rw [leasesOf_erase, List.erase_of_not_mem]
    exact fun hmem => hid (mem_leasesOf.mp hmem).2.symm

lemma Step.change (h : Step verifier s op t) (hlock : s.store.poisoned = false) :
    ∃ result, Change verifier s.store op result t.store := by
  cases h with
  | verify => exact ⟨_, change_verify verifier _ _ hlock⟩
  | release => exact ⟨_, change_release verifier _ hlock⟩

lemma Step.clock_le (h : Step verifier s op t) : s.clock ≤ t.clock := by
  cases h with
  | verify htime => exact htime
  | release => exact Int64.le_refl _

def Identifies (verifier : LocalTokenVerifier) (token : CapabilityClaims) : Operation → Prop
  | .verify revocations request => ∀ claims,
    verifier.authenticate revocations request = .ok claims → claims.tokenId = token.tokenId →
      claims = token
  | .release _ => True

lemma Step.counted (h : Step verifier s op t) (hlock : s.store.poisoned = false)
    (hid : Identifies verifier token op) (hlive : t.clock < token.expiresAt)
    (hs : Counted token s) : Counted token t := by
  cases h with
  | @verify revocations request htime =>
    have hchange := change_verify verifier revocations request hlock
    generalize given (verifier.verify revocations request s.store) = result at hchange
    generalize finalState (verifier.verify revocations request) s.store = store at hchange
    have hreserved : ∀ {claims result}, verifier.authenticate revocations request = .ok claims →
        Reserve (verifier.reservationOf claims request) s.store result store →
          Counted token ⟨store, request.now, result.toList ++ s.leases⟩ := by
      intro claims result hclaims hstore
      by_cases hsame : claims.tokenId = token.tokenId
      · obtain rfl := hid claims hclaims hsame
        exact hs.reserved_own (r := verifier.reservationOf claims request) hlive rfl rfl rfl hstore
      · exact hs.reserved_other (r := verifier.reservationOf claims request) hlive
          (Ne.symm hsame) hstore
    cases hchange with
    | rejected => exact hs.of_same rfl rfl
    | refused hclaims hstore | granted hclaims hstore => exact hreserved hclaims hstore
  | @release capability hout =>
    have hchange := change_release verifier capability hlock
    generalize finalState (LocalTokenVerifier.release capability) s.store = store at hchange
    cases hchange with
    | released hstore => exact hs.released hstore

lemma counted_start (clock : Int64) : Counted token (start clock) where
  nodup := List.nodup_nil
  slots session := by simp [start, InMemoryTokenStore.default, InMemoryTokenStore.slots]
  limit := Nat.zero_le _
  expiry entry hentry := by simp [start, InMemoryTokenStore.default] at hentry

lemma counted_run {clock : Int64} {ops : List Operation}
    (h : Trace (Step verifier) (start clock) ops s) (hid : ∀ op ∈ ops, Identifies verifier token op) :
    s.store.poisoned = false ∧ (s.clock < token.expiresAt → Counted token s) := by
  induction h with
  | nil => exact ⟨rfl, fun _ => counted_start clock⟩
  | snoc _ hstep ih =>
    obtain ⟨hlock, hcounted⟩ := ih fun op hop => hid op (List.mem_append_left _ hop)
    obtain ⟨_, hchange⟩ := hstep.change hlock
    refine ⟨hchange.poisoned hlock, fun hlive => ?_⟩
    have hbefore := Int64.lt_of_le_of_lt hstep.clock_le hlive
    exact hstep.counted hlock (hid _ (by simp)) hlive (hcounted hbefore)

end Execution

open Execution in
/-- At every point of a run, a token that is still valid has at most as many leases out as it
allows; its slots in the store are those leases; and no operation frees one of them but the release
of a lease of this token. -/
theorem session_limit {verifier : LocalTokenVerifier} {clock : Int64} {ops : List Operation}
    {s : Execution} (hrun : Trace (Step verifier) (start clock) ops s) (token : CapabilityClaims)
    (hid : ∀ op ∈ ops, Identifies verifier token op) (hlive : s.clock < token.expiresAt) :
    (s.leasesOf token.tokenId).length ≤
        token.policy.connectionLimits.maxActiveSessions.toNat ∧
      (∀ session, session ∈ s.store.slots token.tokenId ↔ ⟨token.tokenId, session⟩ ∈ s.leases) ∧
      ∀ op t, Step verifier s op t → ¬ Releases token.tokenId op → t.clock < token.expiresAt →
        s.store.slots token.tokenId ⊆ t.store.slots token.tokenId := by
  obtain ⟨hlock, hcounted⟩ := counted_run hrun hid
  have hs := hcounted hlive
  refine ⟨hs.length.trans_le hs.limit, fun session => (hs.slots session).symm, ?_⟩
  intro op t hstep hrelease hnext
  obtain ⟨_, hchange⟩ := hstep.change hlock
  refine hchange.slots_subset hrelease ?_
  rintro revocations request rfl
  cases hstep
  exact hs.keeps hnext

namespace Sample

def issuerKey : Vector UInt8 32 := Vector.replicate 32 3
def gatewayBinding : Vector UInt8 32 := Vector.replicate 32 4
def challenge : Vector UInt8 32 := Vector.replicate 32 5
def proof : Bytes := List.replicate 64 6
def sessionId : Vector UInt8 32 := Vector.replicate 32 7

def crypto : Crypto where
  Key := Vector UInt8 32
  verifyingKey := some
  verifyStrict key message signed :=
    (key = issuerKey ∧ message = (claimsToWire claims).encode ∧ signed = signature) ∨
      (key = proofKey ∧
        message = proofOfPossessionMessage claims.tokenId gatewayBinding challenge ∧
        signed.toList = proof)
  sha256 bytes :=
    if bytes = GatewayProtocol.utf8Bytes "onionroute-session-lease-v1\x00" ++
      claims.tokenId.bytes.toList ++ gatewayBinding.toList ++ challenge.toList then sessionId
    else Vector.replicate 32 0

def verifier : LocalTokenVerifier where
  prost := prost
  crypto := crypto
  keys := AList.singleton "issuer-2026" ⟨"issuer-2026", issuerKey, 0, 1900000000⟩
  config := ⟨true, 30⟩

def request : VerificationRequest where
  encodedToken := (envelopeOf claims signature).encode
  requiredRole := .entry
  gatewayRegion := .europe
  now := 1767225700
  gatewayBinding := gatewayBinding
  challenge := challenge
  proofOfPossession := some proof

def revocations : RevocationProvider := fun _ _ _ => .active

lemma authenticate_request : verifier.authenticate revocations request = .ok claims := by
  decide +kernel

/-- Two tokens that an issuer has signed under one id; the second expires five minutes before the
first. -/
def late : CapabilityClaims where
  tokenVersion := 1
  tokenId := ⟨Vector.replicate 32 0x17⟩
  policy := ⟨.basic, [.exit], .europe, .single, .standard, ⟨2, 64, 120⟩⟩
  notBefore := 1767225600
  expiresAt := 1767226500
  issuerKeyId := "issuer-2026"
  proofOfPossessionPublicKey := none

def early : CapabilityClaims := { late with notBefore := 1767225300, expiresAt := 1767226200 }

def reissued : LocalTokenVerifier where
  prost :=
    { decodeEnvelope := fun bytes =>
        ([late, early].map (envelopeOf · signature)).find? (·.encode = bytes)
      decodeClaims := fun bytes => ([late, early].map claimsToWire).find? (·.encode = bytes) }
  crypto :=
    { Key := Vector UInt8 32
      verifyingKey := some
      verifyStrict := fun key message signed =>
        key = issuerKey ∧ (∃ token ∈ [late, early], (claimsToWire token).encode = message) ∧
          signed = signature
      -- one digest for each challenge that the requests below carry
      sha256 := fun bytes => Vector.replicate 32 (bytes.getLast?.getD 0) }
  keys := AList.singleton "issuer-2026" ⟨"issuer-2026", issuerKey, 0, 1900000000⟩
  config := ⟨false, 30⟩

def requestOf (token : CapabilityClaims) (byte : UInt8) (now : Int64) : VerificationRequest where
  encodedToken := (envelopeOf token signature).encode
  requiredRole := .exit
  gatewayRegion := .europe
  now := now
  gatewayBinding := gatewayBinding
  challenge := Vector.replicate 32 byte
  proofOfPossession := none

def verifyOf (token : CapabilityClaims) (byte : UInt8) (now : Int64) : Operation :=
  .verify revocations (requestOf token byte now)

def capabilityFor (token : CapabilityClaims) (byte : UInt8) : VerifiedCapability :=
  ⟨token.policy, token.expiresAt, token.tokenId, Vector.replicate 32 byte⟩

lemma identifies_late (byte : UInt8) {now : Int64}
    (h : (reissued.authenticate revocations (requestOf late byte now)).toOption = some late) :
    Execution.Identifies reissued late (verifyOf late byte now) := by
  intro claims hclaims _
  rw [hclaims] at h
  exact Option.some.inj h

end Sample

open Execution Sample in
/-- With both sessions of the token out a third is refused, until one of them is released. -/
theorem session_limit_refilled : ∃ s : Execution,
    Trace (Step reissued) (start 1767225600)
      [verifyOf late 1 1767225700, verifyOf late 2 1767225710, verifyOf late 3 1767225720,
        .release (capabilityFor late 1), verifyOf late 3 1767225730] s ∧
    s.leases = [⟨late.tokenId, Vector.replicate 32 3⟩, ⟨late.tokenId, Vector.replicate 32 2⟩] ∧
    (s.leasesOf late.tokenId).length ≤ 2 := by
  have hrun : Trace (Step reissued) (start 1767225600)
      [verifyOf late 1 1767225700, verifyOf late 2 1767225710, verifyOf late 3 1767225720,
        .release (capabilityFor late 1), verifyOf late 3 1767225730] _ :=
    .cons (.verify (by decide)) (.cons (.verify (by decide)) (.cons (.verify (by decide))
      (.cons (.release (by decide +kernel)) (.single (.verify (by decide))))))
  refine ⟨_, hrun, by decide +kernel, (session_limit hrun late ?_ (by decide)).1⟩
  simp only [List.forall_mem_cons, List.not_mem_nil, false_imp_iff, implies_true, and_true]
  exact ⟨identifies_late 1 (by decide +kernel), identifies_late 2 (by decide +kernel),
    identifies_late 3 (by decide +kernel), trivial, identifies_late 3 (by decide +kernel)⟩

open Execution Sample in
/-- The second token of the id is refused, but its earlier expiry is now that of the entry: once it
has passed, the entry is dropped with both sessions, and the first token gets a third. -/
theorem session_limit_exceeded : ∃ s : Execution,
    Trace (Step reissued) (start 1767225600)
      [verifyOf late 1 1767225700, verifyOf late 2 1767225710, verifyOf early 3 1767225720,
        verifyOf late 4 1767226200] s ∧
    s.clock < late.expiresAt ∧ late.policy.connectionLimits.maxActiveSessions = 2 ∧
    s.leases = [⟨late.tokenId, Vector.replicate 32 4⟩, ⟨late.tokenId, Vector.replicate 32 2⟩,
      ⟨late.tokenId, Vector.replicate 32 1⟩] ∧
    s.store.slots late.tokenId = {Vector.replicate 32 4} :=
  ⟨_, .cons (.verify (by decide)) (.cons (.verify (by decide)) (.cons (.verify (by decide))
    (.single (.verify (by decide))))), by decide, rfl, by decide +kernel, by decide +kernel⟩

end OnionRoute.AuthTokens
