import Mathlib.Data.Finset.Card
import Mathlib.Data.Finset.Dedup
import OnionRoute.Library.Outcome
import OnionRoute.GatewayDaemon.Acl

/-! Scan detection by keyed digests. Instants are in nanoseconds. -/

namespace OnionRoute.GatewayDaemon

open Library

structure ScanWindow where
  startedAt : ℕ
  destinations : Finset Bytes

def scanMaterial (destination : Destination) (port : UInt16) : Bytes :=
  match destination with
  | .hostname hostname => hostname ++ beBytes16 port
  | .ip address => address.octets ++ beBytes16 port

section Observe

-- The keyed digest of the gateway and the key of the token.
variable (limits : LimitConfig) (hmac : Bytes → Bytes) (tokenKey : Bytes)

def scanTag (material : Bytes) : Bytes := (hmac (tokenKey ++ material)).take 16

def observeDestination (now : ℕ) (material : Bytes) (scan : ScanWindow) :
    GatewayResult Unit × ScanWindow :=
  let window := limits.scanWindowSeconds * 1000000000
  let current := if window ≤ now - scan.startedAt then ⟨now, ∅⟩ else scan
  let destinations := insert (scanTag hmac tokenKey material) current.destinations
  (if limits.scanDistinctDestinationLimit < destinations.card then .error .policyDenied else .ok (),
    { current with destinations })

structure OpenCall where
  now : ℕ
  destination : Destination
  port : UInt16
  deriving DecidableEq

def observeAll : List OpenCall → ScanWindow → List (GatewayResult Unit)
  | [], _ => []
  | call :: rest, scan =>
    let observed := observeDestination limits hmac tokenKey call.now
      (scanMaterial call.destination call.port) scan
    observed.1 :: observeAll rest observed.2

end Observe

def canonicalDestination (parsesAsIp : Bytes → Bool) : Destination → Destination
  | .hostname hostname => .hostname ((canonicalHostname parsesAsIp hostname).toOption.getD hostname)
  | .ip address => .ip address

namespace OpenCall

def tag (hmac : Bytes → Bytes) (tokenKey : Bytes) (call : OpenCall) : Bytes :=
  scanTag hmac tokenKey (scanMaterial call.destination call.port)

def target (parsesAsIp : Bytes → Bool) (call : OpenCall) : Destination × UInt16 :=
  (canonicalDestination parsesAsIp call.destination, call.port)

def Permitted (parsesAsIp : Bytes → Bool) (call : OpenCall) : Prop :=
  ∃ acl : AclEngine, acl.checkDestination parsesAsIp call.destination call.port = .ok ()

end OpenCall

variable {limits : LimitConfig} {hmac : Bytes → Bytes} {tokenKey : Bytes}
  {parsesAsIp : Bytes → Bool} {calls : List OpenCall} {scan : ScanWindow}

lemma observeAll_getElem? (hw : ∀ call ∈ calls,
      call.now - scan.startedAt < limits.scanWindowSeconds * 1000000000)
    {n : ℕ} (hn : n < calls.length) :
    (observeAll limits hmac tokenKey calls scan)[n]? =
      some (if limits.scanDistinctDestinationLimit <
          (scan.destinations ∪ ((calls.take (n + 1)).map (·.tag hmac tokenKey)).toFinset).card then
        .error .policyDenied else .ok ()) := by
  induction calls generalizing scan n with
  | nil => simp at hn
  | cons call rest ih =>
    have hcall := hw call List.mem_cons_self
    have hcurrent : ¬ limits.scanWindowSeconds * 1000000000 ≤ call.now - scan.startedAt := by omega
    cases n with
    | zero =>
      simp only [observeAll, observeDestination, if_neg hcurrent, List.getElem?_cons_zero,
        Nat.zero_add, List.take_succ_cons, List.take_zero, List.map_cons, List.map_nil,
        List.toFinset_cons, List.toFinset_nil, OpenCall.tag]
      rw [Finset.union_insert, Finset.union_empty]
    | succ n =>
      simp only [observeAll, observeDestination, if_neg hcurrent, List.getElem?_cons_succ]
      refine (ih ?_ (by simpa using hn)).trans ?_
      · exact fun c hc => hw c (List.mem_cons_of_mem call hc)
      · simp only [List.take_succ_cons, List.map_cons, List.toFinset_cons, Finset.union_insert,
          Finset.insert_union, OpenCall.tag]

lemma card_map_congr {α β γ : Type} [DecidableEq β] [DecidableEq γ] {f : α → β} {g : α → γ}
    {l : List α} (h : ∀ a ∈ l, ∀ b ∈ l, f a = f b ↔ g a = g b) :
    (l.map f).toFinset.card = (l.map g).toFinset.card := by
  induction l with
  | nil => rfl
  | cons a rest ih =>
    have hmem : f a ∈ (rest.map f).toFinset ↔ g a ∈ (rest.map g).toFinset := by
      simp only [List.mem_toFinset, List.mem_map]
      refine exists_congr fun b => and_congr_right fun hb => ?_
      exact h b (List.mem_cons_of_mem a hb) a List.mem_cons_self
    have hrest := ih fun b hb c hc => h b (List.mem_cons_of_mem a hb) c (List.mem_cons_of_mem a hc)
    simp only [List.map_cons, List.toFinset_cons, Finset.card_insert_eq_ite, hmem, hrest]

lemma beBytes16_inj {a b : UInt16} (h : beBytes16 a = beBytes16 b) : a = b := by
  simp only [beBytes16, List.cons.injEq, and_true] at h
  rw [← fromBe16_beBytes16 a, ← fromBe16_beBytes16 b, h.1, h.2]

lemma octets_inj {a b : IpAddr} (h : a.octets = b.octets) : a = b := by
  have hlen := congrArg List.length h
  cases a with
  | v4 a =>
    cases b with
    | v4 b => exact congrArg IpAddr.v4 (List.Vector.eq a b h)
    | v6 b => simp [IpAddr.octets] at hlen
  | v6 a =>
    cases b with
    | v4 b => simp [IpAddr.octets] at hlen
    | v6 b => exact congrArg IpAddr.v6 (List.Vector.eq a b h)

def Destination.bytes : Destination → Bytes
  | .hostname name => name
  | .ip address => address.octets

lemma scanMaterial_inj {d d' : Destination} {p p' : UInt16} :
    scanMaterial d p = scanMaterial d' p' ↔ d.bytes = d'.bytes ∧ p = p' := by
  have hbytes : ∀ (d : Destination) (p : UInt16), scanMaterial d p = d.bytes ++ beBytes16 p := by
    intro d p
    cases d <;> rfl
  rw [hbytes, hbytes]
  constructor
  · intro h
    obtain ⟨hd, hp⟩ := List.append_inj' h rfl
    exact ⟨hd, beBytes16_inj hp⟩
  · rintro ⟨hd, rfl⟩
    rw [hd]

def CollisionFree (hmac : Bytes → Bytes) (tokenKey : Bytes) (calls : List OpenCall) : Prop :=
  ∀ a ∈ calls, ∀ b ∈ calls, a.tag hmac tokenKey = b.tag hmac tokenKey →
    scanMaterial a.destination a.port = scanMaterial b.destination b.port

structure CountsDestinations (parsesAsIp : Bytes → Bool) (limits : LimitConfig)
    (hmac : Bytes → Bytes) (tokenKey : Bytes) (startedAt : ℕ) (calls : List OpenCall) : Prop where
  same : ∀ a ∈ calls, ∀ b ∈ calls,
    a.tag hmac tokenKey = b.tag hmac tokenKey ↔ a.target parsesAsIp = b.target parsesAsIp
  denied : ∀ n < calls.length,
    (observeAll limits hmac tokenKey calls ⟨startedAt, ∅⟩)[n]? = some (.error .policyDenied) ↔
      limits.scanDistinctDestinationLimit <
        ((calls.take (n + 1)).map (·.target parsesAsIp)).toFinset.card

def Unambiguous (parsesAsIp : Bytes → Bool) (calls : List OpenCall) : Prop :=
  ∀ a ∈ calls, ∀ b ∈ calls, a.port = b.port →
    (∀ x y, a.destination = .hostname x → b.destination = .hostname y →
      canonicalHostname parsesAsIp x = canonicalHostname parsesAsIp y → x = y) ∧
    (∀ x address, a.destination = .hostname x → b.destination = .ip address → x ≠ address.octets)

lemma canonicalHostname_of_permitted {call : OpenCall} {hostname : Bytes}
    (h : call.Permitted parsesAsIp) (hd : call.destination = .hostname hostname) :
    ∃ name, canonicalHostname parsesAsIp hostname = .ok name := by
  obtain ⟨acl, hacl⟩ := h
  rw [hd, AclEngine.checkDestination.eq_def] at hacl
  obtain ⟨-, -, hhost⟩ := bind_eq_ok.mp hacl
  obtain ⟨name, hname, -⟩ := bind_eq_ok.mp hhost
  exact ⟨name, hname⟩

variable {a b : OpenCall}

lemma tag_eq_iff (hfree : CollisionFree hmac tokenKey calls) (ha : a ∈ calls) (hb : b ∈ calls) :
    a.tag hmac tokenKey = b.tag hmac tokenKey ↔
      a.destination.bytes = b.destination.bytes ∧ a.port = b.port := by
  rw [← scanMaterial_inj]
  exact ⟨hfree a ha b hb, fun h => congrArg (scanTag hmac tokenKey) h⟩

lemma target_eq_iff {x y : Bytes} (ha : a.Permitted parsesAsIp) (hb : b.Permitted parsesAsIp)
    (hx : a.destination = .hostname x) (hy : b.destination = .hostname y) :
    a.target parsesAsIp = b.target parsesAsIp ↔
      canonicalHostname parsesAsIp x = canonicalHostname parsesAsIp y ∧ a.port = b.port := by
  obtain ⟨c, hc⟩ := canonicalHostname_of_permitted ha hx
  obtain ⟨d, hd⟩ := canonicalHostname_of_permitted hb hy
  simp [OpenCall.target, canonicalDestination, hx, hy, hc, hd, Except.toOption]

lemma Unambiguous.tag_eq_iff_target_eq (h : Unambiguous parsesAsIp calls)
    (hpermitted : ∀ call ∈ calls, call.Permitted parsesAsIp)
    (hfree : CollisionFree hmac tokenKey calls) (ha : a ∈ calls) (hb : b ∈ calls) :
    a.tag hmac tokenKey = b.tag hmac tokenKey ↔ a.target parsesAsIp = b.target parsesAsIp := by
  rw [tag_eq_iff hfree ha hb]
  cases hx : a.destination with
  | hostname x =>
    cases hy : b.destination with
    | hostname y =>
      rw [target_eq_iff (hpermitted a ha) (hpermitted b hb) hx hy]
      refine and_congr_left fun hport => ?_
      exact ⟨fun hxy => congrArg _ hxy, (h a ha b hb hport).1 x y hx hy⟩
    | ip address =>
      simp only [Destination.bytes, OpenCall.target, canonicalDestination, hx, hy, Prod.mk.injEq,
        reduceCtorEq, false_and, iff_false, not_and]
      intro hoctets hport
      exact (h a ha b hb hport).2 x address hx hy hoctets
  | ip address =>
    cases hy : b.destination with
    | hostname y =>
      simp only [Destination.bytes, OpenCall.target, canonicalDestination, hx, hy, Prod.mk.injEq,
        reduceCtorEq, false_and, iff_false, not_and]
      intro hoctets hport
      exact (h b hb a ha hport.symm).2 y address hy hx hoctets.symm
    | ip other =>
      simp only [Destination.bytes, OpenCall.target, canonicalDestination, hx, hy, Prod.mk.injEq,
        Destination.ip.injEq]
      exact and_congr_left fun _ => ⟨octets_inj, congrArg _⟩

theorem scan_counts_iff {parsesAsIp : Bytes → Bool} {limits : LimitConfig} {hmac : Bytes → Bytes}
    {tokenKey : Bytes} {startedAt : ℕ} {calls : List OpenCall}
    (hpermitted : ∀ call ∈ calls, call.Permitted parsesAsIp)
    (hwindow : ∀ call ∈ calls,
      call.now - startedAt < limits.scanWindowSeconds * 1000000000)
    (hfree : CollisionFree hmac tokenKey calls) :
    CountsDestinations parsesAsIp limits hmac tokenKey startedAt calls ↔
      Unambiguous parsesAsIp calls := by
  constructor
  · intro h a ha b hb hport
    constructor
    · intro x y hx hy hcanonical
      have htarget := (target_eq_iff (hpermitted a ha) (hpermitted b hb) hx hy).mpr
        ⟨hcanonical, hport⟩
      have hbytes := ((tag_eq_iff hfree ha hb).mp ((h.same a ha b hb).mpr htarget)).1
      rwa [hx, hy] at hbytes
    · intro x address hx haddress hoctets
      have hbytes : a.destination.bytes = b.destination.bytes := by
        rw [hx, haddress]
        exact hoctets
      have htarget := (h.same a ha b hb).mp ((tag_eq_iff hfree ha hb).mpr ⟨hbytes, hport⟩)
      simp [OpenCall.target, canonicalDestination, hx, haddress] at htarget
  · intro h
    refine ⟨fun a ha b hb => h.tag_eq_iff_target_eq hpermitted hfree ha hb, fun n hn => ?_⟩
    have hcard := card_map_congr (l := calls.take (n + 1)) fun a ha b hb =>
      h.tag_eq_iff_target_eq hpermitted hfree (List.mem_of_mem_take ha) (List.mem_of_mem_take hb)
    rw [observeAll_getElem? hwindow hn, Finset.empty_union, hcard]
    split_ifs with hlimit
    · exact ⟨fun _ => hlimit, fun _ => rfl⟩
    · exact ⟨nofun, fun hc => absurd hc hlimit⟩

namespace Sample

def key : Bytes := List.replicate 32 0

def digest (text : Bytes) : Bytes := text.drop 32

def noAddress (_ : Bytes) : Bool := false

def strict : LimitConfig := { scanDistinctDestinationLimit := 1 }

def toHost (name : String) : OpenCall := ⟨0, .hostname (ascii name), 443⟩

def toAddress : OpenCall := ⟨0, .ip (.v4 ⟨[97, 98, 99, 100], rfl⟩), 443⟩

end Sample

open Sample in
theorem scan_counts_host_and_address :
    CountsDestinations noAddress strict digest key 0
      [toHost "example.com", toAddress] := by
  refine (scan_counts_iff ?_ ?_ ?_).mpr ?_
  · intro call hcall
    refine ⟨AclEngine.new {}, ?_⟩
    rcases List.mem_pair.mp hcall with rfl | rfl <;> rfl
  · decide
  · unfold CollisionFree
    decide +kernel
  · intro a ha b hb _
    rcases List.mem_pair.mp ha with rfl | rfl
    · rcases List.mem_pair.mp hb with rfl | rfl
      · exact ⟨fun x y hx hy _ => (by cases hx; cases hy; rfl), fun x address _ h => (by cases h)⟩
      · refine ⟨fun x y _ hy => (by cases hy), fun x address hx haddress => ?_⟩
        cases hx
        cases haddress
        decide +kernel
    · exact ⟨fun x y hx => (by cases hx), fun x address hx => (by cases hx)⟩

open Sample in
/-- One host in two spellings is refused at a limit of one; a host and an address are not. -/
theorem scan_miscounts :
    (toHost "Example.com").target noAddress =
        (toHost "example.com.").target noAddress ∧
      (observeAll strict digest key
          [toHost "Example.com", toHost "example.com."] ⟨0, ∅⟩)[1]? =
        some (.error .policyDenied) ∧
      (toHost "abcd").target noAddress ≠ toAddress.target noAddress ∧
      (observeAll strict digest key
          [toHost "abcd", toAddress] ⟨0, ∅⟩)[1]? = some (.ok ()) := by
  refine ⟨by decide +kernel, ?_, by decide +kernel, ?_⟩
  · rw [observeAll_getElem? (by decide) (by decide), if_pos (by decide +kernel)]
  · rw [observeAll_getElem? (by decide) (by decide), if_neg (by decide +kernel)]

end OnionRoute.GatewayDaemon
