import Mathlib.Data.List.Destutter
import Mathlib.Data.List.Sort
import OnionRoute.GatewayDaemon.DnsWire
import OnionRoute.Library.Outcome
import OnionRoute.Library.SimplePath

/-! The resolver of the gateway, with an upstream that may answer anything. -/

namespace OnionRoute.GatewayDaemon

open Library

structure Exchange where
  id : UInt16
  name : Bytes
  recordType : UInt16
  response : GatewayResult Bytes

structure Surroundings where
  randomId : ℕ → GatewayResult UInt16
  exchange : ℕ → Bytes → GatewayResult Bytes
  acl : ℕ → IpAddr → AclEngine

abbrev ResolverM := EStateM GatewayErrorCode (List Exchange)

structure Resolution where
  addresses : List IpAddr
  cnameDepth : ℕ
  responseBytes : ℕ
  deriving DecidableEq

structure Lookup where
  current : Bytes
  visited : List Bytes
  totalDepth : ℕ
  responseBytes : ℕ

def Lookup.start (hostname : Bytes) : Lookup := ⟨hostname, [], 0, 0⟩

def IpAddr.key (address : IpAddr) : List ℕ :=
  (if address.isV4 then 4 else 6) :: address.octets.map UInt8.toNat

def sortDedup (addresses : List IpAddr) : List IpAddr :=
  (addresses.insertionSort fun a b => a.key ≤ b.key).destutter (· ≠ ·)

section Resolver

variable (config : DnsConfig) (around : Surroundings)

def exchange (id : UInt16) (name : Bytes) (recordType : UInt16) (query : Bytes) :
    ResolverM Bytes := fun asked =>
  let response := around.exchange asked.length query
  let asked := asked ++ [⟨id, name, recordType, response⟩]
  match response with
  | .ok bytes => .ok bytes asked
  | .error e => .error e asked

def lookupTurn (recordType : UInt16) (l : Lookup) : ResolverM (Lookup ⊕ Resolution) := do
  if l.visited.contains l.current ∨ config.maxCnameDepth < l.totalDepth then
    throw .dnsFailure
  let asked ← get
  let id ← around.randomId asked.length
  let query ← buildQuery id l.current recordType
  let response ← exchange around id l.current recordType query
  let responseBytes := l.responseBytes + response.length
  let parsed ← parseResponse response id l.current config.maxRecords
  let totalDepth := l.totalDepth + parsed.cnameDepth
  if config.maxCnameDepth < totalDepth then
    throw .dnsFailure
  if parsed.addresses ≠ [] then
    return .inr ⟨parsed.addresses, totalDepth, responseBytes⟩
  if parsed.terminalName = l.current then
    return .inr ⟨[], totalDepth, responseBytes⟩
  return .inl ⟨parsed.terminalName, l.current :: l.visited, totalDepth, responseBytes⟩

def lookupLoop (recordType : UInt16) : ℕ → Lookup → ResolverM (Option Resolution)
  | 0, _ => return none
  | turns + 1, l => do
    match ← lookupTurn config around recordType l with
    | .inl next => lookupLoop recordType turns next
    | .inr resolution => return some resolution

def lookupType (hostname : Bytes) (recordType : UInt16) : ResolverM Resolution := do
  match ← lookupLoop config around recordType (config.maxCnameDepth + 1) (.start hostname) with
  | some resolution => return resolution
  -- Unreachable, by `lookupLoop_ends`.
  | none => throw .internal

def lookup (hostname : Bytes) : ResolverM Resolution := do
  let a ← lookupType config around hostname typeA
  let aaaa ← lookupType config around hostname typeAaaa
  let addresses := sortDedup (a.addresses ++ aaaa.addresses)
  if addresses = [] ∨ config.maxAddresses < addresses.length then
    throw .dnsFailure
  return ⟨addresses, max a.cnameDepth aaaa.cnameDepth, a.responseBytes + aaaa.responseBytes⟩

def checkAddress (rules : IpAddr → AclEngine) (address : IpAddr) : GatewayResult Unit :=
  match (rules address).checkIp address with
  | .ok () => .ok ()
  | .error _ => .error .dnsRebinding

def validateResolution (rules : IpAddr → AclEngine) (resolution : Resolution) :
    GatewayResult Unit := do
  if resolution.addresses = [] ∨ config.maxAddresses < resolution.addresses.length ∨
      config.maxCnameDepth < resolution.cnameDepth ∨
      config.maxResponseBytes * 4 < resolution.responseBytes then
    throw .dnsFailure
  for address in resolution.addresses do
    checkAddress rules address

def resolveForConnect (parsesAsIp : Bytes → Bool) (hostname : Bytes) : ResolverM Resolution := do
  let hostname ← canonicalHostname parsesAsIp hostname
  let first ← lookup config around hostname
  let asked ← get
  validateResolution config (around.acl asked.length) first
  if config.revalidate = false then
    return first
  let second ← lookup config around hostname
  let asked ← get
  validateResolution config (around.acl asked.length) second
  return second

end Resolver

section Answers

def Exchange.Answered (e : Exchange) (answers : List AnswerRecord) : Prop :=
  ∃ wire questionEnd ancount nscount arcount records, e.response = .ok wire ∧
    readU16 wire 0 = .ok e.id ∧ readName wire dnsHeaderBytes = .ok (e.name, questionEnd) ∧
    readU16 wire 6 = .ok ancount ∧ readU16 wire 8 = .ok nscount ∧ readU16 wire 10 = .ok arcount ∧
    readRecords wire (ancount.toNat + nscount.toNat + arcount.toNat) (questionEnd + 4) =
      .ok (records, wire.length) ∧
    answers = records.take ancount.toNat

def Alias (exchanges : List Exchange) (a b : Bytes) : Prop :=
  ∃ e ∈ exchanges, ∃ answers, e.Answered answers ∧ aliasesOf answers a = [b]

def Reached (exchanges : List Exchange) (hostname : Bytes) (depth : ℕ) (address : IpAddr) : Prop :=
  ∃ owner, SimplePath (Alias exchanges) hostname owner depth ∧
    ∃ e ∈ exchanges, ∃ answers, e.Answered answers ∧ ⟨owner, .address address⟩ ∈ answers

variable {exchanges more : List Exchange} {hostname : Bytes} {m n : ℕ} {address : IpAddr}

lemma Alias.mono (hsub : exchanges ⊆ more) {a b : Bytes} (h : Alias exchanges a b) :
    Alias more a b := by
  obtain ⟨e, he, answers, hanswers⟩ := h
  exact ⟨e, hsub he, answers, hanswers⟩

lemma Reached.mono (hsub : exchanges ⊆ more) (hmn : m ≤ n)
    (h : Reached exchanges hostname m address) : Reached more hostname n address := by
  obtain ⟨owner, hpath, e, he, answers, hanswers⟩ := h
  exact ⟨owner, hpath.mono (fun _ _ => Alias.mono hsub) hmn, e, hsub he, answers, hanswers⟩

variable {answers : List AnswerRecord}

lemma mem_addressesOf {name : Bytes} (h : address ∈ addressesOf answers name) :
    ⟨name, .address address⟩ ∈ answers := by
  obtain ⟨record, hrecord, haddress⟩ := List.mem_filterMap.mp h
  obtain ⟨hmem, howner⟩ := List.mem_filter.mp hrecord
  obtain ⟨owner, data⟩ := record
  obtain rfl : owner = name := of_decide_eq_true howner
  cases data with
  | address _ =>
    obtain rfl := Option.some.inj haddress
    exact hmem
  | cname target | other => simp [AnswerRecord.address?] at haddress

lemma followAliases_eq_ok {R : Bytes → Bytes → Prop} (hR : ∀ a b, aliasesOf answers a = [b] → R a b)
    {left : ℕ} {visited : List Bytes} {current : Bytes} {depth : ℕ} {chain : Chain}
    (hpath : SimplePath R hostname current (n + depth))
    (h : followAliases answers left visited current depth = .ok chain) :
    SimplePath R hostname chain.terminalName (n + chain.cnameDepth) ∧
      chain.addresses = addressesOf answers chain.terminalName ∧ depth ≤ chain.cnameDepth ∧
      (chain.cnameDepth = depth → chain.terminalName = current) := by
  fun_induction followAliases answers left visited current depth with
  | case1 => cases h
  | case2 =>
    obtain rfl := Except.ok.inj h
    exact ⟨hpath, rfl, le_rfl, fun _ => rfl⟩
  | case3 left visited current depth hvisited haddresses =>
    obtain rfl := Except.ok.inj h
    exact ⟨hpath, (not_not.mp haddresses).symm, le_rfl, fun _ => rfl⟩
  | case4 visited current depth hvisited haddresses target left halias ih =>
    obtain ⟨hpath', haddr, hdepth, -⟩ := ih (hpath.snoc (hR _ _ halias)) h
    exact ⟨hpath', haddr, by omega, fun heq => by omega⟩
  | case5 => cases h

lemma parseResponse_eq_ok {e : Exchange} {wire : Bytes} {maxRecords : ℕ} {parsed : ParsedResponse}
    (hresponse : e.response = .ok wire)
    (h : parseResponse wire e.id e.name maxRecords = .ok parsed) :
    ∃ answers, e.Answered answers ∧
      followAliases answers 16 [] e.name 0 = .ok parsed.toChain := by
  simp only [parseResponse, guard_eq_ok, bind_eq_ok, pure_eq_ok, not_not, not_or] at h
  obtain ⟨-, id, hid, rfl, flags, -, qdcount, -, ancount, hancount, nscount, hnscount, arcount,
    harcount, -, ⟨questionName, questionEnd⟩, hname, ⟨rfl, -⟩, ⟨records, finish⟩, hrecords, rfl,
    chain, hchain, rfl⟩ := h
  exact ⟨_, ⟨wire, questionEnd, ancount, nscount, arcount, records, hresponse, hid, hname, hancount,
    hnscount, harcount, hrecords, rfl⟩, hchain⟩

end Answers

section SortDedup

lemma key_injective : Function.Injective IpAddr.key := by
  have hoctets : Function.Injective (List.map UInt8.toNat) :=
    List.map_injective_iff.mpr fun a b => UInt8.toNat_inj.mp
  intro a b h
  cases a with
  | v4 a =>
    cases b with
    | v4 b => exact congrArg _ (List.Vector.toList_injective (hoctets (List.cons.inj h).2))
    | v6 b => exact absurd (List.cons.inj h).1 (by simp [IpAddr.isV4])
  | v6 a =>
    cases b with
    | v4 b => exact absurd (List.cons.inj h).1 (by simp [IpAddr.isV4])
    | v6 b => exact congrArg _ (List.Vector.toList_injective (hoctets (List.cons.inj h).2))

lemma mem_of_mem_sortDedup {addresses : List IpAddr} {address : IpAddr}
    (h : address ∈ sortDedup addresses) : address ∈ addresses :=
  (List.mem_insertionSort _).mp ((List.destutter_sublist _ _).mem h)

lemma nodup_sortDedup (addresses : List IpAddr) : (sortDedup addresses).Nodup := by
  have hsorted : (sortDedup addresses).Pairwise fun a b => a.key ≤ b.key :=
    (List.pairwise_insertionSort _ addresses).sublist (List.destutter_sublist _ _)
  have hchain : (sortDedup addresses).IsChain (· ≠ ·) := List.isChain_destutter _ _
  have hlt : (sortDedup addresses).IsChain fun a b => a.key < b.key := by
    rw [List.isChain_iff_getElem] at hchain ⊢
    intro i hi
    have hle := List.isChain_iff_getElem.mp hsorted.isChain i hi
    exact lt_of_le_of_ne hle fun heq => hchain i hi (key_injective heq)
  have hpairwise : (sortDedup addresses).Pairwise fun a b => a.key < b.key :=
    (List.isChain_iff_pairwise (R := fun a b : IpAddr => a.key < b.key)).mp hlt
  exact hpairwise.imp fun h heq => absurd (heq ▸ h) (lt_irrefl _)

end SortDedup

section Loop

variable {config : DnsConfig} {around : Surroundings} {hostname : Bytes} {recordType : UInt16}
  {asked new : List Exchange} {l : Lookup}

structure Walks (config : DnsConfig) (hostname : Bytes) (l : Lookup) (new : List Exchange) :
    Prop where
  path : SimplePath (Alias new) hostname l.current l.totalDepth
  depth : l.totalDepth ≤ config.maxCnameDepth
  queries : new.length ≤ l.totalDepth

lemma walks_start (config : DnsConfig) (hostname : Bytes) : Walks config hostname (.start hostname) [] :=
  ⟨.refl hostname, Nat.zero_le _, le_rfl⟩

structure Sound (config : DnsConfig) (hostname : Bytes) (new : List Exchange) (r : Resolution) :
    Prop where
  reached : ∀ address ∈ r.addresses, Reached new hostname config.maxCnameDepth address
  depth : r.cnameDepth ≤ config.maxCnameDepth

def Asks (asked : List Exchange) (n : ℕ) (t : List Exchange) : Prop :=
  ∃ new, t = asked ++ new ∧ new.length ≤ n

lemma exchange_ends {id : UInt16} {name query : Bytes} :
    Ends (exchange around id name recordType query) asked
      (fun bytes t => t = asked ++ [⟨id, name, recordType, .ok bytes⟩])
      (Asks asked 1) := by
  rw [Ends, exchange]
  cases around.exchange asked.length query with
  | ok bytes => rfl
  | error e => exact ⟨_, rfl, le_rfl⟩

variable (around recordType asked) in
lemma lookupTurn_ends (hl : Walks config hostname l new) :
    Ends (lookupTurn config around recordType l) (asked ++ new)
      (fun r t => ∃ e, t = asked ++ (new ++ [e]) ∧
        match r with
        | .inl next => Walks config hostname next (new ++ [e]) ∧ l.totalDepth < next.totalDepth
        | .inr resolution => Sound config hostname (new ++ [e]) resolution)
      (Asks (asked ++ new) 1) := by
  have hnone : Asks (asked ++ new) 1 (asked ++ new) := ⟨[], by simp, by simp⟩
  refine .guard (fun _ => hnone) fun _ => .get_bind <| .lift_bind (fun id _ => ?_) hnone
  refine .lift_bind (fun query _ => ?_) hnone
  refine .bind exchange_ends fun response t ht => ?_
  subst ht
  have hone : Asks (asked ++ new) 1 (asked ++ new ++ [⟨id, l.current, recordType, .ok response⟩]) :=
    ⟨_, rfl, le_rfl⟩
  refine .lift_bind (fun parsed hparsed => ?_) hone
  refine .guard (fun _ => hone) fun hdepth => ?_
  set e : Exchange := ⟨id, l.current, recordType, .ok response⟩
  have hstate : asked ++ new ++ [e] = asked ++ (new ++ [e]) := List.append_assoc _ _ _
  obtain ⟨answers, hanswers, hchain⟩ := parseResponse_eq_ok (e := e) rfl hparsed
  have hsub : new ⊆ new ++ [e] := List.subset_append_left _ _
  have hlast : e ∈ new ++ [e] := by simp
  have hpath : SimplePath (Alias (new ++ [e])) hostname l.current (l.totalDepth + 0) :=
    hl.path.mono (fun _ _ => Alias.mono hsub) le_rfl
  obtain ⟨hpath', haddr, -, hstay⟩ :=
    followAliases_eq_ok (fun a b h => ⟨e, hlast, answers, hanswers, h⟩) hpath hchain
  split_ifs with haddresses hterminal
  · refine .of_pure ⟨e, hstate, ?_, not_lt.mp hdepth⟩
    intro address hmem
    have hmem' : address ∈ addressesOf answers parsed.terminalName := haddr ▸ hmem
    exact ⟨_, hpath'.mono (fun _ _ h => h) (not_lt.mp hdepth), e, hlast, answers, hanswers,
      mem_addressesOf hmem'⟩
  · exact .of_pure ⟨e, hstate, by simp, not_lt.mp hdepth⟩
  · have hmoved : parsed.cnameDepth ≠ 0 := fun h => hterminal (hstay h)
    have hqueries := hl.queries
    refine .of_pure ⟨e, hstate, ⟨hpath', not_lt.mp hdepth, ?_⟩, ?_⟩
    · simp only [List.length_append, List.length_singleton]
      omega
    · simp only
      omega

variable (around recordType asked) in
lemma lookupLoop_ends {turns : ℕ} (hl : Walks config hostname l new)
    (hturns : config.maxCnameDepth < turns + l.totalDepth) :
    Ends (lookupLoop config around recordType turns l) (asked ++ new)
      (fun r t => ∃ final resolution, r = some resolution ∧ t = asked ++ final ∧
        final.length ≤ config.maxCnameDepth + 1 ∧ Sound config hostname final resolution)
      (Asks asked (config.maxCnameDepth + 1)) := by
  have hlen := hl.queries.trans hl.depth
  induction turns generalizing l new with
  | zero =>
    have := hl.depth
    omega
  | succ turns ih =>
    have hturn := lookupTurn_ends around recordType asked hl
    refine .bind (hturn.mono (fun _ _ h => h) ?_) fun r t hr => ?_
    · rintro t ⟨more, rfl, hmore⟩
      refine ⟨new ++ more, List.append_assoc _ _ _, ?_⟩
      rw [List.length_append]
      omega
    · obtain ⟨e, rfl, hr⟩ := hr
      cases r with
      | inl next =>
        obtain ⟨hnext, hlt⟩ := hr
        exact ih hnext (by omega) (hnext.queries.trans hnext.depth)
      | inr resolution =>
        refine .of_pure ⟨new ++ [e], resolution, rfl, rfl, ?_, hr⟩
        simp only [List.length_append, List.length_singleton]
        omega

lemma lookupType_ends : Ends (lookupType config around hostname recordType) asked
    (fun resolution t => ∃ final, t = asked ++ final ∧ final.length ≤ config.maxCnameDepth + 1 ∧
      Sound config hostname final resolution)
    (Asks asked (config.maxCnameDepth + 1)) := by
  have hturns : config.maxCnameDepth < config.maxCnameDepth + 1 + 0 := Nat.lt_succ_self _
  have hloop := lookupLoop_ends around recordType asked (walks_start config hostname) hturns
  rw [List.append_nil] at hloop
  refine .bind hloop ?_
  rintro _ _ ⟨final, resolution, rfl, rfl, hlen, hsound⟩
  exact .of_pure ⟨final, rfl, hlen, hsound⟩

lemma lookup_ends : Ends (lookup config around hostname) asked
    (fun r t => ∃ final, t = asked ++ final ∧ r.addresses.Nodup ∧
      ∀ address ∈ r.addresses, Reached final hostname config.maxCnameDepth address)
    (fun _ => True) := by
  refine .bind (lookupType_ends.mono (fun _ _ h => h) fun _ _ => trivial) ?_
  rintro a _ ⟨first, rfl, -, ha⟩
  refine .bind (lookupType_ends.mono (fun _ _ h => h) fun _ _ => trivial) ?_
  rintro aaaa _ ⟨second, rfl, -, haaaa⟩
  refine .guard (fun _ => trivial) fun _ => .of_pure ⟨first ++ second, by simp, nodup_sortDedup _, ?_⟩
  intro address hmem
  rcases List.mem_append.mp (mem_of_mem_sortDedup hmem) with h | h
  · exact (ha.reached address h).mono (List.subset_append_left _ _) le_rfl
  · exact (haaaa.reached address h).mono (List.subset_append_right _ _) le_rfl

end Loop

variable {rules : IpAddr → AclEngine}

lemma checkAddress_eq_ok {address : IpAddr} :
    checkAddress rules address = .ok () ↔ (rules address).checkIp address = .ok () := by
  rw [checkAddress]
  cases (rules address).checkIp address with
  | ok u => simp
  | error e => simp

variable {r : Resolution}

lemma validateResolution_eq_ok {config : DnsConfig}
    (h : validateResolution config rules r = .ok ()) :
    1 ≤ r.addresses.length ∧ r.addresses.length ≤ config.maxAddresses ∧
      ∀ address ∈ r.addresses, (rules address).checkIp address = .ok () := by
  simp only [validateResolution, guard_eq_ok, bind_eq_ok, not_or, not_lt] at h
  obtain ⟨⟨hne, hmax, -, -⟩, _, hall, -⟩ := h
  refine ⟨List.length_pos_iff.mpr hne, hmax, fun address hmem => ?_⟩
  exact checkAddress_eq_ok.mp (forIn_eq_ok.mp hall address hmem)

lemma resolveForConnect_eq_ok {config : DnsConfig} {around : Surroundings}
    {parsesAsIp : Bytes → Bool} {hostname : Bytes} {asked history : List Exchange}
    (h : resolveForConnect config around parsesAsIp hostname asked = .ok r history) :
    ∃ name earlier, canonicalHostname parsesAsIp hostname = .ok name ∧
      (if config.revalidate then ∃ first, lookup config around name asked = .ok first earlier
        else earlier = asked) ∧
      lookup config around name earlier = .ok r history ∧
      validateResolution config (around.acl history.length) r = .ok () := by
  simp only [resolveForConnect, state_bind_eq_ok, state_lift_eq_ok, state_get_eq_ok] at h
  obtain ⟨name, _, ⟨hname, rfl⟩, first, middle, hfirst, _, _, ⟨rfl, rfl⟩, _, _, ⟨hvalid, rfl⟩, h⟩ := h
  refine ⟨name, ?_⟩
  by_cases hrevalidate : config.revalidate = true
  · simp only [hrevalidate, Bool.true_eq_false, if_false, state_bind_eq_ok, state_lift_eq_ok,
      state_get_eq_ok, state_pure_eq_ok] at h
    obtain ⟨second, last, hsecond, _, _, ⟨rfl, rfl⟩, _, _, ⟨hvalid', rfl⟩, rfl, rfl⟩ := h
    exact ⟨middle, hname, by simpa [hrevalidate] using ⟨first, hfirst⟩, hsecond, hvalid'⟩
  · rw [Bool.not_eq_true] at hrevalidate
    simp only [hrevalidate, if_true, state_pure_eq_ok] at h
    obtain ⟨rfl, rfl⟩ := h
    exact ⟨asked, hname, by simp [hrevalidate], hfirst, hvalid⟩

/-- Whatever the upstream answers, each address returned is an address record under a name that an
acyclic chain of single aliases leads to, in responses to the identifiers and names asked for; it
comes from the last lookup, and passes the policy. Each lookup of a type ends in time. -/
theorem resolver_sound (config : DnsConfig) (around : Surroundings) (parsesAsIp : Bytes → Bool) :
    (∀ hostname r history, resolveForConnect config around parsesAsIp hostname [] = .ok r history →
      ∃ name earlier final, canonicalHostname parsesAsIp hostname = .ok name ∧
        (if config.revalidate then ∃ first, lookup config around name [] = .ok first earlier
          else earlier = []) ∧
        lookup config around name earlier = .ok r history ∧ history = earlier ++ final ∧
        (∀ address ∈ r.addresses, Reached final name config.maxCnameDepth address ∧
          (around.acl history.length address).checkIp address = .ok ()) ∧
        1 ≤ r.addresses.length ∧ r.addresses.length ≤ config.maxAddresses ∧ r.addresses.Nodup) ∧
      ∀ name recordType asked,
        (∃ new, finalState (lookupType config around name recordType) asked = asked ++ new ∧
          new.length ≤ config.maxCnameDepth + 1) ∧
        ∀ turns > config.maxCnameDepth, ∀ t,
          lookupLoop config around recordType turns (.start name) asked ≠ .ok none t := by
  refine ⟨fun hostname r history h => ?_, fun name recordType asked => ⟨?_, ?_⟩⟩
  · obtain ⟨name, earlier, hname, hearlier, hlookup, hvalid⟩ := resolveForConnect_eq_ok h
    obtain ⟨final, hfinal, hnodup, hreached⟩ := lookup_ends.of_ok hlookup
    obtain ⟨hpos, hmax, hcheck⟩ := validateResolution_eq_ok hvalid
    exact ⟨name, earlier, final, hname, hearlier, hlookup, hfinal,
      fun address hmem => ⟨hreached address hmem, hcheck address hmem⟩, hpos, hmax, hnodup⟩
  · refine lookupType_ends.finalState ?_ fun t h => h
    rintro _ _ ⟨final, rfl, hlen, -⟩
    exact ⟨final, rfl, hlen⟩
  · intro turns hturns t heq
    have hloop := lookupLoop_ends around recordType asked (walks_start config name) hturns
    rw [List.append_nil] at hloop
    obtain ⟨_, _, hsome, -⟩ := hloop.of_ok heq
    cases hsome

def Exchange.question (e : Exchange) : GatewayResult (Bytes × UInt16 × UInt16) := do
  let wire ← e.response
  let (name, nameEnd) ← readName wire dnsHeaderBytes
  let recordType ← readU16 wire nameEnd
  let class_ ← readU16 wire (nameEnd + 2)
  return (name, recordType, class_)

namespace Sample

def oneAddress (questionType : Bytes → Bytes) (query : Bytes) : Bytes :=
  let question := query.drop dnsHeaderBytes
  let name := question.take (question.length - 4)
  query.take 2 ++ [129, 128, 0, 1, 0, 1, 0, 0, 0, 0] ++ name ++
    questionType (question.drop (question.length - 4)) ++ [0, 1] ++
    [192, 12, 0, 1, 0, 1, 0, 0, 0, 60, 0, 4, 1, 1, 1, 1]

def upstream (questionType : Bytes → Bytes) : Surroundings where
  randomId _ := .ok 7
  exchange _ query := .ok (oneAddress questionType query)
  acl _ _ := .standard

def one : IpAddr := .v4 ⟨[1, 1, 1, 1], rfl⟩

def noText (_ : Bytes) : Bool := false

def dnsConfig : DnsConfig := {}

def resolving (questionType : Bytes → Bytes) : ResolverM Resolution :=
  resolveForConnect dnsConfig (upstream questionType) noText (ascii "a.b")

lemma resolving_genuine :
    Ends (resolving (List.take 2)) [] (fun r _ => one ∈ r.addresses) fun _ => False := by
  decide +kernel

lemma resolving_other_type :
    Ends (resolving fun _ => [0, 15]) []
      (fun r history => r.addresses = [one] ∧
        history.all (fun e => e.question ≠ .ok (e.name, e.recordType, classIn)) = true)
      fun _ => False := by
  decide +kernel

lemma canonicalHostname_ab : canonicalHostname noText (ascii "a.b") = .ok (ascii "a.b") := by
  decide +kernel

end Sample

open Sample in
theorem resolver_sound_one : ∃ r history, resolving (List.take 2) [] = .ok r history ∧
    one ∈ r.addresses ∧ ∃ final, Reached final (ascii "a.b") 8 one := by
  obtain ⟨r, history, hresolve, hone⟩ := resolving_genuine.exists_ok
  have hsound := resolver_sound dnsConfig (upstream (List.take 2)) noText
  obtain ⟨name, earlier, final, hname, -, -, -, hall, -⟩ := hsound.1 _ _ _ hresolve
  obtain rfl := Except.ok.inj (canonicalHostname_ab.symm.trans hname)
  exact ⟨r, history, hresolve, hone, final, (hall _ hone).1⟩

open Sample in
theorem question_type_ignored : ∃ r history,
    resolving (fun _ => [0, 15]) [] = .ok r history ∧ r.addresses = [one] ∧
    ∀ e ∈ history, e.question ≠ .ok (e.name, e.recordType, classIn) := by
  obtain ⟨r, history, hresolve, hone, hall⟩ := resolving_other_type.exists_ok
  refine ⟨r, history, hresolve, hone, fun e he => ?_⟩
  exact of_decide_eq_true (List.all_eq_true.mp hall e he)

end OnionRoute.GatewayDaemon
