import OnionRoute.DnsEngine.Cache
import OnionRoute.Library.Trace

/-! What the cache keeps over its runs. -/

namespace OnionRoute.DnsEngine

open Library CommonTypes Table
open PacketEngine (Ipv4Addr)

def InPool (address : Ipv4Addr) : Prop :=
  ∃ raw, syntheticFirst ≤ raw ∧ raw ≤ syntheticLast ∧ address = Cache.addressOf raw ∧
    address.d ≠ 0 ∧ address.d ≠ 255

namespace Cache

structure Sound (c : Cache) : Prop where
  ip_of_name : ∀ {n m}, c.byName.lookup n = some m → c.byIp.lookup m.address = some n
  name_of_ip : ∀ {a n}, c.byIp.lookup a = some n → ∃ m, c.byName.lookup n = some m ∧ m.address = a
  mem_lru : ∀ {n}, n ∈ c.lru ↔ ∃ m, c.byName.lookup n = some m
  nodup : c.lru.Nodup
  next : syntheticFirst ≤ c.nextAddress ∧ c.nextAddress ≤ syntheticLast
  pool : ∀ {a n}, c.byIp.lookup a = some n → InPool a

variable {c : Cache} {config : SyntheticDnsConfig} {name : String} {mapping : Mapping} {now : ℕ}

lemma sound_default : default.Sound where
  ip_of_name h := by cases h
  name_of_ip h := by cases h
  mem_lru := by simp [default]
  nodup := List.nodup_nil
  next := by decide
  pool h := by cases h

namespace Sound

lemma keys_perm (hc : c.Sound) : c.byName.keys.Perm c.lru := by
  refine (List.perm_ext_iff_of_nodup c.byName.keys_nodup hc.nodup).mpr fun n => ?_
  rw [hc.mem_lru, mem_keys_iff]

lemma size_eq (hc : c.Sound) : c.byName.size = c.lru.length := by
  rw [← hc.keys_perm.length_eq, size, AList.keys, List.keys, List.length_map]

lemma touch (hc : c.Sound) (h : c.byName.lookup name = some mapping) : (c.touch name).Sound where
  ip_of_name := hc.ip_of_name
  name_of_ip := hc.name_of_ip
  mem_lru := by
    intro n
    by_cases hn : n = name
    · subst hn
      simpa [Cache.touch] using ⟨mapping, h⟩
    · simpa [Cache.touch, hn] using hc.mem_lru
  nodup := by
    refine List.nodup_append.mpr ⟨hc.nodup.filter _, List.nodup_singleton _, ?_⟩
    intro a ha b hb hab
    obtain rfl := List.mem_singleton.mp hb
    simp [hab] at ha
  next := hc.next
  pool := hc.pool

lemma forget (hc : c.Sound) (name : String) : (c.forget name).Sound := by
  cases hname : c.byName.lookup name with
  | none =>
    have hlru : c.lru.filter (· ≠ name) = c.lru := by
      refine List.filter_eq_self.mpr fun n hn => decide_eq_true fun heq => ?_
      obtain ⟨m, hm⟩ := hc.mem_lru.mp (heq ▸ hn)
      rw [hname] at hm
      cases hm
    have heq : c.forget name = c := by rw [Cache.forget, remove, hname, hlru]
    rwa [heq]
  | some mapping =>
    have heq : c.forget name = { c with
        byName := c.byName.erase name
        byIp := c.byIp.erase mapping.address
        lru := c.lru.filter (· ≠ name) } := by rw [Cache.forget, remove, hname]
    rw [heq]
    constructor
    · intro n m hm
      obtain ⟨hne, hm⟩ := lookup_erase_eq_some hm
      -- Another name at the same address would be the name at that address.
      have haddress : m.address ≠ mapping.address := fun h => by
        have hn := hc.ip_of_name hm
        rw [h, hc.ip_of_name hname] at hn
        exact hne (Option.some.inj hn).symm
      rw [lookup_erase_of_ne _ haddress]
      exact hc.ip_of_name hm
    · intro a n hn
      obtain ⟨hne, hn⟩ := lookup_erase_eq_some hn
      obtain ⟨m, hm, rfl⟩ := hc.name_of_ip hn
      have hnn : n ≠ name := by
        rintro rfl
        rw [hname] at hm
        exact hne (congrArg Mapping.address (Option.some.inj hm)).symm
      exact ⟨m, (lookup_erase_of_ne _ hnn).trans hm, rfl⟩
    · intro n
      by_cases hn : n = name
      · subst hn
        simp [AList.lookup_erase]
      · rw [lookup_erase_of_ne _ hn]
        simpa [hn] using hc.mem_lru
    · exact hc.nodup.filter _
    · exact hc.next
    · intro a n hn
      exact hc.pool (lookup_erase_eq_some hn).2

end Sound

lemma lookup_forget (c : Cache) (name n : String) :
    (c.forget name).byName.lookup n = if n = name then none else c.byName.lookup n := by
  have heq : (c.forget name).byName = (c.remove name).byName := rfl
  rw [heq, remove]
  cases hname : c.byName.lookup name with
  | none =>
    split_ifs with hn
    · exact hn ▸ hname
    · rfl
  | some mapping =>
    split_ifs with hn
    · subst hn
      exact AList.lookup_erase _ _
    · exact lookup_erase_of_ne _ hn

lemma forget_foldl {names : List String} :
    ∀ {c : Cache}, c.Sound → (names.foldl Cache.forget c).Sound ∧
      (∀ n, (names.foldl Cache.forget c).byName.lookup n =
        if n ∈ names then none else c.byName.lookup n) ∧
      (names.foldl Cache.forget c).lru.Sublist c.lru := by
  induction names with
  | nil =>
    intro c hc
    exact ⟨hc, by simp, List.Sublist.refl _⟩
  | cons name rest ih =>
    intro c hc
    obtain ⟨hsound, hlookup, hsub⟩ := ih (hc.forget name)
    refine ⟨hsound, fun n => ?_, hsub.trans List.filter_sublist⟩
    rw [List.foldl_cons, hlookup, lookup_forget]
    by_cases hrest : n ∈ rest <;> by_cases hn : n = name <;> simp [hrest, hn]

lemma lookup_purgeExpired (hc : c.Sound) (now : ℕ) (n : String) :
    (c.purgeExpired now).byName.lookup n =
      (c.byName.lookup n).filter fun m => now < m.expiresAt := by
  rw [purgeExpired, (forget_foldl hc).2.1]
  cases hn : c.byName.lookup n with
  | none => simp
  | some m =>
    have hmem : n ∈ (c.byName.entries.filter fun e => e.2.expiresAt ≤ now).map Sigma.fst ↔
        m.expiresAt ≤ now := by
      constructor
      · intro h
        obtain ⟨⟨k, m'⟩, he, rfl⟩ := List.mem_map.mp h
        obtain ⟨he, hexp⟩ := List.mem_filter.mp he
        have hlookup := lookup_eq_some_iff.mpr he
        rw [hn] at hlookup
        obtain rfl := Option.some.inj hlookup
        exact of_decide_eq_true hexp
      · intro h
        exact List.mem_map.mpr ⟨⟨n, m⟩, List.mem_filter.mpr
          ⟨lookup_eq_some_iff.mp hn, decide_eq_true h⟩, rfl⟩
    by_cases hexp : m.expiresAt ≤ now
    · rw [if_pos (hmem.mpr hexp)]
      simp [Option.filter, hexp]
    · rw [if_neg fun h => hexp (hmem.mp h)]
      simp [Option.filter, not_le.mp hexp]

lemma purgeExpired_sound (hc : c.Sound) (now : ℕ) : (c.purgeExpired now).Sound :=
  (forget_foldl hc).1

lemma purgeExpired_lru (hc : c.Sound) (now : ℕ) : (c.purgeExpired now).lru.Sublist c.lru :=
  (forget_foldl hc).2.2

lemma evictOldest_lru (maxEntries : ℕ) (names lru : List String) (c : Cache) :
    evictOldest maxEntries { c with lru := lru } names = evictOldest maxEntries c names := by
  cases names with
  | nil => rfl
  | cons oldest rest =>
    have hremove : ({ c with lru := lru } : Cache).remove oldest =
        { c.remove oldest with lru := lru } := by
      simp only [remove]
      cases c.byName.lookup oldest <;> rfl
    rw [evictOldest, evictOldest, hremove, evictOldest_lru maxEntries rest]

lemma evictOldest_eq {maxEntries : ℕ} {names : List String} :
    ∀ {c : Cache}, c.Sound → c.lru = names → evictOldest maxEntries c names =
      (names.take (names.length + 1 - maxEntries)).foldl forget c := by
  induction names with
  | nil =>
    intro c _ hlru
    rw [evictOldest, List.take_nil, List.foldl_nil, ← hlru]
  | cons oldest rest ih =>
    intro c hc hlru
    have hsize : c.byName.size = rest.length + 1 := by rw [hc.size_eq, hlru, List.length_cons]
    have hrest : (c.forget oldest).lru = rest := by
      have hnodup := hc.nodup
      rw [hlru, List.nodup_cons] at hnodup
      change c.lru.filter (· ≠ oldest) = rest
      rw [hlru, List.filter_cons_of_neg (by simp)]
      exact List.filter_eq_self.mpr fun n hn => decide_eq_true fun h => hnodup.1 (h ▸ hn)
    rw [evictOldest, hsize, List.length_cons]
    split_ifs with hfull
    · have hforget : evictOldest maxEntries (c.remove oldest) rest =
          evictOldest maxEntries (c.forget oldest) rest := (evictOldest_lru _ _ _ _).symm
      have hcount : rest.length + 1 + 1 - maxEntries = rest.length + 1 - maxEntries + 1 := by omega
      rw [hforget, ih (hc.forget oldest) hrest, hcount, List.take_succ_cons, List.foldl_cons]
    · have hcount : rest.length + 1 + 1 - maxEntries = 0 := by omega
      rw [hcount, List.take_zero, List.foldl_nil, ← hlru]

def evicted (config : SyntheticDnsConfig) (c : Cache) : List String :=
  c.lru.take (c.lru.length + 1 - config.maxEntries)

variable (config) in
lemma makeRoom_eq (hc : c.Sound) : c.makeRoom config = (c.evicted config).foldl forget c :=
  evictOldest_eq hc rfl

variable (config) in
lemma lookup_makeRoom (hc : c.Sound) (n : String) : (c.makeRoom config).byName.lookup n =
    if n ∈ c.evicted config then none else c.byName.lookup n := by
  rw [makeRoom_eq config hc]
  exact (forget_foldl hc).2.1 n

variable (config) in
lemma makeRoom_sound (hc : c.Sound) : (c.makeRoom config).Sound := by
  rw [makeRoom_eq config hc]
  exact (forget_foldl hc).1

variable (config) in
lemma makeRoom_lru (hc : c.Sound) : (c.makeRoom config).lru.Sublist c.lru := by
  rw [makeRoom_eq config hc]
  exact (forget_foldl hc).2.2

section Probe

variable {byIp : Table Ipv4Addr String} {left raw next : ℕ} {address : Ipv4Addr}

def InRange (raw : ℕ) : Prop := syntheticFirst ≤ raw ∧ raw ≤ syntheticLast

lemma InRange.nextAfter (h : InRange raw) : InRange (nextAfter raw) := by
  rw [InRange, Cache.nextAfter] at *
  have hle : syntheticFirst ≤ syntheticLast := by decide
  split_ifs with hlast
  · exact ⟨le_rfl, hle⟩
  · omega

lemma probe_inRange (byIp : Table Ipv4Addr String) (left : ℕ) (h : InRange raw) :
    InRange (probe byIp left raw).2 := by
  induction left generalizing raw with
  | zero => exact h
  | succ left ih =>
    rw [probe]
    split_ifs
    · exact h.nextAfter
    · exact ih h.nextAfter

lemma probe_eq_some (h : InRange raw) (hp : (probe byIp left raw).1 = some address) :
    InPool address ∧ byIp.lookup address = none := by
  induction left generalizing raw with
  | zero => cases hp
  | succ left ih =>
    rw [probe] at hp
    split_ifs at hp with hfree
    · obtain rfl := Option.some.inj hp
      exact ⟨⟨raw, h.1, h.2, rfl, hfree.1, hfree.2.1⟩, Option.isSome_eq_false_iff.mp hfree.2.2 |>
        Option.isNone_iff_eq_none.mp⟩
    · exact ih h.nextAfter hp

lemma probe_eq_none (hp : (probe byIp left raw).1 = none) :
    ∀ i < left, ¬ Free byIp (addressOf (nextAfter^[i] raw)) := by
  induction left generalizing raw with
  | zero => exact fun i hi => absurd hi (Nat.not_lt_zero i)
  | succ left ih =>
    rw [probe] at hp
    split_ifs at hp with hfree
    intro i hi
    cases i with
    | zero => exact hfree
    | succ i => exact ih hp i (Nat.lt_of_succ_lt_succ hi)

lemma first_eq : syntheticFirst = 3323068417 := rfl

lemma last_eq : syntheticLast = 3323199486 := rfl

lemma poolSize_eq : poolSize = 131070 := rfl

lemma nextAfter_iterate (i k : ℕ) : nextAfter^[i] (syntheticFirst + k % poolSize) =
    syntheticFirst + (k + i) % poolSize := by
  induction i generalizing k with
  | zero => rfl
  | succ i ih =>
    have hstep : nextAfter (syntheticFirst + k % poolSize) = syntheticFirst + (k + 1) % poolSize := by
      rw [nextAfter, first_eq, last_eq, poolSize_eq]
      split_ifs <;> omega
    rw [Function.iterate_succ_apply, hstep, ih]
    congr 2
    omega

lemma exists_iterate (hraw : InRange raw) (hnext : InRange next) :
    ∃ i < poolSize, nextAfter^[i] raw = next := by
  rw [InRange, first_eq, last_eq] at hraw hnext
  refine ⟨(next + poolSize - raw) % poolSize, Nat.mod_lt _ (by decide), ?_⟩
  have hstart : raw = syntheticFirst + (raw - syntheticFirst) % poolSize := by
    rw [first_eq, poolSize_eq]
    omega
  have hiterate := nextAfter_iterate ((next + poolSize - raw) % poolSize) (raw - syntheticFirst)
  rw [← hstart] at hiterate
  rw [hiterate, first_eq, poolSize_eq]
  omega

lemma pool_taken (hraw : InRange raw) (hp : (probe byIp poolSize raw).1 = none)
    (ha : InPool address) : ∃ n, byIp.lookup address = some n := by
  obtain ⟨next, hfirst, hlast, rfl, hzero, hmax⟩ := ha
  obtain ⟨i, hi, rfl⟩ := exists_iterate hraw ⟨hfirst, hlast⟩
  have hfree := probe_eq_none hp i hi
  cases hlookup : byIp.lookup (addressOf (nextAfter^[i] raw)) with
  | some n => exact ⟨n, rfl⟩
  | none => exact absurd ⟨hzero, hmax, by rw [contains, hlookup]; rfl⟩ hfree

end Probe

lemma Sound.insertMapping (hc : c.Sound) (hname : c.byName.lookup name = none)
    (hip : c.byIp.lookup mapping.address = none) (hpool : InPool mapping.address) {next : ℕ}
    (hnext : InRange next) :
    ((({ c with nextAddress := next } : Cache).insertMapping name mapping).touch name).Sound where
  ip_of_name := by
    intro n m hm
    by_cases hn : n = name
    · subst hn
      obtain rfl := Option.some.inj ((AList.lookup_insert _).symm.trans hm)
      exact AList.lookup_insert _
    · have hm : c.byName.lookup n = some m := (lookup_insert_of_ne _ hn _).symm.trans hm
      have hne : m.address ≠ mapping.address := fun h => by
        rw [← h, hc.ip_of_name hm] at hip
        cases hip
      exact (lookup_insert_of_ne _ hne _).trans (hc.ip_of_name hm)
  name_of_ip := by
    intro a n ha
    by_cases haddress : a = mapping.address
    · subst haddress
      obtain rfl := Option.some.inj ((AList.lookup_insert _).symm.trans ha)
      exact ⟨mapping, AList.lookup_insert _, rfl⟩
    · obtain ⟨m, hm, rfl⟩ := hc.name_of_ip ((lookup_insert_of_ne _ haddress _).symm.trans ha)
      have hn : n ≠ name := by
        rintro rfl
        rw [hname] at hm
        cases hm
      exact ⟨m, (lookup_insert_of_ne _ hn _).trans hm, rfl⟩
  mem_lru := by
    intro n
    by_cases hn : n = name
    · subst hn
      simp [Cache.touch, Cache.insertMapping, AList.lookup_insert]
    · rw [show ((({ c with nextAddress := next } : Cache).insertMapping name mapping).touch
        name).byName.lookup n = c.byName.lookup n from lookup_insert_of_ne _ hn _]
      simpa [Cache.touch, Cache.insertMapping, hn] using hc.mem_lru
  nodup := by
    refine List.nodup_append.mpr ⟨hc.nodup.filter _, List.nodup_singleton _, ?_⟩
    intro a ha b hb hab
    obtain rfl := List.mem_singleton.mp hb
    simp [hab] at ha
  next := hnext
  pool := by
    intro a n ha
    by_cases haddress : a = mapping.address
    · exact haddress ▸ hpool
    · exact hc.pool ((lookup_insert_of_ne _ haddress _).symm.trans ha)

inductive Allocates (config : SyntheticDnsConfig) (now : ℕ) (hostname : String) (c : Cache) :
    OnionResult Ipv4Addr × Cache → Prop
  | found (m : Mapping) : (c.purgeExpired now).byName.lookup hostname = some m →
      Allocates config now hostname c (.ok m.address, (c.purgeExpired now).touch hostname)
  | allocated (room : Cache) (m : Mapping) (next : ℕ) :
      (c.purgeExpired now).byName.lookup hostname = none →
      room = (c.purgeExpired now).makeRoom config → room.byIp.lookup m.address = none →
      InPool m.address → m.expiresAt = now + config.ttl → InRange next →
      Allocates config now hostname c (.ok m.address,
        (({ room with nextAddress := next } : Cache).insertMapping hostname m).touch hostname)
  | exhausted (room : Cache) (next : ℕ) : (c.purgeExpired now).byName.lookup hostname = none →
      room = (c.purgeExpired now).makeRoom config →
      (∀ a, InPool a → ∃ n, room.byIp.lookup a = some n) → InRange next →
      Allocates config now hostname c
        (.error poolExhausted, { room with nextAddress := next })

lemma getOrAllocate_allocates (hc : c.Sound) (config : SyntheticDnsConfig) (now : ℕ)
    (hostname : String) : Allocates config now hostname c (c.getOrAllocate config now hostname) := by
  rw [getOrAllocate]
  cases hlookup : (c.purgeExpired now).byName.lookup hostname with
  | some m => exact .found m hlookup
  | none =>
    have hroom : ((c.purgeExpired now).makeRoom config).Sound :=
      makeRoom_sound config (purgeExpired_sound hc now)
    have hrange := probe_inRange ((c.purgeExpired now).makeRoom config).byIp poolSize hroom.next
    simp only [allocateAddress]
    cases hprobe : (probe ((c.purgeExpired now).makeRoom config).byIp poolSize
      ((c.purgeExpired now).makeRoom config).nextAddress).1 with
    | none => exact .exhausted _ _ hlookup rfl (fun a => pool_taken hroom.next hprobe) hrange
    | some address =>
      obtain ⟨hpool, hfree⟩ := probe_eq_some hroom.next hprobe
      exact .allocated _ ⟨address, now + config.ttl⟩ _ hlookup rfl hfree hpool rfl hrange

lemma Allocates.sound (hc : c.Sound) {hostname : String} {r : OnionResult Ipv4Addr × Cache}
    (h : Allocates config now hostname c r) : r.2.Sound := by
  have hpurged := purgeExpired_sound hc now
  cases h with
  | found m hm => exact hpurged.touch hm
  | allocated room m next hnone hroom hfree hpool _ hrange =>
    subst hroom
    refine (makeRoom_sound config hpurged).insertMapping ?_ hfree hpool hrange
    rw [lookup_makeRoom config hpurged, hnone, ite_self]
  | exhausted room next _ hroom _ hrange =>
    subst hroom
    have hsound : ((c.purgeExpired now).makeRoom config).Sound := makeRoom_sound config hpurged
    exact { hsound with next := hrange }

lemma lookupHostname_sound (hc : c.Sound) (now : ℕ) (address : Ipv4Addr) :
    (c.lookupHostname now address).2.Sound := by
  rw [lookupHostname]
  cases hip : (c.purgeExpired now).byIp.lookup address with
  | none => exact purgeExpired_sound hc now
  | some hostname =>
    obtain ⟨m, hm, -⟩ := (purgeExpired_sound hc now).name_of_ip hip
    exact (purgeExpired_sound hc now).touch hm

inductive Event
  | query (now : ℕ) (hostname : String)
  | lookup (now : ℕ) (address : Ipv4Addr)
  | reset

def step (config : SyntheticDnsConfig) (c : Cache) : Event → Cache × Option String
  | .query now hostname =>
    match c.getOrAllocate config now hostname with
    | (.ok _, c) => (c, some hostname)
    | (.error _, c) => (c, none)
  | .lookup now address =>
    match c.lookupHostname now address with
    | (hostname, c) => (c, hostname)
  | .reset => (default, none)

lemma step_query (config : SyntheticDnsConfig) (c : Cache) (now : ℕ) (hostname : String) :
    (c.step config (.query now hostname)).1 = (c.getOrAllocate config now hostname).2 := by
  rw [step]
  rcases c.getOrAllocate config now hostname with ⟨_ | _, c'⟩ <;> rfl

variable (config) in
lemma step_sound (hc : c.Sound) (e : Event) : (c.step config e).1.Sound := by
  cases e with
  | query now hostname =>
    rw [step_query]
    exact (getOrAllocate_allocates hc config now hostname).sound hc
  | lookup now address => exact lookupHostname_sound hc now address
  | reset => exact sound_default

end Cache

structure History where
  cache : Cache
  uses : List String

namespace History

open Cache (Event)

def step (config : SyntheticDnsConfig) (h : History) (e : Event) : History :=
  ⟨(h.cache.step config e).1, h.uses ++ (h.cache.step config e).2.toList⟩

def run (config : SyntheticDnsConfig) (events : List Event) : History :=
  events.foldl (step config) ⟨.default, []⟩

variable {config : SyntheticDnsConfig} {h : History}

lemma run_induction {P : History → Prop} (hstart : P ⟨.default, []⟩)
    (hstep : ∀ h e, P h → P (h.step config e)) (events : List Event) : P (run config events) := by
  induction events using List.reverseRecOn with
  | nil => exact hstart
  | append_singleton events e ih =>
    rw [run, List.foldl_append]
    exact hstep _ e ih

lemma run_sound (config : SyntheticDnsConfig) (events : List Event) :
    (run config events).cache.Sound :=
  run_induction Cache.sound_default (fun _ e hc => Cache.step_sound config hc e) events

end History

end OnionRoute.DnsEngine
