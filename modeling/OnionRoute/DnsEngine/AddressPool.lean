import OnionRoute.DnsEngine.CacheRuns

/-! The pool of synthetic addresses against the bound on entries. -/

namespace OnionRoute.DnsEngine

open Library CommonTypes
open PacketEngine (Ipv4Addr)

@[irreducible] def usableAddresses : ℕ := 130048

namespace Cache

def poolAddress (i : ℕ) : Ipv4Addr := addressOf (0xc6120000 + 256 * (i / 254) + i % 254 + 1)

lemma addressOf_inj {raw raw' : ℕ} (h : addressOf raw = addressOf raw') (hraw : raw < 4294967296)
    (hraw' : raw' < 4294967296) : raw = raw' := by
  simp only [addressOf, Ipv4Addr.mk.injEq] at h
  obtain ⟨ha, hb, hc, hd⟩ := h
  have ha := congrArg UInt8.toNat ha
  have hb := congrArg UInt8.toNat hb
  have hc := congrArg UInt8.toNat hc
  have hd := congrArg UInt8.toNat hd
  simp only [UInt8.toNat_ofNat'] at ha hb hc hd
  omega

lemma poolAddress_inj {i j : ℕ} (h : poolAddress i = poolAddress j) (hi : i < usableAddresses)
    (hj : j < usableAddresses) : i = j := by
  rw [usableAddresses] at hi hj
  have heq := addressOf_inj h (by omega) (by omega)
  omega

lemma last_octet (raw : ℕ) : (addressOf raw).d.toNat = raw % 256 :=
  UInt8.toNat_ofNat'

lemma inPool_poolAddress {i : ℕ} (hi : i < usableAddresses) : InPool (poolAddress i) := by
  rw [usableAddresses] at hi
  have hoctet := last_octet (0xc6120000 + 256 * (i / 254) + i % 254 + 1)
  refine ⟨_, ?_, ?_, rfl, ?_, ?_⟩
  · rw [first_eq]
    omega
  · rw [last_eq]
    omega
  · intro h
    have hzero : (addressOf (0xc6120000 + 256 * (i / 254) + i % 254 + 1)).d.toNat = 0 :=
      congrArg UInt8.toNat h
    omega
  · intro h
    have hmax : (addressOf (0xc6120000 + 256 * (i / 254) + i % 254 + 1)).d.toNat = 255 :=
      congrArg UInt8.toNat h
    omega

variable {a : Ipv4Addr}

lemma exists_poolAddress (h : InPool a) : ∃ i < usableAddresses, poolAddress i = a := by
  obtain ⟨raw, hfirst, hlast, rfl, hzero, hmax⟩ := h
  rw [first_eq] at hfirst
  rw [last_eq] at hlast
  have hzero : raw % 256 ≠ 0 := fun h => hzero (UInt8.toNat_inj.mp ((last_octet raw).trans h))
  have hmax : raw % 256 ≠ 255 := fun h => hmax (UInt8.toNat_inj.mp ((last_octet raw).trans h))
  refine ⟨(raw - 0xc6120000) / 256 * 254 + (raw % 256 - 1), ?_, ?_⟩
  · rw [usableAddresses]
    omega
  · rw [poolAddress]
    congr 1
    omega

variable {c : Cache} {config : SyntheticDnsConfig}

lemma Sound.card_names (hc : c.Sound) : c.lru.toFinset.card = c.lru.length :=
  List.toFinset_card_of_nodup hc.nodup

lemma Sound.pool_le (hc : c.Sound) (hall : ∀ a, InPool a → ∃ n, c.byIp.lookup a = some n) :
    usableAddresses ≤ c.lru.length := by
  rw [← hc.card_names, ← Finset.card_range usableAddresses]
  refine Finset.card_le_card_of_injOn (fun i => (c.byIp.lookup (poolAddress i)).getD "") ?_ ?_
  · intro i hi
    obtain ⟨n, hn⟩ := hall _ (inPool_poolAddress (Finset.mem_range.mp hi))
    obtain ⟨m, hm, -⟩ := hc.name_of_ip hn
    simpa [hn] using hc.mem_lru.mpr ⟨m, hm⟩
  · intro i hi j hj hij
    have hi := Finset.mem_range.mp hi
    have hj := Finset.mem_range.mp hj
    obtain ⟨n, hn⟩ := hall _ (inPool_poolAddress hi)
    obtain ⟨k, hk⟩ := hall _ (inPool_poolAddress hj)
    obtain rfl : n = k := by simpa [hn, hk] using hij
    obtain ⟨m, hm, hmi⟩ := hc.name_of_ip hn
    obtain ⟨m', hm', hmj⟩ := hc.name_of_ip hk
    rw [hm] at hm'
    obtain rfl := Option.some.inj hm'
    exact poolAddress_inj (hmi.symm.trans hmj) hi hj

lemma Sound.taken (hc : c.Sound) (hlen : usableAddresses ≤ c.lru.length) (ha : InPool a) :
    ∃ n, c.byIp.lookup a = some n := by
  let addressFor := fun n => ((c.byName.lookup n).map Mapping.address).getD ⟨0, 0, 0, 0⟩
  have hmaps : c.lru.toFinset.image addressFor ⊆ (Finset.range usableAddresses).image poolAddress := by
    intro b hb
    obtain ⟨n, hn, rfl⟩ := Finset.mem_image.mp hb
    obtain ⟨m, hm⟩ := hc.mem_lru.mp (List.mem_toFinset.mp hn)
    obtain ⟨i, hi, haddress⟩ := exists_poolAddress (hc.pool (hc.ip_of_name hm))
    refine Finset.mem_image.mpr ⟨i, Finset.mem_range.mpr hi, ?_⟩
    simpa [addressFor, hm] using haddress
  have hinj : Set.InjOn addressFor c.lru.toFinset := by
    intro n hn k hk heq
    obtain ⟨m, hm⟩ := hc.mem_lru.mp (List.mem_toFinset.mp hn)
    obtain ⟨m', hm'⟩ := hc.mem_lru.mp (List.mem_toFinset.mp hk)
    have haddress : m.address = m'.address := by simpa [addressFor, hm, hm'] using heq
    have hn := hc.ip_of_name hm
    rw [haddress, hc.ip_of_name hm'] at hn
    exact (Option.some.inj hn).symm
  have hcard : ((Finset.range usableAddresses).image poolAddress).card ≤
      (c.lru.toFinset.image addressFor).card := by
    rw [Finset.card_image_of_injOn hinj, hc.card_names]
    exact Finset.card_image_le.trans ((Finset.card_range _).trans_le hlen)
  have himage := Finset.eq_of_subset_of_card_le hmaps hcard
  obtain ⟨i, hi, rfl⟩ := exists_poolAddress ha
  have hmem : poolAddress i ∈ c.lru.toFinset.image addressFor :=
    himage ▸ Finset.mem_image_of_mem _ (Finset.mem_range.mpr hi)
  obtain ⟨n, hn, haddress⟩ := Finset.mem_image.mp hmem
  obtain ⟨m, hm⟩ := hc.mem_lru.mp (List.mem_toFinset.mp hn)
  have haddress : m.address = poolAddress i := by simpa [addressFor, hm] using haddress
  exact ⟨n, haddress ▸ hc.ip_of_name hm⟩

end Cache

def UsedBefore (uses : List String) (a b : String) : Prop :=
  ∃ earlier later, uses = earlier ++ later ∧ a ∉ later ∧ b ∈ later

namespace History

open Cache (Event)

variable {config : SyntheticDnsConfig} {h : History} {now : ℕ} {hostname : String} {name : String}

lemma usedBefore_snoc {uses : List String} {a b : String} (h : UsedBefore uses a b)
    (ha : a ≠ name) : UsedBefore (uses ++ [name]) a b := by
  obtain ⟨earlier, later, rfl, hmem, hb⟩ := h
  refine ⟨earlier, later ++ [name], by simp, ?_, List.mem_append_left _ hb⟩
  simp [hmem, ha]

lemma pairwise_touch {uses lru : List String} (h : lru.Pairwise (UsedBefore uses)) (name : String) :
    (lru.filter (· ≠ name) ++ [name]).Pairwise (UsedBefore (uses ++ [name])) := by
  have hne : ∀ a ∈ lru.filter (· ≠ name), a ≠ name := fun a ha =>
    of_decide_eq_true (List.mem_filter.mp ha).2
  refine List.pairwise_append.mpr ⟨?_, List.pairwise_singleton _ _, ?_⟩
  · exact (h.sublist List.filter_sublist).imp_of_mem fun ha _ hab => usedBefore_snoc hab (hne _ ha)
  · intro a ha b hb
    obtain rfl := List.mem_singleton.mp hb
    exact ⟨uses, [b], rfl, by simpa using hne a ha, List.mem_singleton_self b⟩

structure Ordered (config : SyntheticDnsConfig) (h : History) : Prop where
  sound : h.cache.Sound
  bound : h.cache.lru.length ≤ config.maxEntries
  recency : h.cache.lru.Pairwise (UsedBefore h.uses)

lemma length_evicted (hvalid : config.valid) {c : Cache} (hc : c.Sound) :
    (c.makeRoom config).lru.length < config.maxEntries := by
  have hpos := hvalid.1
  have hroom := Cache.makeRoom_sound config hc
  have hsub : (c.makeRoom config).lru ⊆ c.lru.drop (c.lru.length + 1 - config.maxEntries) := by
    intro n hn
    obtain ⟨m, hm⟩ := hroom.mem_lru.mp hn
    rw [Cache.lookup_makeRoom config hc] at hm
    split_ifs at hm with hmem
    have hlru := hc.mem_lru.mpr ⟨m, hm⟩
    rw [← List.take_append_drop (c.lru.length + 1 - config.maxEntries) c.lru] at hlru
    exact (List.mem_append.mp hlru).resolve_left hmem
  have hle := (List.subperm_of_subset hroom.nodup hsub).length_le
  rw [List.length_drop] at hle
  omega

lemma touch_length {c : Cache} : (c.touch name).lru.length ≤ c.lru.length + 1 := by
  rw [Cache.touch, List.length_append]
  have := List.length_filter_le (· ≠ name) c.lru
  simpa using this

lemma touch_length_of_mem {c : Cache} (hmem : name ∈ c.lru) :
    (c.touch name).lru.length ≤ c.lru.length := by
  have hlt : (c.lru.filter (· ≠ name)).length < c.lru.length :=
    List.length_filter_lt_length_iff_exists.mpr ⟨name, hmem, by simp⟩
  rw [Cache.touch, List.length_append]
  exact hlt

lemma Ordered.step (hvalid : config.valid) (ho : Ordered config h) (e : Event) :
    Ordered config (h.step config e) := by
  have hsound := Cache.step_sound config ho.sound e
  have hpurged := fun now => ho.recency.sublist (Cache.purgeExpired_lru ho.sound now)
  have hlength := fun now => (Cache.purgeExpired_lru ho.sound now).length_le.trans ho.bound
  cases e with
  | query now hostname =>
    have halloc := Cache.getOrAllocate_allocates ho.sound config now hostname
    simp only [History.step, Cache.step] at hsound ⊢
    generalize h.cache.getOrAllocate config now hostname = r at halloc hsound ⊢
    cases halloc with
    | found m hm =>
      have hmem := (Cache.purgeExpired_sound ho.sound now).mem_lru.mpr ⟨m, hm⟩
      exact ⟨hsound, (touch_length_of_mem hmem).trans (hlength now), pairwise_touch (hpurged now) _⟩
    | allocated room m next hnone hroom _ _ _ _ =>
      subst hroom
      have hps := Cache.purgeExpired_sound ho.sound now
      refine ⟨hsound, touch_length.trans (Nat.succ_le_of_lt (length_evicted hvalid hps)), ?_⟩
      exact pairwise_touch ((hpurged now).sublist (Cache.makeRoom_lru config hps)) _
    | exhausted room next _ hroom _ _ =>
      subst hroom
      have hps := Cache.purgeExpired_sound ho.sound now
      refine ⟨hsound, (length_evicted hvalid hps).le, ?_⟩
      rw [Option.toList_none, List.append_nil]
      exact (hpurged now).sublist (Cache.makeRoom_lru config hps)
  | lookup now address =>
    simp only [History.step, Cache.step, Cache.lookupHostname] at hsound ⊢
    cases hip : (h.cache.purgeExpired now).byIp.lookup address with
    | none =>
      rw [hip] at hsound
      refine ⟨hsound, hlength now, ?_⟩
      rw [Option.toList_none, List.append_nil]
      exact hpurged now
    | some hostname =>
      rw [hip] at hsound
      have hps := Cache.purgeExpired_sound ho.sound now
      obtain ⟨m, hm, -⟩ := hps.name_of_ip hip
      exact ⟨hsound, (touch_length_of_mem (hps.mem_lru.mpr ⟨m, hm⟩)).trans (hlength now),
        pairwise_touch (hpurged now) _⟩
  | reset => exact ⟨hsound, Nat.zero_le _, List.Pairwise.nil⟩

lemma run_ordered (hvalid : config.valid) (events : List Event) : Ordered config (run config events) :=
  run_induction ⟨Cache.sound_default, Nat.zero_le _, List.Pairwise.nil⟩
    (fun _ e ho => ho.step hvalid e) events

def EvictsLeastRecent (config : SyntheticDnsConfig) (h : History) (now : ℕ) (hostname : String) :
    Prop :=
  let live := (h.cache.purgeExpired now).byName
  let after := (h.cache.getOrAllocate config now hostname).2.byName
  (live.lookup hostname = none → config.maxEntries ≤ live.size →
    ∃ oldest m, live.lookup oldest = some m ∧ after.lookup oldest = none ∧
      (∀ n m, live.lookup n = some m → n ≠ oldest →
        UsedBefore h.uses oldest n ∧ after.lookup n = some m)) ∧
  (live.lookup hostname ≠ none ∨ live.size < config.maxEntries →
    ∀ n m, live.lookup n = some m → after.lookup n = some m)

lemma lookup_after (hc : h.cache.Sound)
    (hnone : (h.cache.purgeExpired now).byName.lookup hostname = none) {n : String}
    (hn : n ≠ hostname) : (h.cache.getOrAllocate config now hostname).2.byName.lookup n =
      if n ∈ (h.cache.purgeExpired now).evicted config then none
      else (h.cache.purgeExpired now).byName.lookup n := by
  rw [← Cache.lookup_makeRoom config (Cache.purgeExpired_sound hc now)]
  have halloc := Cache.getOrAllocate_allocates hc config now hostname
  generalize h.cache.getOrAllocate config now hostname = r at halloc
  cases halloc with
  | found m hm =>
    rw [hnone] at hm
    cases hm
  | allocated room m next _ hroom _ _ _ _ =>
    subst hroom
    exact Table.lookup_insert_of_ne _ hn _
  | exhausted room next _ hroom _ _ =>
    subst hroom
    rfl

lemma Ordered.evicts (ho : Ordered config h) (hvalid : config.valid) (now : ℕ) (hostname : String) :
    EvictsLeastRecent config h now hostname := by
  have hps := Cache.purgeExpired_sound ho.sound now
  have hlen := (Cache.purgeExpired_lru ho.sound now).length_le.trans ho.bound
  have horder := ho.recency.sublist (Cache.purgeExpired_lru ho.sound now)
  have hpos := hvalid.1
  have hne {n : String} {m : Mapping}
      (hnone : (h.cache.purgeExpired now).byName.lookup hostname = none)
      (hm : (h.cache.purgeExpired now).byName.lookup n = some m) : n ≠ hostname := by
    rintro rfl
    rw [hnone] at hm
    cases hm
  refine ⟨fun hnone hfull => ?_, fun hroom n m hm => ?_⟩
  · rw [hps.size_eq] at hfull
    obtain ⟨oldest, rest, hlru⟩ : ∃ oldest rest, (h.cache.purgeExpired now).lru = oldest :: rest :=
      List.exists_cons_of_length_pos (by omega)
    have hevicted : (h.cache.purgeExpired now).evicted config = [oldest] := by
      have hcount : (h.cache.purgeExpired now).lru.length + 1 - config.maxEntries = 1 := by omega
      rw [Cache.evicted, hcount, hlru]
      rfl
    obtain ⟨m, hm⟩ := hps.mem_lru.mp (hlru ▸ List.mem_cons_self)
    refine ⟨oldest, m, hm, ?_, fun n k hk hn => ⟨?_, ?_⟩⟩
    · rw [lookup_after ho.sound hnone (hne hnone hm), hevicted, if_pos (List.mem_singleton_self _)]
    · rw [hlru, List.pairwise_cons] at horder
      have hmem := hps.mem_lru.mpr ⟨k, hk⟩
      rw [hlru] at hmem
      exact horder.1 n ((List.mem_cons.mp hmem).resolve_left hn)
    · rw [lookup_after ho.sound hnone (hne hnone hk), hevicted,
        if_neg fun hmem => hn (List.mem_singleton.mp hmem), hk]
  · by_cases hnone : (h.cache.purgeExpired now).byName.lookup hostname = none
    · have hsize := hroom.resolve_left fun hsome => hsome hnone
      rw [hps.size_eq] at hsize
      have hevicted : (h.cache.purgeExpired now).evicted config = [] := by
        have hcount : (h.cache.purgeExpired now).lru.length + 1 - config.maxEntries = 0 := by omega
        rw [Cache.evicted, hcount, List.take_zero]
      rw [lookup_after ho.sound hnone (hne hnone hm), hevicted, if_neg List.not_mem_nil, hm]
    · obtain ⟨k, hk⟩ := Option.ne_none_iff_exists'.mp hnone
      rw [Cache.getOrAllocate, hk]
      exact hm

lemma Ordered.allocates (ho : Ordered config h) (hvalid : config.valid)
    (hmax : config.maxEntries ≤ usableAddresses) (now : ℕ) (hostname : String) :
    ∃ a, (h.cache.getOrAllocate config now hostname).1 = .ok a := by
  have halloc := Cache.getOrAllocate_allocates ho.sound config now hostname
  have hps := Cache.purgeExpired_sound ho.sound now
  generalize h.cache.getOrAllocate config now hostname = r at halloc
  cases halloc with
  | found m _ => exact ⟨_, rfl⟩
  | allocated room m next _ _ _ _ _ _ => exact ⟨_, rfl⟩
  | exhausted room next _ hroom hall _ =>
    subst hroom
    have hle := (Cache.makeRoom_sound config hps).pool_le hall
    have hlt := length_evicted hvalid hps
    omega

section Filling

def fillName (i : ℕ) : String :=
  String.ofList ((Nat.digits 26 (i + 1)).map fun d => Char.ofNat (97 + d))

def filling (k : ℕ) : List Event := (List.range k).map fun i => .query 0 (fillName i)

lemma fillName_injective : Function.Injective fillName := by
  have hback : ∀ i, ((Nat.digits 26 (i + 1)).map fun d => Char.ofNat (97 + d)).map
      (fun ch => ch.toNat - 97) = Nat.digits 26 (i + 1) := by
    intro i
    rw [List.map_map]
    refine (List.map_congr_left fun d hd => ?_).trans (List.map_id _)
    have hlt := Nat.digits_lt_base (by norm_num) hd
    interval_cases d <;> rfl
  intro i j h
  have hchars := congrArg (List.map fun ch => ch.toNat - 97) (String.ofList_injective h)
  rw [hback, hback] at hchars
  exact Nat.succ_injective (Nat.digits.injective 26 hchars)

lemma run_filling_succ (config : SyntheticDnsConfig) (k : ℕ) : run config (filling (k + 1)) =
    (run config (filling k)).step config (.query 0 (fillName k)) := by
  rw [run, run, filling, filling, List.range_succ, List.map_append, List.foldl_append]
  rfl

variable {c : Cache}

lemma length_purgeExpired (hc : c.Sound)
    (hlive : ∀ n m, c.byName.lookup n = some m → now < m.expiresAt) :
    (c.purgeExpired now).lru.length = c.lru.length := by
  refine ((List.perm_ext_iff_of_nodup (Cache.purgeExpired_sound hc now).nodup hc.nodup).mpr
    fun n => ?_).length_eq
  rw [(Cache.purgeExpired_sound hc now).mem_lru, hc.mem_lru, Cache.lookup_purgeExpired hc]
  constructor
  · rintro ⟨m, hm⟩
    exact ⟨m, (Option.filter_eq_some_iff.mp hm).1⟩
  · rintro ⟨m, hm⟩
    exact ⟨m, Option.filter_eq_some_iff.mpr ⟨hm, decide_eq_true (hlive n m hm)⟩⟩

/-- The cache holds the first names of the filling, and none of them has expired. -/
structure Filled (k : ℕ) (c : Cache) : Prop where
  sound : c.Sound
  length : c.lru.length = k
  names : ∀ n m, c.byName.lookup n = some m → 0 < m.expiresAt ∧ ∃ i < k, n = fillName i

lemma Filled.purge {k : ℕ} (h : Filled k c) : Filled k (c.purgeExpired 0) where
  sound := Cache.purgeExpired_sound h.sound 0
  length := (length_purgeExpired h.sound fun n m hm => (h.names n m hm).1).trans h.length
  names n m hm := by
    rw [Cache.lookup_purgeExpired h.sound] at hm
    exact h.names n m (Option.filter_eq_some_iff.mp hm).1

lemma Filled.lookup_next {k : ℕ} (h : Filled k c) : c.byName.lookup (fillName k) = none := by
  refine Option.eq_none_iff_forall_ne_some.mpr fun m hm => ?_
  obtain ⟨-, i, hi, heq⟩ := h.names _ m hm
  exact hi.ne (fillName_injective heq).symm

lemma Filled.makeRoom_eq {k : ℕ} (h : Filled k c) (hmax : k < config.maxEntries) :
    c.makeRoom config = c := by
  rw [Cache.makeRoom_eq config h.sound, Cache.evicted, h.length,
    show k + 1 - config.maxEntries = 0 by omega, List.take_zero, List.foldl_nil]

lemma run_filling (hvalid : config.valid) (hmax : usableAddresses < config.maxEntries) {k : ℕ}
    (hk : k ≤ usableAddresses) : Filled k (run config (filling k)).cache := by
  induction k with
  | zero => exact ⟨run_sound config _, rfl, fun n m hm => by cases hm⟩
  | succ k ih =>
    have h := ih (Nat.le_of_succ_le hk)
    have hsound := run_sound config (filling (k + 1))
    have halloc := Cache.getOrAllocate_allocates h.sound config 0 (fillName k)
    rw [run_filling_succ, History.step, Cache.step_query] at hsound ⊢
    generalize (run config (filling k)).cache.getOrAllocate config 0 (fillName k) = r
      at halloc hsound ⊢
    generalize (run config (filling k)).cache = c at halloc h
    replace h := h.purge
    cases halloc with
    | found m hm =>
      rw [h.lookup_next] at hm
      cases hm
    | allocated room m next hnone hroomeq _ _ hexpires _ =>
      rw [h.makeRoom_eq (by omega)] at hroomeq
      subst hroomeq
      refine ⟨hsound, ?_, fun n m' hm' => ?_⟩
      · have hfilter : (c.purgeExpired 0).lru.filter (· ≠ fillName k) = (c.purgeExpired 0).lru := by
          refine List.filter_eq_self.mpr fun n hn => decide_eq_true ?_
          rintro rfl
          obtain ⟨m', hm'⟩ := h.sound.mem_lru.mp hn
          rw [h.lookup_next] at hm'
          cases hm'
        change ((c.purgeExpired 0).lru.filter (· ≠ fillName k) ++ [fillName k]).length = k + 1
        rw [hfilter, List.length_append, h.length, List.length_singleton]
      · have hpos : 0 < config.ttl := Nat.pos_of_ne_zero hvalid.2.2.1
        by_cases hn : n = fillName k
        · subst hn
          obtain rfl := Option.some.inj ((AList.lookup_insert _).symm.trans hm')
          exact ⟨by omega, k, Nat.lt_succ_self k, rfl⟩
        · obtain ⟨hlive, i, hi, heq⟩ :=
            h.names n m' ((Table.lookup_insert_of_ne _ hn _).symm.trans hm')
          exact ⟨hlive, i, hi.trans (Nat.lt_succ_self k), heq⟩
    | exhausted room next _ hroomeq hall _ =>
      rw [h.makeRoom_eq (by omega)] at hroomeq
      subst hroomeq
      have hle := h.sound.pool_le hall
      rw [h.length] at hle
      omega

lemma exhausted (hvalid : config.valid) (hmax : usableAddresses < config.maxEntries) :
    ((run config (filling usableAddresses)).cache.getOrAllocate config 0
      (fillName usableAddresses)).1 = .error Cache.poolExhausted := by
  have h := run_filling hvalid hmax le_rfl
  have halloc := Cache.getOrAllocate_allocates h.sound config 0 (fillName usableAddresses)
  generalize (run config (filling usableAddresses)).cache.getOrAllocate config 0
    (fillName usableAddresses) = r at halloc
  replace h := h.purge
  cases halloc with
  | found m hm =>
    rw [h.lookup_next] at hm
    cases hm
  | allocated room m next _ hroomeq hfree hpool _ _ =>
    rw [h.makeRoom_eq hmax] at hroomeq
    subst hroomeq
    obtain ⟨n, hn⟩ := h.sound.taken h.length.ge hpool
    rw [hn] at hfree
    cases hfree
  | exhausted room next _ _ _ _ => rfl

end Filling

end History

open History

/-- A call always finds an address, evicting the least recently used entry at the bound, exactly
when the bound does not exceed the usable addresses. -/
theorem allocation_iff {config : SyntheticDnsConfig} (hvalid : config.valid) :
    (∀ events now hostname,
      (∃ a, ((run config events).cache.getOrAllocate config now hostname).1 = .ok a) ∧
        EvictsLeastRecent config (run config events) now hostname) ↔
      config.maxEntries ≤ usableAddresses := by
  constructor
  · intro hall
    by_contra hlt
    obtain ⟨a, ha⟩ := (hall (filling usableAddresses) 0 (fillName usableAddresses)).1
    rw [exhausted hvalid (not_le.mp hlt)] at ha
    cases ha
  · intro hmax events now hostname
    have ho := run_ordered hvalid events
    exact ⟨ho.allocates hvalid hmax now hostname, ho.evicts hvalid now hostname⟩

theorem allocation_default : ({} : SyntheticDnsConfig).valid ∧
    ∀ events now hostname,
      ∃ a, ((run {} events).cache.getOrAllocate {} now hostname).1 = .ok a := by
  have hvalid : ({} : SyntheticDnsConfig).valid := by decide
  have hmax : (4096 : ℕ) ≤ usableAddresses := by
    rw [usableAddresses]
    norm_num
  exact ⟨hvalid, fun events now hostname => ((allocation_iff hvalid).mpr hmax events now hostname).1⟩

theorem pool_exhausted : (⟨poolSize, 30 * nanosPerSecond⟩ : SyntheticDnsConfig).valid ∧
    ((run ⟨poolSize, 30 * nanosPerSecond⟩ (filling usableAddresses)).cache.getOrAllocate
      ⟨poolSize, 30 * nanosPerSecond⟩ 0 (fillName usableAddresses)).1 =
        .error Cache.poolExhausted := by
  have hvalid : (⟨poolSize, 30 * nanosPerSecond⟩ : SyntheticDnsConfig).valid := by decide
  refine ⟨hvalid, exhausted hvalid ?_⟩
  rw [usableAddresses]
  decide

/-- In every run the two maps are inverse to each other, the order of use lists the names of the
entries from the least recently used on, the entries keep to their bound and their addresses to the
pool, and room is made by removing the least recently used of the live entries. -/
theorem cache_invariant {config : SyntheticDnsConfig} (hvalid : config.valid) (events : List Cache.Event) :
    let h := run config events
    (∀ n a, (∃ m, h.cache.byName.lookup n = some m ∧ m.address = a) ↔
      h.cache.byIp.lookup a = some n) ∧
    h.cache.lru.Perm h.cache.byName.keys ∧ h.cache.lru.Pairwise (UsedBefore h.uses) ∧
    h.cache.byName.size ≤ config.maxEntries ∧
    (∀ n m, h.cache.byName.lookup n = some m → InPool m.address) ∧
    ∀ now hostname, EvictsLeastRecent config h now hostname := by
  intro h
  have ho : Ordered config h := run_ordered hvalid events
  have hc := ho.sound
  refine ⟨fun n a => ⟨?_, hc.name_of_ip⟩, hc.keys_perm.symm, ho.recency,
    hc.size_eq.trans_le ho.bound, fun n m hm => hc.pool (hc.ip_of_name hm), ho.evicts hvalid⟩
  rintro ⟨m, hm, rfl⟩
  exact hc.ip_of_name hm

theorem cache_invariant_default : ({} : SyntheticDnsConfig).valid ∧
    (run {} [.query 0 "a.example", .query 1 "b.example", .lookup 2 ⟨198, 18, 0, 1⟩]).cache.lru =
      ["b.example", "a.example"] ∧
    EvictsLeastRecent {} (run {} [.query 0 "a.example", .query 1 "b.example"]) 2 "c.example" :=
  ⟨by decide, by decide +kernel, (cache_invariant (by decide) _).2.2.2.2.2 2 "c.example"⟩

end OnionRoute.DnsEngine
