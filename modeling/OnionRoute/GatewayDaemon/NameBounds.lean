import OnionRoute.DnsEngine.Names
import OnionRoute.GatewayDaemon.DnsWire
import OnionRoute.GatewayProtocol.Framing

/-! The offset a name reader returns: the end of the octets of the name itself. -/

namespace OnionRoute.GatewayDaemon

open Library
open DnsEngine (OwnEnd EncodedName)
open GatewayProtocol (usizeMax)

-- The largest length of a slice.
def isizeMax : ℕ := 9223372036854775807

def usizeAdd (a b : ℕ) : Option ℕ :=
  if a + b ≤ usizeMax then some (a + b) else none

def slice (wire : Bytes) (first finish : ℕ) : Option Bytes :=
  if first ≤ finish ∧ finish ≤ wire.length then some ((wire.take finish).drop first) else none

/-- What may panic in a turn of `read_name` at `cursor`, its additions and its slice; `skip_name`
and the reader of the gateway do part of it. -/
def nameTurn (wire : Bytes) (cursor : ℕ) : Option Unit :=
  match wire[cursor]? with
  | none => some ()
  | some length =>
    if length &&& 0xc0 = 0xc0 then do
      let second ← usizeAdd cursor 1
      if wire[second]? ≠ none then
        let _ ← usizeAdd cursor 2
    else if length &&& 0xc0 ≠ 0 then
      some ()
    else do
      let cursor ← usizeAdd cursor 1
      if length ≠ 0 then
        let finish ← usizeAdd cursor length.toNat
        if finish ≤ wire.length then
          let _ ← slice wire cursor finish

lemma usizeAdd_eq_some {a b : ℕ} (h : a + b ≤ usizeMax) : usizeAdd a b = some (a + b) := if_pos h

lemma nameTurn_eq_some {wire : Bytes} (h : wire.length ≤ isizeMax) (cursor : ℕ) :
    nameTurn wire cursor = some () := by
  rw [nameTurn]
  cases hlength : wire[cursor]? with
  | none => rfl
  | some length =>
    have hcursor : cursor < wire.length := (List.getElem?_eq_some_iff.mp hlength).1
    have hoctet := length.toNat_lt
    have hmax : isizeMax + 258 < usizeMax := by decide
    have hone := usizeAdd_eq_some (a := cursor) (b := 1) (by omega)
    have htwo := usizeAdd_eq_some (a := cursor) (b := 2) (by omega)
    have hlabel := usizeAdd_eq_some (a := cursor + 1) (b := length.toNat) (by omega)
    simp only [hone, htwo, hlabel, Option.bind_eq_bind, Option.bind_some]
    split_ifs with hpointer hhigh hsecond hzero hbound
    all_goals first | rfl | skip
    rw [slice, if_pos ⟨by omega, hbound⟩]
    rfl

section Turns

variable {wire : Bytes} {cursor : ℕ} {length : UInt8}

lemma usizeAdd_eq_some_iff {a b c : ℕ} : usizeAdd a b = some c ↔ a + b ≤ usizeMax ∧ a + b = c := by
  rw [usizeAdd]
  split_ifs with h <;> simp [h]

/-- What a turn that does not panic computes: the end after a pointer, the end after the root, the
end of a label and its octets. -/
lemma nameTurn_computes (h : nameTurn wire cursor = some ()) (hlength : wire[cursor]? = some length) :
    (length &&& 0xc0 = 0xc0 → wire[cursor + 1]? ≠ none → usizeAdd cursor 2 = some (cursor + 2)) ∧
    (length &&& 0xc0 = 0 → usizeAdd cursor 1 = some (cursor + 1) ∧
      (length ≠ 0 → cursor + 1 + length.toNat ≤ wire.length →
        usizeAdd (cursor + 1) length.toNat = some (cursor + 1 + length.toNat) ∧
        slice wire (cursor + 1) (cursor + 1 + length.toNat) =
          some ((wire.drop (cursor + 1)).take length.toNat))) := by
  rw [nameTurn] at h
  simp only [hlength] at h
  constructor
  · intro hpointer hsecond
    rw [if_pos hpointer, Option.bind_eq_bind, Option.bind_eq_some_iff] at h
    obtain ⟨second, hone, h⟩ := h
    obtain ⟨-, rfl⟩ := usizeAdd_eq_some_iff.mp hone
    rw [if_pos hsecond] at h
    simp only [Option.bind_eq_some_iff] at h
    obtain ⟨finish, htwo, -⟩ := h
    obtain ⟨-, rfl⟩ := usizeAdd_eq_some_iff.mp htwo
    exact htwo
  · intro hlow
    rw [if_neg (by rw [hlow]; decide), if_neg (not_not.mpr hlow), Option.bind_eq_bind,
      Option.bind_eq_some_iff] at h
    obtain ⟨first, hone, h⟩ := h
    obtain ⟨-, rfl⟩ := usizeAdd_eq_some_iff.mp hone
    refine ⟨hone, fun hzero hbound => ?_⟩
    rw [if_pos hzero] at h
    simp only [Option.bind_eq_bind, Option.bind_eq_some_iff] at h
    obtain ⟨finish, hend, h⟩ := h
    obtain ⟨-, rfl⟩ := usizeAdd_eq_some_iff.mp hend
    refine ⟨hend, ?_⟩
    rw [slice, if_pos ⟨by omega, hbound⟩, List.drop_take]
    congr 2
    omega

lemma dnsStep_computes {r : DnsEngine.NameReader} (h : nameTurn wire r.cursor = some ()) :
    (∀ next, r.step wire = .ok (.inl next) →
      (∃ finish, usizeAdd r.cursor 2 = some finish ∧
        next.consumedEnd = some (r.consumedEnd.getD finish)) ∨
      ∃ first label, usizeAdd r.cursor 1 = some first ∧
        usizeAdd first label.length = some next.cursor ∧ slice wire first next.cursor = some label ∧
        next.labels = r.labels ++ [label.map toAsciiLowercase]) ∧
    ∀ result, r.step wire = .ok (.inr result) →
      ∃ finish, usizeAdd r.cursor 1 = some finish ∧ result.2 = r.consumedEnd.getD finish := by
  constructor
  · intro next hstep
    cases DnsEngine.NameReader.moves_of_step hstep with
    | jump length second hlength hpointer hsecond _ _ =>
      exact .inl ⟨_, (nameTurn_computes h hlength).1 hpointer (by simp [hsecond]), rfl⟩
    | label length hlength hlow hne _ hbound _ =>
      obtain ⟨hone, hlabel⟩ := (nameTurn_computes h hlength).2 hlow
      obtain ⟨hend, hslice⟩ := hlabel hne hbound
      have hsize : ((wire.drop (r.cursor + 1)).take length.toNat).length = length.toNat := by
        rw [List.length_take, List.length_drop]
        omega
      exact .inr ⟨_, _, hone, hsize.symm ▸ hend, hslice, rfl⟩
  · intro result hstep
    obtain ⟨hzero, -, -, rfl⟩ := DnsEngine.NameReader.step_eq_done hstep
    exact ⟨_, ((nameTurn_computes h hzero).2 (by decide)).1, rfl⟩

lemma skipLabels_computes {left finish : ℕ} (h : nameTurn wire cursor = some ())
    (hskip : DnsEngine.skipLabels wire left cursor = .ok finish) :
    usizeAdd cursor 2 = some finish ∨ usizeAdd cursor 1 = some finish ∨
      ∃ first length next later, usizeAdd cursor 1 = some first ∧
        usizeAdd first length = some next ∧ DnsEngine.skipLabels wire later next = .ok finish := by
  rw [DnsEngine.skipLabels.eq_def] at hskip
  cases hlength : wire[cursor]? with
  | none => simp [hlength] at hskip
  | some length =>
    obtain ⟨hjump, hlow⟩ := nameTurn_computes h hlength
    by_cases hpointer : length &&& 0xc0 = 0xc0
    · simp only [hlength, if_pos hpointer] at hskip
      split_ifs at hskip with hsecond
      exact .inl (Except.ok.inj hskip ▸ hjump hpointer hsecond)
    · simp only [hlength, if_neg hpointer] at hskip
      split at hskip
      · cases hskip
      · split_ifs at hskip with hhigh hzero hbound
        · exact .inr (.inl (Except.ok.inj hskip ▸ (hlow (not_not.mp hhigh)).1))
        · obtain ⟨hone, hlabel⟩ := hlow (not_not.mp hhigh)
          exact .inr (.inr ⟨_, _, _, _, hone, (hlabel hzero (by omega)).1, hskip⟩)

end Turns

lemma NameReader.run_ownEnd {wire : Bytes} {turns : ℕ} {r : NameReader} {result : Bytes × ℕ}
    (h : r.run wire turns = .ok result) :
    (∀ finish, r.consumedEnd = some finish → result.2 = finish) ∧
      (r.consumedEnd = none → OwnEnd wire r.cursor result.2) := by
  induction turns generalizing r with
  | zero => cases h
  | succ turns ih =>
    rw [run] at h
    obtain ⟨next, hstep, h⟩ := Library.bind_eq_ok.mp h
    rw [step] at hstep
    split at hstep
    · cases hstep
    split at hstep
    · cases hstep
    rename_i length hlength
    by_cases hpointer : length &&& 0xc0 = 0xc0
    · rw [if_pos hpointer] at hstep
      split at hstep
      · cases hstep
      rename_i second hsecond
      simp only at hstep
      split_ifs at hstep
      obtain rfl := Except.ok.inj hstep
      -- The first pointer fixes the end that is returned.
      have hjumped := (ih h).1 _ rfl
      refine ⟨fun finish hend => by rw [hjumped, hend]; rfl, fun hend => ?_⟩
      rw [hjumped, hend]
      exact .pointer hlength hpointer hsecond
    rw [if_neg hpointer] at hstep
    split at hstep
    · cases hstep
    rename_i hhigh
    split at hstep
    · rename_i hzero
      split_ifs at hstep
      obtain rfl := Except.ok.inj hstep
      obtain rfl := Except.ok.inj h
      refine ⟨fun finish hend => by rw [hend]; rfl, fun hend => ?_⟩
      rw [hend]
      exact .root (hzero ▸ hlength)
    · rename_i hzero
      simp only at hstep
      split at hstep
      · cases hstep
      rename_i hlabel
      obtain rfl := Except.ok.inj hstep
      exact ⟨(ih h).1, fun hend => .label hlength (not_not.mp hhigh) hzero (by omega)
        ((ih h).2 hend)⟩

structure InBounds (read : Bytes → ℕ → Option ℕ) : Prop where
  bounds {wire : Bytes} {start finish : ℕ} : read wire start = some finish →
    start < finish ∧ finish ≤ wire.length
  own {wire : Bytes} {start finish : ℕ} : read wire start = some finish →
    ∃ name, EncodedName name ∧ wire.drop start = name ++ wire.drop finish
  free {wire name rest : Bytes} {start finish : ℕ} : read wire start = some finish →
    EncodedName name → wire.drop start = name ++ rest → finish = start + name.length

lemma inBounds_of_ownEnd {read : Bytes → ℕ → Option ℕ}
    (h : ∀ {wire start finish}, read wire start = some finish → OwnEnd wire start finish) :
    InBounds read where
  bounds hread := (h hread).bounds
  own hread := (h hread).encoded
  free {wire name rest start finish} hread hname hdrop := by
    obtain ⟨own, hown, hdrop'⟩ := (h hread).encoded
    obtain ⟨hlower, hupper⟩ := (h hread).bounds
    obtain ⟨rfl, -⟩ := hname.inj hown (hdrop.symm.trans hdrop')
    have hlength := congrArg List.length hdrop'
    simp only [List.length_drop, List.length_append] at hlength
    omega

theorem nameReaders_inBounds :
    (∀ wire : Bytes, wire.length ≤ isizeMax → ∀ cursor, nameTurn wire cursor = some ()) ∧
    (∀ wire start, ∃ turns, (DnsEngine.NameReader.start start).run wire turns =
      some (DnsEngine.readName wire start)) ∧
    InBounds (fun wire start => (DnsEngine.readName wire start).toOption.map Prod.snd) ∧
    InBounds (fun wire start => (DnsEngine.skipName wire start).toOption) ∧
    InBounds (fun wire start => (readName wire start).toOption.map Prod.snd) := by
  refine ⟨fun _ => nameTurn_eq_some, fun wire start => ⟨_, DnsEngine.run_enough wire start⟩,
    inBounds_of_ownEnd ?_, inBounds_of_ownEnd ?_, inBounds_of_ownEnd ?_⟩
  · intro wire start finish h
    cases hread : DnsEngine.readName wire start with
    | error e => simp [hread, Except.toOption] at h
    | ok result =>
      obtain rfl : result.2 = finish := by simpa [hread, Except.toOption] using h
      exact (DnsEngine.readName_eq_ok.mp hread).ownEnd rfl
  · intro wire start finish h
    cases hread : DnsEngine.skipName wire start with
    | error e => simp [hread, Except.toOption] at h
    | ok result =>
      obtain rfl : result = finish := by simpa [hread, Except.toOption] using h
      exact DnsEngine.skipLabels_ownEnd hread
  · intro wire start finish h
    cases hread : readName wire start with
    | error e => simp [hread, Except.toOption] at h
    | ok result =>
      obtain rfl : result.2 = finish := by simpa [hread, Except.toOption] using h
      exact (NameReader.run_ownEnd hread).2 rfl

end OnionRoute.GatewayDaemon
