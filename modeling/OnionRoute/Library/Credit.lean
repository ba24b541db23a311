import Mathlib.Data.List.Infix
import Mathlib.Tactic

/-! Credit-based flow control between two peers over FIFO links: a `Ledger` for a window that exists
from the start, and a `Course` for one that its reader announces. -/

namespace OnionRoute.Library

@[ext] structure Ledger where
  send : ℕ
  data : ℕ
  credit : ℕ
  recv : ℕ

namespace Ledger

structure Step (maximum : ℕ) (l l' : Ledger) (spent taken granted restored : ℕ) : Prop where
  spends : spent ≤ l.send
  takes : taken ≤ l.recv
  room : granted = 0 ∨ l.recv + granted ≤ maximum
  send : l'.send = l.send - spent + restored
  recv : l'.recv = l.recv - taken + granted
  data : l'.data + taken ≤ l.data + spent
  credit : l'.credit + restored ≤ l.credit + granted

structure Safe (maximum : ℕ) (l : Ledger) : Prop where
  covered : l.send + l.data + l.credit ≤ l.recv
  limit : l.recv ≤ maximum

variable {l l' : Ledger}

lemma Step.safe {maximum spent taken granted restored : ℕ}
    (h : Step maximum l l' spent taken granted restored) (hs : l.Safe maximum) :
    l'.Safe maximum := by
  obtain ⟨hcovered, hlimit⟩ := hs
  obtain ⟨hspends, htakes, hroom, hsend, hrecv, hdata, hcredit⟩ := h
  constructor <;> omega

lemma Step.of_le {maximum : ℕ} (hs : l'.send = l.send) (hd : l'.data ≤ l.data)
    (hc : l'.credit ≤ l.credit) (hr : l'.recv = l.recv) : Step maximum l l' 0 0 0 0 :=
  ⟨Nat.zero_le _, Nat.zero_le _, .inl rfl, hs, hr, hd, hc⟩

end Ledger

namespace Credit

inductive Notice
  | offer (window : ℕ)
  | answer (window : ℕ)
  | credit (amount : ℕ)
  | close
  deriving DecidableEq

def Notice.amount : Notice → ℕ
  | offer n | answer n | credit n => n
  | close => 0

def Notice.starts : Notice → Bool
  | offer _ | answer _ => true
  | credit _ | close => false

def total (pipe : List Notice) : ℕ :=
  (pipe.map Notice.amount).sum

def credits (pipe : List Notice) : ℕ :=
  (pipe.map fun | .credit c => c | _ => 0).sum

def started (pipe : List Notice) : Bool :=
  pipe.any Notice.starts

def early : List Notice → ℕ
  | [] => 0
  | n :: pipe => if n.starts then 0 else n.amount + early pipe

def later : List Notice → ℕ
  | [] => 0
  | n :: pipe => if n.starts then n.amount + total pipe else later pipe

variable {n : Notice} {pipe rest : List Notice}

@[simp] lemma total_cons : total (n :: pipe) = n.amount + total pipe := by
  simp [total]

@[simp] lemma total_append : total (pipe ++ rest) = total pipe + total rest := by
  simp [total]

lemma later_append : later (pipe ++ rest) =
    if started pipe then later pipe + total rest else later rest := by
  induction pipe with
  | nil => rfl
  | cons n pipe ih => cases hn : n.starts <;> simp [later, started, hn, ih, Nat.add_assoc]

lemma early_append : early (pipe ++ rest) =
    if started pipe then early pipe else early pipe + early rest := by
  induction pipe with
  | nil => simp [early, started]
  | cons n pipe ih =>
    cases hn : n.starts with
    | true => simp [early, started, hn]
    | false =>
      have hstart : started (n :: pipe) = started pipe := by simp [started, hn]
      simp only [List.cons_append, early, hn, ih, hstart, Bool.false_eq_true, if_false]
      split <;> omega

lemma later_of_not_started (h : started pipe = false) : later pipe = 0 := by
  have happend : later (pipe ++ []) = _ := later_append
  rwa [List.append_nil, h] at happend

lemma started_sublist (h : rest.Sublist pipe) (hn : started pipe = false) :
    started rest = false := by
  simp only [started, List.any_eq_false] at hn ⊢
  exact fun n hm => hn n (h.subset hm)

lemma later_close : later (pipe ++ [.close]) = later pipe := by
  cases hs : started pipe with
  | true => simp [later_append, hs, total, Notice.amount]
  | false => simp [later_append, hs, later_of_not_started hs, later, Notice.starts]

lemma total_sublist (h : rest.Sublist pipe) : total rest ≤ total pipe :=
  (h.map _).sum_le_sum fun _ _ => Nat.zero_le _

lemma later_le_total (pipe : List Notice) : later pipe ≤ total pipe := by
  induction pipe with
  | nil => exact Nat.le_refl _
  | cons n pipe ih =>
    rw [later, total_cons]
    split <;> omega

lemma later_sublist (h : rest.Sublist pipe) : later rest ≤ later pipe := by
  induction h with
  | slnil => exact Nat.le_refl _
  | cons n h ih =>
    have hle := later_le_total
    rw [later]
    split
    · exact ih.trans ((hle _).trans (Nat.le_add_left _ _))
    · exact ih
  | cons_cons n h ih =>
    rw [later, later]
    split
    · exact Nat.add_le_add_left (total_sublist h) _
    · exact ih

lemma early_prefix (h : rest <+: pipe) : early rest ≤ early pipe := by
  obtain ⟨tail, rfl⟩ := h
  rw [early_append]
  split <;> omega

lemma credits_le_total (pipe : List Notice) : credits pipe ≤ total pipe := by
  refine List.sum_le_sum fun n _ => ?_
  cases n <;> simp [Notice.amount]

inductive Standing
  | waits
  | goes
  | gone
  deriving DecidableEq

structure Course where
  sender : Standing
  send : ℕ
  data : ℕ
  deaf : Bool
  reader : Standing
  recv : ℕ
  pipe : List Notice
  mute : Bool

namespace Course

def due (c : Course) : ℕ :=
  if c.sender = .goes then c.send + total c.pipe else later c.pipe

structure Safe (maximum : ℕ) (c : Course) : Prop where
  limit : c.due + c.data ≤ maximum
  covered : c.reader = .goes → c.due + c.data ≤ c.recv
  eager : c.sender = .waits → c.deaf = false → c.send + early c.pipe ≤ maximum ∧
    (c.reader = .waits → c.send + early c.pipe ≤ c.recv)
  calm : c.reader = .waits → c.sender ≠ .goes ∧ c.data = 0 ∧ started c.pipe = false
  told : c.reader = .goes → c.sender = .waits → c.deaf = false → c.mute = false →
    started c.pipe = true

structure Fades (c d : Course) : Prop where
  sender : d.sender = c.sender ∨ d.sender = .gone
  send : d.send ≤ c.send
  data : d.data ≤ c.data
  deaf : d.deaf = false → c.deaf = false
  reader : d.reader = c.reader ∧ d.recv = c.recv ∨ d.reader = .gone
  mute : d.mute = false → c.mute = false
  sublist : total d.pipe ≤ total c.pipe ∧ later d.pipe ≤ later c.pipe
  early : d.sender = .waits → d.deaf = false → early d.pipe ≤ early c.pipe
  calm : started c.pipe = false → started d.pipe = false
  told : d.sender = .waits → d.deaf = false → d.mute = false → started d.pipe = started c.pipe

variable {maximum : ℕ} {c d : Course}

lemma Fades.due_le (h : Fades c d) : d.due ≤ c.due := by
  obtain ⟨htotal, hlater⟩ := h.sublist
  have hsend := h.send
  have hle := later_le_total c.pipe
  simp only [due]
  rcases h.sender with hs | hs
  · rw [hs]
    split <;> omega
  · rw [hs, if_neg Standing.noConfusion]
    split <;> omega

namespace Safe

variable (hs : c.Safe maximum)
include hs

lemma of_eq (h : d = c) : d.Safe maximum :=
  h ▸ hs

lemma fades (h : Fades c d) : d.Safe maximum := by
  have hdue := h.due_le
  have hdata := h.data
  have hsend := h.send
  have hwaits : d.sender = .waits → c.sender = .waits := fun hd => by
    rcases h.sender with he | he <;> rw [hd] at he
    · exact he.symm
    · cases he
  have hreader : d.reader ≠ .gone → c.reader = d.reader ∧ c.recv = d.recv := fun hd => by
    rcases h.reader with ⟨he, hr⟩ | he
    · exact ⟨he.symm, hr.symm⟩
    · exact absurd he hd
  constructor
  · have hle := hs.limit
    omega
  · intro hd
    obtain ⟨he, hr⟩ := hreader (by rw [hd]; exact Standing.noConfusion)
    have hle := hs.covered (he.trans hd)
    omega
  · intro hd hdeaf
    obtain ⟨hmax, hrecv⟩ := hs.eager (hwaits hd) (h.deaf hdeaf)
    have hearly := h.early hd hdeaf
    refine ⟨by omega, fun hw => ?_⟩
    obtain ⟨he, hr⟩ := hreader (by rw [hw]; exact Standing.noConfusion)
    have hle := hrecv (he.trans hw)
    omega
  · intro hd
    obtain ⟨he, hr⟩ := hreader (by rw [hd]; exact Standing.noConfusion)
    obtain ⟨hgoes, hzero, hnone⟩ := hs.calm (he.trans hd)
    refine ⟨fun hg => ?_, by omega, h.calm hnone⟩
    rcases h.sender with he | he <;> rw [hg] at he
    · exact hgoes he.symm
    · cases he
  · intro hd hw hdeaf hmute
    obtain ⟨he, -⟩ := hreader (by rw [hd]; exact Standing.noConfusion)
    rw [h.told hw hdeaf hmute]
    exact hs.told (he.trans hd) (hwaits hw) (h.deaf hdeaf) (h.mute hmute)

lemma start (hw : c.reader = .waits) (hn : n.starts = true) (hle : n.amount ≤ maximum) :
    Safe maximum { c with reader := .goes, recv := n.amount, pipe := c.pipe ++ [n] } := by
  obtain ⟨hgoes, hdata, hnone⟩ := hs.calm hw
  have hlater : later (c.pipe ++ [n]) = n.amount := by
    simp [later_append, hnone, later, hn, total]
  have hearly : early (c.pipe ++ [n]) = early c.pipe := by
    simp [early_append, hnone, early, hn]
  have hstart : started (c.pipe ++ [n]) = true := by simp [started, hn]
  constructor
  · simp only [due, if_neg hgoes, hlater, hdata]
    exact hle
  · intro _
    simp [due, if_neg hgoes, hlater, hdata]
  · intro hsender hdeaf
    simp only [hearly]
    exact ⟨(hs.eager hsender hdeaf).1, Standing.noConfusion⟩
  · exact Standing.noConfusion
  · exact fun _ _ _ _ => hstart

lemma begin (hw : c.sender = .waits) (hn : n.starts = true) (hpipe : c.pipe = n :: rest) :
    Safe maximum { c with sender := .goes, send := n.amount, pipe := rest } := by
  have hdue : c.due = n.amount + total rest := by
    simp [due, hw, hpipe, later, hn]
  have hstart : started c.pipe = true := by simp [hpipe, started, hn]
  have hlimit := hs.limit
  have hcovered := hs.covered
  rw [hdue] at hlimit hcovered
  refine ⟨hlimit, hcovered, Standing.noConfusion, fun hr => ?_, fun _ => Standing.noConfusion⟩
  have hnone := (hs.calm hr).2.2
  rw [hstart] at hnone
  cases hnone

variable {amount : ℕ}

lemma grant (hr : c.reader ≠ .gone) (hm : c.mute = false) (hle : c.recv + amount ≤ maximum) :
    Safe maximum { c with recv := c.recv + amount, pipe := c.pipe ++ [.credit amount] } := by
  have htotal : total (c.pipe ++ [.credit amount]) = total c.pipe + amount := by
    simp [total, Notice.amount]
  have hlater : later (c.pipe ++ [.credit amount]) ≤ later c.pipe + amount := by
    rw [later_append]
    split
    · simp [total, Notice.amount]
    · simp [later, Notice.starts]
  have hstart : started (c.pipe ++ [.credit amount]) = started c.pipe := by
    simp [started, Notice.starts]
  have hdue : due { c with recv := c.recv + amount, pipe := c.pipe ++ [.credit amount] } ≤
      c.due + amount := by
    simp only [due, htotal]
    split <;> omega
  by_cases hreader : c.reader = .waits
  · obtain ⟨hgoes, hdata, hnone⟩ := hs.calm hreader
    have hzero : later (c.pipe ++ [.credit amount]) = 0 :=
      later_of_not_started (hstart.trans hnone)
    have hearly : early (c.pipe ++ [.credit amount]) = early c.pipe + amount := by
      simp [early_append, hnone, early, Notice.starts, Notice.amount]
    refine ⟨?_, fun hg => ?_, fun hw hd => ?_, fun _ => ⟨hgoes, hdata, hstart.trans hnone⟩,
      fun hg => ?_⟩
    · simp [due, if_neg hgoes, hzero, hdata]
    · cases hreader.symm.trans hg
    · have hle' := (hs.eager hw hd).2 hreader
      simp only [hearly]
      omega
    · cases hreader.symm.trans hg
  · have hg : c.reader = .goes := by
      cases hc : c.reader with
      | waits => exact absurd hc hreader
      | goes => rfl
      | gone => exact absurd hc hr
    have hcovered := hs.covered hg
    refine ⟨by simp only; omega, fun _ => by simp only; omega, fun hw hd => ?_,
      fun hw => absurd hw hreader, fun _ hw hd _ => hstart.trans (hs.told hg hw hd hm)⟩
    -- the window has been announced, so the credit stands behind it
    have htold := hs.told hg hw hd hm
    simp only [early_append, htold, if_true]
    exact ⟨(hs.eager hw hd).1, fun hw => absurd hw hreader⟩

lemma spend (hg : c.sender = .goes) (hle : amount ≤ c.send) :
    Safe maximum { c with send := c.send - amount, data := c.data + amount } := by
  have hdue : due { c with send := c.send - amount, data := c.data + amount } + (c.data + amount) =
      c.due + c.data := by
    simp only [due, hg, if_true]
    omega
  refine ⟨hdue ▸ hs.limit, fun hr => hdue ▸ hs.covered hr, fun hw => ?_, fun hr => ?_,
    fun _ hw => ?_⟩
  · cases hg.symm.trans hw
  · exact absurd hg (hs.calm hr).1
  · cases hg.symm.trans hw

lemma restore (hpipe : c.pipe = .credit amount :: rest) :
    Safe maximum { c with send := c.send + amount, pipe := rest } := by
  have hdue : due { c with send := c.send + amount, pipe := rest } = c.due := by
    simp only [due, hpipe, total_cons, later, Notice.amount, Notice.starts]
    split <;> simp [Nat.add_assoc]
  have hearly : early c.pipe = amount + early rest := by
    simp [hpipe, early, Notice.starts, Notice.amount]
  have hstart : started rest = started c.pipe := by simp [hpipe, started, Notice.starts]
  refine ⟨hdue ▸ hs.limit, fun hr => hdue ▸ hs.covered hr, fun hw hd => ?_, fun hr => ?_,
    fun hr hw hd hm => ?_⟩
  · obtain ⟨hmax, hrecv⟩ := hs.eager hw hd
    rw [hearly] at hmax hrecv
    exact ⟨by simp only; omega, fun hr => by have hle := hrecv hr; simp only; omega⟩
  · obtain ⟨hgoes, hdata, hnone⟩ := hs.calm hr
    exact ⟨hgoes, hdata, hstart.trans hnone⟩
  · exact hstart.trans (hs.told hr hw hd hm)

lemma take (hle : amount ≤ c.data) (hrecv : amount ≤ c.recv) :
    Safe maximum { c with data := c.data - amount, recv := c.recv - amount } := by
  have hlimit := hs.limit
  have hdue : due { c with data := c.data - amount, recv := c.recv - amount } = c.due := rfl
  refine ⟨by rw [hdue]; simp only; omega, fun hr => ?_, fun hw hd => ?_, fun hr => ?_, hs.told⟩
  · have hcovered := hs.covered hr
    rw [hdue]
    simp only
    omega
  · obtain ⟨hmax, heager⟩ := hs.eager hw hd
    refine ⟨hmax, fun hr => ?_⟩
    have hdata := (hs.calm hr).2.1
    have hle' := heager hr
    simp only
    omega
  · obtain ⟨hgoes, hdata, hnone⟩ := hs.calm hr
    exact ⟨hgoes, by simp only; omega, hnone⟩

end Safe

end Course

inductive Phase
  | opening
  | offered
  | running
  deriving DecidableEq

structure Window where
  phase : Phase
  send : ℕ
  recv : ℕ

structure Peer where
  window : Option Window
  seen : Bool
  pipe : List Notice
  data : ℕ
  halted : Bool

namespace Peer

def idle (x : Peer) : Standing :=
  if x.seen then .gone else .waits

def sending (x : Peer) : Standing :=
  x.window.elim x.idle fun w => if w.phase = .opening then .waits else .goes

def reading (x : Peer) : Standing :=
  x.window.elim x.idle fun w => if w.phase = .offered then .waits else .goes

def send (x : Peer) : ℕ :=
  x.window.elim 0 Window.send

def recv (x : Peer) : ℕ :=
  x.window.elim 0 Window.recv

def course (x y : Peer) : Course :=
  ⟨x.sending, x.send, x.data, x.halted, y.reading, y.recv, y.pipe, y.halted⟩

inductive Acts (maximum : ℕ) (x y : Peer) : Peer → Peer → Prop
  | fade {seen : Bool} {d : ℕ} : (x.seen = true → seen = true) → d ≤ x.data →
      Acts maximum x y { x with seen, data := d } y
  | offer {n : ℕ} : x.seen = false → n ≤ maximum → Acts maximum x y { x with
      window := some ⟨.opening, 0, n⟩, seen := true, pipe := x.pipe ++ [.offer n] } y
  | answer {w : Window} {n : ℕ} : x.window = some w → w.phase = .offered → n ≤ maximum →
      Acts maximum x y { x with
        window := some ⟨.running, w.send, n⟩, pipe := x.pipe ++ [.answer n] } y
  | grant {w : Window} {c : ℕ} : x.halted = false → x.window = some w → w.recv + c ≤ maximum →
      Acts maximum x y { x with
        window := some { w with recv := w.recv + c }, pipe := x.pipe ++ [.credit c] } y
  | debit {w : Window} {n : ℕ} : x.window = some w → w.phase = .running → n ≤ w.send →
      Acts maximum x y { x with
        window := some { w with send := w.send - n }, data := x.data + n } y
  | drop {w : Window} {d : ℕ} : x.window = some w → d ≤ x.data →
      Acts maximum x y { x with window := none, pipe := x.pipe ++ [.close], data := d } y
  | halt {p q : List Notice} {d e : ℕ} : p <+: x.pipe → q.Sublist y.pipe → d ≤ x.data →
      e ≤ y.data →
      Acts maximum x y { x with pipe := p, data := d, halted := true } { y with pipe := q, data := e }
  | takeOffer {n : ℕ} {rest : List Notice} : x.seen = false → y.pipe = .offer n :: rest →
      Acts maximum x y { x with window := some ⟨.offered, n, 0⟩, seen := true }
        { y with pipe := rest }
  | takeAnswer {w : Window} {n : ℕ} {rest : List Notice} : x.window = some w →
      w.phase = .opening → y.pipe = .answer n :: rest →
      Acts maximum x y { x with window := some ⟨.running, n, w.recv⟩ } { y with pipe := rest }
  | takeCredit {w : Window} {c : ℕ} {rest : List Notice} : x.window = some w →
      y.pipe = .credit c :: rest →
      Acts maximum x y { x with window := some { w with send := w.send + c } } { y with pipe := rest }
  | takeClose {w : Window} {d : ℕ} {rest : List Notice} : x.window = some w →
      y.pipe = .close :: rest → d ≤ x.data →
      Acts maximum x y { x with window := none, data := d } { y with pipe := rest }
  | takeData {w : Window} {n : ℕ} : x.window = some w → n ≤ y.data → n ≤ w.recv →
      Acts maximum x y { x with window := some { w with recv := w.recv - n } }
        { y with data := y.data - n }

def Known (x : Peer) : Prop :=
  ∀ w, x.window = some w → x.seen = true

variable {maximum : ℕ} {x y x' y' : Peer} {w : Window}

lemma Known.window (hk : x.Known) (hs : x.seen = false) : x.window = none :=
  Option.eq_none_iff_forall_ne_some.mpr fun w hw =>
    absurd ((hk w hw).symm.trans hs) Bool.noConfusion

lemma Known.acts_left (h : Acts maximum x y x' y') (hk : x.Known) : x'.Known := by
  cases h with
  | fade hseen => exact fun w hw => hseen (hk w hw)
  | halt => exact hk
  | offer | takeOffer => exact fun _ _ => rfl
  | answer hw | grant _ hw | debit hw | takeAnswer hw | takeCredit hw | takeData hw =>
    exact fun _ _ => hk _ hw
  | drop | takeClose => rintro _ ⟨⟩

lemma Known.acts_right (h : Acts maximum x y x' y') (hk : y.Known) : y'.Known := by
  cases h <;> exact hk

attribute [local simp] course sending reading send recv idle Notice.amount Notice.starts

lemma sending_fade {seen : Bool} {d : ℕ} (hseen : x.seen = true → seen = true) :
    sending { x with seen, data := d } = x.sending ∨
      sending { x with seen, data := d } = .gone := by
  cases hw : x.window <;> cases hx : x.seen <;> cases seen <;> simp_all

lemma reading_fade {seen : Bool} {d : ℕ} (hseen : x.seen = true → seen = true) :
    reading { x with seen, data := d } = x.reading ∨
      reading { x with seen, data := d } = .gone := by
  cases hw : x.window <;> cases hx : x.seen <;> cases seen <;> simp_all

lemma acts_sender (h : Acts maximum x y x' y') (hk : x.Known) (hs : (x.course y).Safe maximum) :
    (x'.course y').Safe maximum := by
  cases h with
  | fade hseen hd =>
    refine hs.fades ?_
    constructor <;> simp [hd, sending_fade hseen, -sending]
  | offer hseen =>
    have hw := hk.window hseen
    exact hs.of_eq (by simp [hw, hseen])
  | answer hw hp => exact hs.of_eq (by simp [hw, hp])
  | grant _ hw => exact hs.of_eq (by simp [hw])
  | @debit w n hw hp hn =>
    have hle : n ≤ (x.course y).send := by simpa [hw] using hn
    exact (hs.spend (by simp [hw, hp]) hle).of_eq
      (by simp [hw])
  | drop hw hd =>
    refine hs.fades ?_
    have hseen := hk _ hw
    constructor <;> simp [hseen, hd]
  | halt hp hq hd he =>
    refine hs.fades ?_
    exact ⟨.inl rfl, Nat.le_refl _, hd, nofun, .inl ⟨rfl, rfl⟩, id,
      ⟨total_sublist hq, later_sublist hq⟩, nofun, started_sublist hq,
      nofun⟩
  | @takeOffer n rest hseen hpipe =>
    have hw := hk.window hseen
    exact (hs.begin (n := .offer n) (by simp [hw, hseen]) rfl hpipe).of_eq (by simp)
  | @takeAnswer w n rest hw hp hpipe =>
    exact (hs.begin (n := .answer n) (by simp [hw, hp]) rfl hpipe).of_eq (by simp)
  | takeCredit hw hpipe =>
    exact (hs.restore hpipe).of_eq (by simp [hw])
  | takeClose hw hpipe hd =>
    refine hs.fades ?_
    have hseen := hk _ hw
    constructor <;> simp [hseen, hd, hpipe, later, started]
  | takeData hw => exact hs.of_eq (by simp [hw])

lemma acts_reader (h : Acts maximum x y x' y') (hk : x.Known) (hs : (y.course x).Safe maximum) :
    (y'.course x').Safe maximum := by
  cases h with
  | fade hseen hd =>
    refine hs.fades ?_
    constructor <;> simp [reading_fade hseen, -reading]
  | @offer n hseen hn =>
    have hw := hk.window hseen
    exact (hs.start (n := .offer n) (by simp [hw, hseen]) rfl hn).of_eq (by simp)
  | @answer w n hw hp hn =>
    exact (hs.start (n := .answer n) (by simp [hw, hp]) rfl hn).of_eq (by simp)
  | @grant w c hh hw hle =>
    have hgone : (y.course x).reader ≠ .gone := by
      simp only [course, reading, hw, Option.elim_some]
      split <;> exact Standing.noConfusion
    exact (hs.grant hgone hh (by simpa [hw] using hle)).of_eq
      (by simp [hw])
  | debit hw => exact hs.of_eq (by simp [hw])
  | drop hw =>
    refine hs.fades ?_
    have hseen := hk _ hw
    constructor <;> simp [hseen, later_close, early_append, started, total, early]
  | halt hp hq hd he =>
    refine hs.fades ?_
    exact ⟨.inl rfl, Nat.le_refl _, he, id, .inl ⟨rfl, rfl⟩, nofun,
      ⟨total_sublist hp.sublist, later_sublist hp.sublist⟩, fun _ _ => early_prefix hp,
      started_sublist hp.sublist, nofun⟩
  | takeOffer hseen hpipe =>
    have hw := hk.window hseen
    exact hs.of_eq (by simp [hw, hseen])
  | takeAnswer hw hp => exact hs.of_eq (by simp [hw, hp])
  | takeCredit hw => exact hs.of_eq (by simp [hw])
  | takeClose hw hpipe hd =>
    refine hs.fades ?_
    have hseen := hk _ hw
    constructor <;> simp [hseen]
  | takeData hw hn hr =>
    exact (hs.take hn (by simpa [hw] using hr)).of_eq
      (by simp [hw])

structure Safe (maximum : ℕ) (x y : Peer) : Prop where
  left : x.Known
  right : y.Known
  course : (x.course y).Safe maximum
  back : (y.course x).Safe maximum

namespace Safe

lemma symm (h : Safe maximum x y) : Safe maximum y x :=
  ⟨h.right, h.left, h.back, h.course⟩

lemma acts (hs : Safe maximum x y) (h : Acts maximum x y x' y') : Safe maximum x' y' :=
  ⟨hs.left.acts_left h, hs.right.acts_right h, acts_sender h hs.left hs.course,
    acts_reader h hs.left hs.back⟩

lemma fresh (hx : x.window = none) (hx' : x.pipe = []) (hxd : x.data = 0) (hy : y.window = none)
    (hy' : y.pipe = []) (hyd : y.data = 0) : Safe maximum x y := by
  have idle : ∀ x y : Peer, x.window = none → x.data = 0 → y.window = none → y.pipe = [] →
      (x.course y).Safe maximum := by
    intro x y hx hd hy hp
    constructor <;> cases hs : x.seen <;> cases ht : y.seen <;>
      simp [Course.due, hx, hd, hy, hp, hs, ht, later, early, started]
  refine ⟨fun w hw => ?_, fun w hw => ?_, idle x y hx hxd hy hy', idle y x hy hyd hx hx'⟩
  · cases hx.symm.trans hw
  · cases hy.symm.trans hw

variable (h : Safe maximum x y)
include h

lemma running {v : Window} (hx : x.window = some v) (hy : y.window = some w)
    (hv : v.phase = .running) (hw : w.phase = .running) :
    v.send + x.data + credits y.pipe ≤ w.recv := by
  have hcovered := h.course.covered (by simp [Peer.course, hy, hw])
  have hle := credits_le_total y.pipe
  simp only [Course.due, Peer.course, sending, send, recv, hx, hy, hv, Option.elim_some] at hcovered
  simp only [reduceCtorEq, if_false, if_true] at hcovered
  omega

lemma data_le (hy : y.window = some w) : x.data ≤ w.recv := by
  by_cases hp : w.phase = .offered
  · have hzero : x.data = 0 := (h.course.calm (by simp [Peer.course, hy, hp])).2.1
    exact hzero ▸ Nat.zero_le _
  · have hcovered := h.course.covered (by simp [Peer.course, hy, hp])
    simp only [Peer.course, recv, hy, Option.elim_some] at hcovered
    omega

lemma credit_le {v : Window} (hx : x.window = some v) (hh : x.halted = false) {c : ℕ}
    (hp : y.pipe = .credit c :: rest) : v.send + c ≤ maximum := by
  by_cases hv : v.phase = .opening
  · have heager := (h.course.eager (by simp [Peer.course, hx, hv]) hh).1
    simp only [Peer.course, send, hx, hp, early, Notice.starts, Notice.amount, Option.elim_some,
      Bool.false_eq_true, if_false] at heager
    omega
  · have hlimit := h.course.limit
    simp only [Course.due, Peer.course, sending, send, hx, hv, hp, total_cons, Notice.amount,
      Option.elim_some, if_false, if_true] at hlimit
    omega

end Safe

end Peer

end Credit

end OnionRoute.Library
