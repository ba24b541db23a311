import OnionRoute.GatewayProtocol.Pair
import OnionRoute.GatewayProtocol.StreamLife

/-! One side comes to refuse frames of a kind while the other has some on their way. -/

namespace OnionRoute.GatewayProtocol

open Library

structure Refusing (kind : Body → Prop) (R : Session → Prop) : Prop where
  refuses : ∀ {s t : Session} {body : Body}, R s → kind body → ¬ s.counted.Applies body t
  turn : ∀ {s t : Session} {out out' inn inn' : List GatewayFrame},
    Turn s out inn t out' inn' → R s → R t

def GatewayFrame.Is (kind : Body → Prop) (frame : GatewayFrame) : Prop :=
  ∃ body ∈ frame.body, kind body

instance (kind : Body → Prop) [DecidablePred kind] (frame : GatewayFrame) :
    Decidable (frame.Is kind) :=
  inferInstanceAs (Decidable (∃ body ∈ frame.body, kind body))

variable {kind : Body → Prop} {R : Session → Prop} {frame : GatewayFrame}

lemma Refusing.receive {s : Session} (h : Refusing kind R) (hs : R s) (hframe : frame.Is kind)
    (now : ℕ) : (finalState (Session.receive frame now) s).phase = .closed := by
  have hcases := Session.receive_cases s frame now
  rw [finalState]
  generalize Session.receive frame now s = r at hcases
  cases hcases with
  | closed hphase => exact hphase
  | refused | failed => rfl
  | @accepted body t _ _ hbody happly =>
    obtain ⟨late, hlate, hkind⟩ := hframe
    obtain rfl := Option.some.inj (hbody.symm.trans hlate)
    have happlied := Session.applyInbound_cases body now s.counted
    rw [happly] at happlied
    exact absurd happlied (h.refuses hs hkind)

namespace Turn

variable {s t : Session} {out out' inn inn' : List GatewayFrame} (h : Turn s out inn t out' inn')
include h

lemma closed (hs : s.phase = .closed) : t.phase = .closed := by
  cases h with
  | idles hidle => exact hidle.closed.mpr hs
  | queues hqueue => exact absurd hs hqueue.before_ne_closed
  | waits hopen | sends hopen | applies hopen => exact absurd hs hopen
  | closes _ _ hphase => exact hphase

lemma written : out ⊆ out' := by
  cases h with
  | sends => exact List.subset_append_left _ _
  | _ => exact List.Subset.refl _

lemma refused (hr : Refusing kind R) (hs : R s) (hkind : frame.Is kind) (hframe : frame ∈ inn) :
    t.phase = .closed ∨ frame ∈ inn' := by
  cases h with
  | idles | queues | waits | sends => exact .inr hframe
  | closes _ _ hphase => exact .inl hphase
  | applies _ hinn hbody happly =>
    rw [hinn] at hframe
    rcases List.mem_cons.mp hframe with rfl | hframe
    · obtain ⟨late, hlate, hkind⟩ := hkind
      obtain rfl := Option.some.inj (hbody.symm.trans hlate)
      exact absurd happly (hr.refuses hs hkind)
    · exact .inr hframe

lemma control {item : OutboundItem} (hitem : item ∈ s.scheduler.control) :
    t.phase = .closed ∨ (∃ frame ∈ out', frame.body = some item.body) ∨
      item ∈ t.scheduler.control := by
  cases h with
  | idles hidle => exact .inr (.inr (hidle.scheduler ▸ hitem))
  | queues hqueue =>
    refine .inr (.inr ?_)
    rcases hqueue.scheduler_cases with ⟨_, -, -, hsched⟩ | ⟨_, _, -, -, hsched⟩ |
      ⟨_, _, -, hsched⟩
    · simp [hsched, hitem]
    · simp [hsched, hitem]
    · simp [hsched, hitem]
  | waits _ hpop =>
    refine .inr (.inr ?_)
    change item ∈ s.scheduler.popNext.2.control
    rwa [FairScheduler.control_of_popNext_none hpop]
  | @sends head _ hpop =>
    refine .inr ?_
    change _ ∨ item ∈ s.scheduler.popNext.2.control
    rcases FairScheduler.popNext_cases s.scheduler with
      ⟨hnone, -, -⟩ | ⟨head', hi, hc, -⟩ | ⟨_, _, _, -, hc, -, -, -⟩
    · rw [hpop] at hnone
      cases hnone
    · obtain rfl := Option.some.inj (hpop.symm.trans hi)
      rw [hc] at hitem
      rcases List.mem_cons.mp hitem with rfl | hitem
      · exact .inl ⟨_, List.mem_append_right _ List.mem_cons_self, rfl⟩
      · exact .inr hitem
    · exact .inr (hc ▸ hitem)
  | closes _ _ hphase => exact .inl hphase
  | applies _ _ _ happly =>
    refine .inr (.inr ?_)
    cases happly with
    | plain _ _ _ _ hsched => exact hsched ▸ hitem
    | _ => exact hitem

end Turn

namespace Pair

variable {p q r : Pair} {side turn : PeerRole}

def Travels (p : Pair) (side : PeerRole) (kind : Body → Prop) : Prop :=
  ∃ frame ∈ p.link side, frame.Is kind

instance (p : Pair) (side : PeerRole) (kind : Body → Prop) [DecidablePred kind] :
    Decidable (p.Travels side kind) :=
  inferInstanceAs (Decidable (∃ frame ∈ p.link side, frame.Is kind))

def Waits (p : Pair) (side : PeerRole) (kind : Body → Prop) : Prop :=
  ∃ item ∈ (p.session side).scheduler.control, kind item.body

/-- A frame of the kind that `side` refuses from `q` on closes its session when it is read in the
later state `r`, and none is lost on its way. -/
structure Crossed (q : Pair) (side : PeerRole) (kind : Body → Prop) (r : Pair) : Prop where
  reads : ∀ frame rest now, r.link side.other = frame :: rest → frame.Is kind →
    (r.session side).phase ≠ .closed →
    ((r.act (.receive side now)).session side).phase = .closed ∧
      (r.act (.receive side now)).session side.other = r.session side.other
  travels : q.Travels side.other kind →
    (r.session side).phase = .closed ∨ r.Travels side.other kind
  waits : q.Waits side.other kind → (r.session side).phase = .closed ∨
    (r.session side.other).phase = .closed ∨ r.Travels side.other kind ∨ r.Waits side.other kind

lemma Turns.session
    (hturn : ∀ {s t : Session} {out out' inn inn' : List GatewayFrame},
      Turn s out inn t out' inn' → R s → R t)
    (h : Turns p turn q) (hp : R (p.session side)) : R (q.session side) := by
  rcases h.sides side with ⟨hside, -⟩ | ⟨-, hsame⟩
  · exact hturn hside hp
  · exact hsame ▸ hp

variable {actions : List PairAction}

lemma session_of_run
    (hturn : ∀ {s t : Session} {out out' inn inn' : List GatewayFrame},
      Turn s out inn t out' inn' → R s → R t)
    (h : Trace Step p actions q) (hp : R (p.session side)) : R (q.session side) :=
  invariant_of_turns (I := fun p => R (p.session side)) (fun hs => hs.session hturn) h hp

lemma Turns.travels (h : Turns p turn q) (hr : Refusing kind R) (hp : R (p.session side))
    (hlate : (p.session side).phase = .closed ∨ p.Travels side.other kind) :
    (q.session side).phase = .closed ∨ q.Travels side.other kind := by
  rcases h.sides side with ⟨hturn, -⟩ | ⟨hturn, hsame⟩
  · rcases hlate with hclosed | ⟨frame, hframe, hkind⟩
    · exact .inl (hturn.closed hclosed)
    · exact (hturn.refused hr hp hkind hframe).imp_right fun hframe => ⟨frame, hframe, hkind⟩
  · rw [hsame]
    exact hlate.imp_right fun ⟨frame, hframe, hkind⟩ => ⟨frame, hturn.written hframe, hkind⟩

lemma Turns.waits (h : Turns p turn q) (hr : Refusing kind R) (hp : R (p.session side))
    (hlate : (p.session side).phase = .closed ∨ (p.session side.other).phase = .closed ∨
      p.Travels side.other kind ∨ p.Waits side.other kind) :
    (q.session side).phase = .closed ∨ (q.session side.other).phase = .closed ∨
      q.Travels side.other kind ∨ q.Waits side.other kind := by
  have hkept : (p.session side).phase = .closed ∨ p.Travels side.other kind →
      (q.session side).phase = .closed ∨ (q.session side.other).phase = .closed ∨
        q.Travels side.other kind ∨ q.Waits side.other kind := fun htravels =>
    (h.travels hr hp htravels).imp_right fun ht => .inr (.inl ht)
  rcases hlate with hclosed | hclosed | htravels | ⟨item, hitem, hkind⟩
  · exact hkept (.inl hclosed)
  · rcases h.sides side with ⟨-, hsame⟩ | ⟨hturn, -⟩
    · exact .inr (.inl (hsame ▸ hclosed))
    · exact .inr (.inl (hturn.closed hclosed))
  · exact hkept (.inr htravels)
  · rcases h.sides side with ⟨-, hsame⟩ | ⟨hturn, -⟩
    · exact .inr (.inr (.inr ⟨item, hsame ▸ hitem, hkind⟩))
    · rcases hturn.control hitem with hclosed | ⟨frame, hframe, hbody⟩ | hitem
      · exact .inr (.inl hclosed)
      · exact .inr (.inr (.inl ⟨frame, hframe, item.body, hbody, hkind⟩))
      · exact .inr (.inr (.inr ⟨item, hitem, hkind⟩))

theorem crossed_of_refusing (hr : Refusing kind R) (hq : R (q.session side))
    (h : Trace Step q actions r) : q.Crossed side kind r where
  reads frame rest now hlink hkind hopen := by
    have hs : R (r.session side) := session_of_run hr.turn h hq
    simp only [act, receive, hopen, if_false, hlink]
    exact ⟨by simpa using hr.receive hs hkind now, by simp⟩
  travels htravels := (invariant_of_turns (I := fun p => R (p.session side) ∧
      ((p.session side).phase = .closed ∨ p.Travels side.other kind))
    (fun hturn hp => ⟨hturn.session hr.turn hp.1, hturn.travels hr hp.1 hp.2⟩) h
    ⟨hq, .inr htravels⟩).2
  waits hwaits := (invariant_of_turns (I := fun p => R (p.session side) ∧
      ((p.session side).phase = .closed ∨ (p.session side.other).phase = .closed ∨
        p.Travels side.other kind ∨ p.Waits side.other kind))
    (fun hturn hp => ⟨hturn.session hr.turn hp.1, hturn.waits hr hp.1 hp.2⟩) h
    ⟨hq, .inr (.inr (.inr hwaits))⟩).2

end Pair

end OnionRoute.GatewayProtocol
