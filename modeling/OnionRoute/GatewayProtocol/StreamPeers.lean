import OnionRoute.Library.Credit
import OnionRoute.GatewayProtocol.Pair
import OnionRoute.GatewayProtocol.StreamLife

/-! One stream of a session and its link as a peer of the credit protocol. -/

namespace OnionRoute.GatewayProtocol

open Library Session FlowController StreamState FairScheduler

def StreamPhase.credit : StreamPhase → Credit.Phase
  | openingLocal => .opening
  | openingRemote => .offered
  | «open» => .running

def StreamState.window (stream : StreamState) : Credit.Window :=
  ⟨stream.phase.credit, stream.sendWindow, stream.receiveWindow⟩

def Body.notices (k : UInt64) : Body → List Credit.Notice
  | .openTcpStream message =>
    if message.streamId = k then [.offer message.initialReceiveWindow.toNat] else []
  | .tcpStreamOpened message =>
    if message.streamId = k then [.answer message.initialReceiveWindow.toNat] else []
  | .tcpStreamRejected message => if message.streamId = k then [.close] else []
  | .windowUpdate message =>
    if message.streamId ≠ 0 ∧ message.streamId = k then [.credit message.credit.toNat] else []
  | .closeStream message => if message.streamId = k then [.close] else []
  | _ => []

def Body.dataOn (k : UInt64) : Body → ℕ
  | .data message => if message.streamId = k then message.payload.length else 0
  | _ => 0

def linkBodies (link : List GatewayFrame) : List Body :=
  link.filterMap GatewayFrame.body

def linkLoad (weight : Body → ℕ) (link : List GatewayFrame) : ℕ :=
  ((linkBodies link).map weight).sum

namespace Session

def windowOf (s : Session) (k : UInt64) : Option Credit.Window :=
  s.flow.bind fun flow => (flow.streams.lookup k).map StreamState.window

def sendable (s : Session) : List Body :=
  if s.phase = .closed then [] else s.scheduler.control.map OutboundItem.body

def pipe (s : Session) (link : List GatewayFrame) : List Body :=
  linkBodies link ++ s.sendable

end Session

def peerOf (k : UInt64) (s : Session) (link : List GatewayFrame) : Credit.Peer where
  window := s.windowOf k
  seen := decide (k ≤ s.maximumSeen)
  pipe := (s.pipe link).flatMap (Body.notices k)
  data := linkLoad (Body.dataOn k) link + s.scheduler.total (Body.dataOn k)
  halted := decide (s.phase = .closed)

abbrev Moves : (x y x' y' : Credit.Peer) → Prop :=
  Credit.Peer.Acts maxStreamWindow

variable {s t : Session} {link : List GatewayFrame} {k : UInt64} {body : Body}
  {y y' : Credit.Peer}

lemma Moves.fades {seen : Bool} {d : ℕ} (hseen : (peerOf k s link).seen = true → seen = true)
    (hd : d ≤ (peerOf k s link).data)
    (h : peerOf k t link = { peerOf k s link with seen, data := d }) :
    Moves (peerOf k s link) y (peerOf k t link) y := by
  rw [h]
  exact .fade hseen hd

lemma Moves.same {x x' : Credit.Peer} (h : x' = x) : Moves x y x' y := by
  rw [h]
  exact .fade (x := x) id (Nat.le_refl _)

lemma notices_of_isPlain (h : body.isPlain = true) : body.notices k = [] := by
  cases body <;> first | rfl | cases h

lemma notices_of_ne (h : body.streamId ≠ k) : body.notices k = [] := by
  cases body <;> first | rfl | exact if_neg h | exact if_neg fun hc => h hc.2

lemma dataOn_of_isData (h : body.isData = false) : body.dataOn k = 0 := by
  cases body <;> first | rfl | cases h

lemma dataOn_of_ne (h : body.streamId ≠ k) : body.dataOn k = 0 := by
  cases body <;> first | rfl | exact if_neg h

@[simp] lemma notices_data (message : Data) : Body.notices k (.data message) = [] := rfl

attribute [local simp] window StreamPhase.credit peerOf sendable pipe

variable {stream : StreamState}

lemma windowOf_eq_some {flow : FlowController} (hf : s.flow = some flow)
    (hs : flow.streams.lookup k = some stream) : s.windowOf k = some stream.window := by
  simp [windowOf, hf, hs]

lemma windowOf_putStream {flow flow' : FlowController} {stream' : StreamState}
    (hs : flow.streams.lookup k = some stream) (ht : t.flow = some flow')
    (hput : flow'.streams = (flow.putStream k stream').streams) :
    t.windowOf k = some stream'.window := by
  simp [windowOf, ht, hput, hs]

lemma windowOf_congr (h : t.stream k = s.stream k) : t.windowOf k = s.windowOf k := by
  have hmap : ∀ s : Session, s.windowOf k = (s.stream k).map window := by
    intro s
    rw [windowOf, stream]
    cases s.flow <;> rfl
  rw [hmap, hmap, h]

lemma windowOf_of_flow (h : t.flow = s.flow) : t.windowOf k = s.windowOf k := by
  rw [windowOf, h]
  rfl

lemma Session.Queue.peerOf_eq (h : Session.Queue s body t) (k : UInt64)
    (link : List GatewayFrame) :
    ∃ d, d ≤ (peerOf k s link).data + body.dataOn k ∧
      ((∀ message, body ≠ .closeStream message) →
        d = (peerOf k s link).data + body.dataOn k) ∧
      peerOf k t link = { peerOf k s link with
        window := t.windowOf k
        seen := decide (k ≤ t.maximumSeen)
        pipe := (peerOf k s link).pipe ++ body.notices k
        data := d } := by
  have hs := h.before_ne_closed
  have ht := h.after_ne_closed
  rcases h.scheduler_cases with ⟨size, hdata, -, hsched⟩ | ⟨message, size, rfl, -, hsched⟩ |
    ⟨message, size, rfl, hsched⟩
  · refine ⟨_, Nat.le_refl _, fun _ => rfl, ?_⟩
    simp [hs, ht, hsched, dataOn_of_isData hdata]
  · refine ⟨_, Nat.le_refl _, fun _ => rfl, ?_⟩
    simp [hs, ht, hsched, Nat.add_assoc]
  · have htotal := total_cancelStream (s := s.scheduler) (k := message.streamId)
      (Body.dataOn k)
    refine ⟨_, Nat.add_le_add_left (Nat.le.intro htotal.symm) _, fun hne => absurd rfl (hne message), ?_⟩
    simp [hs, ht, hsched, Body.dataOn]

lemma Session.Lives.seen_le {side : Side} (h : Session.Lives side s body t)
    (hk : (peerOf k s link).seen = true) : decide (k ≤ t.maximumSeen) = true :=
  decide_eq_true (UInt64.le_trans (of_decide_eq_true hk) h.maximumSeen_le)

lemma Session.Queue.moves (h : Session.Queue s body t) :
    Moves (peerOf k s link) y (peerOf k t link) y := by
  obtain ⟨d, hd, heq, hpeer⟩ := h.peerOf_eq k link
  have hfades : t.windowOf k = s.windowOf k → body.notices k = [] → body.dataOn k = 0 →
      Moves (peerOf k s link) y (peerOf k t link) y := by
    intro hwindow hn hdata
    rw [hn, List.append_nil, hwindow] at hpeer
    rw [hdata] at hd
    exact .fades h.lives.seen_le hd hpeer
  by_cases hk : body.streamId = k
  swap
  · exact hfades (windowOf_congr (h.lives.others k hk)) (notices_of_ne hk) (dataOn_of_ne hk)
  subst hk
  have hturn : ∀ {x notices}, t.windowOf body.streamId = x → body.notices body.streamId = notices →
      t.maximumSeen = s.maximumSeen →
      peerOf body.streamId t link = { peerOf body.streamId s link with
        window := x, pipe := (peerOf body.streamId s link).pipe ++ notices, data := d } := by
    rintro _ _ rfl rfl hseen
    rw [hpeer, hseen]
    rfl
  have hopen := h.before_ne_closed
  have hq := h.queues
  generalize hflow : t.flow = flow at hq
  generalize t.scheduler = scheduler at hq
  cases hq with
  | @opens message _ _ _ _ _ _ hf hstep =>
    obtain ⟨-, hlt, -, -, -, hle, rfl⟩ := insertNewStream_eq_ok hstep
    obtain rfl := heq fun _ => Body.noConfusion
    have hwindow : t.windowOf message.streamId =
        some ⟨.opening, 0, message.initialReceiveWindow.toNat⟩ := by
      simp [windowOf, hflow]
    have hseen : decide (message.streamId ≤ t.maximumSeen) = true := by
      simp [maximumSeen, hflow]
    have hnotices : Body.notices message.streamId (.openTcpStream message) =
        [.offer message.initialReceiveWindow.toNat] := if_pos rfl
    rw [hpeer, Body.streamId, hwindow, hseen, hnotices]
    exact .offer (by simpa [maximumSeen, hf] using hlt) hle
  | accepts _ _ hf hstep =>
    obtain ⟨stream, hl, hp, hle, -, rfl⟩ := acceptRemoteOpen_eq_ok hstep
    obtain rfl := heq fun _ => Body.noConfusion
    rw [hturn (windowOf_putStream hl hflow rfl) (if_pos rfl)
      (maximumSeen_congr hf hflow rfl)]
    exact .answer (w := stream.window) (windowOf_eq_some hf hl)
      (by simp [hp]) hle
  | rejects _ _ hf hstep | closes _ hf hstep =>
    obtain ⟨stream, hl, -, rfl⟩ := rejectOrClose_eq_ok.mp hstep
    rw [hturn (by simp [windowOf, Body.streamId, hflow]; rfl) (if_pos rfl)
      (maximumSeen_congr hf hflow rfl)]
    exact .drop (windowOf_eq_some hf hl) hd
  | @data j payload _ _ _ _ _ hf hstep =>
    obtain ⟨stream, hl, hp, -, -, hle, -, -, rfl⟩ := debitSend_eq_ok hstep
    have hlength : Body.dataOn j (.data ⟨j, payload⟩) = payload.length := if_pos rfl
    rw [hturn (windowOf_putStream hl hflow rfl) rfl (maximumSeen_congr hf hflow rfl),
      notices_data, List.append_nil, heq fun _ => Body.noConfusion, Body.streamId, hlength]
    exact .debit (w := stream.window) (windowOf_eq_some hf hl)
      (by simp [hp]) hle
  | grants _ hf hstep =>
    rcases grantReceiveCredit_eq_ok hstep with
      ⟨rfl, -, rfl⟩ | ⟨stream, hl, ⟨hj, -⟩, hle, rfl⟩
    · refine hfades (windowOf_congr ?_) (by simp [Body.notices]) rfl
      simp [stream, hf, hflow]
    · obtain rfl := heq fun _ => Body.noConfusion
      rw [hturn (windowOf_putStream hl hflow rfl) (if_pos ⟨hj, rfl⟩)
        (maximumSeen_congr hf hflow rfl)]
      exact .grant (w := stream.window) (by simp [hopen]) (windowOf_eq_some hf hl) hle
  | halfCloses _ hf hstep =>
    obtain ⟨stream, hl, -, -, -, rfl⟩ := localHalfClose_eq_ok hstep
    exact hfades ((windowOf_putStream hl hflow rfl).trans (windowOf_eq_some hf hl).symm) rfl rfl
  | plain hplain =>
    exact hfades (windowOf_of_flow hflow) (notices_of_isPlain hplain)
      (dataOn_of_isData (Body.isData_of_isPlain hplain))
  | handshakes hhand =>
    have hplain := Body.isPlain_of_isHandshake hhand
    exact hfades (windowOf_of_flow hflow) (notices_of_isPlain hplain)
      (dataOn_of_isData (Body.isData_of_isPlain hplain))

@[simp] lemma linkBodies_append (link link' : List GatewayFrame) :
    linkBodies (link ++ link') = linkBodies link ++ linkBodies link' := by
  simp [linkBodies]

variable {frame : GatewayFrame}

section

variable (h : frame.body = some body)
include h

lemma linkBodies_cons : linkBodies (frame :: link) = body :: linkBodies link := by
  simp [linkBodies, h]

lemma linkLoad_cons (weight : Body → ℕ) :
    linkLoad weight (frame :: link) = weight body + linkLoad weight link := by
  simp [linkLoad, linkBodies_cons h]

lemma linkLoad_append (weight : Body → ℕ) :
    linkLoad weight (link ++ [frame]) = linkLoad weight link + weight body := by
  simp [linkLoad, linkBodies, h]

end

variable {link' : List GatewayFrame}

lemma peerOf_congr (hflow : t.flow = s.flow)
    (hphase : t.phase = s.phase)
    (hpipe : (t.pipe link').flatMap (Body.notices k) = (s.pipe link).flatMap (Body.notices k))
    (hdata : linkLoad (Body.dataOn k) link' + t.scheduler.total (Body.dataOn k) =
      linkLoad (Body.dataOn k) link + s.scheduler.total (Body.dataOn k)) :
    peerOf k t link' = peerOf k s link := by
  have hseen : t.maximumSeen = s.maximumSeen := maximumSeen_of_flow hflow
  rw [peerOf, windowOf_of_flow hflow, hseen, hphase, hpipe, hdata]
  rfl

variable {item : OutboundItem}

lemma pipe_sent (link : List GatewayFrame) (hs : s.scheduler.HoldsData) (hopen : s.phase ≠ .closed)
    (hpop : s.scheduler.popNext.1 = some item) (ht : t.phase = s.phase)
    (hsched : t.scheduler = s.scheduler.popNext.2) :
    t.pipe (link ++ [s.frameOf item.body]) = s.pipe link ∨
      ∃ message, t.pipe (link ++ [s.frameOf item.body]) =
        linkBodies link ++ .data message :: s.sendable := by
  have hframe : (s.frameOf item.body).body = some item.body := rfl
  simp only [pipe, sendable, ht, if_neg hopen, hsched, linkBodies_append,
    linkBodies_cons hframe, List.append_assoc]
  rcases popNext_cases s.scheduler with
    ⟨hn, -, -⟩ | ⟨item', hi, hc, -⟩ | ⟨j, item', items, hi, hc, hq, -, -⟩
  · rw [hpop] at hn
    cases hn
  · obtain rfl := Option.some.inj (hpop.symm.trans hi)
    exact .inl (by simp [hc, linkBodies])
  · obtain rfl := Option.some.inj (hpop.symm.trans hi)
    obtain ⟨payload, hbody⟩ := hs j item (hq ▸ List.mem_cons_self)
    exact .inr ⟨⟨j, payload⟩, by simp [hc, linkBodies, hbody]⟩

lemma peerOf_sent (hs : s.scheduler.HoldsData) (hopen : s.phase ≠ .closed)
    (hpop : s.scheduler.popNext.1 = some item) :
    peerOf k { s with
      scheduler := s.scheduler.popNext.2
      nextSendSequence := s.nextSendSequence + 1 } (link ++ [s.frameOf item.body]) =
      peerOf k s link := by
  have htotal := total_popNext (Body.dataOn k) s.scheduler
  rw [hpop, Option.elim_some] at htotal
  have hframe : (s.frameOf item.body).body = some item.body := rfl
  refine peerOf_congr rfl rfl ?_ ?_
  · rcases pipe_sent (t := { s with
      scheduler := s.scheduler.popNext.2
      nextSendSequence := s.nextSendSequence + 1 }) link hs hopen hpop rfl rfl with
      hpipe | ⟨message, hpipe⟩
    · rw [hpipe]
    · rw [hpipe]
      simp
  · rw [linkLoad_append hframe, htotal]
    exact Nat.add_assoc _ _ _

lemma peerOf_empty (hopen : s.phase ≠ .closed) (hpop : s.scheduler.popNext.1 = none) :
    peerOf k { s with scheduler := s.scheduler.popNext.2 } link = peerOf k s link := by
  have htotal := total_popNext (Body.dataOn k) s.scheduler
  rw [hpop, Option.elim_none, Nat.zero_add] at htotal
  have hcontrol := control_of_popNext_none hpop
  refine peerOf_congr rfl rfl ?_ ?_
  · simp [hopen, hcontrol]
  · rw [htotal]

lemma acts_halt {q : List Credit.Notice} {e : ℕ} (hflow : t.flow = s.flow)
    (hclosed : t.phase = .closed)
    (htotal : t.scheduler.total (Body.dataOn k) ≤ s.scheduler.total (Body.dataOn k))
    (hq : q.Sublist y.pipe) (he : e ≤ y.data) :
    Moves (peerOf k s link) y (peerOf k t link) { y with pipe := q, data := e } := by
  have hpeer : peerOf k t link = { peerOf k s link with
      pipe := (linkBodies link).flatMap (Body.notices k)
      data := linkLoad (Body.dataOn k) link + t.scheduler.total (Body.dataOn k)
      halted := true } := by
    have hseen : t.maximumSeen = s.maximumSeen := maximumSeen_of_flow hflow
    simp [windowOf_of_flow hflow, hseen, hclosed]
  rw [hpeer]
  refine .halt ?_ hq (Nat.add_le_add_left htotal _) he
  simp only [peerOf, pipe, List.flatMap_append]
  exact List.prefix_append _ _

def unread (k : UInt64) (body : Body) (y : Credit.Peer) : Credit.Peer :=
  { y with pipe := body.notices k ++ y.pipe, data := body.dataOn k + y.data }

lemma peerOf_cons (h : frame.body = some body) :
    peerOf k s (frame :: link) = unread k body (peerOf k s link) := by
  simp [unread, linkBodies_cons h, linkLoad_cons h, Nat.add_assoc]

lemma unread_of_nothing (hn : body.notices k = []) (hd : body.dataOn k = 0) :
    unread k body y = y := by
  simp [unread, hn, hd]

lemma acts_halt_unread (hflow : t.flow = s.flow) (hclosed : t.phase = .closed)
    (htotal : t.scheduler.total (Body.dataOn k) ≤ s.scheduler.total (Body.dataOn k)) :
    Moves (peerOf k s link) (unread k body y) (peerOf k t link) y :=
  acts_halt (y := unread k body y) hflow hclosed htotal (List.sublist_append_right _ _)
    (Nat.le_add_left _ _)

lemma Session.Applies.peerOf_eq (h : Session.Applies s body t) (k : UInt64)
    (link : List GatewayFrame) (hs : s.phase ≠ .closed) (ht : t.phase ≠ .closed) :
    ∃ d, d ≤ (peerOf k s link).data ∧
      ((∀ message, body ≠ .closeStream message) → d = (peerOf k s link).data) ∧
      peerOf k t link = { peerOf k s link with
        window := t.windowOf k
        seen := decide (k ≤ t.maximumSeen)
        data := d } := by
  refine ⟨linkLoad (Body.dataOn k) link + t.scheduler.total (Body.dataOn k), ?_, fun hne => ?_, ?_⟩
  · rcases h.scheduler_cases with ⟨hsched, -⟩ | ⟨message, -, hsched⟩
    · rw [hsched]
      exact Nat.le_refl _
    · rw [hsched]
      exact Nat.add_le_add_left (Nat.le.intro (total_cancelStream _).symm) _
  · rcases h.scheduler_cases with ⟨hsched, -⟩ | ⟨message, hbody, -⟩
    · rw [hsched]
      rfl
    · exact absurd hbody (hne message)
  · simp [hs, ht, h.control]

lemma Session.Applies.moves (h : Session.Applies s body t) (hs : s.phase ≠ .closed) :
    Moves (peerOf k s link) (unread k body y) (peerOf k t link) y := by
  by_cases ht : t.phase = .closed
  · cases h with
    | plain _ _ _ hflow hsched => exact acts_halt_unread hflow ht (by rw [hsched])
    | _ => exact absurd ht hs
  obtain ⟨d, hd, heq, hpeer⟩ := h.peerOf_eq k link hs ht
  have hfades : t.windowOf k = s.windowOf k → body.notices k = [] → body.dataOn k = 0 →
      Moves (peerOf k s link) (unread k body y) (peerOf k t link) y := by
    intro hwindow hn hdata
    rw [hwindow] at hpeer
    rw [unread_of_nothing hn hdata]
    exact .fades h.lives.seen_le hd hpeer
  by_cases hk : body.streamId = k
  swap
  · exact hfades (windowOf_congr (h.lives.others k hk)) (notices_of_ne hk) (dataOn_of_ne hk)
  subst hk
  have hturn : ∀ {x}, t.windowOf body.streamId = x → t.maximumSeen = s.maximumSeen →
      peerOf body.streamId t link = { peerOf body.streamId s link with window := x, data := d } := by
    rintro _ rfl hseen
    rw [hpeer, hseen]
    rfl
  have hunread : ∀ {notice}, body.notices body.streamId = [notice] →
      body.dataOn body.streamId = 0 →
      unread body.streamId body y = { y with pipe := notice :: y.pipe } := by
    intro notice hn hdata
    simp [unread, hn, hdata]
  cases h with
  | handshakes _ hbody =>
    have hplain := Body.isPlain_of_handshakes hbody
    exact hfades rfl (notices_of_isPlain hplain) (dataOn_of_isData (Body.isData_of_isPlain hplain))
  | @opens message _ _ _ _ _ hf hstep =>
    obtain ⟨-, hlt, -, -, -, -, rfl⟩ := insertNewStream_eq_ok hstep
    obtain rfl := heq fun _ => Body.noConfusion
    have hoffer := hpeer.trans (c := { peerOf message.streamId s link with
        window := some ⟨.offered, message.initialReceiveWindow.toNat, 0⟩, seen := true }) (by
      simp [windowOf, maximumSeen, Body.streamId])
    rw [hoffer, hunread (if_pos rfl) rfl]
    exact .takeOffer (by simpa [maximumSeen, hf, Body.streamId] using hlt) rfl
  | opened _ _ hf hstep =>
    obtain ⟨stream, hl, hp, -, -, rfl⟩ := confirmLocalOpen_eq_ok hstep
    obtain rfl := heq fun _ => Body.noConfusion
    rw [hturn (windowOf_putStream hl rfl rfl) (maximumSeen_congr hf rfl rfl),
      hunread (if_pos rfl) rfl]
    exact .takeAnswer (w := stream.window) (windowOf_eq_some hf hl)
      (by simp [hp]) rfl
  | rejected _ _ hf hstep | closes _ hf hstep =>
    obtain ⟨stream, hl, -, rfl⟩ := rejectOrClose_eq_ok.mp hstep
    rw [hturn (by simp [windowOf, Body.streamId]; rfl)
      (maximumSeen_congr hf rfl rfl), hunread (if_pos rfl) rfl]
    exact .takeClose (windowOf_eq_some hf hl) rfl hd
  | @data message _ _ _ _ hf hstep =>
    obtain ⟨stream, hl, -, -, -, hle, -, -, rfl⟩ := debitReceive_eq_ok hstep
    obtain rfl := heq fun _ => Body.noConfusion
    have hact : Moves (peerOf message.streamId s link)
        (unread message.streamId (.data message) y) _ _ :=
      .takeData (n := message.payload.length) (windowOf_eq_some hf hl)
        (by simp [unread, Body.dataOn]) hle
    have hread : y = { unread message.streamId (.data message) y with
        data := (unread message.streamId (.data message) y).data - message.payload.length } := by
      simp [unread, Body.notices, Body.dataOn]
    rw [← hread] at hact
    rw [hturn (windowOf_putStream hl rfl rfl) (maximumSeen_congr hf rfl rfl)]
    exact hact
  | credited _ hf hstep =>
    rcases receiveWindowUpdate_eq_ok hstep with
      ⟨hzero, -, rfl⟩ | ⟨stream, hl, ⟨hj, -⟩, -, rfl⟩
    · refine hfades (windowOf_congr ?_) (by simp [Body.notices, hzero]) rfl
      simp [stream, hf]
    · obtain rfl := heq fun _ => Body.noConfusion
      rw [hturn (windowOf_putStream hl rfl rfl) (maximumSeen_congr hf rfl rfl),
        hunread (if_pos ⟨hj, rfl⟩) rfl]
      exact .takeCredit (w := stream.window) (windowOf_eq_some hf hl) rfl
  | halfClosed _ hf hstep =>
    obtain ⟨stream, hl, -, -, -, rfl⟩ := receiveHalfClose_eq_ok hstep
    exact hfades (by simp [windowOf, Body.streamId, hf, hl]) rfl rfl
  | plain _ hplain _ hflow =>
    exact hfades (windowOf_of_flow hflow) (notices_of_isPlain hplain)
      (dataOn_of_isData (Body.isData_of_isPlain hplain))

lemma linkBodies_suffix (h : link' <:+ link) : (linkBodies link').Sublist (linkBodies link) :=
  h.sublist.filterMap _

lemma Turn.moves {r : Session} {out inn out' inn' : List GatewayFrame}
    (h : Turn s out inn t out' inn') (hs : s.scheduler.HoldsData) :
    Moves (peerOf k s out) (peerOf k r inn) (peerOf k t out') (peerOf k r inn') := by
  cases h with
  | idles hidle =>
    refine .same ?_
    have hseen : t.maximumSeen = s.maximumSeen := maximumSeen_of_flow hidle.flow
    simp [hidle.closed, hidle.scheduler, windowOf_of_flow hidle.flow, hseen]
  | queues hqueue => exact hqueue.moves
  | waits hopen hpop => exact .same (peerOf_empty hopen hpop)
  | sends hopen hpop => exact .same (peerOf_sent hs hopen hpop)
  | closes _ hflow hclosed htotal _ hinn =>
    have hsub := linkBodies_suffix hinn
    refine acts_halt (y := peerOf k r inn) hflow hclosed (htotal _) ?_ ?_
    · exact (hsub.append_right _).flatMap _
    · exact Nat.add_le_add_right ((hsub.map _).sum_le_sum fun _ _ => Nat.zero_le _) _
  | @applies frame body _ _ hopen hinn hbody happly =>
    rw [hinn, peerOf_cons hbody]
    exact Session.Applies.moves (s := s.counted) happly hopen

end OnionRoute.GatewayProtocol
