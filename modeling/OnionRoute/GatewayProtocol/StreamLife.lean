import OnionRoute.GatewayProtocol.SessionEvents

/-! The life of one stream in a session. -/

namespace OnionRoute.GatewayProtocol

open Library FlowController

def Body.streamId : Body → UInt64
  | .openTcpStream message => message.streamId
  | .tcpStreamOpened message => message.streamId
  | .tcpStreamRejected message => message.streamId
  | .data message => message.streamId
  | .windowUpdate message => message.streamId
  | .halfClose message => message.streamId
  | .closeStream message => message.streamId
  | .error message => message.streamId
  | _ => 0

def Body.isData : Body → Bool
  | .data _ => true
  | _ => false

def Body.offered : Body → List UInt64
  | .openTcpStream message => [message.streamId]
  | _ => []

lemma Body.isData_of_isPlain {body : Body} (h : body.isPlain = true) : body.isData = false := by
  cases body <;> first | rfl | cases h

lemma Body.offered_of_isPlain {body : Body} (h : body.isPlain = true) : body.offered = [] := by
  cases body <;> first | rfl | cases h

namespace Session

variable {s t : Session} {body : Body}

def maximumSeen (s : Session) : UInt64 :=
  s.flow.elim 0 FlowController.maximumSeenStreamId

lemma maximumSeen_of_flow (h : t.flow = s.flow) : t.maximumSeen = s.maximumSeen := by
  rw [maximumSeen, h]
  rfl

lemma maximumSeen_congr {flow flow' : FlowController} (hs : s.flow = some flow)
    (ht : t.flow = some flow') (h : flow'.maximumSeenStreamId = flow.maximumSeenStreamId) :
    t.maximumSeen = s.maximumSeen := by
  simp [Session.maximumSeen, hs, ht, h]

def stream (s : Session) (k : UInt64) : Option StreamState :=
  s.flow.bind fun flow => flow.streams.lookup k

end Session

structure Status where
  phase : StreamPhase
  halfClosed : Bool

def StreamState.status (stream : StreamState) : Status :=
  ⟨stream.phase, stream.localHalfClosed⟩

inductive Side
  | own
  | peer

namespace Side

def offers : Side → StreamPhase
  | .own => .openingLocal
  | .peer => .openingRemote

def answers : Side → StreamPhase
  | .own => .openingRemote
  | .peer => .openingLocal

def opener : Side → PeerRole
  | .own => .client
  | .peer => .server

end Side

namespace Status

inductive Turns (side : Side) (k : UInt64) : Body → Option Status → Option Status → Prop
  | elsewhere {body : Body} {x : Option Status} : body.streamId ≠ k → Turns side k body x x
  | opens {message : OpenTcpStream} : message.streamId = k →
      Turns side k (.openTcpStream message) none (some ⟨side.offers, false⟩)
  | opened {message : TcpStreamOpened} {half : Bool} : message.streamId = k →
      Turns side k (.tcpStreamOpened message) (some ⟨side.answers, half⟩) (some ⟨.open, half⟩)
  | rejected {message : TcpStreamRejected} {x : Status} : message.streamId = k →
      Turns side k (.tcpStreamRejected message) (some x) none
  | data {message : Data} {half : Bool} : message.streamId = k → (side = .own → half = false) →
      Turns side k (.data message) (some ⟨.open, half⟩) (some ⟨.open, half⟩)
  | credited {message : WindowUpdate} {x : Option Status} : message.streamId = k →
      Turns side k (.windowUpdate message) x x
  | halfCloses {message : HalfClose} {half half' : Bool} : message.streamId = k →
      (side = .own → half' = true) → (half = true → half' = true) →
      Turns side k (.halfClose message) (some ⟨.open, half⟩) (some ⟨.open, half'⟩)
  | closes {message : CloseStream} {x : Status} : message.streamId = k →
      Turns side k (.closeStream message) (some x) none
  | plain {body : Body} {x : Option Status} : body.isPlain = true → Turns side k body x x

namespace Turns

variable {side : Side} {k : UInt64} {body : Body} {x y : Option Status}

lemma of_data (h : Turns .own k body x y) (hdata : body.isData = true)
    (hk : body.streamId = k) : x = some ⟨.open, false⟩ := by
  cases h with
  | data _ hhalf => rw [hhalf rfl]
  | elsewhere hne => exact absurd hk hne
  | plain hplain =>
    cases body with
    | data => cases hplain
    | _ => cases hdata
  | _ => cases hdata

lemma of_open {half : Bool} (h : Turns side k body x (some ⟨.open, half⟩)) :
    (∃ half', x = some ⟨.open, half'⟩ ∧ ∀ message, body = .closeStream message →
      message.streamId ≠ k) ∨
    ∃ message, body = .tcpStreamOpened message ∧ message.streamId = k := by
  generalize hy : some (Status.mk .open half) = y at h
  cases h with
  | elsewhere hne =>
    refine .inl ⟨half, hy.symm, ?_⟩
    rintro message rfl
    exact hne
  | opens => cases side <;> cases hy
  | opened hk => exact .inr ⟨_, rfl, hk⟩
  | rejected | closes => cases hy
  | data | halfCloses => exact .inl ⟨_, rfl, fun _ => Body.noConfusion⟩
  | credited => exact .inl ⟨half, hy.symm, fun _ => Body.noConfusion⟩
  | plain hplain =>
    refine .inl ⟨half, hy.symm, ?_⟩
    rintro message rfl
    cases hplain

lemma keeps_halfClosed (h : Turns side k body x y) (hx : ∀ v, x = some v → v.halfClosed = true)
    (hopen : body.offered ≠ [k]) : ∀ v, y = some v → v.halfClosed = true := by
  cases h with
  | elsewhere | credited | plain | data => exact hx
  | opens hk => exact absurd (by rw [← hk]; rfl) hopen
  | rejected | closes => rintro _ ⟨⟩
  | @opened _ half =>
    rintro _ ⟨⟩
    exact hx ⟨side.answers, half⟩ rfl
  | @halfCloses _ half _ _ _ hkeeps =>
    rintro _ ⟨⟩
    exact hkeeps (hx ⟨.open, half⟩ rfl)

end Turns

end Status

namespace FlowController

variable {flow flow' : FlowController} {j : UInt64} {stream stream' : StreamState}

def status (flow : FlowController) (k : UInt64) : Option Status :=
  (flow.streams.lookup k).map StreamState.status

structure Changes (flow flow' : FlowController) (j : UInt64) (x y : Option Status) : Prop where
  before : flow.status j = x
  after : flow'.status j = y
  others : ∀ k, j ≠ k → flow'.streams.lookup k = flow.streams.lookup k

namespace Changes

lemma put (hl : flow.streams.lookup j = some stream)
    (hput : flow'.streams = (flow.putStream j stream').streams) :
    Changes flow flow' j (some stream.status) (some stream'.status) where
  before := by simp [status, hl]
  after := by simp [status, hput, hl]
  others k hk := by simp [hput, Ne.symm hk]

lemma erase (hl : flow.streams.lookup j = some stream)
    (herase : flow'.streams = flow.streams.erase j) :
    Changes flow flow' j (some stream.status) none where
  before := by simp [status, hl]
  after := by simp [status, herase]
  others k hk := by rw [herase, Table.lookup_erase_of_ne _ (Ne.symm hk)]

lemma insert (hl : flow.streams.lookup j = none)
    (hinsert : flow'.streams = flow.streams.insert j stream) :
    Changes flow flow' j none (some stream.status) where
  before := by simp [status, hl]
  after := by simp [status, hinsert]
  others k hk := by rw [hinsert, Table.lookup_insert_of_ne _ (Ne.symm hk)]

lemma windows (hsame : flow'.streams = flow.streams) :
    Changes flow flow' j (flow.status j) (flow.status j) where
  before := rfl
  after := by rw [status, status, hsame]
  others k _ := by rw [hsame]

end Changes

end FlowController

namespace Session

variable {s t : Session} {side : Side} {body : Body} {k : UInt64} {flow flow' : FlowController}
  {x y : Option Status}

def status (s : Session) (k : UInt64) : Option Status :=
  s.flow.bind fun flow => flow.status k

lemma status_congr (h : t.flow = s.flow) (k : UInt64) : t.status k = s.status k := by
  rw [status, h]
  rfl

lemma status_of_flow (h : s.flow = some flow) (k : UInt64) : s.status k = flow.status k := by
  rw [status, h]
  rfl

def Numbered (s : Session) : Prop :=
  ∀ k x, s.status k = some x → k ≤ s.maximumSeen

lemma Numbered.of_flow (h : s.Numbered) (hflow : t.flow = s.flow) : t.Numbered := by
  intro k x hx
  rw [status_congr hflow] at hx
  rw [maximumSeen_of_flow hflow]
  exact h k x hx

structure Lives (side : Side) (s : Session) (body : Body) (t : Session) : Prop where
  seen : body.offered = [] ∧ t.maximumSeen = s.maximumSeen ∨
    s.localRole = side.opener ∧ body.offered = [t.maximumSeen] ∧ s.maximumSeen < t.maximumSeen
  others : ∀ k, body.streamId ≠ k → t.stream k = s.stream k
  turns : ∀ k, Status.Turns side k body (s.status k) (t.status k)

namespace Lives

lemma of_changes (hs : s.flow = some flow) (ht : t.flow = some flow')
    (hseen : body.offered = [] ∧ flow'.maximumSeenStreamId = flow.maximumSeenStreamId ∨
      s.localRole = side.opener ∧ body.offered = [flow'.maximumSeenStreamId] ∧
        flow.maximumSeenStreamId < flow'.maximumSeenStreamId)
    (hchanges : flow.Changes flow' body.streamId x y)
    (hturns : Status.Turns side body.streamId body x y) : Lives side s body t where
  seen := by simpa [Session.maximumSeen, hs, ht] using hseen
  others k hk := by simpa [stream, hs, ht] using hchanges.others k hk
  turns k := by
    rw [status_of_flow hs, status_of_flow ht]
    by_cases hk : body.streamId = k
    · rwa [← hk, hchanges.before, hchanges.after]
    · rw [FlowController.status, FlowController.status, hchanges.others k hk]
      exact .elsewhere hk

lemma of_plain (hflow : t.flow = s.flow) (hplain : body.isPlain = true) : Lives side s body t where
  seen := .inl ⟨Body.offered_of_isPlain hplain, maximumSeen_of_flow hflow⟩
  others k _ := by
    rw [stream, hflow]
    rfl
  turns k := by
    rw [status_congr hflow]
    exact .plain hplain

variable (h : Lives side s body t)
include h

lemma offered_ne (hk : k ≤ s.maximumSeen) : body.offered ≠ [k] := by
  rcases h.seen with ⟨hnone, -⟩ | ⟨-, hone, hlt⟩
  · rw [hnone]
    exact (List.cons_ne_nil _ _).symm
  · rw [hone]
    intro heq
    rw [(List.cons.inj heq).1] at hlt
    exact UInt64.not_le.mpr hlt hk

lemma maximumSeen_le : s.maximumSeen ≤ t.maximumSeen := by
  rcases h.seen with ⟨-, heq⟩ | ⟨-, -, hlt⟩
  · exact heq ▸ UInt64.le_refl _
  · exact UInt64.le_of_lt hlt

lemma numbered (hs : s.Numbered) : t.Numbered := by
  intro k x hx
  have hsame : ∀ {y}, s.status k = some y → k ≤ t.maximumSeen := fun hy =>
    UInt64.le_trans (hs k _ hy) h.maximumSeen_le
  have hturns := h.turns k
  rw [hx] at hturns
  generalize hy : s.status k = y at hturns
  cases hturns with
  | elsewhere | credited | plain | opened | data | halfCloses => exact hsame hy
  | opens hk =>
    rcases h.seen with ⟨hnone, -⟩ | ⟨-, hone, -⟩
    · cases hnone
    · rw [← hk, (List.cons.inj hone).1]
      exact UInt64.le_refl _

end Lives

lemma Queue.lives (h : Queue s body t) : Lives .own s body t := by
  have hq := h.queues
  generalize hflow : t.flow = flow at hq
  generalize t.scheduler = scheduler at hq
  cases hq with
  | opens _ hrole hf hstep =>
    obtain ⟨-, hlt, hnone, -, -, -, rfl⟩ := insertNewStream_eq_ok hstep
    exact .of_changes hf hflow (.inr ⟨hrole, rfl, hlt⟩) (.insert hnone rfl) (.opens rfl)
  | accepts _ _ hf hstep =>
    obtain ⟨stream, hl, hp, -, -, rfl⟩ := acceptRemoteOpen_eq_ok hstep
    refine .of_changes hf hflow (.inl ⟨rfl, rfl⟩) (.put hl rfl) ?_
    rw [StreamState.status, hp]
    exact .opened rfl
  | rejects _ _ hf hstep =>
    obtain ⟨_, hl, -, rfl⟩ := rejectOrClose_eq_ok.mp hstep
    exact .of_changes hf hflow (.inl ⟨rfl, rfl⟩) (.erase hl rfl) (.rejected rfl)
  | data _ hf hstep =>
    obtain ⟨stream, hl, hp, hhalf, -, -, -, -, rfl⟩ := debitSend_eq_ok hstep
    refine .of_changes hf hflow (.inl ⟨rfl, rfl⟩) (.put hl rfl) ?_
    rw [StreamState.status, StreamState.status, hp, hhalf]
    exact .data rfl fun _ => rfl
  | grants _ hf hstep =>
    rcases grantReceiveCredit_eq_ok hstep with ⟨-, -, rfl⟩ | ⟨stream, hl, -, -, rfl⟩
    · exact .of_changes hf hflow (.inl ⟨rfl, rfl⟩) (.windows rfl) (.credited rfl)
    · exact .of_changes hf hflow (.inl ⟨rfl, rfl⟩) (.put hl rfl) (.credited rfl)
  | halfCloses _ hf hstep =>
    obtain ⟨stream, hl, hp, hhalf, -, rfl⟩ := localHalfClose_eq_ok hstep
    refine .of_changes hf hflow (.inl ⟨rfl, rfl⟩) (.put hl rfl) ?_
    rw [StreamState.status, StreamState.status, hp, hhalf]
    exact .halfCloses rfl (fun _ => rfl) fun _ => rfl
  | closes _ hf hstep =>
    obtain ⟨_, hl, -, rfl⟩ := rejectOrClose_eq_ok.mp hstep
    exact .of_changes hf hflow (.inl ⟨rfl, rfl⟩) (.erase hl rfl) (.closes rfl)
  | plain hplain => exact .of_plain hflow hplain
  | handshakes hhand => exact .of_plain hflow (Body.isPlain_of_isHandshake hhand)

lemma Applies.lives (h : Applies s body t) : Lives .peer s body t := by
  cases h with
  | handshakes _ hbody => exact .of_plain rfl (Body.isPlain_of_handshakes hbody)
  | opens _ hrole hf hstep =>
    obtain ⟨-, hlt, hnone, -, -, -, rfl⟩ := insertNewStream_eq_ok hstep
    exact .of_changes hf rfl (.inr ⟨hrole, rfl, hlt⟩) (.insert hnone rfl) (.opens rfl)
  | opened _ _ hf hstep =>
    obtain ⟨stream, hl, hp, -, -, rfl⟩ := confirmLocalOpen_eq_ok hstep
    refine .of_changes hf rfl (.inl ⟨rfl, rfl⟩) (.put hl rfl) ?_
    rw [StreamState.status, hp]
    exact .opened rfl
  | rejected _ _ hf hstep =>
    obtain ⟨_, hl, -, rfl⟩ := rejectOrClose_eq_ok.mp hstep
    exact .of_changes hf rfl (.inl ⟨rfl, rfl⟩) (.erase hl rfl) (.rejected rfl)
  | data _ hf hstep =>
    obtain ⟨stream, hl, hp, -, -, -, -, -, rfl⟩ := debitReceive_eq_ok hstep
    refine .of_changes hf rfl (.inl ⟨rfl, rfl⟩) (.put hl rfl) ?_
    rw [StreamState.status, StreamState.status, hp]
    exact .data rfl Side.noConfusion
  | credited _ hf hstep =>
    rcases receiveWindowUpdate_eq_ok hstep with ⟨-, -, rfl⟩ | ⟨stream, hl, -, -, rfl⟩
    · exact .of_changes hf rfl (.inl ⟨rfl, rfl⟩) (.windows rfl) (.credited rfl)
    · exact .of_changes hf rfl (.inl ⟨rfl, rfl⟩) (.put hl rfl) (.credited rfl)
  | halfClosed _ hf hstep =>
    obtain ⟨stream, hl, hp, -, -, rfl⟩ := receiveHalfClose_eq_ok hstep
    refine .of_changes hf rfl (.inl ⟨rfl, rfl⟩) (.put hl rfl) ?_
    rw [StreamState.status, StreamState.status, hp]
    exact .halfCloses rfl Side.noConfusion id
  | closes _ hf hstep =>
    obtain ⟨_, hl, -, rfl⟩ := rejectOrClose_eq_ok.mp hstep
    exact .of_changes hf rfl (.inl ⟨rfl, rfl⟩) (.erase hl rfl) (.closes rfl)
  | plain _ hplain _ hflow => exact .of_plain hflow hplain

lemma Applies.localRole_of_answer (h : Applies s body t)
    (hbody : (∃ message, body = .tcpStreamOpened message) ∨
      ∃ message, body = .tcpStreamRejected message) : s.localRole = .client := by
  cases h with
  | opened _ hrole | rejected _ hrole => exact hrole
  | handshakes _ hhand =>
    have hplain := Body.isPlain_of_handshakes hhand
    rcases hbody with ⟨_, rfl⟩ | ⟨_, rfl⟩ <;> cases hplain
  | plain _ hplain => rcases hbody with ⟨_, rfl⟩ | ⟨_, rfl⟩ <;> cases hplain
  | _ => rcases hbody with ⟨_, hbody⟩ | ⟨_, hbody⟩ <;> cases hbody

lemma Queue.scheduler_cases (h : Queue s body t) :
    (∃ size, body.isData = false ∧ (∀ message, body ≠ .closeStream message) ∧
      t.scheduler = s.scheduler.pushControl ⟨body, size⟩) ∨
    (∃ message size, body = .data message ∧ message.streamId ≠ 0 ∧
      t.scheduler = s.scheduler.pushStream message.streamId ⟨body, size⟩) ∨
    ∃ message size, body = .closeStream message ∧
      t.scheduler = (s.scheduler.cancelStream message.streamId).pushControl ⟨body, size⟩ := by
  have hq := h.queues
  generalize t.flow = flow at hq
  generalize t.scheduler = scheduler at hq ⊢
  cases hq with
  | opens | accepts | rejects | grants | halfCloses =>
    exact .inl ⟨_, rfl, fun _ => Body.noConfusion, rfl⟩
  | data _ _ hstep =>
    obtain ⟨_, -, -, -, -, -, -, ⟨hj, -⟩, -⟩ := debitSend_eq_ok hstep
    exact .inr (.inl ⟨_, _, rfl, hj, rfl⟩)
  | closes => exact .inr (.inr ⟨_, _, rfl, rfl⟩)
  | plain hplain =>
    exact .inl ⟨_, Body.isData_of_isPlain hplain, Body.ne_closeStream_of_isPlain hplain, rfl⟩
  | handshakes hhand =>
    have hplain := Body.isPlain_of_isHandshake hhand
    exact .inl ⟨_, Body.isData_of_isPlain hplain, Body.ne_closeStream_of_isPlain hplain, rfl⟩

end Session

end OnionRoute.GatewayProtocol
