import OnionRoute.GatewayDaemon.ReaderEvents

/-! What holds in every state of a session. -/

namespace OnionRoute.GatewayDaemon

open Library

namespace SessionState

variable {ctx : SessionContext} {s t : SessionState} {c : Cause} {ok : Bool} {id other : UInt64}
  {stream stream' : ActiveStream}

def HalfOpen (s : SessionState) : Prop :=
  ∀ id stream, s.streams.lookup id = some stream → stream.HalfOpen

lemma HalfOpen.update (h : s.HalfOpen) (hstream : stream.HalfOpen) :
    (s.update other stream).HalfOpen := by
  intro id stream' hstream'
  rcases lookup_update hstream' with ⟨rfl, rfl⟩ | ⟨-, hstream'⟩
  · exact hstream
  · exact h id stream' hstream'

lemma HalfOpen.erase (h : ∀ id ≠ other, ∀ stream, s.streams.lookup id = some stream →
    stream.HalfOpen) : (s.remove other).HalfOpen := by
  intro id stream hstream
  obtain ⟨hid, hstream⟩ := Table.lookup_erase_eq_some hstream
  exact h id hid stream hstream

lemma Effect.halfOpen (h : Effect ctx s c true t) (hs : s.HalfOpen) : t.HalfOpen := by
  have herase : ∀ other, (s.remove other).HalfOpen := fun other =>
    HalfOpen.erase fun id _ => hs id
  have hclosed : ∀ other stream', (remove (s.update other stream') other).HalfOpen := by
    intro other stream'
    refine HalfOpen.erase fun id hid stream hstream => ?_
    rcases lookup_update hstream with ⟨rfl, -⟩ | ⟨-, hstream⟩
    · exact absurd rfl hid
    · exact hs id stream hstream
  cases h with
  | ignored | dialing | refused | answered | notOpened | delivered => exact hs
  | written hstream => exact hs.update (hs _ _ hstream)
  | granted hstream =>
    have hopen := hs _ _ hstream
    exact hs.update hopen
  | closing hstream hopen hremote => exact hs.update (.inr hremote)
  | closed => exact hclosed _ _
  | reset | failed => exact herase _
  | opened => exact HalfOpen.update (s := { s with pending := s.pending.erase _ }) hs (.inl rfl)
  | remoteClosing hstream hopen => exact hs.update (.inl (hopen rfl))
  | remoteClosed => exact hclosed _ _

variable {body : Body}

lemma allowed_unrelated (h : body.Unrelated) (log : List LogEntry) : Allowed log (.sent body) := by
  cases body with
  | dnsResponse | pong => trivial
  | _ => exact h.elim

def NoLateData (s : SessionState) (c : Cause) : Prop :=
  ∀ id payload stream, c = .event (.data id payload) →
    s.streams.lookup id = some stream → stream.remoteClosed = false

lemma Effect.history (h : Effect ctx s c ok t) (hs : ∀ id, s.Registered id) (hopen : s.HalfOpen)
    (hnoted : s.Noted c) (hdata : s.NoLateData c) (hhistory : History Allowed s.log) :
    History Allowed t.log := by
  have hheld : ∀ {id stream}, s.streams.lookup id = some stream →
      Logged (LogEntry.Opens id) s.log ∧ ¬ Ended id s.log := by
    intro id stream hstream
    have hrecorded := (hs id).streams stream hstream
    exact ⟨hrecorded.opened, hrecorded.not_ended (hopen id stream hstream)⟩
  have hpending : ∀ {id}, id ∈ s.pending → Logged (LogEntry.Asks id) s.log ∧
      ¬ Logged (LogEntry.Answers id) s.log ∧ ¬ Ended id s.log := by
    intro id hid
    obtain ⟨hasks, hanswers, -⟩ := (hs id).pending hid
    exact ⟨hasks, hanswers, (hs id).not_ended hanswers⟩
  cases h with
  | rejected | ignored | raised | dialing | granted | closing | closed | reset | dropped | forgotten =>
    exact hhistory
  | @refused request ok status n hnew =>
    have hanswers := ((hs request.streamId).fresh hnew).2.2
    exact hhistory.snoc ⟨hnoted, hanswers, (hs _).not_ended hanswers⟩
  | written hstream | failed hplain hstream
  | remoteClosing hstream | remoteClosed hstream => exact hhistory.snoc (hheld hstream)
  | answered hplain hbody => exact hhistory.snoc (allowed_unrelated hbody _)
  | opened hmem | notOpened hmem => exact hhistory.snoc (hpending hmem)
  | @delivered id payload ok stream n hstream =>
    refine hhistory.snoc ⟨(hheld hstream).1, ?_, (hheld hstream).2⟩
    rw [((hs id).streams stream hstream).selfClosed, hdata id payload stream rfl hstream]
    exact Bool.false_ne_true

def load (s : SessionState) : ℕ := s.streams.size + s.pending.card

lemma load_update (hstream : s.streams.lookup other = some stream) (stream' : ActiveStream) :
    (s.update other stream').load = s.load := by
  simp only [load, update, Table.size_insert, Table.size_of_lookup hstream]

lemma load_remove_le (other : UInt64) : (s.remove other).load ≤ s.load := by
  have hle := Table.size_erase_le s.streams other
  simp only [load, remove]
  omega

lemma load_unpend_le (other : UInt64) : load { s with pending := s.pending.erase other } ≤ s.load := by
  have hle := Finset.card_erase_le (s := s.pending) (a := other)
  simp only [load]
  omega

lemma Effect.load_le (h : Effect ctx s c ok t) (hs : s.load ≤ ctx.limits.maxStreamsPerSession) :
    t.load ≤ ctx.limits.maxStreamsPerSession := by
  cases h with
  | rejected | ignored | raised | refused | answered | delivered => exact hs
  | @dialing request hnew hroom =>
    have hle := Finset.card_insert_le request.streamId s.pending
    simp only [load]
    omega
  | written hstream | granted hstream | closing hstream
  | remoteClosing hstream => exact (load_update hstream _).trans_le hs
  | closed hstream
  | remoteClosed hstream => exact (load_remove_le _).trans ((load_update hstream _).trans_le hs)
  | reset | dropped | failed => exact (load_remove_le _).trans hs
  | @opened id window ok n hpending =>
    have hinsert := Table.size_insert s.streams id (startStream ctx id window)
    have hle := Table.size_erase_le s.streams id
    have hcard := Finset.card_erase_add_one hpending
    simp only [load, logged, update] at hs ⊢
    omega
  | forgotten | notOpened => exact (load_unpend_le _).trans hs

variable (ctx)

structure Safe (s : SessionState) : Prop where
  history : History Allowed s.log
  room : s.load ≤ ctx.limits.maxStreamsPerSession
  disjoint : ∀ id ∈ s.pending, s.streams.lookup id = none
  started : ∀ id, Logged (LogEntry.Opens id) s.log →
    (∃ stream, s.streams.lookup id = some stream ∧ stream.reader.streamId = id) ∨
      ∃ task ∈ s.aborted, task.streamId = id

structure Sound (s : SessionState) : Prop where
  registered : ∀ id, s.Registered id
  halfOpen : s.HalfOpen
  history : History Allowed s.log
  room : s.load ≤ ctx.limits.maxStreamsPerSession

variable {ctx}

lemma safe_of_registered (hs : ∀ id, s.Registered id) (hhistory : History Allowed s.log)
    (hroom : s.load ≤ ctx.limits.maxStreamsPerSession) : Safe ctx s where
  history := hhistory
  room := hroom
  disjoint id hid := (hs id).notHeld hid
  started id hopens := by
    refine ((hs id).started hopens).imp_left ?_
    rintro ⟨stream, hstream⟩
    exact ⟨stream, hstream, ((hs id).streams stream hstream).reader.streamId⟩

lemma Sound.safe (h : Sound ctx s) : Safe ctx s :=
  safe_of_registered h.registered h.history h.room

lemma Safe.receive (h : Safe ctx s) (frame : GatewayFrame) : Safe ctx (s.receive frame) where
  history := h.history.snoc trivial
  room := h.room
  disjoint := h.disjoint
  started id hopens := by
    simp only [SessionState.receive, logged_append, logged_singleton, LogEntry.Opens,
      or_false] at hopens
    exact h.started id hopens

lemma Safe.tornDown (h : Safe ctx s) (report : Option ErrorStatus) :
    Safe ctx (s.tornDown report) where
  history := by
    cases report with
    | none => simpa [SessionState.tornDown] using h.history
    | some status => exact h.history.snoc trivial
  room := by
    have hroom := h.room
    have hempty : Table.size (∅ : Table UInt64 ActiveStream) = 0 := rfl
    simp only [load, SessionState.tornDown] at hroom ⊢
    omega
  disjoint id _ := rfl
  started id hopens := by
    have hopens : Logged (LogEntry.Opens id) s.log := by
      cases report <;> simpa [SessionState.tornDown, LogEntry.Opens] using hopens
    right
    rcases h.started id hopens with ⟨stream, hstream, hid⟩ | ⟨task, htask, hid⟩
    · have hmem : stream.reader ∈ s.streams.values.map ActiveStream.reader :=
        List.mem_map_of_mem (Table.mem_values_iff.mpr ⟨id, hstream⟩)
      exact ⟨stream.reader, List.mem_append_right _ hmem, hid⟩
    · exact ⟨task, List.mem_append_left _ htask, hid⟩

lemma Effect.safe (h : Effect ctx s c ok t) (hs : Sound ctx s) (hnoted : s.Noted c)
    (hdata : s.NoLateData c) : Safe ctx t :=
  safe_of_registered (h.registered hs.registered hnoted)
    (h.history hs.registered hs.halfOpen hnoted hdata hs.history) (h.load_le hs.room)

lemma Effect.sound (h : Effect ctx s c true t) (hs : Sound ctx s) (hnoted : s.Noted c)
    (hdata : s.NoLateData c) : Sound ctx t where
  registered := h.registered hs.registered hnoted
  halfOpen := h.halfOpen hs.halfOpen
  history := h.history hs.registered hs.halfOpen hnoted hdata hs.history
  room := h.load_le hs.room

lemma Sound.receive {frame : GatewayFrame} (h : Sound ctx s) (hframe : frame.body = some body)
    (hbody : ¬ body.Closing) : Sound ctx (s.receive frame) where
  registered id := registered_receive hframe hbody (h.registered id)
  halfOpen := h.halfOpen
  history := h.history.snoc trivial
  room := h.room

section Tasks

variable {sent : Option StreamEvent}

lemma Sound.pumped (h : Sound ctx s) (hstream : s.streams.lookup other = some stream)
    {next : ReaderTask} (hpumped : stream.reader.Pumped next sent) :
    Sound ctx (s.update other { stream with reader := next }) where
  registered id := by
    by_cases hid : id = other
    · subst hid
      obtain ⟨hopened, hreset, hself, hpeer, hreader⟩ := (h.registered id).streams stream hstream
      have hrecorded : ActiveStream.Recorded id s.log { stream with reader := next } :=
        ⟨hopened, hreset, hself, hpeer, (hpumped.reads hreader).1⟩
      exact (h.registered id).changed hstream hrecorded _
    · exact (h.registered id).untouched (untouched_update hid _)
  halfOpen := by
    have hopen := h.halfOpen other stream hstream
    exact h.halfOpen.update hopen
  history := h.history
  room := (load_update hstream _).trans_le h.room

lemma Sound.lingered (h : Sound ctx s) {task : ℕ} {old next : ReaderTask}
    (htask : s.aborted[task]? = some old) (hpumped : old.Pumped next sent) :
    Sound ctx { s with aborted := s.aborted.set task next } where
  registered id := by
    have hold : old ∈ s.aborted := List.mem_of_getElem? htask
    have hreads := ((h.registered old.streamId).aborted old hold rfl).2.2
    have hnext := (hpumped.reads hreads).1
    obtain ⟨hanswered, hpending, hstreams, hsettled, haborted, hstarted⟩ := h.registered id
    refine ⟨hanswered, hpending, hstreams, hsettled, fun other hother hid => ?_, fun hopens => ?_⟩
    · rcases List.mem_or_eq_of_mem_set hother with hother | rfl
      · exact haborted other hother hid
      · have hsame : old.streamId = id := hnext.streamId.symm.trans hid
        obtain ⟨hanswers, hlookup, -⟩ := haborted old hold hsame
        exact ⟨hanswers, hlookup, hsame ▸ hnext⟩
    · refine (hstarted hopens).imp_right ?_
      rintro ⟨other, hother, hid⟩
      obtain ⟨i, hi⟩ := List.mem_iff_getElem?.mp hother
      by_cases htaken : task = i
      · subst htaken
        obtain rfl := Option.some.inj (htask.symm.trans hi)
        have hlt := (List.getElem?_eq_some_iff.mp htask).1
        exact ⟨next, List.mem_set hlt _, hnext.streamId.trans hid⟩
      · refine ⟨other, List.mem_of_getElem? (i := i) ?_, hid⟩
        rw [List.getElem?_set_ne htaken]
        exact hi
  halfOpen := h.halfOpen
  history := h.history
  room := h.room

lemma Sound.dialed (h : Sound ctx s) (dials : List (UInt64 × ℕ)) : Sound ctx { s with dials } where
  registered id := (h.registered id).untouched
    ⟨rfl, .rfl, .refl _ _, fun _ _ => .rfl, UInt64.le_refl _⟩
  halfOpen := h.halfOpen
  history := h.history
  room := h.room

end Tasks

end SessionState

open SessionState

variable {ctx : SessionContext} {o : Outcomes} {s t : SessionState} {events : List StreamEvent}

section

variable (hs : SessionState.Sound ctx s)
include hs

lemma pending_unanswered (id : UInt64) (hid : id ∈ s.pending) :
    ¬ Logged (LogEntry.Answers id) s.log :=
  ((hs.registered id).pending hid).2.1

lemma handleClientFrame_sound (hqueued : ∀ id, Queued events s id) (frame : GatewayFrame) :
    Ends (handleClientFrame ctx o frame) s
      (fun _ t => SessionState.Sound ctx t ∧ ∀ id, Queued events t id) (Safe ctx) := by
  have hsafe := hs.safe.receive frame
  refine (handleClientFrame_ends frame).mono ?_ ?_
  · rintro _ t ⟨body, hframe, h⟩
    refine ⟨?_, fun id => ?_⟩
    · by_cases hclosing : body.Closing
      · refine ⟨h.registered_closing hframe hclosing hs.registered, h.halfOpen hs.halfOpen, ?_,
          h.load_le hs.room⟩
        rw [h.log_closing hclosing]
        exact hsafe.history
      · exact h.sound (hs.receive hframe hclosing) (noted_receive hframe hclosing)
          nofun
    · have hreceived : Queued events (s.receive frame) id :=
        (hqueued id).congr rfl (List.prefix_append _ _)
      refine hreceived.effect h (fun hid => ?_) nofun
      simpa [SessionState.receive, LogEntry.Answers] using pending_unanswered hs id hid
  · rintro t (rfl | ⟨body, hframe, h⟩)
    · exact hsafe
    · by_cases hclosing : body.Closing
      · rw [h.eq_of_closing hclosing]
        exact hsafe
      · exact h.safe (hs.receive hframe hclosing) (noted_receive hframe hclosing)
          nofun

lemma handleStreamEvent_sound {event : StreamEvent}
    (hqueued : ∀ id, Queued (event :: events) s id) :
    Ends (handleStreamEvent ctx o event) s
      (fun _ t => SessionState.Sound ctx t ∧ ∀ id, Queued events t id) (Safe ctx) := by
  have hdata : s.NoLateData (.event event) := by
    intro id payload stream hc hstream
    obtain rfl := Cause.event.inj hc
    by_contra hclosed
    have hnone := ((hqueued id).closed stream hstream (Bool.eq_true_of_not_eq_false hclosed)).2
    exact hnone _ List.mem_cons_self rfl
  refine (handleStreamEvent_ends event).mono (fun _ t h => ?_) fun t h => h.safe hs trivial hdata
  exact ⟨h.sound hs trivial hdata, fun id => (hqueued id).received h (pending_unanswered hs id)⟩

end

namespace RunSession

variable {decode : Bytes → Option GatewayFrame} {s t : RunSession}

structure Kept (ctx : SessionContext) (s : RunSession) : Prop where
  safe : Safe ctx s.state
  sound : s.returned = none → SessionState.Sound ctx s.state ∧ ∀ id, Queued s.channel s.state id

lemma kept_of_sound (hsound : SessionState.Sound ctx s.state)
    (hqueued : ∀ id, Queued s.channel s.state id) :
    Kept ctx s :=
  ⟨hsound.safe, fun _ => ⟨hsound, hqueued⟩⟩

lemma kept_start (clientSequence serverSequence : UInt64) :
    Kept ctx (start clientSequence serverSequence) := by
  refine kept_of_sound ⟨fun id => ?_, ?_, .nil, Nat.zero_le _⟩ fun id => .nil rfl
  · constructor <;> simp [start]
  · intro id stream hstream
    cases hstream

lemma Kept.finish (hsafe : Safe ctx s.state) (result : GatewayResult Unit) :
    Kept ctx (s.finish o result) := by
  obtain ⟨report, r, hfinish⟩ := finish_eq o result s
  rw [hfinish]
  exact ⟨hsafe.tornDown report, nofun⟩

lemma Kept.leave (hsafe : Safe ctx s.state) (e : GatewayErrorCode) : Kept ctx (s.leave e) :=
  ⟨hsafe, nofun⟩

lemma kept_handled {m : SessionM Unit} {state : SessionState}
    (h : Ends m state (fun _ u => SessionState.Sound ctx u ∧ ∀ id, Queued s.channel u id)
      (Safe ctx)) :
    Kept ctx (handled o s (m state)) := by
  rw [Ends] at h
  cases hm : m state with
  | ok u state' =>
    rw [hm] at h
    exact kept_of_sound h.1 h.2
  | error e state' =>
    rw [hm] at h
    exact Kept.finish (s := { s with state := state' }) h (.error e)

lemma Step.kept {e : Event} (h : Step ctx decode s e t) (hs : Kept ctx s) : Kept ctx t := by
  obtain ⟨hsound, hqueued⟩ := hs.sound h.1
  cases h.moves with
  | arrive | readMore => exact kept_of_sound hsound hqueued
  | readFailed | overflow | cutOff | readError =>
    refine .leave ?_ _
    exact hs.safe
  | refused | endOfFile | expire | idle =>
    refine .finish ?_ _
    exact hs.safe
  | frame => exact kept_handled (handleClientFrame_sound hsound hqueued _)
  | receive hchannel =>
    rw [hchannel] at hqueued
    exact kept_handled (handleStreamEvent_sound hsound hqueued)
  | dialed =>
    refine kept_of_sound (hsound.dialed _) fun id => ?_
    exact Queued.push ((hqueued id).congr rfl (List.prefix_refl _)) fun hof => hof.elim
  | @pump other action stream reader event hstream hpump =>
    have hpumped := ReaderTask.pumped_of_pump hpump
    have hrecorded := (hsound.registered other).streams stream hstream
    refine kept_of_sound (hsound.pumped hstream hpumped) fun id => ?_
    by_cases hid : id = other
    · subst hid
      exact (hqueued id).pumped hstream hrecorded hpumped
    · have hqueue := (hqueued id).congr (t := s.state.update other { stream with reader })
        (Table.lookup_insert_of_ne _ hid _) (List.prefix_refl _)
      cases event with
      | none => simpa using hqueue
      | some event =>
        refine hqueue.push fun hof => hid ?_
        exact hof.unique ((hpumped.reads hrecorded.reader).2.2 event rfl).1
  | @linger task action old reader event htask hpump =>
    have hpumped := ReaderTask.pumped_of_pump hpump
    obtain ⟨hanswers, hlookup, hreads⟩ :=
      (hsound.registered old.streamId).aborted old (List.mem_of_getElem? htask) rfl
    refine kept_of_sound (hsound.lingered htask hpumped) fun id => ?_
    by_cases hid : id = old.streamId
    · subst hid
      refine .removed ?_ ?_ _
      · exact hanswers
      · exact hlookup
    · have hqueue : Queued s.channel { s.state with aborted := s.state.aborted.set task reader } id :=
        (hqueued id).congr rfl (List.prefix_refl _)
      cases event with
      | none => simpa using hqueue
      | some event =>
        refine hqueue.push fun hof => hid ?_
        exact hof.unique ((hpumped.reads hreads).2.2 event rfl).1

lemma kept_of_trace {clientSequence serverSequence : UInt64} {es : List Event}
    (h : Trace (Step ctx decode) (start clientSequence serverSequence) es t) : Kept ctx t :=
  h.invariant Step.kept (kept_start clientSequence serverSequence)

end RunSession

end OnionRoute.GatewayDaemon
