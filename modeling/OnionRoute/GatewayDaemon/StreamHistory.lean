import OnionRoute.GatewayDaemon.SessionEffects
import OnionRoute.Library.History

/-! What the log of a session tells about a stream. -/

namespace OnionRoute.GatewayDaemon

open Library LogEntry

namespace LogEntry

def Asks (id : UInt64) : LogEntry → Prop
  | .received frame => ∃ request, frame.body = some (.openTcpRequest request) ∧ request.streamId = id
  | .sent _ => False

def Answers (id : UInt64) : LogEntry → Prop
  | .sent (.openTcpResponse response) => response.streamId = id
  | _ => False

def Opens (id : UInt64) : LogEntry → Prop
  | .sent (.openTcpResponse response) => response.streamId = id ∧ response.opened = true
  | _ => False

def SelfCloses (id : UInt64) : LogEntry → Prop
  | .sent (.halfClose close) => close.streamId = id
  | _ => False

def PeerCloses (id : UInt64) : LogEntry → Prop
  | .received frame => ∃ close, frame.body = some (.halfClose close) ∧ close.streamId = id
  | .sent _ => False

def Resets (id : UInt64) : LogEntry → Prop
  | .received frame => ∃ reset, frame.body = some (.resetStream reset) ∧ reset.streamId = id
  | .sent (.resetStream reset) => reset.streamId = id
  | .sent _ => False

end LogEntry

def Logged (kind : LogEntry → Prop) (log : List LogEntry) : Prop := ∃ entry ∈ log, kind entry

@[simp] lemma logged_nil (kind : LogEntry → Prop) : ¬ Logged kind [] := by
  simp [Logged]

variable {log : List LogEntry} {kind : LogEntry → Prop}

@[simp] lemma logged_append {later : List LogEntry} :
    Logged kind (log ++ later) ↔ Logged kind log ∨ Logged kind later := by
  simp [Logged, or_and_right, exists_or]

variable {entry : LogEntry}

@[simp] lemma logged_singleton : Logged kind [entry] ↔ kind entry := by
  simp [Logged]

def Ended (id : UInt64) (log : List LogEntry) : Prop :=
  Logged (Resets id) log ∨
    Logged (SelfCloses id) log ∧ Logged (PeerCloses id) log

def Allowed (log : List LogEntry) : LogEntry → Prop
  | .sent (.openTcpResponse response) => Logged (LogEntry.Asks response.streamId) log ∧
    ¬ Logged (Answers response.streamId) log ∧ ¬ Ended response.streamId log
  | .sent (.data data) => Logged (Opens data.streamId) log ∧
    ¬ Logged (SelfCloses data.streamId) log ∧ ¬ Ended data.streamId log
  | .sent (.windowUpdate update) => Logged (Opens update.streamId) log ∧
    ¬ Ended update.streamId log
  | .sent (.halfClose close) => Logged (Opens close.streamId) log ∧
    ¬ Ended close.streamId log
  | .sent (.resetStream reset) => Logged (Opens reset.streamId) log ∧
    ¬ Ended reset.streamId log
  | _ => True

def Body.Closing : Body → Prop
  | .halfClose _ => True
  | .resetStream _ => True
  | _ => False

def StreamEvent.Of (id : UInt64) : StreamEvent → Prop
  | .opened _ _ _ => False
  | .data streamId _ => streamId = id
  | .halfClosed streamId => streamId = id
  | .failed streamId _ => streamId = id

structure ReaderTask.Reads (id : UInt64) (task : ReaderTask) : Prop where
  streamId : task.streamId = id
  sending : ∀ event, task.phase = .sending event → event.Of id

structure ActiveStream.Recorded (id : UInt64) (log : List LogEntry) (stream : ActiveStream) :
    Prop where
  opened : Logged (Opens id) log
  notReset : ¬ Logged (Resets id) log
  selfClosed : Logged (SelfCloses id) log ↔ stream.remoteClosed = true
  peerClosed : Logged (PeerCloses id) log ↔ stream.localClosed = true
  reader : stream.reader.Reads id

def ActiveStream.HalfOpen (stream : ActiveStream) : Prop :=
  stream.localClosed = false ∨ stream.remoteClosed = false

structure SessionState.Registered (s : SessionState) (id : UInt64) : Prop where
  answered : Logged (Answers id) s.log → id ≤ s.highestStreamId
  pending : id ∈ s.pending → Logged (LogEntry.Asks id) s.log ∧
    ¬ Logged (Answers id) s.log ∧ id ≤ s.highestStreamId
  streams : ∀ stream, s.streams.lookup id = some stream → stream.Recorded id s.log
  settled : Logged (SelfCloses id) s.log ∨ Logged (PeerCloses id) s.log ∨
    Logged (Resets id) s.log → Logged (Answers id) s.log
  aborted : ∀ task ∈ s.aborted, task.streamId = id → Logged (Answers id) s.log ∧
    s.streams.lookup id = none ∧ task.Reads id
  started : Logged (Opens id) s.log →
    (∃ stream, s.streams.lookup id = some stream) ∨ ∃ task ∈ s.aborted, task.streamId = id

variable {id : UInt64}

lemma Logged.answers (h : Logged (Opens id) log) : Logged (Answers id) log := by
  obtain ⟨entry, hmem, hopens⟩ := h
  refine ⟨entry, hmem, ?_⟩
  cases entry with
  | received frame => exact hopens.elim
  | sent body =>
    cases body with
    | openTcpResponse response => exact hopens.1
    | _ => exact hopens.elim

lemma ActiveStream.Recorded.not_ended {stream : ActiveStream} (h : stream.Recorded id log)
    (hopen : stream.HalfOpen) : ¬ Ended id log := by
  rintro (hreset | ⟨hself, hpeer⟩)
  · exact h.notReset hreset
  · rw [h.selfClosed] at hself
    rw [h.peerClosed] at hpeer
    rcases hopen with hlocal | hremote
    · simp [hlocal] at hpeer
    · simp [hremote] at hself

structure Agree (id : UInt64) (log log' : List LogEntry) : Prop where
  asks : Logged (LogEntry.Asks id) log → Logged (LogEntry.Asks id) log'
  answers : Logged (Answers id) log' ↔ Logged (Answers id) log
  opens : Logged (Opens id) log' ↔ Logged (Opens id) log
  selfCloses : Logged (SelfCloses id) log' ↔ Logged (SelfCloses id) log
  peerCloses : Logged (PeerCloses id) log' ↔ Logged (PeerCloses id) log
  resets : Logged (Resets id) log' ↔ Logged (Resets id) log

lemma ActiveStream.Recorded.agree {stream : ActiveStream} {log' : List LogEntry}
    (h : stream.Recorded id log) (hlog : Agree id log log') : stream.Recorded id log' where
  opened := hlog.opens.mpr h.opened
  notReset := by
    rw [hlog.resets]
    exact h.notReset
  selfClosed := hlog.selfCloses.trans h.selfClosed
  peerClosed := hlog.peerCloses.trans h.peerClosed
  reader := h.reader

def LogEntry.Silent (id : UInt64) (entry : LogEntry) : Prop :=
  ¬ entry.Answers id ∧ ¬ entry.Opens id ∧ ¬ entry.SelfCloses id ∧ ¬ entry.PeerCloses id ∧
    ¬ entry.Resets id

lemma Agree.refl (id : UInt64) (log : List LogEntry) : Agree id log log :=
  ⟨fun h => h, .rfl, .rfl, .rfl, .rfl, .rfl⟩

lemma Agree.snoc (h : entry.Silent id) (log : List LogEntry) : Agree id log (log ++ [entry]) := by
  obtain ⟨hanswers, hopens, hself, hpeer, hresets⟩ := h
  constructor <;> simp_all

variable {frame : GatewayFrame} {body : Body}

namespace SessionState

variable {ctx : SessionContext} {s t u : SessionState} {id other : UInt64} {stream : ActiveStream}

structure Untouched (id : UInt64) (s t : SessionState) : Prop where
  lookup : t.streams.lookup id = s.streams.lookup id
  pending : id ∈ t.pending ↔ id ∈ s.pending
  log : Agree id s.log t.log
  aborted : ∀ task : ReaderTask, task.streamId = id → (task ∈ t.aborted ↔ task ∈ s.aborted)
  highest : s.highestStreamId ≤ t.highestStreamId

lemma Registered.untouched (h : s.Registered id) (hu : Untouched id s t) : t.Registered id where
  answered hanswers := UInt64.le_trans (h.answered (hu.log.answers.mp hanswers)) hu.highest
  pending hid := by
    obtain ⟨hasks, hanswers, hle⟩ := h.pending (hu.pending.mp hid)
    exact ⟨hu.log.asks hasks, by rwa [hu.log.answers], UInt64.le_trans hle hu.highest⟩
  streams stream hstream := (h.streams stream (hu.lookup ▸ hstream)).agree hu.log
  settled := by
    rw [hu.log.selfCloses, hu.log.peerCloses, hu.log.resets, hu.log.answers]
    exact h.settled
  aborted task htask hid := by
    rw [hu.log.answers, hu.lookup]
    exact h.aborted task ((hu.aborted task hid).mp htask) hid
  started := by
    rw [hu.log.opens, hu.lookup]
    intro hopens
    refine (h.started hopens).imp_right ?_
    rintro ⟨task, htask, hid⟩
    exact ⟨task, (hu.aborted task hid).mpr htask, hid⟩

section Untouched

lemma Untouched.trans (h : Untouched id s t) (k : Untouched id t u) : Untouched id s u where
  lookup := k.lookup.trans h.lookup
  pending := k.pending.trans h.pending
  log := ⟨fun ha => k.log.asks (h.log.asks ha), k.log.answers.trans h.log.answers,
    k.log.opens.trans h.log.opens, k.log.selfCloses.trans h.log.selfCloses,
    k.log.peerCloses.trans h.log.peerCloses, k.log.resets.trans h.log.resets⟩
  aborted task hid := (k.aborted task hid).trans (h.aborted task hid)
  highest := UInt64.le_trans h.highest k.highest

lemma untouched_logged (h : (sent body).Silent id) (n : UInt64) :
    Untouched id s (s.logged body n) :=
  ⟨rfl, .rfl, .snoc h _, fun _ _ => .rfl, UInt64.le_refl _⟩

lemma untouched_receive (h : (received frame).Silent id) :
    Untouched id s (s.receive frame) :=
  ⟨rfl, .rfl, .snoc h _, fun _ _ => .rfl, UInt64.le_refl _⟩

lemma untouched_update (hid : id ≠ other) (stream : ActiveStream) :
    Untouched id s (s.update other stream) :=
  ⟨Table.lookup_insert_of_ne _ hid _, .rfl, .refl _ _, fun _ _ => .rfl, UInt64.le_refl _⟩

lemma untouched_raise {highest : UInt64} (h : s.highestStreamId < highest) :
    Untouched id s { s with highestStreamId := highest } :=
  ⟨rfl, .rfl, .refl _ _, fun _ _ => .rfl, UInt64.le_of_lt h⟩

lemma untouched_unpend (hid : id ≠ other) :
    Untouched id s { s with pending := s.pending.erase other } :=
  ⟨rfl, by simp [hid], .refl _ _, fun _ _ => .rfl, UInt64.le_refl _⟩

lemma untouched_remove (hid : id ≠ other) (hstream : s.streams.lookup other = some stream)
    (hreader : stream.reader.streamId = other) : Untouched id s (s.remove other) := by
  refine ⟨Table.lookup_erase_of_ne _ hid, .rfl, .refl _ _, fun task htask => ?_, UInt64.le_refl _⟩
  simp only [remove, hstream, Option.map_some, Option.toList_some, List.mem_append,
    List.mem_singleton, or_iff_left_iff_imp]
  rintro rfl
  exact absurd (htask.symm.trans hreader) hid

end Untouched

section

variable (h : s.Registered id)
include h

lemma Registered.fresh (hnew : s.highestStreamId < id) :
    id ∉ s.pending ∧ s.streams.lookup id = none ∧ ¬ Logged (Answers id) s.log := by
  have hlt : ¬ id ≤ s.highestStreamId := UInt64.not_le.mpr hnew
  refine ⟨fun hpending => hlt (h.pending hpending).2.2, ?_, fun ha => hlt (h.answered ha)⟩
  by_contra hsome
  obtain ⟨stream, hstream⟩ := Option.ne_none_iff_exists'.mp hsome
  exact hlt (h.answered (h.streams stream hstream).opened.answers)

lemma Registered.held (hstream : s.streams.lookup id = some stream) :
    Logged (Answers id) s.log ∧ id ≤ s.highestStreamId ∧ id ∉ s.pending := by
  have hanswers := (h.streams stream hstream).opened.answers
  exact ⟨hanswers, h.answered hanswers, fun hpending => (h.pending hpending).2.1 hanswers⟩

lemma Registered.not_ended (hanswers : ¬ Logged (Answers id) s.log) : ¬ Ended id s.log := by
  rintro (hreset | ⟨hself, -⟩)
  · exact hanswers (h.settled (.inr (.inr hreset)))
  · exact hanswers (h.settled (.inl hself))

lemma Registered.notHeld (hpending : id ∈ s.pending) : s.streams.lookup id = none := by
  by_contra hsome
  obtain ⟨stream, hstream⟩ := Option.ne_none_iff_exists'.mp hsome
  exact (h.held hstream).2.2 hpending

end

attribute [local simp] Silent Answers Opens SelfCloses PeerCloses Resets logged update

section

variable (h : s.Registered id)
include h

lemma Registered.refused (hle : id ≤ s.highestStreamId) (hpending : id ∉ s.pending)
    (hstream : s.streams.lookup id = none) (status : Option ErrorStatus) (n : UInt64) :
    (s.logged (.openTcpResponse ⟨id, false, status⟩) n).Registered id where
  answered _ := hle
  pending hid := absurd hid hpending
  streams stream hsome := by
    rw [logged, hstream] at hsome
    cases hsome
  settled _ := by simp
  aborted task htask hid :=
    ⟨by simp, hstream, (h.aborted task htask hid).2.2⟩
  started hopens := by
    simp only [logged, logged_append, logged_singleton, Opens, Bool.false_eq_true,
      and_false, or_false] at hopens
    exact h.started hopens

lemma Registered.dialing (hnew : s.highestStreamId < id) (hasks : Logged (LogEntry.Asks id) s.log)
    (dials : List (UInt64 × ℕ)) :
    Registered { s with highestStreamId := id, pending := insert id s.pending, dials } id := by
  obtain ⟨-, hstream, hanswers⟩ := h.fresh hnew
  exact
    { answered := fun _ => UInt64.le_refl _
      pending := fun _ => ⟨hasks, hanswers, UInt64.le_refl _⟩
      streams := h.streams
      settled := h.settled
      aborted := h.aborted
      started := h.started }

lemma Registered.forgotten :
    Registered { s with pending := s.pending.erase id } id where
  answered := h.answered
  pending hid := by simp at hid
  streams := h.streams
  settled := h.settled
  aborted := h.aborted
  started := h.started

lemma Registered.opened (hpending : id ∈ s.pending) (window : ℕ) (n : UInt64) :
    Registered (logged (update { s with pending := s.pending.erase id } id
      (startStream ctx id window)) (.openTcpResponse ⟨id, true, none⟩) n) id := by
  obtain ⟨-, hanswers, hle⟩ := h.pending hpending
  have hquiet := mt h.settled hanswers
  simp only [not_or] at hquiet
  obtain ⟨hself, hpeer, hreset⟩ := hquiet
  refine ⟨fun _ => hle, fun hid => ?_, fun stream hstream => ?_, fun _ => ?_,
    fun task htask hid => ?_, fun _ => .inl ⟨_, AList.lookup_insert _⟩⟩
  · simp at hid
  · obtain rfl := Option.some.inj ((AList.lookup_insert _).symm.trans hstream)
    refine ⟨?_, ?_, ?_, ?_, rfl, fun event hsending => by cases hsending⟩
    · simp
    · simpa using hreset
    · simpa [startStream] using hself
    · simpa [startStream] using hpeer
  · simp
  · exact absurd (h.aborted task htask hid).1 hanswers

lemma Registered.changed (hstream : s.streams.lookup id = some stream) {stream' : ActiveStream}
    (hrecorded : stream'.Recorded id log) (n : UInt64) :
    Registered { s with streams := s.streams.insert id stream', log, serverSequence := n } id where
  answered _ := (h.held hstream).2.1
  pending hid := absurd hid (h.held hstream).2.2
  streams stream'' hsome := by
    obtain rfl := Option.some.inj ((AList.lookup_insert _).symm.trans hsome)
    exact hrecorded
  settled _ := hrecorded.opened.answers
  aborted task htask hid := by
    have hnone := (h.aborted task htask hid).2.1
    rw [hstream] at hnone
    cases hnone
  started _ := .inl ⟨_, AList.lookup_insert _⟩

end

lemma registered_remove (hanswers : Logged (Answers id) s.log)
    (hle : id ≤ s.highestStreamId) (hpending : id ∉ s.pending)
    (hstream : s.streams.lookup id = some stream) (hreader : stream.reader.Reads id)
    (haborted : ∀ task ∈ s.aborted, task.streamId = id → task.Reads id) :
    (s.remove id).Registered id where
  answered _ := hle
  pending hid := absurd hid hpending
  streams stream' hsome := by
    rw [remove, AList.lookup_erase] at hsome
    cases hsome
  settled _ := hanswers
  aborted task htask hid := by
    simp only [remove, hstream, Option.map_some, Option.toList_some, List.mem_append,
      List.mem_singleton] at htask
    refine ⟨hanswers, AList.lookup_erase _ _, ?_⟩
    rcases htask with htask | rfl
    · exact haborted task htask hid
    · exact hreader
  started _ := .inr ⟨stream.reader, by simp [remove, hstream], hreader.streamId⟩

lemma Registered.removed (h : s.Registered id) (hstream : s.streams.lookup id = some stream)
    (stream' : ActiveStream) (hreader : stream'.reader = stream.reader) (hlog : s.log <+: log)
    (n : UInt64) {streams : Table UInt64 ActiveStream}
    (hstreams : streams.lookup id = some stream') :
    (remove { s with streams, log, serverSequence := n } id).Registered id := by
  obtain ⟨hanswers, hle, hpending⟩ := h.held hstream
  obtain ⟨later, rfl⟩ := hlog
  refine registered_remove (logged_append.mpr (.inl hanswers)) hle hpending hstreams
    (hreader ▸ (h.streams stream hstream).reader) fun task htask hid => ?_
  exact (h.aborted task htask hid).2.2

def Noted (s : SessionState) : Cause → Prop
  | .body (.openTcpRequest request) => Logged (LogEntry.Asks request.streamId) s.log
  | .body (.halfClose _) => False
  | .body (.resetStream _) => False
  | _ => True

lemma silent_response {status : Option ErrorStatus} {opened : Bool} (hid : id ≠ other) :
    (sent (.openTcpResponse ⟨other, opened, status⟩)).Silent id := by
  simp [hid.symm]

lemma silent_reset {reason : Option ErrorStatus} (hid : id ≠ other) :
    (sent (.resetStream ⟨other, reason⟩)).Silent id := by
  simp [hid.symm]

lemma silent_halfClose (hid : id ≠ other) : (sent (.halfClose ⟨other⟩)).Silent id := by
  simp [hid.symm]

lemma silent_sent (h : body.Unrelated ∨ (∃ data, body = .data data) ∨
    ∃ update, body = .windowUpdate update) : (sent body).Silent id := by
  rcases h with h | ⟨data, rfl⟩ | ⟨update, rfl⟩
  · cases body <;> simp_all [Body.Unrelated]
  · simp
  · simp

lemma registered_of_untouched (hs : ∀ id, s.Registered id) (hown : t.Registered other)
    (hrest : ∀ {id}, id ≠ other → Untouched id s t) (id : UInt64) : t.Registered id := by
  by_cases hid : id = other
  · exact hid ▸ hown
  · exact (hs id).untouched (hrest hid)

lemma Registered.reader_streamId (h : s.Registered id)
    (hstream : s.streams.lookup id = some stream) : stream.reader.streamId = id :=
  (h.streams stream hstream).reader.streamId

lemma Effect.registered {c : Cause} {ok : Bool} (h : Effect ctx s c ok t)
    (hs : ∀ id, s.Registered id) (hnoted : s.Noted c) : ∀ id, t.Registered id := by
  cases h with
  | rejected | ignored => exact hs
  | raised hnew => exact fun id => (hs id).untouched (untouched_raise hnew)
  | @refused request ok status n hnew =>
    have hraise : ∀ id, Registered { s with highestStreamId := request.streamId } id :=
      fun id => (hs id).untouched (untouched_raise hnew)
    obtain ⟨hpending, hstream, -⟩ := (hs request.streamId).fresh hnew
    exact registered_of_untouched hraise
      ((hraise _).refused (UInt64.le_refl _) hpending hstream _ _)
      fun hid => untouched_logged (silent_response hid) n
  | @dialing request hnew hroom =>
    refine registered_of_untouched hs ((hs _).dialing hnew hnoted _) fun hid =>
      ⟨rfl, ?_, .refl _ _, fun _ _ => .rfl, UInt64.le_of_lt hnew⟩
    simp [hid]
  | @written data ok stream n hstream hopen =>
    intro id
    have hsame : Untouched id s (s.update data.streamId stream) := by
      by_cases hid : id = data.streamId
      · subst hid
        exact ⟨(AList.lookup_insert _).trans hstream.symm, .rfl, .refl _ _, fun _ _ => .rfl,
          UInt64.le_refl _⟩
      · exact untouched_update hid stream
    exact (hs id).untouched
      (hsame.trans (untouched_logged (silent_sent (.inr (.inr ⟨_, rfl⟩))) n))
  | @granted update stream credit hstream hcredit =>
    obtain ⟨hopened, hreset, hself, hpeer, hreader⟩ := (hs _).streams stream hstream
    have hgranted : ActiveStream.Recorded update.streamId s.log
        { stream with reader := { stream.reader with credit } } :=
      ⟨hopened, hreset, hself, hpeer, hreader.streamId, hreader.sending⟩
    exact registered_of_untouched hs ((hs _).changed hstream hgranted _)
      fun hid => untouched_update hid _
  | closing | closed | reset => exact hnoted.elim
  | @answered c ok body n hplain hbody =>
    exact fun id => (hs id).untouched (untouched_logged (silent_sent (.inl hbody)) n)
  | @dropped c other stream hplain hstream =>
    exact registered_of_untouched hs
      ((hs _).removed hstream stream rfl (List.prefix_refl _) _ hstream)
      fun hid => untouched_remove hid hstream ((hs other).reader_streamId hstream)
  | @failed c other ok stream status n hplain hstream =>
    refine registered_of_untouched hs
      ((hs _).removed hstream stream rfl (List.prefix_append _ _) n hstream) fun hid => ?_
    have hremoved := untouched_remove hid hstream ((hs other).reader_streamId hstream)
    exact hremoved.trans (untouched_logged (silent_reset hid) n)
  | @opened other window ok n hpending =>
    refine registered_of_untouched hs ((hs _).opened hpending window n) fun hid => ?_
    have hopened := (untouched_unpend (s := s) hid).trans
      (untouched_update hid (startStream ctx other window))
    exact hopened.trans (untouched_logged (silent_response hid) n)
  | forgotten => exact registered_of_untouched hs (hs _).forgotten untouched_unpend
  | @notOpened other window e ok status n hpending =>
    obtain ⟨-, -, hle⟩ := (hs other).pending hpending
    exact registered_of_untouched hs
      ((hs _).forgotten.refused hle (by simp) ((hs _).notHeld hpending) _ _)
      fun hid => (untouched_unpend hid).trans (untouched_logged (silent_response hid) n)
  | @delivered other payload ok stream n hstream =>
    exact fun id => (hs id).untouched (untouched_logged (silent_sent (.inr (.inl ⟨_, rfl⟩))) n)
  | @remoteClosing other ok stream n hstream hopen =>
    obtain ⟨hopened, hreset, hself, hpeer, hreader⟩ := (hs other).streams stream hstream
    have hclosing : ActiveStream.Recorded other (s.log ++ [.sent (.halfClose ⟨other⟩)])
        { stream with remoteClosed := true } := by
      refine ⟨logged_append.mpr (.inl hopened), ?_, ?_, ?_, hreader⟩
      · simpa using hreset
      · simp
      · simpa using hpeer
    exact registered_of_untouched hs ((hs _).changed hstream hclosing n)
      fun hid => (untouched_update hid _).trans (untouched_logged (silent_halfClose hid) n)
  | @remoteClosed other stream n hstream =>
    refine registered_of_untouched hs ((hs _).removed hstream { stream with remoteClosed := true }
      rfl (List.prefix_append _ _) n (AList.lookup_insert _)) fun hid => ?_
    have hclosing := (untouched_update (s := s) hid { stream with remoteClosed := true }).trans
      (untouched_logged (silent_halfClose hid) n)
    have hreader := (hs other).reader_streamId hstream
    exact hclosing.trans (untouched_remove hid (AList.lookup_insert _) hreader)

lemma silent_received (hbody : frame.body = some body)
    (hclose : ∀ close, body = .halfClose close → close.streamId ≠ id)
    (hreset : ∀ reset, body = .resetStream reset → reset.streamId ≠ id) :
    (received frame).Silent id := by
  refine ⟨by simp, by simp, by simp, ?_, ?_⟩
  · rintro ⟨close, hframe, hid⟩
    exact hclose close (Option.some.inj (hbody.symm.trans hframe)) hid
  · rintro ⟨reset, hframe, hid⟩
    exact hreset reset (Option.some.inj (hbody.symm.trans hframe)) hid

lemma Effect.registered_halfClose {close : HalfClose}
    (h : Effect ctx (s.receive frame) (.body (.halfClose close)) true t)
    (hbody : frame.body = some (.halfClose close)) (hs : ∀ id, s.Registered id) :
    ∀ id, t.Registered id := by
  have hreceive : ∀ {id}, id ≠ close.streamId → Untouched id s (s.receive frame) := fun hid =>
    untouched_receive (silent_received hbody (fun c hc => by cases hc; exact hid.symm) nofun)
  cases h with
  | @closing close stream hstream hopen hremote =>
    obtain ⟨hopened, hreset, hself, hpeer, hreader⟩ := (hs _).streams stream hstream
    have hclosing : ActiveStream.Recorded close.streamId (s.log ++ [.received frame])
        { stream with localClosed := true } := by
      refine ⟨logged_append.mpr (.inl hopened), ?_, ?_, ?_, hreader⟩
      · simpa [hbody] using hreset
      · simpa using hself
      · simp [hbody]
    exact registered_of_untouched hs ((hs _).changed hstream hclosing _)
      fun hid => (hreceive hid).trans (untouched_update hid _)
  | @closed close stream hstream hopen hremote =>
    refine registered_of_untouched hs ((hs _).removed hstream { stream with localClosed := true }
      rfl (List.prefix_append _ _) _ (AList.lookup_insert _)) fun hid => ?_
    have hclosing := (hreceive hid).trans (untouched_update hid { stream with localClosed := true })
    have hreader := (hs _).reader_streamId hstream
    exact hclosing.trans (untouched_remove hid (AList.lookup_insert _) hreader)
  | answered hplain | failed hplain => exact hplain.elim

lemma Effect.registered_resetStream {reset : ResetStream}
    (h : Effect ctx (s.receive frame) (.body (.resetStream reset)) true t)
    (hbody : frame.body = some (.resetStream reset)) (hs : ∀ id, s.Registered id) :
    ∀ id, t.Registered id := by
  cases h with
  | @reset reset stream hstream =>
    refine registered_of_untouched hs
      ((hs _).removed hstream stream rfl (List.prefix_append _ _) _ hstream) fun hid => ?_
    have hreceive := untouched_receive (s := s)
      (silent_received hbody nofun fun r hr => by cases hr; exact Ne.symm hid)
    exact hreceive.trans (untouched_remove hid hstream ((hs _).reader_streamId hstream))
  | answered hplain | failed hplain => exact hplain.elim

lemma Effect.registered_closing (h : Effect ctx (s.receive frame) (.body body) true t)
    (hframe : frame.body = some body)
    (hbody : body.Closing) (hs : ∀ id, s.Registered id) (id : UInt64) : t.Registered id := by
  cases body with
  | halfClose close => exact registered_halfClose h hframe hs id
  | resetStream reset => exact registered_resetStream h hframe hs id
  | _ => exact hbody.elim

lemma Effect.log_closing {ok : Bool} (h : Effect ctx s (.body body) ok t)
    (hbody : body.Closing) : t.log = s.log := by
  cases h with
  | rejected | closing | closed | reset | dropped | forgotten => rfl
  | raised | refused | dialing | written | granted => exact hbody.elim
  | answered hplain | failed hplain => cases body <;> first | exact hplain.elim | exact hbody.elim

lemma Effect.eq_of_closing (h : Effect ctx s (.body body) false t) (hbody : body.Closing) :
    t = s := by
  cases h with
  | rejected => rfl
  | raised | refused | written => exact hbody.elim
  | answered hplain | dropped hplain | failed hplain | forgotten hplain =>
    cases body <;> first | exact hplain.elim | exact hbody.elim

lemma noted_receive (hframe : frame.body = some body)
    (hbody : ¬ body.Closing) : (s.receive frame).Noted (.body body) := by
  cases body with
  | openTcpRequest request => exact logged_append.mpr (.inr (by simp [LogEntry.Asks, hframe]))
  | halfClose close | resetStream reset => exact absurd trivial hbody
  | _ => trivial

lemma registered_receive (hframe : frame.body = some body)
    (hbody : ¬ body.Closing) (h : s.Registered id) : (s.receive frame).Registered id := by
  refine h.untouched (untouched_receive (silent_received hframe ?_ ?_))
  · rintro close rfl
    exact absurd trivial hbody
  · rintro reset rfl
    exact absurd trivial hbody

end SessionState

end OnionRoute.GatewayDaemon
