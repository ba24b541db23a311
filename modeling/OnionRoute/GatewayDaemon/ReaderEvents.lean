import OnionRoute.GatewayDaemon.StreamHistory

/-! The events of a reader in the channel. Those of a removed stream find no entry. -/

namespace OnionRoute.GatewayDaemon

open Library

lemma Logged.extend {kind : LogEntry → Prop} {log log' : List LogEntry} (h : Logged kind log)
    (hlog : log <+: log') : Logged kind log' := by
  obtain ⟨later, rfl⟩ := hlog
  exact logged_append.mpr (.inl h)

def StreamEvent.Last (id : UInt64) : StreamEvent → Prop
  | .halfClosed streamId => streamId = id
  | .failed streamId _ => streamId = id
  | _ => False

lemma StreamEvent.Of.unique {id other : UInt64} {event : StreamEvent} (h : event.Of id)
    (hother : event.Of other) : id = other := by
  cases event with
  | opened => exact h.elim
  | data | halfClosed | failed => exact h.symm.trans hother

lemma StreamEvent.Last.of {id : UInt64} {event : StreamEvent} (h : event.Last id) : event.Of id := by
  cases event with
  | opened | data => exact h.elim
  | halfClosed | failed => exact h

namespace ReaderTask

variable {maxData : ℕ} {id : UInt64} {task next : ReaderTask} {action : Action}
  {event : Option StreamEvent}

inductive Pumped (task : ReaderTask) : ReaderTask → Option StreamEvent → Prop
  | on {credit : FlowCredit} {phase : Reader} (hrunning : task.phase ≠ .finished)
      (hsending : ∀ event, phase = .sending event → event.Of task.streamId) :
      Pumped task { task with credit, phase } none
  | sent {event : StreamEvent} (hsending : task.phase = .sending event) :
      Pumped task { task with phase := .sent event } (some event)

lemma settled_own {streamId : UInt64} {report : Option Bytes} {event : StreamEvent}
    (h : Reader.settled streamId report = .sending event) : event.Of streamId := by
  cases report with
  | none => cases h; rfl
  | some payload => cases h

lemma pumped_of_pump (h : task.pump maxData action = some (next, event)) :
    task.Pumped next event := by
  rw [pump.eq_def] at h
  cases hphase : task.phase with
  | idle | taken =>
    cases action <;> simp only [hphase, reduceCtorEq] at h
    cases h
    exact .on (by simp [hphase]) nofun
  | waiting amount =>
    cases action <;> simp only [hphase, reduceCtorEq] at h
    split at h <;> cases h
    exact .on (by simp [hphase]) nofun
  | reading reserved =>
    cases action <;> simp only [hphase, reduceCtorEq] at h
    case read payload =>
      split at h <;> cases h
      exact .on (by simp [hphase]) nofun
    case endOfFile =>
      cases h
      exact .on (by simp [hphase]) nofun
    case readError | readTimeout =>
      cases h
      exact .on (by simp [hphase]) fun _ h => by cases h; rfl
  | restoring amount report =>
    cases action <;> simp only [hphase, reduceCtorEq] at h
    split at h <;> cases h
    next => exact .on (by simp [hphase]) fun _ => settled_own
    next => exact .on (by simp [hphase]) nofun
    next heq => cases heq
  | crediting amount report =>
    cases action <;> simp only [hphase, reduceCtorEq] at h
    cases h
    exact .on (by simp [hphase]) fun _ => settled_own
  | paying payload =>
    cases action <;> simp only [hphase, reduceCtorEq] at h
    split at h <;> cases h <;> exact .on (by simp [hphase]) fun _ h => by cases h; rfl
  | sending sent =>
    cases action <;> simp only [hphase, reduceCtorEq] at h
    cases h
    exact .sent hphase
  | finished => cases action <;> simp only [hphase, reduceCtorEq] at h

lemma Pumped.reads (h : task.Pumped next event) (hreads : task.Reads id) :
    next.Reads id ∧ task.phase ≠ .finished ∧
      ∀ sent, event = some sent → sent.Of id ∧ (sent.Last id → next.phase = .finished) := by
  obtain ⟨rfl, hown⟩ := hreads
  cases h with
  | on hrunning hsending => exact ⟨⟨rfl, hsending⟩, hrunning, fun sent h => by cases h⟩
  | @sent event hsending =>
    refine ⟨⟨rfl, fun later hlater => ?_⟩, by simp [hsending], ?_⟩
    · cases event <;> cases hlater
    · intro sent hsent
      obtain rfl := Option.some.inj hsent
      refine ⟨hown event hsending, fun hlast => ?_⟩
      cases event with
      | opened | data => exact hlast.elim
      | halfClosed | failed => rfl

end ReaderTask

namespace SessionState

variable {ctx : SessionContext} {s t : SessionState} {c : Cause} {ok : Bool} {id other : UInt64}
  {stream stream' : ActiveStream} {event : StreamEvent} {events : List StreamEvent}

lemma Effect.log_extends (h : Effect ctx s c ok t) : s.log <+: t.log := by
  cases h with
  | rejected | ignored | raised | dialing | granted | closing | closed | reset | dropped | forgotten =>
    exact List.prefix_refl _
  | refused | written | answered | failed | opened | notOpened | delivered | remoteClosing
  | remoteClosed => exact List.prefix_append _ _

lemma lookup_update (h : (s.update other stream).streams.lookup id = some stream') :
    id = other ∧ stream' = stream ∨ id ≠ other ∧ s.streams.lookup id = some stream' := by
  by_cases hid : id = other
  · subst hid
    exact .inl ⟨rfl, (Option.some.inj ((AList.lookup_insert _).symm.trans h)).symm⟩
  · exact .inr ⟨hid, (Table.lookup_insert_of_ne _ hid _).symm.trans h⟩

lemma Effect.lookup (h : Effect ctx s c ok t) (hstream' : t.streams.lookup id = some stream') :
    (id ∈ s.pending ∧ stream'.remoteClosed = false) ∨
    ∃ stream, s.streams.lookup id = some stream ∧
      stream'.reader.phase = stream.reader.phase ∧
      (stream'.remoteClosed = stream.remoteClosed ∨ c = .event (.halfClosed id)) := by
  have hsame (hstream' : s.streams.lookup id = some stream') :
      ∃ stream, s.streams.lookup id = some stream ∧
        stream'.reader.phase = stream.reader.phase ∧
        (stream'.remoteClosed = stream.remoteClosed ∨ c = .event (.halfClosed id)) :=
    ⟨stream', hstream', rfl, .inl rfl⟩
  cases h with
  | rejected | ignored | raised | dialing | refused | answered | notOpened | delivered | forgotten =>
    exact .inr (hsame hstream')
  | written hstream | granted hstream | closing hstream =>
    rcases lookup_update hstream' with ⟨rfl, rfl⟩ | ⟨-, hstream'⟩
    · exact .inr ⟨_, hstream, rfl, .inl rfl⟩
    · exact .inr (hsame hstream')
  | closed | remoteClosed =>
    obtain ⟨hid, hstream'⟩ := Table.lookup_erase_eq_some hstream'
    rcases lookup_update hstream' with ⟨rfl, -⟩ | ⟨-, hstream'⟩
    · exact absurd rfl hid
    · exact .inr (hsame hstream')
  | reset | dropped | failed => exact .inr (hsame (Table.lookup_erase_eq_some hstream').2)
  | opened hpending =>
    rcases lookup_update hstream' with ⟨rfl, rfl⟩ | ⟨-, hstream'⟩
    · exact .inl ⟨hpending, rfl⟩
    · exact .inr (hsame hstream')
  | remoteClosing hstream =>
    rcases lookup_update hstream' with ⟨rfl, rfl⟩ | ⟨-, hstream'⟩
    · exact .inr ⟨_, hstream, rfl, .inr rfl⟩
    · exact .inr (hsame hstream')

structure Queued (events : List StreamEvent) (s : SessionState) (id : UInt64) : Prop where
  known : ∀ event ∈ events, event.Of id → Logged (LogEntry.Answers id) s.log
  closed : ∀ stream, s.streams.lookup id = some stream → stream.remoteClosed = true →
    stream.reader.phase = .finished ∧ ∀ event ∈ events, ¬ event.Of id
  last : ∀ stream, s.streams.lookup id = some stream → ∀ before event after,
    events = before ++ event :: after → event.Last id →
      stream.reader.phase = .finished ∧ ∀ later ∈ after, ¬ later.Of id

namespace Queued

lemma nil (hstream : s.streams.lookup id = none) : Queued [] s id where
  known _ hmem := by cases hmem
  closed stream hsome := by simp [hstream] at hsome
  last stream hsome := by simp [hstream] at hsome

lemma removed (hanswers : Logged (LogEntry.Answers id) s.log)
    (hstream : s.streams.lookup id = none) (events : List StreamEvent) : Queued events s id where
  known _ _ _ := hanswers
  closed stream hsome := by simp [hstream] at hsome
  last stream hsome := by simp [hstream] at hsome

lemma congr (h : Queued events s id) (hlookup : t.streams.lookup id = s.streams.lookup id)
    (hlog : s.log <+: t.log) : Queued events t id where
  known e hmem hof := (h.known e hmem hof).extend hlog
  closed stream hstream := h.closed stream (hlookup ▸ hstream)
  last stream hstream := h.last stream (hlookup ▸ hstream)

lemma tail (h : Queued (event :: events) s id) : Queued events s id where
  known e he := h.known e (List.mem_cons_of_mem _ he)
  closed stream hstream hclosed := by
    obtain ⟨hphase, hnone⟩ := h.closed stream hstream hclosed
    exact ⟨hphase, fun e he => hnone e (List.mem_cons_of_mem _ he)⟩
  last stream hstream before e after hevents :=
    h.last stream hstream (event :: before) e after (by rw [hevents]; rfl)

lemma effect (h : Queued events s id) (he : Effect ctx s c ok t)
    (hpending : id ∈ s.pending → ¬ Logged (LogEntry.Answers id) s.log)
    (hc : c ≠ .event (.halfClosed id)) : Queued events t id where
  known e hmem hof := (h.known e hmem hof).extend he.log_extends
  closed stream' hstream' hclosed := by
    rcases he.lookup hstream' with ⟨-, hopen⟩ | ⟨stream, hstream, hphase, hsame⟩
    · simp [hopen] at hclosed
    · rw [hphase]
      exact h.closed stream hstream ((hsame.resolve_right hc).symm.trans hclosed)
  last stream' hstream' before e after hevents hlast := by
    rcases he.lookup hstream' with ⟨hid, -⟩ | ⟨stream, hstream, hphase, -⟩
    · exact absurd (h.known e (by simp [hevents]) hlast.of) (hpending hid)
    · rw [hphase]
      exact h.last stream hstream before e after hevents hlast

lemma received (h : Queued (event :: events) s id) (he : Effect ctx s (.event event) ok t)
    (hpending : id ∈ s.pending → ¬ Logged (LogEntry.Answers id) s.log) : Queued events t id := by
  by_cases hc : event = .halfClosed id
  · subst hc
    have hdone : ∀ stream', t.streams.lookup id = some stream' →
        stream'.reader.phase = .finished ∧ ∀ later ∈ events, ¬ later.Of id := by
      intro stream' hstream'
      rcases he.lookup hstream' with ⟨hid, -⟩ | ⟨stream, hstream, hphase, -⟩
      · exact absurd (h.known _ List.mem_cons_self rfl) (hpending hid)
      · rw [hphase]
        exact h.last stream hstream [] _ events rfl rfl
    refine ⟨fun e hmem hof => (h.tail.known e hmem hof).extend he.log_extends,
      fun stream' hstream' _ => hdone stream' hstream', ?_⟩
    intro stream' hstream' before e after hevents hlast
    exact absurd hlast.of ((hdone stream' hstream').2 e (by simp [hevents]))
  · exact h.tail.effect he hpending fun hcause => hc (Cause.event.inj hcause)

lemma push (h : Queued events s id) (hevent : ¬ event.Of id) : Queued (events ++ [event]) s id where
  known e hmem hof := by
    rcases List.mem_append.mp hmem with hmem | hmem
    · exact h.known e hmem hof
    · rw [List.mem_singleton.mp hmem] at hof
      exact absurd hof hevent
  closed stream hstream hclosed := by
    obtain ⟨hphase, hnone⟩ := h.closed stream hstream hclosed
    refine ⟨hphase, fun e hmem => ?_⟩
    rcases List.mem_append.mp hmem with hmem | hmem
    · exact hnone e hmem
    · rwa [List.mem_singleton.mp hmem]
  last stream hstream before e after hevents hlast := by
    rcases snoc_eq_append_cons hevents with ⟨rfl, -, -⟩ | ⟨rest, rfl, hbefore⟩
    · exact absurd hlast.of hevent
    · obtain ⟨hphase, hnone⟩ := h.last stream hstream before e rest hbefore hlast
      refine ⟨hphase, fun later hmem => ?_⟩
      rcases List.mem_append.mp hmem with hmem | hmem
      · exact hnone later hmem
      · rwa [List.mem_singleton.mp hmem]

lemma pumped (h : Queued events s id) (hstream : s.streams.lookup id = some stream)
    (hrecorded : stream.Recorded id s.log) {next : ReaderTask} {sent : Option StreamEvent}
    (hpumped : stream.reader.Pumped next sent) :
    Queued (events ++ sent.toList) (s.update id { stream with reader := next }) id := by
  obtain ⟨-, hrunning, hsent⟩ := hpumped.reads hrecorded.reader
  have hnew {stream' : ActiveStream}
      (h : (s.update id { stream with reader := next }).streams.lookup id = some stream') :
      stream' = { stream with reader := next } :=
    (Option.some.inj ((AList.lookup_insert _).symm.trans h)).symm
  -- a reader that makes a step has not sent its last event
  have hopen : stream.remoteClosed ≠ true := fun hclosed =>
    hrunning (h.closed stream hstream hclosed).1
  have hnotLast : ∀ before e after, events = before ++ e :: after → ¬ e.Last id :=
    fun before e after hevents hlast =>
      hrunning (h.last stream hstream before e after hevents hlast).1
  refine ⟨fun _ _ _ => hrecorded.opened.answers, fun stream' hstream' hclosed => ?_,
    fun stream' hstream' before e after hevents hlast => ?_⟩
  · rw [hnew hstream'] at hclosed
    exact absurd hclosed hopen
  · rw [hnew hstream']
    cases sent with
    | none => exact absurd hlast (hnotLast before e after (by simpa using hevents))
    | some event =>
      rcases snoc_eq_append_cons hevents with ⟨rfl, -, rfl⟩ | ⟨rest, -, hbefore⟩
      · exact ⟨(hsent e rfl).2 hlast, nofun⟩
      · exact absurd hlast (hnotLast before e rest hbefore)

end Queued

end SessionState

end OnionRoute.GatewayDaemon
