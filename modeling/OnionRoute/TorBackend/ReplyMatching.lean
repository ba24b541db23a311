import OnionRoute.Library.Trace
import OnionRoute.TorBackend.Control

/-! Which replies the calls on a control connection return. -/

namespace OnionRoute.TorBackend

open Library CommonTypes
open GatewayProtocol (utf8Bytes)

variable {bytes : Bytes} {lines : List String}

section Lines

lemma utf8Bytes_of_fromUtf8 {line : String} (h : fromUtf8 bytes = some line) :
    utf8Bytes line = bytes := by
  rw [fromUtf8, String.fromUTF8?] at h
  split at h
  next hvalid =>
    cases h
    rfl
  next => cases h

lemma dropEnding_snoc (byte : UInt8) (bytes : Bytes) : dropEnding byte (bytes ++ [byte]) = bytes := by
  simp [dropEnding]

def separator (line : Bytes) : Option UInt8 := (line.drop 3).head?

def rejected : Ending :=
  .returned (.error (controlUnavailable "Tor control command was rejected"))

def invalidCommand : Ending :=
  .returned (.error (controlSecurityError "invalid Tor control command"))

inductive Reads (lines : List String) (bytes : Bytes) : LineOutcome → Prop
  | next {line : String} {total : ℕ} (htext : utf8Bytes line = bytes)
      (hseparator : separator bytes = some dash) :
      Reads lines bytes (.continues (lines ++ [line]) total)
  | last {line : String} (htext : utf8Bytes line = bytes)
      (hseparator : separator bytes = some space) :
      Reads lines bytes (.ends (.returned (.ok (lines ++ [line]))))
  | rejected (hseparator : separator bytes = some space) : Reads lines bytes (.ends rejected)
  | refused {ending : Ending} (hok : ∀ result, ending ≠ .returned (.ok result))
      (hrejected : ending ≠ rejected) (hinvalid : ending ≠ invalidCommand) :
      Reads lines bytes (.ends ending)

lemma Reads.error {e : OnionError} (hrejected : e.message ≠ "Tor control command was rejected")
    (hinvalid : e.message ≠ "invalid Tor control command") :
    Reads lines bytes (.ends (.returned (.error e))) := by
  refine .refused (fun result h => ?_) (fun h => ?_) (fun h => ?_)
  · cases h
  · cases h
    exact hrejected rfl
  · cases h
    exact hinvalid rfl

lemma acceptText_reads (lines : List String) (total : ℕ) (line : String) :
    Reads lines (utf8Bytes line) (acceptText lines total line) := by
  unfold acceptText
  split
  next a b c separator rest hline =>
    have hseparator : TorBackend.separator (utf8Bytes line) = some separator := by
      rw [hline]
      rfl
    by_cases hcut : isContinuation separator = true
    · rw [if_pos hcut]
      exact .refused nofun nofun nofun
    rw [if_neg hcut]
    by_cases hdigits : isAsciiDigit a = true ∧ isAsciiDigit b = true ∧ isAsciiDigit c = true
    · rw [if_neg (not_not.mpr hdigits)]
      by_cases hspace : separator = space
      · rw [if_pos hspace]
        split
        · exact .rejected (hspace ▸ hseparator)
        · exact .last rfl (hspace ▸ hseparator)
      · rw [if_neg hspace]
        by_cases hdash : separator = dash
        · rw [if_neg (not_not.mpr hdash)]
          exact .next rfl (hdash ▸ hseparator)
        · rw [if_pos hdash]
          exact Reads.error (by decide) (by decide)
    · rw [if_pos hdigits]
      exact Reads.error (by decide) (by decide)
  next => exact Reads.error (by decide) (by decide)

lemma acceptLine_reads (lines : List String) (total : ℕ) (bytes : Bytes) :
    Reads lines bytes (acceptLine lines total (bytes ++ crlf)) := by
  have hdrop : dropEnding carriageReturn (dropEnding lineFeed (bytes ++ crlf)) = bytes := by
    rw [show bytes ++ crlf = (bytes ++ [carriageReturn]) ++ [lineFeed] by simp [crlf],
      dropEnding_snoc, dropEnding_snoc]
  rw [acceptLine, hdrop]
  split_ifs
  · exact Reads.error (by decide) (by decide)
  · exact Reads.error (by decide) (by decide)
  · cases hline : fromUtf8 bytes with
    | none => exact Reads.error (by decide) (by decide)
    | some line =>
      have htext := utf8Bytes_of_fromUtf8 hline
      rw [← htext]
      exact acceptText_reads lines _ line

end Lines

variable {reply : Reply} {fragment rest : Bytes}

section Replies

lemma lineFeed_notMem_of_code {code : Code} : lineFeed ∉ code.1 := by
  intro h
  have hdigit := code.2.2 _ h
  cases hdigit

lemma lineFeed_notMem {line : Bytes} (h : line ∈ reply.lines) : lineFeed ∉ line := by
  have hhead : ∀ (code : Code) (byte : UInt8) (text : Text), lineFeed ≠ byte →
      lineFeed ∉ code.1 ++ byte :: text.1 := by
    intro code byte text hne
    simp [lineFeed_notMem_of_code, hne, text.2.2]
  simp only [Reply.lines, List.mem_append, List.mem_flatMap, List.mem_singleton] at h
  obtain ⟨item, -, hitem⟩ | rfl := h
  · cases item with
    | mid code text =>
      obtain rfl := List.mem_singleton.mp hitem
      exact hhead code dash text (by decide)
    | data code text body =>
      rw [ReplyItem.lines, List.mem_cons, List.mem_append, List.mem_map, List.mem_singleton] at hitem
      obtain rfl | ⟨text, -, rfl⟩ | rfl := hitem
      · exact hhead code 0x2b text (by decide)
      · exact text.2.2
      · decide
  · exact hhead reply.code space reply.text (by decide)

lemma separator_head (code : Code) (byte : UInt8) (text : Bytes) :
    separator (code.1 ++ byte :: text) = some byte := by
  have hlength : code.1.length = 3 := code.2.1
  rw [separator, List.drop_append_of_le_length (by omega), List.drop_eq_nil_of_le (by omega)]
  rfl

lemma line_of_encodeLines {taken line : Bytes} {lines : List Bytes}
    (hfragment : lineFeed ∉ fragment) (htaken : lineFeed ∉ taken) (hline : lineFeed ∉ line)
    (h : fragment ++ (taken ++ lineFeed :: rest) = encodeLines (line :: lines)) :
    fragment ++ taken ++ [lineFeed] = line ++ crlf ∧ rest = encodeLines lines := by
  have hsplit : (fragment ++ taken) ++ lineFeed :: rest =
      (line ++ [carriageReturn]) ++ lineFeed :: encodeLines lines := by
    simpa [encodeLines, crlf] using h
  have hleft : lineFeed ∉ fragment ++ taken := by simp [hfragment, htaken]
  have hright : lineFeed ∉ line ++ [carriageReturn] := by
    simp only [List.mem_append, List.mem_singleton, hline, false_or]
    decide
  obtain ⟨hhead, htail⟩ := cut_unique hleft hright hsplit
  exact ⟨by simp [hhead, crlf], htail⟩

end Replies

def Ended.Clean (e : Ended) : Prop :=
  e.ending = invalidCommand ∨ e.ending = rejected ∨ ∃ lines, e.ending = .returned (.ok lines)

namespace Connection

variable {c c' : Connection} {event : Event}

def Calm (c : Connection) : Event → Prop
  | .command _ => ∀ e ∈ c.ended, e.Clean
  | .closed =>
    match c.call with
    | some (.reading _ _ _ _ fragment) => fragment = []
    | _ => True
  | _ => True

def CalmStep (c : Connection) (event : Event) (c' : Connection) : Prop :=
  c.Step event c' ∧ c.Calm event

structure Answered (c : Connection) (command : String) (index : ℕ) (reply : Reply) : Prop where
  command : c.commands[index]? = some (utf8Bytes command)
  reply : c.replies[index]? = some reply

structure Underway (reply : Reply) (lines : List String) (fragment arriving : Bytes) : Prop where
  items : ∃ done todo, reply.items = done ++ todo ∧
    lines.map utf8Bytes = done.flatMap ReplyItem.lines ∧
    fragment ++ arriving = encodeLines
      (todo.flatMap ReplyItem.lines ++ [reply.code.1 ++ space :: reply.text.1])
  fragment : lineFeed ∉ fragment

def Placed (c : Connection) : Prop :=
  c.buffered = [] ∧
  match c.call with
  | none => fragmentAfter lineFeed [] c.sent = [] ∧ c.replies.length = c.commands.length ∧
      c.arriving = []
  | some (.writing command rest) =>
    rest ≠ [] ∧ commandRefused command = false ∧
      fragmentAfter lineFeed [] c.sent ++ rest = utf8Bytes command ++ crlf ∧
      c.replies.length = c.commands.length ∧ c.arriving = []
  | some (.reading command index lines _ fragment) =>
    fragmentAfter lineFeed [] c.sent = [] ∧ c.commands.length = index + 1 ∧
      c.commands[index]? = some (utf8Bytes command) ∧
      ((c.replies.length = index ∧ lines = [] ∧ fragment = [] ∧ c.arriving = []) ∨
        ∃ reply, c.replies.length = index + 1 ∧ c.replies[index]? = some reply ∧
          Underway reply lines fragment c.arriving)

structure Sound (c : Connection) : Prop where
  matched : ∀ e ∈ c.ended, ∀ lines, e.ending = .returned (.ok lines) →
    ∃ index reply, e.index = some index ∧ c.Answered e.command index reply ∧
      lines.map utf8Bytes = reply.lines
  placed : (∀ e ∈ c.ended, e.Clean) → c.Placed
  idle : (∃ e ∈ c.ended, ¬ e.Clean) → c.call = none

lemma sound_start : start.Sound where
  matched := by simp [start]
  placed _ := ⟨rfl, rfl, rfl, rfl⟩
  idle _ := rfl

lemma commands_of_sent {more : Bytes} (h : c'.sent = c.sent ++ more) :
    c'.commands = c.commands ++ (linesFrom lineFeed (fragmentAfter lineFeed [] c.sent) more).map
      (dropEnding carriageReturn) := by
  rw [commands, commands, h, linesFrom_append, List.map_append]

lemma getElem?_of_isPrefix {α : Type} {xs ys : List α} (h : xs <+: ys) {i : ℕ} {a : α}
    (hi : xs[i]? = some a) : ys[i]? = some a := by
  obtain ⟨zs, rfl⟩ := h
  obtain ⟨hlt, -⟩ := List.getElem?_eq_some_iff.mp hi
  rw [List.getElem?_append_left hlt, hi]

variable {command : String}

lemma Answered.mono {index : ℕ} (h : c.Answered command index reply) (hsent : c.sent <+: c'.sent)
    (hreplies : c.replies <+: c'.replies) : c'.Answered command index reply := by
  obtain ⟨more, hmore⟩ := hsent
  have hcommands : c.commands <+: c'.commands := ⟨_, (commands_of_sent hmore.symm).symm⟩
  exact ⟨getElem?_of_isPrefix hcommands h.command, getElem?_of_isPrefix hreplies h.reply⟩

variable {e : Ended}

lemma Sound.matched_mono (h : c.Sound) (hsent : c.sent <+: c'.sent)
    (hreplies : c.replies <+: c'.replies) (he : e ∈ c.ended) (lines : List String)
    (hlines : e.ending = .returned (.ok lines)) :
    ∃ index reply, e.index = some index ∧ c'.Answered e.command index reply ∧
      lines.map utf8Bytes = reply.lines := by
  obtain ⟨index, reply, hindex, hanswered, htext⟩ := h.matched e he lines hlines
  exact ⟨index, reply, hindex, hanswered.mono hsent hreplies, htext⟩

lemma Sound.clean_of_call (h : c.Sound) {call : Call} (hcall : c.call = some call) :
    ∀ e ∈ c.ended, e.Clean := by
  by_contra hnot
  push Not at hnot
  rw [h.idle hnot] at hcall
  cases hcall

structure Ends (c : Connection) (e : Ended) (c' : Connection) : Prop where
  sent : c'.sent = c.sent
  replies : c'.replies = c.replies
  ended : c'.ended = e :: c.ended
  call : c'.call = none

lemma Sound.spoil (h : c.Sound) (hends : c.Ends e c') (hunclean : ¬ e.Clean) :
    c'.Sound where
  matched := by
    rw [hends.ended]
    refine List.forall_mem_cons.mpr ⟨fun lines hlines => ?_, fun e he => ?_⟩
    · exact absurd (.inr (.inr ⟨lines, hlines⟩)) hunclean
    · exact h.matched_mono (hends.sent ▸ List.prefix_rfl) (hends.replies ▸ List.prefix_rfl) he
  placed hclean := absurd (hclean e (hends.ended ▸ List.mem_cons_self)) hunclean
  idle _ := hends.call

lemma not_clean_of_error {index : Option ℕ} {error : OnionError}
    (hrejected : error.message ≠ "Tor control command was rejected")
    (hinvalid : error.message ≠ "invalid Tor control command") :
    ¬ (⟨command, index, .returned (.error error)⟩ : Ended).Clean := by
  rintro (h | h | ⟨lines, h⟩)
  · cases h
    exact hinvalid rfl
  · cases h
    exact hrejected rfl
  · cases h

lemma notMem_of_not_refused (h : commandRefused command = false) :
    lineFeed ∉ utf8Bytes command ∧ carriageReturn ∉ utf8Bytes command := by
  simp only [commandRefused, Bool.decide_or, Bool.or_eq_false_iff, decide_eq_false_iff_not,
    List.any_eq_true, decide_eq_true_eq, not_exists, not_and] at h
  constructor
  · intro hmem
    exact h.1 _ hmem (by decide)
  · intro hmem
    exact h.1 _ hmem (by decide)

lemma Sound.finish_clean (h : c.Sound) (hends : c.Ends e c') (hbuffered : c'.buffered = [])
    (hfragment : fragmentAfter lineFeed [] c.sent = [])
    (hlength : c.replies.length = c.commands.length) (harriving : c'.arriving = [])
    (hmatched : ∀ lines, e.ending = .returned (.ok lines) → ∃ index reply, e.index = some index ∧
      c.Answered e.command index reply ∧ lines.map utf8Bytes = reply.lines) : c'.Sound where
  matched := by
    rw [hends.ended]
    have hsent : c.sent <+: c'.sent := hends.sent ▸ List.prefix_rfl
    have hreplies : c.replies <+: c'.replies := hends.replies ▸ List.prefix_rfl
    refine List.forall_mem_cons.mpr ⟨fun lines hlines => ?_, fun e he => ?_⟩
    · obtain ⟨index, reply, hindex, hanswered, htext⟩ := hmatched lines hlines
      exact ⟨index, reply, hindex, hanswered.mono hsent hreplies, htext⟩
    · exact h.matched_mono hsent hreplies he
  placed _ := by
    have hcommands : c'.commands = c.commands := by rw [commands, commands, hends.sent]
    rw [Placed, hends.call, hends.sent, hends.replies, hcommands]
    exact ⟨hbuffered, hfragment, hlength, harriving⟩
  idle _ := hends.call

lemma Sound.of_placed (h : c.Sound) (hsent : c.sent <+: c'.sent) (hreplies : c.replies <+: c'.replies)
    (hended : c'.ended = c.ended) (hclean : ∀ e ∈ c.ended, e.Clean) (hplaced : c'.Placed) :
    c'.Sound where
  matched e he := by
    rw [hended] at he
    exact h.matched_mono hsent hreplies he
  placed _ := hplaced
  idle := by
    rintro ⟨e, he, hunclean⟩
    rw [hended] at he
    exact absurd (hclean e he) hunclean

lemma sound_command {text : String} (h : c.Sound) (hstep : c.Step (.command text) c')
    (hclean : ∀ e ∈ c.ended, e.Clean) : c'.Sound := by
  obtain ⟨hbuffered, hplaced⟩ := h.placed hclean
  cases hcall : c.call with
  | some call => simp [Step, act, hcall] at hstep
  | none =>
    rw [hcall] at hplaced
    obtain ⟨hfragment, hlength, harriving⟩ := hplaced
    simp only [Step, act, hcall] at hstep
    split_ifs at hstep with hrefused
    · cases hstep
      refine h.finish_clean ⟨rfl, rfl, rfl, rfl⟩ hbuffered hfragment hlength harriving ?_
      rintro lines ⟨⟩
    · cases hstep
      refine h.of_placed List.prefix_rfl List.prefix_rfl rfl hclean ⟨rfl, ?_⟩
      refine ⟨by simp [crlf], by simpa using hrefused, ?_, hlength, harriving⟩
      simp [hbuffered, hfragment]

variable {x y : Bytes}

lemma rest_of_line {line : Bytes} (h : fragment ++ (x ++ y) = line ++ crlf) (hy : y ≠ []) :
    ∃ z, y = z ++ [lineFeed] ∧ fragment ++ x ++ z = line ++ [carriageReturn] := by
  obtain ⟨z, byte, rfl⟩ := (List.eq_nil_or_concat' y).resolve_left hy
  have hends : (fragment ++ x ++ z) ++ [byte] = (line ++ [carriageReturn]) ++ [lineFeed] := by
    simpa [crlf] using h
  obtain ⟨hhead, hlast⟩ := List.append_inj' hends rfl
  obtain rfl : byte = lineFeed := by simpa using hlast
  exact ⟨z, rfl, hhead⟩

lemma notMem_line (hrefused : commandRefused command = false)
    (h : fragment ++ x ++ y = utf8Bytes command ++ [carriageReturn]) :
    lineFeed ∉ x ∧ lineFeed ∉ y := by
  have hline : lineFeed ∉ fragment ++ x ++ y := by
    rw [h, List.mem_append, List.mem_singleton, not_or]
    exact ⟨(notMem_of_not_refused hrefused).1, by decide⟩
  simp only [List.mem_append, not_or] at hline
  exact ⟨hline.1.2, hline.2⟩

lemma sound_flushed {n : ℕ} (h : c.Sound) (hstep : c.Step (.flushed n) c') : c'.Sound := by
  cases hcall : c.call with
  | none => simp [Step, act, hcall] at hstep
  | some call =>
    have hclean := h.clean_of_call hcall
    obtain ⟨hbuffered, hplaced⟩ := h.placed hclean
    rw [hcall] at hplaced
    cases call with
    | reading => simp [Step, act, hcall] at hstep
    | writing command rest =>
      obtain ⟨hrest, hrefused, htext, hlength, harriving⟩ := hplaced
      simp only [Step, act, hcall] at hstep
      have hgrown := @commands_of_sent c { c with sent := c.sent ++ rest.take n } _ rfl
      have hafter := @fragmentAfter_append _ _ lineFeed [] c.sent (rest.take n)
      split_ifs at hstep with hdrop
      · -- the line feed has gone out
        have htake : rest.take n = rest := (List.take_eq_self_iff _).mpr (by simpa using hdrop)
        obtain ⟨z, hz, hline⟩ := rest_of_line (x := []) htext hrest
        obtain ⟨-, hnot⟩ := notMem_line hrefused hline
        obtain ⟨hlines, hfragment⟩ := linesFrom_line (f := fragmentAfter lineFeed [] c.sent) hnot
        rw [List.append_nil] at hline
        rw [hcall, htake, hz, hlines, hline, List.map_singleton, dropEnding_snoc] at hgrown
        rw [htake, hz, hfragment] at hafter
        rw [htake, hz] at hstep
        have hcount := congrArg List.length hgrown
        rw [List.length_append, List.length_singleton] at hcount
        have hindex : c.commands.length + 1 - 1 = c.commands.length := Nat.add_sub_cancel _ 1
        rw [hcount, hindex] at hstep
        cases hstep
        refine h.of_placed (List.prefix_append _ _) List.prefix_rfl rfl hclean
          ⟨hbuffered, hafter, hcount, ?_, .inl ⟨hlength, rfl, rfl, harriving⟩⟩
        exact hgrown ▸ List.getElem?_concat_length
      · obtain ⟨z, hz, hline⟩ := rest_of_line (x := rest.take n) (y := rest.drop n)
          (by rw [List.take_append_drop, htext]) hdrop
        obtain ⟨hnot, -⟩ := notMem_line hrefused hline
        obtain ⟨hlines, hfragment⟩ :=
          linesFrom_of_notMem (f := fragmentAfter lineFeed [] c.sent) hnot
        rw [hlines, List.map_nil, List.append_nil] at hgrown
        rw [hfragment] at hafter
        cases hstep
        refine h.of_placed (List.prefix_append _ _) List.prefix_rfl rfl hclean
          ⟨hbuffered, hdrop, hrefused, ?_, ?_, harriving⟩
        · rw [hafter, List.append_assoc, List.take_append_drop, htext]
        · exact hlength.trans (congrArg List.length hgrown.symm)

lemma sound_answered (h : c.Sound) (hstep : c.Step (.answered reply) c') : c'.Sound := by
  simp only [Step, act] at hstep
  split_ifs at hstep with hpending
  cases hstep
  by_cases hclean : ∀ e ∈ c.ended, e.Clean
  · obtain ⟨hbuffered, hplaced⟩ := h.placed hclean
    refine h.of_placed List.prefix_rfl (List.prefix_append _ _) rfl hclean ⟨hbuffered, ?_⟩
    -- only a call that reads waits for an answer
    cases hcall : c.call with
    | none =>
      rw [hcall] at hplaced
      obtain ⟨-, hlength, -⟩ := hplaced
      omega
    | some call =>
      rw [hcall] at hplaced
      cases call with
      | writing command rest =>
        obtain ⟨-, -, -, hlength, -⟩ := hplaced
        omega
      | reading command index lines total fragment =>
        obtain ⟨hfragment, hlength, hcommand, hread | ⟨reply', hread, -⟩⟩ := hplaced
        · obtain ⟨hreplies, rfl, rfl, harriving⟩ := hread
          refine ⟨hfragment, hlength, hcommand, .inr ⟨reply, ?_, ?_, ?_⟩⟩
          · rw [List.length_append, hreplies]
            rfl
          · rw [← hreplies]
            exact List.getElem?_concat_length
          · refine ⟨⟨[], reply.items, rfl, rfl, ?_⟩, by simp⟩
            rw [harriving]
            rfl
        · omega
  · push Not at hclean
    refine ⟨fun e he lines hlines => ?_, fun hall => ?_, fun _ => h.idle hclean⟩
    · refine h.matched_mono ?_ ?_ he lines hlines
      · exact List.prefix_rfl
      · exact List.prefix_append _ _
    · obtain ⟨e, he, hunclean⟩ := hclean
      exact absurd (hall e he) hunclean

inductive Continues (reply : Reply) (rest : Bytes) : LineOutcome → Prop
  | next {lines : List String} {total : ℕ} (h : Underway reply lines [] rest) :
      Continues reply rest (.continues lines total)
  | last {lines : List String} (h : lines.map utf8Bytes = reply.lines) (hrest : rest = []) :
      Continues reply rest (.ends (.returned (.ok lines)))
  | rejected (hrest : rest = []) : Continues reply rest (.ends rejected)
  | unclean {ending : Ending}
      (h : ∀ command index, ¬ (⟨command, index, ending⟩ : Ended).Clean) :
      Continues reply rest (.ends ending)

lemma Continues.of_reads
    {outcome : LineOutcome} (h : Reads lines bytes outcome)
    (hnext : separator bytes = some dash → ∀ line, utf8Bytes line = bytes →
      Underway reply (lines ++ [line]) [] rest)
    (hlast : separator bytes = some space → rest = [] ∧ ∀ line, utf8Bytes line = bytes →
      (lines ++ [line]).map utf8Bytes = reply.lines) : Continues reply rest outcome := by
  cases h with
  | next htext hdash => exact .next (hnext hdash _ htext)
  | last htext hspace =>
    obtain ⟨hrest, hlines⟩ := hlast hspace
    exact .last (hlines _ htext) hrest
  | rejected hspace => exact .rejected (hlast hspace).1
  | refused hok hrejected hinvalid =>
    refine .unclean fun command index => ?_
    rintro (h | h | ⟨lines, h⟩)
    · exact hinvalid h
    · exact hrejected h
    · exact hok lines h

lemma Underway.line (h : Underway reply lines fragment (y ++ lineFeed :: rest)) (hy : lineFeed ∉ y)
    (total : ℕ) :
    Continues reply rest (acceptLine lines total (fragment ++ (y ++ [lineFeed]))) := by
  obtain ⟨⟨done, todo, hitems, hlines, hstream⟩, hfragment⟩ := h
  have hmem : ∀ line ∈ todo.flatMap ReplyItem.lines ++ [reply.code.1 ++ space :: reply.text.1],
      lineFeed ∉ line := by
    intro line hline
    apply @lineFeed_notMem reply
    rw [Reply.lines, hitems, List.flatMap_append, List.append_assoc]
    exact List.mem_append_right _ hline
  cases todo with
  | nil =>
    obtain ⟨hread, hrest⟩ := line_of_encodeLines hfragment hy (hmem _ (by simp)) hstream
    rw [← List.append_assoc, hread]
    refine .of_reads (acceptLine_reads _ _ _) (fun hdash => ?_) (fun _ => ⟨hrest, ?_⟩)
    · rw [separator_head] at hdash
      cases hdash
    · intro line htext
      simp [Reply.lines, hitems, hlines, htext]
  | cons item todo =>
    cases item with
    | mid code text =>
      obtain ⟨hread, hrest⟩ := line_of_encodeLines hfragment hy (hmem _ List.mem_cons_self) hstream
      rw [← List.append_assoc, hread]
      refine .of_reads (acceptLine_reads _ _ _) (fun _ line htext => ?_) (fun hspace => ?_)
      · refine ⟨⟨done ++ [.mid code text], todo, by simp [hitems], ?_, hrest⟩, by simp⟩
        simp [hlines, htext, ReplyItem.lines]
      · rw [separator_head] at hspace
        cases hspace
    | data code text body =>
      -- the loop does not know the framing of data blocks
      obtain ⟨hread, -⟩ := line_of_encodeLines hfragment hy (hmem _ List.mem_cons_self) hstream
      rw [← List.append_assoc, hread]
      refine .of_reads (acceptLine_reads _ _ _) (fun hdash => ?_) (fun hspace => ?_)
      · rw [separator_head] at hdash
        cases hdash
      · rw [separator_head] at hspace
        cases hspace

section

variable (h : c.Sound)
include h

lemma sound_received {n : ℕ} (hstep : c.Step (.received n) c') : c'.Sound := by
  cases hcall : c.call with
  | none => simp [Step, act, hcall] at hstep
  | some call =>
    have hclean := h.clean_of_call hcall
    obtain ⟨hbuffered, hplaced⟩ := h.placed hclean
    rw [hcall] at hplaced
    cases call with
    | writing => simp [Step, act, hcall] at hstep
    | reading command index lines total fragment =>
      obtain ⟨hsent, hlength, hcommand, hread⟩ := hplaced
      simp only [Step, act, hcall] at hstep
      generalize htaken : throughDelimiter lineFeed (c.arriving.take n) = taken at hstep
      have hstream : taken ++ c.arriving.drop taken.length = c.arriving := by
        apply List.prefix_iff_eq_append.mp
        have hprefix : taken <+: c.arriving.take n :=
          ⟨_, htaken ▸ throughDelimiter_append_drop lineFeed _⟩
        exact hprefix.trans (List.take_prefix n _)
      rcases throughDelimiter_cases lineFeed (c.arriving.take n) with ⟨hnot, heq⟩ | ⟨y, hnot, heq⟩
      · rw [htaken] at heq
        rw [← heq] at hnot
        have hlast : taken.getLast? ≠ some lineFeed := fun h => hnot (List.mem_of_getLast? h)
        rw [if_neg hlast] at hstep
        cases hstep
        refine h.of_placed List.prefix_rfl List.prefix_rfl rfl hclean
          ⟨hbuffered, hsent, hlength, hcommand, ?_⟩
        rcases hread with ⟨hreplies, rfl, rfl, harriving⟩ | ⟨reply, hreplies, hreply, hunderway⟩
        · rw [harriving, List.append_eq_nil_iff] at hstream
          exact .inl ⟨hreplies, rfl, by simp [hstream.1], by simp [harriving]⟩
        · refine .inr ⟨reply, hreplies, hreply, ?_, ?_⟩
          · rw [List.append_assoc, hstream]
            exact hunderway.items
          · simp [hunderway.fragment, hnot]
      · rw [htaken] at heq
        have hlast : taken.getLast? = some lineFeed := by simp [heq]
        rw [if_pos hlast] at hstep
        rcases hread with ⟨-, -, -, harriving⟩ | ⟨reply, hreplies, hreply, hunderway⟩
        · rw [harriving, List.append_eq_nil_iff, heq] at hstream
          simp at hstream
        · rw [← hstream, heq, List.append_assoc] at hunderway
          have hnext := hunderway.line hnot total
          rw [← heq] at hnext
          generalize acceptLine lines total (fragment ++ taken) = outcome at hstep hnext
          cases hstep
          cases hnext with
          | next hunderway =>
            refine h.of_placed List.prefix_rfl List.prefix_rfl rfl hclean ⟨hbuffered, ?_⟩
            exact ⟨hsent, hlength, hcommand, .inr ⟨reply, hreplies, hreply, hunderway⟩⟩
          | last htext hrest =>
            refine h.finish_clean ⟨rfl, rfl, rfl, rfl⟩ hbuffered hsent
              (hreplies.trans hlength.symm) hrest ?_
            rintro lines ⟨⟩
            exact ⟨index, reply, rfl, ⟨hcommand, hreply⟩, htext⟩
          | rejected hrest =>
            refine h.finish_clean ⟨rfl, rfl, rfl, rfl⟩ hbuffered hsent
              (hreplies.trans hlength.symm) hrest ?_
            rintro lines ⟨⟩
          | unclean hunclean => exact h.spoil ⟨rfl, rfl, rfl, rfl⟩ (hunclean _ _)

lemma sound_timedOut {kept : ℕ} (hstep : c.Step (.timedOut kept) c') : c'.Sound := by
  cases hcall : c.call with
  | none => simp [Step, act, hcall] at hstep
  | some call =>
    cases call with
    | writing | reading =>
      simp only [Step, act, hcall, Option.some.injEq] at hstep
      subst hstep
      exact h.spoil ⟨rfl, rfl, rfl, rfl⟩ (not_clean_of_error (by decide) (by decide))

lemma sound_failed {flushing : Bool} {kept : ℕ} (hstep : c.Step (.failed flushing kept) c') :
    c'.Sound := by
  cases hcall : c.call with
  | none => simp [Step, act, hcall] at hstep
  | some call =>
    cases call with
    | writing command rest =>
      simp only [Step, act, hcall, Option.some.injEq] at hstep
      subst hstep
      refine h.spoil ⟨rfl, rfl, rfl, rfl⟩ (not_clean_of_error ?_ ?_)
      · cases flushing <;> decide
      · cases flushing <;> decide
    | reading command index lines total fragment =>
      simp only [Step, act, hcall, Option.some.injEq] at hstep
      subst hstep
      exact h.spoil ⟨rfl, rfl, rfl, rfl⟩ (not_clean_of_error (by decide) (by decide))

lemma sound_closed (hstep : c.Step .closed c') (hcalm : c.Calm .closed) : c'.Sound := by
  cases hcall : c.call with
  | none => simp [Step, act, hcall] at hstep
  | some call =>
    cases call with
    | writing command rest => simp [Step, act, hcall] at hstep
    | reading command index lines total fragment =>
      rw [Calm, hcall] at hcalm
      obtain rfl : fragment = [] := hcalm
      simp only [Step, act, hcall] at hstep
      split_ifs at hstep
      cases hstep
      exact h.spoil ⟨rfl, rfl, rfl, rfl⟩ (not_clean_of_error (by decide) (by decide))

lemma sound_step (hstep : c.CalmStep event c') : c'.Sound := by
  obtain ⟨hstep, hcalm⟩ := hstep
  cases event with
  | command text => exact sound_command h hstep hcalm
  | flushed n => exact sound_flushed h hstep
  | answered reply => exact sound_answered h hstep
  | received n => exact sound_received h hstep
  | timedOut kept => exact sound_timedOut h hstep
  | failed flushing kept => exact sound_failed h hstep
  | closed => exact sound_closed h hstep hcalm

end

theorem returned_reply_matches {events : List Event} (hrun : Trace CalmStep start events c)
    {e : Ended} (he : e ∈ c.ended) {lines : List String} (hok : e.ending = .returned (.ok lines)) :
    ∃ index reply, e.index = some index ∧ c.commands[index]? = some (utf8Bytes e.command) ∧
      c.replies[index]? = some reply ∧ lines.map utf8Bytes = reply.lines := by
  have hsound : c.Sound := hrun.invariant (fun hstep h => sound_step h hstep) sound_start
  obtain ⟨index, reply, hindex, hanswered, htext⟩ := hsound.matched e he lines hok
  exact ⟨index, reply, hindex, hanswered.command, hanswered.reply, htext⟩

section Runs

instance (ending : Ending) : Decidable (∃ lines, ending = .returned (.ok lines)) :=
  match ending with
  | .returned (.ok lines) => isTrue ⟨lines, rfl⟩
  | .returned (.error _) => isFalse fun ⟨_, h⟩ => by cases h
  | .panicked => isFalse fun ⟨_, h⟩ => by cases h

instance (e : Ended) : Decidable e.Clean :=
  inferInstanceAs (Decidable (_ ∨ _ ∨ ∃ lines, e.ending = .returned (.ok lines)))

instance (c : Connection) (event : Event) : Decidable (c.Calm event) := by
  cases event with
  | command => exact inferInstanceAs (Decidable (∀ e ∈ c.ended, e.Clean))
  | closed =>
    rw [Calm]
    split <;> infer_instance
  | _ => exact isTrue trivial

def calmAct (c : Connection) (event : Event) : Option Connection :=
  if c.Calm event then c.act event else none

lemma calmStep_of_calmAct (h : c.calmAct event = some c') : c.CalmStep event c' := by
  rw [calmAct] at h
  split_ifs at h with hcalm
  exact ⟨h, hcalm⟩

end Runs

namespace Sample

def code : Code := ⟨utf8Bytes "250", rfl, List.all_eq_true.mp rfl⟩

def phase : Reply where
  items := [.mid code ⟨utf8Bytes "status/bootstrap-phase=NOTICE", by decide⟩]
  code := code
  text := ⟨utf8Bytes "OK", by decide⟩

def done : Reply := ⟨[], code, ⟨utf8Bytes "OK", by decide⟩⟩

def unrecognized : Reply :=
  ⟨[], ⟨utf8Bytes "552", rfl, List.all_eq_true.mp rfl⟩, ⟨utf8Bytes "Unrecognized", by decide⟩⟩

def rejectedFirst : List Event :=
  [.command "GETINFO phase", .flushed 6, .flushed 100, .answered unrecognized, .received 100,
    .command "GETINFO status/bootstrap-phase", .flushed 100, .answered phase, .received 10,
    .received 100, .received 100]

def lateReply : List Event :=
  [.command "GETINFO status/bootstrap-phase", .flushed 100, .timedOut 0, .answered phase,
    .command "SIGNAL NEWNYM", .flushed 100, .answered done, .received 100, .received 100]

end Sample

open Sample in
theorem returned_reply_matches_sample : ∃ c, Trace CalmStep start rejectedFirst c ∧
    ⟨"GETINFO status/bootstrap-phase", some 1,
      .returned (.ok ["250-status/bootstrap-phase=NOTICE", "250 OK"])⟩ ∈ c.ended ∧
    ∃ index reply, some 1 = some index ∧
      c.commands[index]? = some (utf8Bytes "GETINFO status/bootstrap-phase") ∧
      c.replies[index]? = some reply ∧
      ["250-status/bootstrap-phase=NOTICE", "250 OK"].map utf8Bytes = reply.lines := by
  have hended : (rejectedFirst.foldlM calmAct start).map Connection.ended = some
      [⟨"GETINFO status/bootstrap-phase", some 1,
        .returned (.ok ["250-status/bootstrap-phase=NOTICE", "250 OK"])⟩,
        ⟨"GETINFO phase", some 0, rejected⟩] := by
    decide +kernel
  obtain ⟨c, hc, hended⟩ := Option.map_eq_some_iff.mp hended
  have hrun : Trace CalmStep start rejectedFirst c := .of_foldlM calmStep_of_calmAct hc
  have hmem : ⟨"GETINFO status/bootstrap-phase", some 1,
      .returned (.ok ["250-status/bootstrap-phase=NOTICE", "250 OK"])⟩ ∈ c.ended := by
    simp [hended]
  exact ⟨c, hrun, hmem, returned_reply_matches hrun hmem rfl⟩

open Sample in
/-- The call for `SIGNAL NEWNYM` returns the reply to the command before it. -/
theorem late_reply_returned : ∃ c, Trace Step start lateReply c ∧
    c.commands = [utf8Bytes "GETINFO status/bootstrap-phase", utf8Bytes "SIGNAL NEWNYM"] ∧
    c.replies.map Reply.lines = [phase.lines, done.lines] ∧
    phase.lines ≠ done.lines ∧
    ∃ lines, ⟨"SIGNAL NEWNYM", some 1, .returned (.ok lines)⟩ ∈ c.ended ∧
      lines.map utf8Bytes = phase.lines := by
  have hfinal : (lateReply.foldlM act start).map
      (fun c => (c.commands, c.replies.map Reply.lines, c.ended)) = some
      ([utf8Bytes "GETINFO status/bootstrap-phase", utf8Bytes "SIGNAL NEWNYM"],
        [phase.lines, done.lines],
        [⟨"SIGNAL NEWNYM", some 1,
          .returned (.ok ["250-status/bootstrap-phase=NOTICE", "250 OK"])⟩,
          ⟨"GETINFO status/bootstrap-phase", some 0,
            .returned (.error (controlUnavailable "Tor control command timed out"))⟩]) := by
    decide +kernel
  obtain ⟨c, hc, hfinal⟩ := Option.map_eq_some_iff.mp hfinal
  rw [Prod.mk.injEq, Prod.mk.injEq] at hfinal
  obtain ⟨hcommands, hreplies, hended⟩ := hfinal
  have hmem : ⟨"SIGNAL NEWNYM", some 1,
      .returned (.ok ["250-status/bootstrap-phase=NOTICE", "250 OK"])⟩ ∈ c.ended := by
    simp [hended]
  exact ⟨c, .of_foldlM id hc, hcommands, hreplies, by decide +kernel, _, hmem, by decide +kernel⟩

end Connection

end OnionRoute.TorBackend
