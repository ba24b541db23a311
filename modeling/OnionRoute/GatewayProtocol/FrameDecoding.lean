import OnionRoute.Library.Trace
import OnionRoute.Library.Transducer
import OnionRoute.GatewayProtocol.Framing

/-! The incremental decoder reads its input byte by byte, however it was cut. -/

namespace OnionRoute.GatewayProtocol

open Library Transducer

variable {byte : UInt8} {u : FrameDecoder} {n : ℕ}

namespace FrameDecoder

variable {decode : Bytes → Except String GatewayFrame} {d t : FrameDecoder}

def fresh (maximumFrameSize : ℕ) : FrameDecoder :=
  { maximumFrameSize, digits := [], expectedBody := none, body := [] }

structure Sound (d : FrameDecoder) : Prop where
  digits : d.digits.length ≤ maxU32VarintBytes
  waiting : d.expectedBody = none → d.body = []
  expected : ∀ n, d.expectedBody = some n → d.body.length < n ∧ n ≤ d.maximumFrameSize

lemma sound_fresh (maximumFrameSize : ℕ) : (fresh maximumFrameSize).Sound where
  digits := Nat.zero_le _
  waiting := fun _ => rfl
  expected := by
    intro n hn
    cases hn

lemma Sound.withBody {body : Bytes} (h : d.Sound) (hd : d.expectedBody = some n)
    (hlt : body.length < n) : Sound { d with body } where
  digits := h.digits
  waiting := by
    intro hnone
    rw [hd] at hnone
    cases hnone
  expected := by
    intro m hm
    rw [hd] at hm
    cases hm
    exact ⟨hlt, (h.expected n hd).2⟩

variable (decode) in
def byteStep (d : FrameDecoder) (byte : UInt8) : Result (Option GatewayFrame × FrameDecoder) :=
  match d.expectedBody with
  | none =>
    match pushDigit byte d with
    | .error e _ => .error e
    | .ok _ t => .ok (none, t)
  | some n =>
    let body := d.body ++ [byte]
    if body.length = n then
      match decodeFrameBytes decode body with
      | .error e => .error e
      | .ok frame => .ok (some frame, d.reset)
    else .ok (none, { d with body })

lemma checkLength_eq_ok {maximumFrameSize : ℕ} {digits : Bytes} :
    checkLength maximumFrameSize digits = .ok n ↔
      decodeCanonicalU32Varint digits = .ok n ∧ n ≠ 0 ∧ n ≤ maximumFrameSize := by
  simp only [checkLength, bind_eq_ok, guard_eq_ok, pure_eq_ok, not_lt, gt_iff_lt]
  constructor
  · rintro ⟨m, hm, hzero, hle, rfl⟩
    exact ⟨hm, hzero, hle⟩
  · rintro ⟨hn, hzero, hle⟩
    exact ⟨n, hn, hzero, hle, rfl⟩

lemma pushDigit_cases (byte : UInt8) (h : d.Sound) (hd : d.expectedBody = none) :
    (∃ e, pushDigit byte d = .error e d.reset) ∨
      (∃ t, pushDigit byte d = .ok false t ∧ t.Sound ∧ t.expectedBody = none ∧
        t.maximumFrameSize = d.maximumFrameSize) ∨
      ∃ t n, pushDigit byte d = .ok true t ∧ t.Sound ∧ t.expectedBody = some n ∧
        t.maximumFrameSize = d.maximumFrameSize := by
  rw [pushDigit]
  split
  next => exact .inl ⟨_, rfl⟩
  next hroom =>
    have hdigits : (d.digits ++ [byte]).length ≤ maxU32VarintBytes := by
      have hle := h.digits
      rw [List.length_append, List.length_singleton]
      omega
    dsimp only
    split
    next =>
      cases hlength : checkLength d.maximumFrameSize (d.digits ++ [byte]) with
      | error e => exact .inl ⟨e, rfl⟩
      | ok n =>
        obtain ⟨-, hzero, hle⟩ := checkLength_eq_ok.mp hlength
        refine .inr (.inr ⟨_, n, rfl, ⟨hdigits, fun hnone => ?_, ?_⟩, rfl, rfl⟩)
        · cases hnone
        · rintro m ⟨⟩
          exact ⟨Nat.pos_of_ne_zero hzero, hle⟩
    next =>
      refine .inr (.inl ⟨_, rfl, ⟨hdigits, h.waiting, ?_⟩, hd, rfl⟩)
      intro n hn
      rw [hd] at hn
      cases hn

lemma run_cons_none (h : byteStep decode d byte = .ok (none, u))
    (rest : Bytes) : run (byteStep decode) d (byte :: rest) = run (byteStep decode) u rest := by
  simp [run, h, resume_nil]

variable {e : ProtocolError}

lemma run_cons_error (h : byteStep decode d byte = .error e) (rest : Bytes) :
    run (byteStep decode) d (byte :: rest) = ([], .error e) := by
  simp [run, h]

lemma byteStep_digit {last : Bool} (hd : d.expectedBody = none)
    (h : pushDigit byte d = .ok last u) : byteStep decode d byte = .ok (none, u) := by
  simp [byteStep, hd, h]

lemma byteStep_digit_error (hd : d.expectedBody = none) (h : pushDigit byte d = .error e u) :
    byteStep decode d byte = .error e := by
  simp [byteStep, hd, h]

structure Reads (decode : Bytes → Except String GatewayFrame) (d : FrameDecoder)
    (input rest : Bytes) (frames : List GatewayFrame) (t : FrameDecoder) : Prop where
  sound : t.Sound
  maximum : t.maximumFrameSize = d.maximumFrameSize
  run : ∃ pre, input = pre ++ rest ∧ run (byteStep decode) d pre = (frames, .ok t)

lemma Reads.refl (h : d.Sound) (input : Bytes) : Reads decode d input input [] d :=
  ⟨h, rfl, [], rfl, rfl⟩

lemma Reads.cons {input rest : Bytes} {frames : List GatewayFrame}
    (hstep : byteStep decode d byte = .ok (none, u)) (hu : u.maximumFrameSize = d.maximumFrameSize)
    (h : Reads decode u input rest frames t) : Reads decode d (byte :: input) rest frames t := by
  obtain ⟨pre, rfl, hrun⟩ := h.run
  refine ⟨h.sound, h.maximum.trans hu, byte :: pre, rfl, ?_⟩
  rw [run_cons_none hstep, hrun]

lemma pushDigits_run (decode : Bytes → Except String GatewayFrame) (input : Bytes) (h : d.Sound)
    (hd : d.expectedBody = none) :
    match pushDigits input d with
    | .error e t => t = fresh d.maximumFrameSize ∧
        run (byteStep decode) d input = ([], .error e)
    | .ok rest t => Reads decode d input rest [] t ∧ (t.expectedBody = none → rest = []) := by
  induction input generalizing d with
  | nil => exact ⟨Reads.refl h [], fun _ => rfl⟩
  | cons byte input ih =>
    rw [pushDigits]
    simp only [bind, EStateM.bind]
    rcases pushDigit_cases byte h hd with ⟨e, hdigit⟩ | ⟨u, hdigit, hu, hnone, hmax⟩ |
      ⟨u, n, hdigit, hu, hsome, hmax⟩
    · rw [hdigit]
      exact ⟨rfl, run_cons_error (byteStep_digit_error hd hdigit) input⟩
    · have hrest := ih hu hnone
      have hstep : byteStep decode d byte = .ok (none, u) := byteStep_digit hd hdigit
      simp only [hdigit, Bool.false_eq_true, if_false]
      cases hpush : pushDigits input u with
      | error e t =>
        rw [hpush] at hrest
        refine ⟨hmax ▸ hrest.1, ?_⟩
        rw [run_cons_none hstep, hrest.2]
      | ok rest t =>
        rw [hpush] at hrest
        exact ⟨hrest.1.cons hstep hmax, hrest.2⟩
    · simp only [hdigit, if_true]
      refine ⟨(Reads.refl hu input).cons (byteStep_digit hd hdigit) hmax, fun hnone => ?_⟩
      rw [hsome] at hnone
      cases hnone

lemma run_short (hd : d.expectedBody = some n) (xs : Bytes) (h : d.body.length + xs.length < n) :
    run (byteStep decode) d xs = ([], .ok { d with body := d.body ++ xs }) := by
  induction xs generalizing d with
  | nil => simp [run]
  | cons byte xs ih =>
    rw [List.length_cons] at h
    have hstep : byteStep decode d byte = .ok (none, { d with body := d.body ++ [byte] }) := by
      have hne : (d.body ++ [byte]).length ≠ n := by
        rw [List.length_append, List.length_singleton]
        omega
      simp only [byteStep, hd, if_neg hne]
    have hrest := ih (d := { d with body := d.body ++ [byte] }) hd (by
      rw [List.length_append, List.length_singleton]
      omega)
    rw [run_cons_none hstep, hrest]
    simp

lemma run_full (hd : d.expectedBody = some n) {xs : Bytes} (hxs : xs ≠ [])
    (h : d.body.length + xs.length = n) :
    run (byteStep decode) d xs = match decodeFrameBytes decode (d.body ++ xs) with
      | .error e => ([], .error e)
      | .ok frame => ([frame], .ok d.reset) := by
  obtain ⟨ys, byte, rfl⟩ : ∃ ys byte, xs = ys ++ [byte] :=
    ⟨xs.dropLast, xs.getLast hxs, (List.dropLast_append_getLast hxs).symm⟩
  rw [List.length_append, List.length_singleton] at h
  have hlast : (d.body ++ ys ++ [byte]).length = n := by
    simp only [List.length_append, List.length_singleton]
    omega
  rw [run_append, run_short hd ys (by omega), resume_nil, run, byteStep, ← List.append_assoc]
  simp only [hd, if_pos hlast]
  cases decodeFrameBytes decode (d.body ++ ys ++ [byte]) with
  | error e => rfl
  | ok frame => simp [run, resume, reset]

lemma take_min_length {α : Type} (xs : List α) (n : ℕ) : xs.take (min n xs.length) = xs.take n := by
  rcases le_total n xs.length with hle | hle
  · rw [min_eq_left hle]
  · rw [min_eq_right hle, List.take_length, List.take_of_length_le hle]

lemma pushBody_run (decode : Bytes → Except String GatewayFrame) (input : Bytes) (h : d.Sound)
    (hd : d.expectedBody = some n) :
    match pushBody decode n input d with
    | .error e t => t = fresh d.maximumFrameSize ∧ run (byteStep decode) d input = ([], .error e)
    | .ok p t => t.Sound ∧ t.maximumFrameSize = d.maximumFrameSize ∧
        p.consumed = min (n - d.body.length) input.length ∧
        run (byteStep decode) d (input.take p.consumed) = (p.frame.toList, .ok t) := by
  obtain ⟨hlt, -⟩ := h.expected n hd
  set xs := input.take (n - d.body.length) with hxs
  have htake : input.take (min (n - d.body.length) input.length) = xs := take_min_length input _
  have hinput : input = xs ++ input.drop (n - d.body.length) := (List.take_append_drop _ _).symm
  have hlength : xs.length ≤ n - d.body.length := List.length_take_le _ _
  by_cases hfull : d.body.length + xs.length = n
  · have hne : xs ≠ [] := by
      rintro hnil
      rw [hnil, List.length_nil] at hfull
      omega
    have hrun : run (byteStep decode) d xs = _ := run_full hd hne hfull
    have hbody : (d.body ++ xs).length = n := by rw [List.length_append, hfull]
    simp only [pushBody, fill, ← hxs, if_pos hbody]
    cases hdecode : decodeFrameBytes decode (d.body ++ xs) with
    | error e =>
      rw [hdecode] at hrun
      refine ⟨rfl, ?_⟩
      rw [hinput, run_append, hrun]
      rfl
    | ok frame =>
      rw [hdecode] at hrun
      refine ⟨sound_fresh _, rfl, rfl, ?_⟩
      rw [htake, hrun]
      rfl
  · have hbody : (d.body ++ xs).length ≠ n := by rwa [List.length_append]
    simp only [pushBody, fill, ← hxs, if_neg hbody]
    refine ⟨h.withBody hd ?_, trivial, trivial, ?_⟩
    · rw [List.length_append]
      omega
    · rw [htake]
      exact run_short hd xs (by omega)

def DecodeProgress.after (consumed : ℕ) :
    EStateM.Result ProtocolError FrameDecoder DecodeProgress →
      EStateM.Result ProtocolError FrameDecoder DecodeProgress
  | .ok p t => .ok { p with consumed := consumed + p.consumed } t
  | .error e t => .error e t

lemma push_some (hd : d.expectedBody = some n) (input : Bytes) :
    push decode input d = DecodeProgress.after 0 (pushBody decode n input d) := by
  simp only [push, bind, EStateM.bind, state_get, hd,
    Option.isNone_some, Bool.false_eq_true, if_false, pure, EStateM.pure, Nat.sub_self]
  cases pushBody decode n input d <;> rfl

lemma push_none (hd : d.expectedBody = none) (input : Bytes) :
    push decode input d = match pushDigits input d with
      | .error e t => .error e t
      | .ok rest t =>
        match t.expectedBody with
        | none => .ok ⟨input.length - rest.length, none⟩ t
        | some n => DecodeProgress.after (input.length - rest.length) (pushBody decode n rest t) := by
  simp only [push, bind, EStateM.bind, state_get, hd,
    Option.isNone_none, if_true]
  cases pushDigits input d with
  | error e t => rfl
  | ok rest t =>
    cases ht : t.expectedBody with
    | none => simp [ht, pure, EStateM.pure]
    | some n =>
      simp only [ht, EStateM.bind]
      cases pushBody decode n rest t <;> rfl

lemma push_run (decode : Bytes → Except String GatewayFrame) (input : Bytes) (h : d.Sound) :
    match push decode input d with
    | .error e t => t = fresh d.maximumFrameSize ∧
        run (byteStep decode) d input = ([], .error e)
    | .ok p t => t.Sound ∧ t.maximumFrameSize = d.maximumFrameSize ∧
        (input ≠ [] → 0 < p.consumed) ∧ p.consumed ≤ input.length ∧
        run (byteStep decode) d (input.take p.consumed) = (p.frame.toList, .ok t) := by
  cases hd : d.expectedBody with
  | some n =>
    have hbody := pushBody_run decode input h hd
    obtain ⟨hlt, -⟩ := h.expected n hd
    rw [push_some hd]
    cases hpush : pushBody decode n input d with
    | error e t =>
      rw [hpush] at hbody
      exact hbody
    | ok p t =>
      rw [hpush] at hbody
      obtain ⟨hsound, hmax, hconsumed, hrun⟩ := hbody
      simp only [DecodeProgress.after, Nat.zero_add]
      refine ⟨hsound, hmax, fun hinput => ?_, by omega, hrun⟩
      have hpos := List.length_pos_of_ne_nil hinput
      omega
  | none =>
    have hdigits := pushDigits_run decode input h hd
    rw [push_none hd]
    cases hpush : pushDigits input d with
    | error e t =>
      rw [hpush] at hdigits
      exact hdigits
    | ok rest t =>
      rw [hpush] at hdigits
      obtain ⟨⟨hsound, hmax, pre, rfl, hrun⟩, hrest⟩ := hdigits
      have hpre : (pre ++ rest).length - rest.length = pre.length := by simp
      cases ht : t.expectedBody with
      | none =>
        obtain rfl := hrest ht
        simp only [ht, List.append_nil, List.length_nil, Nat.sub_zero, List.take_length]
        exact ⟨hsound, hmax, List.length_pos_of_ne_nil, le_rfl, hrun⟩
      | some n =>
        have hne : pre ≠ [] := by
          rintro rfl
          cases hrun
          rw [hd] at ht
          cases ht
        have hprepos := List.length_pos_of_ne_nil hne
        have hbody := pushBody_run decode rest hsound ht
        simp only [hpre, ht]
        cases hpush : pushBody decode n rest t with
        | error e u =>
          rw [hpush] at hbody
          refine ⟨hbody.1.trans (congrArg fresh hmax), ?_⟩
          rw [run_append, hrun, resume_nil, hbody.2]
        | ok p u =>
          rw [hpush] at hbody
          obtain ⟨hsound', hmax', hconsumed, hrun'⟩ := hbody
          refine ⟨hsound', hmax'.trans hmax, fun _ => by dsimp only; omega, ?_, ?_⟩
          · rw [List.length_append]
            dsimp only
            omega
          · rw [List.take_length_add_append, run_append, hrun, resume_nil, hrun']

variable (decode) in
def feed (d : FrameDecoder) (input : Bytes) : Written GatewayFrame ProtocolError FrameDecoder :=
  if input = [] then ([], .ok d)
  else
    match push decode input d with
    | .error e _ => ([], .error e)
    | .ok progress t =>
      if progress.consumed = 0 then (progress.frame.toList, .ok t)
      else
        resume (progress.frame.toList, .ok t) fun t => feed t (input.drop progress.consumed)
termination_by input.length
decreasing_by
  rw [List.length_drop]
  have hpos := List.length_pos_of_ne_nil (by assumption : input ≠ [])
  omega

lemma feed_eq_run (h : d.Sound) (input : Bytes) :
    d.feed decode input = run (byteStep decode) d input := by
  induction hn : input.length using Nat.strong_induction_on generalizing d input with
  | _ n ih =>
    rw [feed]
    split
    next hnil =>
      subst hnil
      rfl
    next hne =>
      have hpush := push_run decode input h
      cases hp : push decode input d with
      | error e t =>
        rw [hp] at hpush
        exact hpush.2.symm
      | ok p t =>
        rw [hp] at hpush
        obtain ⟨hsound, -, hmoves, hle, hrun⟩ := hpush
        have hpos := hmoves hne
        have hrest := ih (input.length - p.consumed) (by omega) hsound
          (input.drop p.consumed) (List.length_drop ..)
        dsimp only
        conv_rhs => rw [← List.take_append_drop p.consumed input, run_append, hrun]
        rw [if_neg hpos.ne']
        simp only [resume, hrest]

lemma Sound.byteStep {frame : Option GatewayFrame}
    (hstep : byteStep decode d byte = .ok (frame, t)) (h : d.Sound) : t.Sound := by
  rw [FrameDecoder.byteStep] at hstep
  cases hd : d.expectedBody with
  | none =>
    rcases pushDigit_cases byte h hd with ⟨e, hdigit⟩ | ⟨u, hdigit, hu, -⟩ | ⟨u, n, hdigit, hu, -⟩
    · simp only [hd, hdigit] at hstep
      cases hstep
    · simp only [hd, hdigit] at hstep
      cases hstep
      exact hu
    · simp only [hd, hdigit] at hstep
      cases hstep
      exact hu
  | some n =>
    obtain ⟨hlt, -⟩ := h.expected n hd
    simp only [hd] at hstep
    split at hstep
    next =>
      cases hdecode : decodeFrameBytes decode (d.body ++ [byte]) with
      | error e =>
        rw [hdecode] at hstep
        cases hstep
      | ok frame =>
        rw [hdecode] at hstep
        cases hstep
        exact sound_fresh _
    next hne =>
      rw [← hd] at hstep
      cases hstep
      rw [List.length_append, List.length_singleton] at hne
      refine h.withBody hd ?_
      rw [List.length_append, List.length_singleton]
      omega

variable (decode) in
def feedChunks (d : FrameDecoder) (chunks : List Bytes) :
    Written GatewayFrame ProtocolError FrameDecoder :=
  runAll (feed decode) d chunks

lemma feedChunks_eq_feed (h : d.Sound) (chunks : List Bytes) :
    d.feedChunks decode chunks = d.feed decode chunks.flatten := by
  rw [feed_eq_run h]
  exact runAll_eq_run (fun hstep hs => hs.byteStep hstep) (fun hs => feed_eq_run hs) h chunks

inductive Call
  | push (input : Bytes)
  | setMaximumFrameSize (maximumFrameSize : ℕ)

variable (decode) in
def act (d : FrameDecoder) : Call → FrameDecoder
  | .push input => finalState (push decode input) d
  | .setMaximumFrameSize maximumFrameSize => finalState (setMaximumFrameSize maximumFrameSize) d

lemma setMaximumFrameSize_cases (maximumFrameSize : ℕ) (d : FrameDecoder) :
    finalState (setMaximumFrameSize maximumFrameSize) d = d ∨
      finalState (setMaximumFrameSize maximumFrameSize) d = { d with maximumFrameSize } ∧
        ∀ n, d.expectedBody = some n → n ≤ maximumFrameSize := by
  simp only [finalState, setMaximumFrameSize]
  cases validateMaximum maximumFrameSize with
  | error e => exact .inl rfl
  | ok u =>
    obtain ⟨size, digits, expectedBody, body⟩ := d
    cases expectedBody with
    | none => exact .inr ⟨rfl, by simp⟩
    | some n =>
      by_cases hbig : n > maximumFrameSize
      · simp [hbig]
      · simpa [hbig] using .inr (not_lt.mp hbig)

lemma Sound.act (h : d.Sound) (c : Call) : (d.act decode c).Sound := by
  cases c with
  | push input =>
    have hpush := push_run decode input h
    rw [FrameDecoder.act, finalState]
    cases hp : push decode input d with
    | error e t =>
      rw [hp] at hpush
      rw [hpush.1]
      exact sound_fresh _
    | ok p t =>
      rw [hp] at hpush
      exact hpush.1
  | setMaximumFrameSize maximumFrameSize =>
    rw [FrameDecoder.act]
    rcases setMaximumFrameSize_cases maximumFrameSize d with hsame | ⟨hnew, hfits⟩
    · rwa [hsame]
    · rw [hnew]
      exact ⟨h.digits, h.waiting, fun n hn => ⟨(h.expected n hn).1, hfits n hn⟩⟩

lemma Sound.acts (h : d.Sound) (calls : List Call) :
    (calls.foldl (FrameDecoder.act decode) d).Sound := by
  induction calls generalizing d with
  | nil => exact h
  | cons c calls ih => exact ih (h.act c)

structure Bounded (d : FrameDecoder) : Prop where
  buffered : d.bufferedBytes ≤ d.maximumFrameSize + maxU32VarintBytes
  filling : ∀ n input, d.expectedBody = some n →
    (d.fill n input).bufferedBytes ≤ d.maximumFrameSize + maxU32VarintBytes

lemma Sound.bounded (h : d.Sound) : d.Bounded where
  buffered := by
    have hdigits := h.digits
    rw [bufferedBytes]
    cases hd : d.expectedBody with
    | none =>
      rw [h.waiting hd, List.length_nil]
      omega
    | some n =>
      obtain ⟨hlt, hle⟩ := h.expected n hd
      omega
  filling := by
    intro n input hd
    obtain ⟨hlt, hle⟩ := h.expected n hd
    have hdigits := h.digits
    have htake : (input.take (n - d.body.length)).length ≤ n - d.body.length :=
      List.length_take_le _ _
    simp only [bufferedBytes, fill, List.length_append]
    omega

end FrameDecoder

end OnionRoute.GatewayProtocol
