import Mathlib.Data.List.TakeWhile
import OnionRoute.GatewayProtocol.FrameRoundTrip

/-! The two readers of frames agree, but for when a length that is too long is refused. -/

namespace OnionRoute.GatewayProtocol

open Library Transducer FrameDecoder

variable {rest digits : Bytes} {frame : GatewayFrame}

section

variable (decode : Bytes → Except String GatewayFrame)

lemma readDigits_lt {stream digits' : Bytes}
    (h : readDigits digits stream = .done digits' rest) : rest.length < stream.length := by
  induction stream generalizing digits with
  | nil =>
    rw [readDigits] at h
    split at h <;> cases h
  | cons byte stream ih =>
    rw [readDigits] at h
    split at h
    next => cases h
    next =>
      split at h
      next =>
        cases h
        simp
      next =>
        have hlt := ih h
        rw [List.length_cons]
        omega

lemma readFrame_lt {maximumFrameSize : ℕ} {stream : Bytes}
    (h : readFrame decode maximumFrameSize stream = .done frame rest) :
    rest.length < stream.length := by
  rw [readFrame] at h
  cases hmax : validateMaximum maximumFrameSize with
  | error e => simp [hmax] at h
  | ok u =>
    cases hdigits : readDigits [] stream with
    | rejected e => simp [hmax, hdigits] at h
    | starved => simp [hmax, hdigits] at h
    | done digits later =>
      have hlt := readDigits_lt hdigits
      simp only [hmax, hdigits, readBody] at h
      cases hlength : checkLength maximumFrameSize digits with
      | error e => simp [hlength] at h
      | ok n =>
        simp only [hlength] at h
        split at h
        next => cases h
        next =>
          split at h
          next => cases h
          next =>
            cases h
            rw [List.length_drop]
            omega

def readFrames (maximumFrameSize : ℕ) (stream : Bytes) : List GatewayFrame × Option ProtocolError :=
  match _h : readFrame decode maximumFrameSize stream with
  | .rejected e => ([], some e)
  | .starved => ([], none)
  | .done frame rest =>
    let later := readFrames maximumFrameSize rest
    (frame :: later.1, later.2)
termination_by stream.length
decreasing_by exact readFrame_lt decode _h

/-- Of the bytes that have arrived so far, either both readers make an error or none does. -/
def AlikeOn (maximumFrameSize : ℕ) (d : FrameDecoder) (seen : Bytes) : Prop :=
  (∃ e, (readFrames decode maximumFrameSize seen).2 = some e) ↔
    ∃ e, (d.feed decode seen).2 = .error e

structure Agrees (maximumFrameSize : ℕ) (d : FrameDecoder) (stream : Bytes) : Prop where
  frames : ∀ (n : ℕ) (frame : GatewayFrame),
    (readFrames decode maximumFrameSize stream).1[n]? = some frame ↔
      (d.feed decode stream).1[n]? = some frame
  rejects : ∀ seen, seen <+: stream → AlikeOn decode maximumFrameSize d seen

inductive Framed (maximumFrameSize : ℕ) : Bytes → Prop
  | nil : Framed maximumFrameSize []
  | cons {digits body rest : Bytes} {frame : GatewayFrame} :
      checkLength maximumFrameSize digits = .ok body.length →
      decodeFrameBytes decode body = .ok frame → Framed maximumFrameSize rest →
      Framed maximumFrameSize (digits ++ (body ++ rest))

def Overlong (maximumFrameSize : ℕ) (stream : Bytes) : Prop :=
  ∃ frames digits, stream = frames ++ digits ∧ Framed decode maximumFrameSize frames ∧
    digits.length = maxU32VarintBytes ∧ ∀ byte ∈ digits, byte &&& 0x80 ≠ 0

end

variable {decode : Bytes → Except String GatewayFrame} {maximumFrameSize : ℕ} {stream : Bytes}
  {init : Bytes}

lemma readDigits_append (hinit : ∀ byte ∈ init, byte &&& 0x80 ≠ 0)
    (hroom : digits.length + init.length ≤ maxU32VarintBytes) (stream : Bytes) :
    readDigits digits (init ++ stream) = readDigits (digits ++ init) stream := by
  induction init generalizing digits with
  | nil => simp
  | cons byte init ih =>
    obtain ⟨hbyte, hrest⟩ := List.forall_mem_cons.mp hinit
    rw [List.length_cons] at hroom
    rw [List.cons_append, readDigits, if_neg (by omega), if_neg hbyte, ih hrest, List.append_assoc,
      List.singleton_append]
    rw [List.length_append, List.length_singleton]
    omega

inductive Head : Bytes → Prop
  | complete {init rest : Bytes} {last : UInt8} : (∀ byte ∈ init, byte &&& 0x80 ≠ 0) →
      last &&& 0x80 = 0 → init.length < maxU32VarintBytes → Head (init ++ last :: rest)
  | short {init : Bytes} : (∀ byte ∈ init, byte &&& 0x80 ≠ 0) →
      init.length < maxU32VarintBytes → Head init
  | long {init rest : Bytes} : (∀ byte ∈ init, byte &&& 0x80 ≠ 0) →
      init.length = maxU32VarintBytes → Head (init ++ rest)

lemma head_cases (stream : Bytes) : Head stream := by
  set init := stream.takeWhile (· &&& 0x80 ≠ 0) with hinit
  have hstream : stream = init ++ stream.dropWhile (· &&& 0x80 ≠ 0) :=
    List.takeWhile_append_dropWhile.symm
  have hcontinue : ∀ byte ∈ init, byte &&& 0x80 ≠ 0 := by
    intro byte hbyte
    simpa using List.mem_takeWhile_imp hbyte
  rcases Nat.lt_or_ge init.length maxU32VarintBytes with hshort | hlong
  · cases hrest : stream.dropWhile (· &&& 0x80 ≠ 0) with
    | nil =>
      rw [hrest, List.append_nil] at hstream
      rw [hstream]
      exact .short hcontinue hshort
    | cons last rest =>
      have hlast : last &&& 0x80 = 0 := by
        have hhead := List.head?_dropWhile_not (fun byte : UInt8 => byte &&& 0x80 ≠ 0) stream
        rw [hrest] at hhead
        simpa using hhead
      rw [hstream, hrest]
      exact .complete hcontinue hlast hshort
  · have htake : init = init.take maxU32VarintBytes ++ init.drop maxU32VarintBytes :=
      (List.take_append_drop _ _).symm
    rw [hstream, htake, List.append_assoc]
    refine .long (fun byte hbyte => hcontinue byte (List.mem_of_mem_take hbyte)) ?_
    rw [List.length_take]
    omega

lemma checkLength_split {n : ℕ} (h : checkLength maximumFrameSize digits = .ok n) :
    ∃ init last, digits = init ++ [last] ∧ (∀ byte ∈ init, byte &&& 0x80 ≠ 0) ∧
      last &&& 0x80 = 0 ∧ init.length < maxU32VarintBytes := by
  obtain ⟨hdecode, -⟩ := checkLength_eq_ok.mp h
  obtain ⟨rfl, hn⟩ := decodeCanonicalU32Varint_eq_ok.mp hdecode
  obtain ⟨init, last, hsplit, hinit, hlast⟩ := varint_split n
  refine ⟨init, last, hsplit, hinit, hlast, ?_⟩
  have hlength := length_varint_le hn
  rw [hsplit, List.length_append, List.length_singleton] at hlength
  omega

lemma readFrames_done (hread : readFrame decode maximumFrameSize stream = .done frame rest) :
    readFrames decode maximumFrameSize stream =
      (frame :: (readFrames decode maximumFrameSize rest).1,
        (readFrames decode maximumFrameSize rest).2) := by
  rw [readFrames]
  split <;> simp_all

lemma readFrames_rejected {e : ProtocolError}
    (hread : readFrame decode maximumFrameSize stream = .rejected e) :
    readFrames decode maximumFrameSize stream = ([], some e) := by
  rw [readFrames]
  split <;> simp_all

lemma readFrames_starved (hread : readFrame decode maximumFrameSize stream = .starved) :
    readFrames decode maximumFrameSize stream = ([], none) := by
  rw [readFrames]
  split <;> simp_all

section

variable (hmax : validateMaximum maximumFrameSize = .ok ())

include hmax

section

variable (hinit : ∀ byte ∈ init, byte &&& 0x80 ≠ 0)
include hinit

lemma readFrame_complete {last : UInt8} (hlast : last &&& 0x80 = 0)
    (hroom : init.length < maxU32VarintBytes) :
    readFrame decode maximumFrameSize (init ++ last :: rest) =
      readBody decode maximumFrameSize (init ++ [last]) rest := by
  have hdigits : readDigits [] (init ++ last :: rest) = .done (init ++ [last]) rest := by
    rw [readDigits_append hinit (by simpa using hroom.le), List.nil_append, readDigits,
      if_neg (by omega), if_pos hlast]
  simp only [readFrame, hmax, hdigits]

lemma readFrame_short (hroom : init.length < maxU32VarintBytes) :
    readFrame decode maximumFrameSize init = .starved := by
  have hdigits : readDigits [] (init ++ []) = readDigits ([] ++ init) [] :=
    readDigits_append hinit (by simpa using hroom.le) []
  rw [List.append_nil, List.nil_append, readDigits, if_neg (by omega)] at hdigits
  simp only [readFrame, hmax, hdigits]

lemma readFrame_long (hfull : init.length = maxU32VarintBytes) :
    readFrame decode maximumFrameSize (init ++ rest) = .rejected .invalidLengthPrefix := by
  have hdigits : readDigits [] (init ++ rest) = readDigits ([] ++ init) rest :=
    readDigits_append hinit (by simpa using hfull.le) rest
  have hstop : readDigits init rest = .rejected .invalidLengthPrefix := by
    cases rest with
    | nil => rw [readDigits, if_pos hfull]
    | cons byte rest => rw [readDigits, if_pos hfull]
  rw [List.nil_append, hstop] at hdigits
  simp only [readFrame, hmax, hdigits]

end

inductive Meets (decode : Bytes → Except String GatewayFrame) (maximumFrameSize : ℕ) (stream : Bytes) :
    Prop
  | frame {rest : Bytes} {frame : GatewayFrame} :
      readFrame decode maximumFrameSize stream = .done frame rest →
      run (byteStep decode) (fresh maximumFrameSize) stream =
        resume ([frame], .ok (fresh maximumFrameSize)) (run (byteStep decode) · rest) →
      Meets decode maximumFrameSize stream
  | refused {e : ProtocolError} : readFrame decode maximumFrameSize stream = .rejected e →
      run (byteStep decode) (fresh maximumFrameSize) stream = ([], .error e) →
      Meets decode maximumFrameSize stream
  | waits {t : FrameDecoder} : readFrame decode maximumFrameSize stream = .starved →
      run (byteStep decode) (fresh maximumFrameSize) stream = ([], .ok t) →
      Meets decode maximumFrameSize stream
  | overlong {e : ProtocolError} {t : FrameDecoder} : stream.length = maxU32VarintBytes →
      (∀ byte ∈ stream, byte &&& 0x80 ≠ 0) →
      readFrame decode maximumFrameSize stream = .rejected e →
      run (byteStep decode) (fresh maximumFrameSize) stream = ([], .ok t) →
      Meets decode maximumFrameSize stream

lemma meets (stream : Bytes) : Meets decode maximumFrameSize stream := by
  cases head_cases stream with
  | @complete init rest last hinit hlast hroom =>
    have hread : readFrame decode maximumFrameSize (init ++ last :: rest) =
        readBody decode maximumFrameSize (init ++ [last]) rest :=
      readFrame_complete hmax hinit hlast hroom
    have hrun : run (byteStep decode) (fresh maximumFrameSize) (init ++ last :: rest) =
        resume (run (byteStep decode) (fresh maximumFrameSize) (init ++ [last]))
          (run (byteStep decode) · rest) := by
      rw [← run_append, List.append_assoc, List.singleton_append]
    rw [run_length hinit hlast hroom] at hrun
    generalize init ++ last :: rest = stream at hread hrun ⊢
    rw [readBody] at hread
    cases hlength : checkLength maximumFrameSize (init ++ [last]) with
    | error e =>
      rw [hlength] at hread hrun
      exact .refused hread hrun
    | ok n =>
      rw [hlength] at hread hrun
      rw [resume_nil] at hrun
      obtain ⟨-, hzero, -⟩ := checkLength_eq_ok.mp hlength
      dsimp only at hread
      split at hread
      next hless =>
        rw [run_short rfl rest (by simpa [fresh] using hless)] at hrun
        exact .waits hread hrun
      next hmore =>
        have htake : (rest.take n).length = n := by
          rw [List.length_take]
          omega
        have hne : rest.take n ≠ [] := by
          intro hnil
          rw [hnil, List.length_nil] at htake
          exact hzero htake.symm
        rw [← List.take_append_drop n rest, run_append,
          run_full rfl hne (by simpa [fresh] using htake), fresh, List.nil_append] at hrun
        cases hdecode : decodeFrameBytes decode (rest.take n) with
        | error e =>
          rw [hdecode] at hread hrun
          exact .refused hread hrun
        | ok frame =>
          rw [hdecode] at hread hrun
          exact .frame hread hrun
  | short hinit hroom =>
    refine .waits (readFrame_short hmax hinit hroom) (run_digits rfl hinit ?_)
    simpa [fresh] using hroom.le
  | @long init rest hinit hfull =>
    have hread : readFrame decode maximumFrameSize (init ++ rest) =
        .rejected .invalidLengthPrefix := readFrame_long hmax hinit hfull
    have hrun : run (byteStep decode) (fresh maximumFrameSize) init =
        ([], .ok { fresh maximumFrameSize with digits := [] ++ init }) :=
      run_digits rfl hinit (by simpa [fresh] using hfull.le)
    cases rest with
    | nil =>
      rw [List.append_nil] at hread ⊢
      exact .overlong hfull hinit hread hrun
    | cons byte rest =>
      refine .refused hread ?_
      rw [run_append, hrun, resume_nil]
      refine run_cons_error (byteStep_digit_error rfl (u := fresh maximumFrameSize) ?_) rest
      rw [pushDigit, if_pos (by simpa using hfull)]
      rfl

lemma readFrame_framed {body : Bytes}
    (hlength : checkLength maximumFrameSize digits = .ok body.length)
    (hdecode : decodeFrameBytes decode body = .ok frame) :
    readFrame decode maximumFrameSize (digits ++ (body ++ rest)) = .done frame rest := by
  obtain ⟨init, last, rfl, hinit, hlast, hroom⟩ := checkLength_split hlength
  have hread : readFrame decode maximumFrameSize (init ++ last :: (body ++ rest)) =
      readBody decode maximumFrameSize (init ++ [last]) (body ++ rest) :=
    readFrame_complete hmax hinit hlast hroom
  rw [List.append_assoc, List.singleton_append, hread, readBody, hlength]
  simp [hdecode]

section

variable (hread : readFrame decode maximumFrameSize stream = .done frame rest)
include hread

lemma framed_of_readFrame :
    ∃ digits body, stream = digits ++ (body ++ rest) ∧
      checkLength maximumFrameSize digits = .ok body.length ∧
      decodeFrameBytes decode body = .ok frame := by
  cases head_cases stream with
  | @complete init later last hinit hlast hroom =>
    rw [readFrame_complete hmax hinit hlast hroom, readBody] at hread
    cases hlength : checkLength maximumFrameSize (init ++ [last]) with
    | error e => simp [hlength] at hread
    | ok n =>
      simp only [hlength] at hread
      split at hread
      next => cases hread
      next hmore =>
        have htake : (later.take n).length = n := by
          rw [List.length_take]
          omega
        cases hdecode : decodeFrameBytes decode (later.take n) with
        | error e => simp [hdecode] at hread
        | ok frame' =>
          simp only [hdecode] at hread
          cases hread
          refine ⟨init ++ [last], later.take n, ?_, by rw [htake, hlength], hdecode⟩
          rw [List.take_append_drop, List.append_assoc, List.singleton_append]
  | short hinit hroom =>
    rw [readFrame_short hmax hinit hroom] at hread
    cases hread
  | long hinit hfull =>
    rw [readFrame_long hmax hinit hfull] at hread
    cases hread

lemma overlong_iff :
    Overlong decode maximumFrameSize stream ↔ Overlong decode maximumFrameSize rest := by
  constructor
  · rintro ⟨frames, tail, rfl, hframes, htail, hdigits⟩
    cases hframes with
    | nil =>
      rw [List.nil_append, ← List.append_nil tail, readFrame_long hmax hdigits htail] at hread
      cases hread
    | cons hlength hdecode hrest =>
      rw [List.append_assoc, List.append_assoc, readFrame_framed hmax hlength hdecode] at hread
      cases hread
      exact ⟨_, tail, rfl, hrest, htail, hdigits⟩
  · rintro ⟨frames, tail, rfl, hframes, htail, hdigits⟩
    obtain ⟨digits, body, rfl, hlength, hdecode⟩ := framed_of_readFrame hmax hread
    refine ⟨digits ++ (body ++ frames), tail, ?_, .cons hlength hdecode hframes, htail, hdigits⟩
    simp only [List.append_assoc]

end

lemma overlong_iff_of_no_frame
    (hread : ∀ frame rest, readFrame decode maximumFrameSize stream ≠ .done frame rest) :
    Overlong decode maximumFrameSize stream ↔
      stream.length = maxU32VarintBytes ∧ ∀ byte ∈ stream, byte &&& 0x80 ≠ 0 := by
  constructor
  · rintro ⟨frames, digits, rfl, hframes, hlength, hdigits⟩
    cases hframes with
    | nil => exact ⟨hlength, hdigits⟩
    | cons hlength' hdecode _ =>
      rw [List.append_assoc, List.append_assoc] at hread
      exact absurd (readFrame_framed hmax hlength' hdecode) (hread _ _)
  · rintro ⟨hlength, hdigits⟩
    exact ⟨[], stream, rfl, .nil, hlength, hdigits⟩

lemma feed_readFrames (stream : Bytes) :
    (readFrames decode maximumFrameSize stream).1 =
        ((fresh maximumFrameSize).feed decode stream).1 ∧
      (AlikeOn decode maximumFrameSize (fresh maximumFrameSize) stream ↔
        ¬ Overlong decode maximumFrameSize stream) := by
  induction hn : stream.length using Nat.strong_induction_on generalizing stream with
  | _ n ih =>
    have hfeed : ∀ stream, (fresh maximumFrameSize).feed decode stream =
        run (byteStep decode) (fresh maximumFrameSize) stream :=
      feed_eq_run (sound_fresh maximumFrameSize)
    have hmeets : Meets decode maximumFrameSize stream := meets hmax stream
    cases hmeets with
    | @frame rest frame hread hrun =>
      obtain ⟨hframes, halike⟩ := ih rest.length (hn ▸ readFrame_lt decode hread) rest rfl
      rw [AlikeOn, hfeed] at halike
      rw [hfeed] at hframes
      rw [overlong_iff hmax hread, AlikeOn, hfeed, hrun, readFrames_done hread]
      exact ⟨congrArg (frame :: ·) hframes, halike⟩
    | refused hread hrun =>
      have hnot : ¬ (stream.length = maxU32VarintBytes ∧ ∀ byte ∈ stream, byte &&& 0x80 ≠ 0) := by
        rintro ⟨hlength, hdigits⟩
        rw [run_digits rfl hdigits (by simpa [fresh] using hlength.le)] at hrun
        cases hrun
      rw [overlong_iff_of_no_frame hmax (by simp [hread]), AlikeOn, hfeed, hrun,
        readFrames_rejected hread]
      exact ⟨rfl, iff_of_true (iff_of_true ⟨_, rfl⟩ ⟨_, rfl⟩) hnot⟩
    | waits hread hrun =>
      have hnot : ¬ (stream.length = maxU32VarintBytes ∧ ∀ byte ∈ stream, byte &&& 0x80 ≠ 0) := by
        rintro ⟨hlength, hdigits⟩
        rw [← List.append_nil stream, readFrame_long hmax hdigits hlength] at hread
        cases hread
      rw [overlong_iff_of_no_frame hmax (by simp [hread]), AlikeOn, hfeed, hrun,
        readFrames_starved hread]
      exact ⟨rfl, iff_of_true (iff_of_false (by simp) (by simp)) hnot⟩
    | overlong hlength hdigits hread hrun =>
      rw [overlong_iff_of_no_frame hmax (by simp [hread]), AlikeOn, hfeed, hrun,
        readFrames_rejected hread]
      exact ⟨rfl, iff_of_false (by simp) (not_not.mpr ⟨hlength, hdigits⟩)⟩

end

theorem decoders_agree_iff {d : FrameDecoder} (h : FrameDecoder.new maximumFrameSize = .ok d)
    (stream : Bytes) : Agrees decode maximumFrameSize d stream ↔
      ∀ seen, seen <+: stream → ¬ Overlong decode maximumFrameSize seen := by
  obtain ⟨hmax, rfl⟩ := new_eq_ok.mp h
  have hmax : validateMaximum maximumFrameSize = .ok () := require_eq_ok.mpr hmax
  constructor
  · rintro ⟨-, hrejects⟩ seen hseen
    exact (feed_readFrames hmax seen).2.mp (hrejects seen hseen)
  · intro hshort
    refine ⟨fun n frame => ?_, fun seen hseen => (feed_readFrames hmax seen).2.mpr (hshort seen hseen)⟩
    rw [(feed_readFrames hmax stream).1]

namespace Sample

def overlong : Bytes := List.replicate 5 0x80

lemma not_overlong_pingBytes {seen : Bytes} (hseen : seen <+: pingBytes) :
    ¬ Overlong decodePing 1024 seen := by
  rintro ⟨frames, digits, rfl, -, hlength, hdigits⟩
  have hsub := ((List.sublist_append_right frames digits).trans hseen.sublist).filter
    (fun byte => byte &&& 0x80 ≠ 0)
  rw [List.filter_eq_self.mpr fun byte hbyte => decide_eq_true (hdigits byte hbyte)] at hsub
  have hfew : (pingBytes.filter fun byte => byte &&& 0x80 ≠ 0).length < maxU32VarintBytes := by
    decide +kernel
  have hle := hsub.length_le
  omega

end Sample

open Sample in
theorem decoders_agree_ping :
    FrameDecoder.new 1024 = .ok (fresh 1024) ∧
      Agrees decodePing 1024 (fresh 1024) pingBytes := by
  have hnew : FrameDecoder.new 1024 = .ok (fresh 1024) := new_eq_ok.mpr ⟨by decide, rfl⟩
  exact ⟨hnew, (decoders_agree_iff hnew _).mpr fun _ => not_overlong_pingBytes⟩

open Sample in
-- `read_frame` refuses the length after its fifth digit, `push` waits for a sixth.
theorem decoders_disagree_overlong :
    readFrame decodePing 1024 overlong = .rejected .invalidLengthPrefix ∧
      push decodePing overlong (fresh 1024) =
        .ok ⟨5, none⟩ { fresh 1024 with digits := overlong } ∧
      ¬ Agrees decodePing 1024 (fresh 1024) overlong := by
  refine ⟨rfl, rfl, fun hagrees => ?_⟩
  refine (feed_readFrames rfl _).2.mp (hagrees.rejects _ List.prefix_rfl) ?_
  exact ⟨[], overlong, rfl, .nil, rfl, by simp [overlong]⟩

end OnionRoute.GatewayProtocol
