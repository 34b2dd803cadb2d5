import RavennaLkm.Dispatch
import RavennaLkm.Lib.StickyFlag
import RavennaLkm.ReceiveSpec
import RavennaLkm.StreamsCalls

/-!
The status of a sink: packets count their errors, the tick turns the counters
into flags, and a reading of the status has the next tick begin anew. All three
run under the lock of the sinks, so that they are the steps of a run; between
two ticks there are fewer of them than a counter can hold.
-/
namespace RavennaLkm
open CheckedLoop StickyFlag

inductive StatusEvent where
  | seqId | ssrc | payloadType | sac | received
  deriving DecidableEq, Repr

namespace StatusEvent

def counter : StatusEvent → RTPAudioStream → UInt32
  | seqId, s => s.wrongRTPSeqIdCounter
  | ssrc, s => s.wrongRTPSSRCCounter
  | payloadType, s => s.wrongRTPPayloadTypeCounter
  | sac, s => s.wrongRTPSACCounter
  | received, s => s.rtpPacketCounter

def lastCounter : StatusEvent → RTPAudioStream → UInt32
  | seqId, s => s.wrongRTPSeqIdLastCounter
  | ssrc, s => s.wrongRTPSSRCLastCounter
  | payloadType, s => s.wrongRTPPayloadTypeLastCounter
  | sac, s => s.wrongRTPSACLastCounter
  | received, s => s.rtpPacketLastCounter

def flag : StatusEvent → RTPStreamStatus → Bool
  | seqId, status => status.sinkRTPSeqIdError
  | ssrc, status => status.sinkRTPSSRCError
  | payloadType, status => status.sinkRTPPayloadTypeError
  | sac, status => status.sinkRTPSACError
  | received, status => status.sinkReceivingRTPPacket

def plain (h : RTPHeader) : Bool := !rtpIsPadding h.version && rtpGetVersion h.version == 2

/-- Whether the event occurs when `s` is given this packet: a packet of another version is only
received, and the later checks are made on packets that pass the earlier ones. -/
def occurs (e : StatusEvent) (s : RTPAudioStream) (frame : RTPFrame) : Bool :=
  let h := frame.packetBase.rtpHeader
  let info := s.rtpStreamInfo
  let typed := plain h && h.payloadType == info.payloadType
  let accepted := typed && (!info.ssrcInitialized || info.ssrc == mtalSwap32 h.ssrc)
  match e with
  | received => true
  | payloadType => plain h && h.payloadType != info.payloadType
  | ssrc => typed && info.ssrcInitialized && info.ssrc != mtalSwap32 h.ssrc
  | seqId => accepted && s.incomingSeqNum + 1 != mtalSwap16 h.seqNum
  | sac => accepted && claimedSamples s frame != 0 &&
      mtalSwap32 h.timestamp - info.rtpTimestampOffset != s.lastRTPSAC + s.lastRTPLengthInSamples

def latch (e : StatusEvent) (s : RTPAudioStream) : Latch 32 where
  counter := (e.counter s).toBitVec
  lastCounter := (e.lastCounter s).toBitVec
  readings := s.streamStatusResetCounter.toBitVec
  lastReadings := s.streamStatusLastResetCounter.toBitVec
  flag := e.flag s.streamStatus

def happening (occurs : Bool) : Happening := if occurs then .event else .quiet

variable {s t : RTPAudioStream} {partner : Option RTPStream} {ops : RTPAudioStreamOps} {frame : RTPFrame}
  {mem mem' : RingMemory} {used : Bool} {e : StatusEvent}

theorem checkRTPHeader_cases (s : RTPAudioStream) (h : RTPHeader) :
    plain h = false ∧
        checkRTPHeader s h = ({ s with rtpPacketCounter := s.rtpPacketCounter + 1 }, false) ∨
      plain h = true ∧ h.payloadType ≠ s.rtpStreamInfo.payloadType ∧
        checkRTPHeader s h = ({ s with
          rtpPacketCounter := s.rtpPacketCounter + 1
          wrongRTPPayloadTypeCounter := s.wrongRTPPayloadTypeCounter + 1 }, false) ∨
      plain h = true ∧ h.payloadType = s.rtpStreamInfo.payloadType ∧ s.rtpStreamInfo.ssrcInitialized = false ∧
        checkRTPHeader s h = ({ s with
          rtpPacketCounter := s.rtpPacketCounter + 1
          rtpStreamInfo := setSSRC s.rtpStreamInfo (mtalSwap32 h.ssrc) }, true) ∨
      plain h = true ∧ h.payloadType = s.rtpStreamInfo.payloadType ∧ s.rtpStreamInfo.ssrcInitialized = true ∧
        s.rtpStreamInfo.ssrc ≠ mtalSwap32 h.ssrc ∧ (∃ messages,
          checkRTPHeader s h = ({ s with
            rtpPacketCounter := s.rtpPacketCounter + 1
            wrongRTPSSRCCounter := s.wrongRTPSSRCCounter + 1
            wrongSSRCMessageCounter := messages }, false)) ∨
      plain h = true ∧ h.payloadType = s.rtpStreamInfo.payloadType ∧ s.rtpStreamInfo.ssrcInitialized = true ∧
        s.rtpStreamInfo.ssrc = mtalSwap32 h.ssrc ∧
        checkRTPHeader s h = ({ s with rtpPacketCounter := s.rtpPacketCounter + 1 }, true) := by
  unfold checkRTPHeader
  simp only
  cases padding : rtpIsPadding h.version with
  | true => exact .inl ⟨by rw [plain, padding]; rfl, if_pos rfl⟩
  | false =>
    rw [if_neg Bool.false_ne_true]
    by_cases version : rtpGetVersion h.version = 2
    · have isPlain : plain h = true := by
        rw [plain, padding, version]
        rfl
      rw [if_neg (not_not.mpr version)]
      right
      by_cases typed : h.payloadType = s.rtpStreamInfo.payloadType
      · rw [if_neg (not_not.mpr typed)]
        right
        cases known : s.rtpStreamInfo.ssrcInitialized with
        | false => exact .inl ⟨isPlain, typed, rfl, rfl⟩
        | true =>
          right
          by_cases expected : s.rtpStreamInfo.ssrc = mtalSwap32 h.ssrc
          · exact .inr ⟨isPlain, typed, rfl, expected, if_neg (not_not.mpr expected)⟩
          · exact .inl ⟨isPlain, typed, rfl, expected, _, if_pos expected⟩
      · exact .inl ⟨isPlain, typed, if_pos typed⟩
    · left
      rw [if_pos version]
      refine ⟨?_, rfl⟩
      rw [plain, padding]
      exact beq_false_of_ne version

theorem checkRTPHeader_accepts (s : RTPAudioStream) (h : RTPHeader) :
    (checkRTPHeader s h).2 = (plain h && h.payloadType == s.rtpStreamInfo.payloadType &&
      (!s.rtpStreamInfo.ssrcInitialized || s.rtpStreamInfo.ssrc == mtalSwap32 h.ssrc)) := by
  obtain ⟨other, did⟩ | ⟨isPlain, typed, did⟩ | ⟨isPlain, typed, known, did⟩ |
    ⟨isPlain, typed, known, wrong, _, did⟩ | ⟨isPlain, typed, known, right, did⟩ := checkRTPHeader_cases s h
  · rw [did, other]
    rfl
  · rw [did, isPlain, beq_false_of_ne typed]
    rfl
  · rw [did, isPlain, typed, known, beq_self_eq_true]
    rfl
  · rw [did, isPlain, typed, known, beq_false_of_ne wrong, beq_self_eq_true]
    rfl
  · rw [did, isPlain, typed, known, right, beq_self_eq_true, beq_self_eq_true]
    rfl

def inHeader : StatusEvent → Bool
  | received | payloadType | ssrc => true
  | seqId | sac => false

theorem checkRTPHeader_latch (e : StatusEvent) (s : RTPAudioStream) (frame : RTPFrame) :
    latch e (checkRTPHeader s frame.packetBase.rtpHeader).1 =
      (latch e s).step (happening (e.inHeader && e.occurs s frame)) := by
  obtain ⟨other, did⟩ | ⟨isPlain, typed, did⟩ | ⟨isPlain, typed, known, did⟩ |
    ⟨isPlain, typed, known, wrong, _, did⟩ | ⟨isPlain, typed, known, right, did⟩ :=
      checkRTPHeader_cases s frame.packetBase.rtpHeader
  · rw [did]
    cases e
    all_goals simp only [occurs, inHeader, other, Bool.false_and, Bool.and_false, Bool.true_and]
    all_goals rfl
  · rw [did]
    cases e
    all_goals simp only [occurs, inHeader, isPlain, bne, beq_false_of_ne typed, Bool.false_and,
      Bool.and_false, Bool.true_and, Bool.not_false]
    all_goals rfl
  · rw [did]
    cases e
    all_goals simp only [occurs, inHeader, isPlain, typed, known, bne, beq_self_eq_true, Bool.false_and,
      Bool.and_false, Bool.true_and, Bool.not_true]
    all_goals rfl
  · rw [did]
    cases e
    all_goals simp only [occurs, inHeader, isPlain, typed, known, bne, beq_false_of_ne wrong, beq_self_eq_true,
      Bool.false_and, Bool.and_false, Bool.true_and, Bool.not_true, Bool.not_false]
    all_goals rfl
  · rw [did]
    cases e
    all_goals simp only [occurs, inHeader, isPlain, typed, known, right, bne, beq_self_eq_true, Bool.false_and,
      Bool.and_false, Bool.true_and, Bool.not_true]
    all_goals rfl

theorem checkSeqNum_latch (e : StatusEvent) (s : RTPAudioStream) (seqNum : UInt16) :
    latch e (checkSeqNum s seqNum) =
      (latch e s).step (happening (e == .seqId && s.incomingSeqNum + 1 != seqNum)) := by
  cases e with
  | seqId =>
    by_cases follows : s.incomingSeqNum + 1 = seqNum
    · simp [checkSeqNum, latch, happening, Latch.step, counter, lastCounter, flag, follows]
    · simp [checkSeqNum, latch, happening, Latch.step, counter, lastCounter, flag, follows]
  | ssrc | payloadType | sac | received => rfl

theorem checkTimestamp_latch (e : StatusEvent) (s : RTPAudioStream) (timestamp n : UInt32) :
    latch e (checkTimestamp s timestamp n) = (latch e s).step
      (happening (e == .sac && timestamp != s.lastRTPSAC + s.lastRTPLengthInSamples)) := by
  cases e with
  | sac =>
    by_cases follows : timestamp = s.lastRTPSAC + s.lastRTPLengthInSamples
    · simp [checkTimestamp, latch, happening, Latch.step, counter, lastCounter, flag, follows]
    · simp [checkTimestamp, latch, happening, Latch.step, counter, lastCounter, flag, follows]
  | seqId | ssrc | payloadType | received => rfl

theorem updateSinkAheadTime_latch {sac : UInt64} (e : StatusEvent) (done : updateSinkAheadTime s ops sac = .ok t) :
    latch e t = latch e s := by
  have changed : ∃ last least, t = { s with lastSinkAheadTimeResetCounter := last, minSinkAheadTime := least } := by
    obtain ⟨inFrame, -, rest⟩ := bind_eq_ok.mp done
    simp only at rest
    split_ifs at rest
    all_goals
      cases rest
      exact ⟨_, _, rfl⟩
  obtain ⟨last, least, rfl⟩ := changed
  cases e
  all_goals rfl

theorem checkRTPHeader_kept (s : RTPAudioStream) (h : RTPHeader) :
    (checkRTPHeader s h).1.incomingSeqNum = s.incomingSeqNum ∧
      (checkRTPHeader s h).1.lastRTPSAC = s.lastRTPSAC ∧
      (checkRTPHeader s h).1.lastRTPLengthInSamples = s.lastRTPLengthInSamples ∧
      (checkRTPHeader s h).1.rtpStreamInfo.rtpTimestampOffset = s.rtpStreamInfo.rtpTimestampOffset := by
  obtain ⟨-, did⟩ | ⟨-, -, did⟩ | ⟨-, -, -, did⟩ | ⟨-, -, -, -, _, did⟩ | ⟨-, -, -, -, did⟩ :=
    checkRTPHeader_cases s h
  all_goals
    rw [did]
    exact ⟨rfl, rfl, rfl, rfl⟩

theorem nbOfSamplesInPacket_claimed {skip n : UInt32} (skipped : csrcExtensionLength frame = .ok skip)
    (counted : nbOfSamplesInPacket s (payloadLength frame skip) = .ok n) : n = claimedSamples s frame := by
  rw [csrcExtensionLength_eq] at skipped
  split at skipped
  · cases skipped
    unfold nbOfSamplesInPacket at counted
    simp only at counted
    split at counted
    · cases counted
    · cases counted
      rfl
  · cases skipped

theorem receiveAudio_latch {payload : Nat} {n : UInt32} (e : StatusEvent)
    (done : receiveAudio s partner ops frame payload n mem = .ok (t, mem')) :
    latch e t = (latch e s).step (happening (e == .sac &&
      mtalSwap32 frame.packetBase.rtpHeader.timestamp - s.rtpStreamInfo.rtpTimestampOffset !=
        s.lastRTPSAC + s.lastRTPLengthInSamples)) := by
  obtain ⟨copied, -, rest⟩ := bind_eq_ok.mp done
  obtain ⟨ahead, updated, last⟩ := bind_eq_ok.mp rest
  cases last
  rw [← checkTimestamp_latch e s _ n, ← updateSinkAheadTime_latch e updated]
  cases e
  all_goals rfl

theorem occurs_seqId (s : RTPAudioStream) (frame : RTPFrame) : seqId.occurs s frame =
    ((checkRTPHeader s frame.packetBase.rtpHeader).2 &&
      s.incomingSeqNum + 1 != mtalSwap16 frame.packetBase.rtpHeader.seqNum) := by
  rw [checkRTPHeader_accepts]
  rfl

theorem occurs_sac (s : RTPAudioStream) (frame : RTPFrame) : sac.occurs s frame =
    ((checkRTPHeader s frame.packetBase.rtpHeader).2 && claimedSamples s frame != 0 &&
      mtalSwap32 frame.packetBase.rtpHeader.timestamp - s.rtpStreamInfo.rtpTimestampOffset !=
        s.lastRTPSAC + s.lastRTPLengthInSamples) := by
  rw [checkRTPHeader_accepts]
  rfl

theorem processRTPAudioPacket_latch (e : StatusEvent)
    (done : processRTPAudioPacket s partner ops frame mem = .ok (t, mem', used)) :
    latch e t = (latch e s).step (happening (e.occurs s frame)) := by
  have header := checkRTPHeader_latch e s frame
  obtain ⟨seqNum, lastSAC, lastLength, offset⟩ := checkRTPHeader_kept s frame.packetBase.rtpHeader
  have samples := (checkRTPHeader_same s frame.packetBase.rtpHeader).claimedSamples frame
  unfold processRTPAudioPacket at done
  simp only at done
  split at done
  · rename_i accepted
    obtain ⟨skip, skipped, rest⟩ := bind_eq_ok.mp done
    obtain ⟨n, counted, rest⟩ := bind_eq_ok.mp rest
    have number := nbOfSamplesInPacket_claimed skipped counted
    rw [(checkSeqNum_same _ _).claimedSamples, samples] at number
    have checked := checkSeqNum_latch e (checkRTPHeader s frame.packetBase.rtpHeader).1
      (mtalSwap16 frame.packetBase.rtpHeader.seqNum)
    rw [header, seqNum] at checked
    split at rest
    · rename_i none
      cases rest
      rw [checked]
      cases e with
      | seqId =>
        rw [occurs_seqId, accepted]
        rfl
      | sac =>
        rw [occurs_sac, accepted, ← number, none]
        rfl
      | received | ssrc | payloadType => rfl
    · rename_i some
      obtain ⟨⟨t', mem''⟩, received, last⟩ := bind_eq_ok.mp rest
      cases last
      rw [receiveAudio_latch e received, checked]
      cases e with
      | seqId =>
        rw [occurs_seqId, accepted]
        rfl
      | sac =>
        have someSamples : (claimedSamples s frame != 0) = true := by
          rw [← number]
          exact bne_iff_ne.mpr some
        rw [occurs_sac, accepted, someSamples, ← lastSAC, ← lastLength, ← offset]
        rfl
      | received | ssrc | payloadType => rfl
  · rename_i refused
    cases done
    rw [header]
    cases e with
    | seqId =>
      rw [occurs_seqId, Bool.eq_false_of_not_eq_true refused]
      rfl
    | sac =>
      rw [occurs_sac, Bool.eq_false_of_not_eq_true refused]
      rfl
    | received | ssrc | payloadType => rfl

theorem muteFrame_latch (e : StatusEvent) (done : muteFrame s ops mem = .ok (t, mem')) : latch e t = latch e s := by
  unfold muteFrame at done
  split at done
  · obtain ⟨offset, -, rest⟩ := bind_eq_ok.mp done
    split_ifs at rest
    · cases rest
      cases e
      all_goals rfl
    · cases rest
      rfl
  · cases done
    rfl

theorem updateStreamStatus_latch (e : StatusEvent) (s : RTPAudioStream) (livesInMuted globalMuted : Bool) :
    latch e (updateStreamStatus s livesInMuted globalMuted) = (latch e s).tick := by
  have old : e.flag (if s.streamStatusResetCounter ≠ s.streamStatusLastResetCounter then {} else s.streamStatus) =
      if s.streamStatusResetCounter.toBitVec ≠ s.streamStatusLastResetCounter.toBitVec then false
      else e.flag s.streamStatus := by
    by_cases unread : s.streamStatusResetCounter = s.streamStatusLastResetCounter
    · rw [if_neg (not_not.mpr unread), if_neg (not_not.mpr (congrArg UInt32.toBitVec unread))]
    · rw [if_pos unread, if_pos (mt UInt32.toBitVec_inj.mp unread)]
      cases e
      all_goals rfl
  have moved : decide (e.counter s ≠ e.lastCounter s) =
      decide ((e.counter s).toBitVec ≠ (e.lastCounter s).toBitVec) :=
    decide_eq_decide.mpr (not_congr UInt32.toBitVec_inj.symm)
  have raised : e.flag (updateStreamStatus s livesInMuted globalMuted).streamStatus = (latch e s).tick.flag := by
    unfold Latch.tick latch
    dsimp only
    rw [← old, ← moved]
    cases e
    all_goals rfl
  have others : latch e (updateStreamStatus s livesInMuted globalMuted) = { (latch e s).tick with
      flag := e.flag (updateStreamStatus s livesInMuted globalMuted).streamStatus } := by
    cases e
    all_goals rfl
  rw [others, raised]

theorem prepareBufferLives_latch (e : StatusEvent) (sink : s.rtpStreamInfo.source = false)
    (done : prepareBufferLives s partner ops mem = .ok (t, mem')) : latch e t = (latch e s).tick := by
  unfold prepareBufferLives at done
  rw [sink, if_neg Bool.false_ne_true] at done
  simp only at done
  split at done
  · obtain ⟨⟨u, mem''⟩, muted, last⟩ := bind_eq_ok.mp done
    cases last
    rw [updateStreamStatus_latch, muteFrame_latch e muted]
  · cases done
    rw [updateStreamStatus_latch]
    cases e
    all_goals rfl

theorem getRTPStreamStatus_latch (e : StatusEvent) (sink : s.rtpStreamInfo.source = false) :
    latch e (getRTPStreamStatus s).1 = (latch e s).step .read := by
  unfold getRTPStreamStatus
  rw [sink, if_neg Bool.false_ne_true]
  cases e
  all_goals rfl

end StatusEvent

open RTPStreamsManager (monoSink oneLiveInOps announcedFrame)

def newMonoSink : RTPAudioStream := (create {} (monoSink 0) oneLiveInOps {} fun _ => {}).1

def monoFrame (seqNum timestamp : Nat) : RTPFrame where
  bytes := announcedFrame 1 seqNum timestamp [1, 2, 3]
  headers := by simp [announcedFrame, sizeofRTPPacketBase]

/-- What reaches a sink; the rings and the clock are as they are at the time. -/
inductive SinkOp where
  | packet (partner : Option RTPStream) (ops : RTPAudioStreamOps) (frame : RTPFrame) (mem : RingMemory)
  | tick (partner : Option RTPStream) (ops : RTPAudioStreamOps) (mem : RingMemory)
  | read

namespace SinkOp

open StatusEvent

def step (s : RTPAudioStream) : SinkOp → Except Fault RTPAudioStream
  | packet partner ops frame mem => (·.1) <$> processRTPAudioPacket s partner ops frame mem
  | tick partner ops mem => (·.1) <$> prepareBufferLives s partner ops mem
  | read => .ok (getRTPStreamStatus s).1

def happening (e : StatusEvent) (s : RTPAudioStream) : SinkOp → Happening
  | packet _ _ frame _ => StatusEvent.happening (e.occurs s frame)
  | tick _ _ _ => .tick
  | read => .read

def happenings (e : StatusEvent) : RTPAudioStream → List SinkOp → List Happening
  | _, [] => []
  | s, op :: rest => op.happening e s :: match op.step s with
    | .ok t => happenings e t rest
    | .error _ => []

variable {op : SinkOp} {run : List SinkOp}

theorem step_same (sink : s.rtpStreamInfo.source = false) (done : op.step s = .ok t) : SameStream s t := by
  cases op with
  | packet partner ops frame mem =>
    obtain ⟨⟨t', mem', used⟩, processed, last⟩ := map_eq_ok.mp done
    cases last
    exact processRTPAudioPacket_same processed
  | tick partner ops mem =>
    obtain ⟨⟨t', mem'⟩, prepared, last⟩ := map_eq_ok.mp done
    cases last
    exact prepareBufferLives_same prepared
  | read =>
    cases done
    unfold getRTPStreamStatus
    rw [sink, if_neg Bool.false_ne_true]
    exact ⟨⟨_, _, rfl⟩, rfl, rfl, rfl, rfl, rfl, rfl, rfl⟩

theorem step_sink (sink : s.rtpStreamInfo.source = false) (done : op.step s = .ok t) :
    t.rtpStreamInfo.source = false := by
  obtain ⟨_, _, info⟩ := (step_same sink done).info
  rw [info]
  exact sink

theorem step_latch (e : StatusEvent) (sink : s.rtpStreamInfo.source = false) (done : op.step s = .ok t) :
    latch e t = (latch e s).step (op.happening e s) := by
  cases op with
  | packet partner ops frame mem =>
    obtain ⟨⟨t', mem', used⟩, processed, last⟩ := map_eq_ok.mp done
    cases last
    exact processRTPAudioPacket_latch e processed
  | tick partner ops mem =>
    obtain ⟨⟨t', mem'⟩, prepared, last⟩ := map_eq_ok.mp done
    cases last
    exact prepareBufferLives_latch e sink prepared
  | read =>
    cases done
    exact getRTPStreamStatus_latch e sink

theorem run_latch (e : StatusEvent) (sink : s.rtpStreamInfo.source = false) (done : run.foldlM step s = .ok t) :
    latch e t = (happenings e s run).foldl Latch.step (latch e s) ∧ (happenings e s run).length = run.length ∧
      t.rtpStreamInfo.source = false := by
  induction run generalizing s with
  | nil =>
    cases done
    exact ⟨rfl, rfl, sink⟩
  | cons op rest ih =>
    rw [List.foldlM_cons] at done
    obtain ⟨u, first, others⟩ := bind_eq_ok.mp done
    obtain ⟨same, length, kept⟩ := ih (step_sink sink first) others
    rw [happenings, first]
    refine ⟨?_, congrArg (· + 1) length, kept⟩
    rw [List.foldl_cons, ← step_latch e sink first]
    exact same

def IsTick : SinkOp → Prop
  | tick _ _ _ => True
  | packet _ _ _ _ | read => False

def IsRead : SinkOp → Prop
  | read => True
  | packet _ _ _ _ | tick _ _ _ => False

theorem happening_packet (occurs : Bool) :
    StatusEvent.happening occurs ≠ .tick ∧ StatusEvent.happening occurs ≠ .read := by
  cases occurs
  all_goals decide

theorem happening_tick {e : StatusEvent} : op.happening e s = .tick ↔ op.IsTick := by
  cases op with
  | packet partner ops frame mem => exact iff_of_false (happening_packet _).1 id
  | tick partner ops mem => exact iff_of_true rfl trivial
  | read => exact iff_of_false (fun same => nomatch same) id

theorem happening_read {e : StatusEvent} : op.happening e s = .read ↔ op.IsRead := by
  cases op with
  | packet partner ops frame mem => exact iff_of_false (happening_packet _).2 id
  | tick partner ops mem => exact iff_of_false (fun same => nomatch same) id
  | read => exact iff_of_true rfl trivial

/-- A kind of happening in a run that completes is that of one of its operations. -/
theorem mem_happenings {e : StatusEvent} {kind : Happening} {is : SinkOp → Prop}
    (same : ∀ s op, happening e s op = kind ↔ is op) (done : run.foldlM step s = .ok t) :
    kind ∈ happenings e s run ↔ ∃ op ∈ run, is op := by
  induction run generalizing s with
  | nil => simp [happenings]
  | cons op rest ih =>
    rw [List.foldlM_cons] at done
    obtain ⟨u, first, others⟩ := bind_eq_ok.mp done
    rw [happenings, first]
    simp only [List.mem_cons, ih others, exists_eq_or_imp, ← same s op]
    rw [eq_comm]

/-- Nothing has been counted since the last tick. -/
structure Settled (s : RTPAudioStream) : Prop where
  counters : ∀ e, StatusEvent.counter e s = StatusEvent.lastCounter e s
  readings : s.streamStatusResetCounter = s.streamStatusLastResetCounter

theorem Settled.latch (settled : Settled s) (e : StatusEvent) : (StatusEvent.latch e s).Settled where
  counter := congrArg UInt32.toBitVec (settled.counters e)
  readings := congrArg UInt32.toBitVec settled.readings

theorem settled_of_tick (isTick : op.IsTick) (sink : s.rtpStreamInfo.source = false) (done : op.step s = .ok t) :
    Settled t := by
  have ticked : ∀ e, StatusEvent.latch e t = (StatusEvent.latch e s).tick := by
    intro e
    rw [step_latch e sink done, happening_tick.mpr isTick]
    rfl
  constructor
  · intro e
    apply UInt32.toBitVec_inj.mp
    have counters := congrArg (fun l => (l.counter, l.lastCounter)) (ticked e)
    exact (Prod.mk.inj counters).1.trans (Prod.mk.inj counters).2.symm
  · apply UInt32.toBitVec_inj.mp
    have readings := congrArg (fun l => (l.readings, l.lastReadings)) (ticked .received)
    exact (Prod.mk.inj readings).1.trans (Prod.mk.inj readings).2.symm

/-- What occurs before the next tick is shown by the first reading after it. -/
def ShowsEvents (s : RTPAudioStream) : Prop :=
  ∀ (e : StatusEvent) (run later : List SinkOp) (tick : SinkOp) (s₁ s₂ s₃ : RTPAudioStream),
    run.foldlM step s = .ok s₁ → (∀ op ∈ run, ¬ op.IsTick) → run.length < 2 ^ 32 →
    .event ∈ happenings e s run → tick.IsTick → tick.step s₁ = .ok s₂ → later.foldlM step s₂ = .ok s₃ →
    (∀ op ∈ later, ¬ op.IsRead) → ∃ status, (getRTPStreamStatus s₃).2 = some status ∧ e.flag status = true

/-- If there is a reading before the next tick, that tick leaves the flags of what has occurred. -/
def ClearsOthers (s : RTPAudioStream) : Prop :=
  ∀ (e : StatusEvent) (run : List SinkOp) (tick : SinkOp) (s₁ s₂ : RTPAudioStream),
    run.foldlM step s = .ok s₁ → (∀ op ∈ run, ¬ op.IsTick) → run.length < 2 ^ 32 →
    (∃ op ∈ run, op.IsRead) → tick.IsTick → tick.step s₁ = .ok s₂ →
    (e.flag s₂.streamStatus = true ↔ .event ∈ happenings e s run)

theorem showsEvents_of_settled (sink : s.rtpStreamInfo.source = false) (settled : Settled s) : ShowsEvents s := by
  intro e run later tick s₁ s₂ s₃ ran noTick few occurred isTick ticked after noRead
  obtain ⟨latch₁, length, sink₁⟩ := run_latch e sink ran
  have latch₂ := step_latch e sink₁ ticked
  rw [happening_tick.mpr isTick] at latch₂
  obtain ⟨latch₃, -, sink₃⟩ := run_latch e (step_sink sink₁ ticked) after
  have quiet : .tick ∉ happenings e s run := by
    rw [mem_happenings (fun _ _ => happening_tick) ran]
    rintro ⟨op, found, isTick⟩
    exact noTick op found isTick
  have unread : .read ∉ happenings e s₂ later := by
    rw [mem_happenings (fun _ _ => happening_read) after]
    rintro ⟨op, found, isRead⟩
    exact noRead op found isRead
  have shown := Latch.event_shown (settled.latch e) quiet (by omega) occurred unread
  refine ⟨s₃.streamStatus, ?_, ?_⟩
  · unfold getRTPStreamStatus
    rw [sink₃, if_neg Bool.false_ne_true]
  · rw [← latch₁] at shown
    rw [latch₂] at latch₃
    exact (congrArg Latch.flag latch₃).trans shown

theorem clearsOthers_of_settled (sink : s.rtpStreamInfo.source = false) (settled : Settled s) : ClearsOthers s := by
  intro e run tick s₁ s₂ ran noTick few wasRead isTick ticked
  obtain ⟨latch₁, length, sink₁⟩ := run_latch e sink ran
  have latch₂ := step_latch e sink₁ ticked
  rw [happening_tick.mpr isTick, latch₁] at latch₂
  have quiet : .tick ∉ happenings e s run := by
    rw [mem_happenings (fun _ _ => happening_tick) ran]
    rintro ⟨op, found, isTick⟩
    exact noTick op found isTick
  have read := (mem_happenings (e := e) (fun _ _ => happening_read) ran).mpr wasRead
  have flags := Latch.flag_after_reading (settled.latch e) quiet (by omega) read
  rw [← flags]
  exact iff_of_eq (congrArg (· = true) (congrArg Latch.flag latch₂))

/-- From a fresh sink or from any tick on, every event until the next tick is shown, and after a
reading nothing else is. -/
theorem no_status_event_lost {fresh : RTPAudioStream} {history : List SinkOp}
    (sink : fresh.rtpStreamInfo.source = false) (settled : Settled fresh)
    (reached : history.foldlM step fresh = .ok s) (ticked : ∀ op, history.getLast? = some op → op.IsTick) :
    ShowsEvents s ∧ ClearsOthers s := by
  have now : s.rtpStreamInfo.source = false ∧ Settled s := by
    cases history using List.reverseRecOn with
    | nil =>
      cases reached
      exact ⟨sink, settled⟩
    | append_singleton before last =>
      rw [List.foldlM_append] at reached
      obtain ⟨u, ran, final⟩ := bind_eq_ok.mp reached
      obtain ⟨t, done, same⟩ := bind_eq_ok.mp final
      cases same
      have stillSink := (run_latch .received sink ran).2.2
      exact ⟨step_sink stillSink done, settled_of_tick (ticked last (by simp)) stillSink done⟩
  exact ⟨showsEvents_of_settled now.1 now.2, clearsOthers_of_settled now.1 now.2⟩

/-- Two packets of a stream that begins with the sequence number 7 at the time 4800, each before a tick, and a
reading between them. -/
def readBetween : List SinkOp :=
  [.packet none oneLiveInOps (monoFrame 7 4800) fun _ => {}, .tick none oneLiveInOps fun _ => {}, .read,
    .packet none oneLiveInOps (monoFrame 8 4801) fun _ => {}, .tick none oneLiveInOps fun _ => {}]

theorem no_status_event_lost_after_tick : ∃ s, readBetween.foldlM step newMonoSink = .ok s ∧
    s.streamStatus.sinkReceivingRTPPacket = true ∧ s.streamStatus.sinkRTPSeqIdError = false ∧
    ShowsEvents s ∧ ClearsOthers s := by
  have settled : Settled newMonoSink := by
    constructor
    · intro e
      cases e
      all_goals rfl
    · rfl
  have computed : (fun s => (s.streamStatus.sinkReceivingRTPPacket, s.streamStatus.sinkRTPSeqIdError)) <$>
      readBetween.foldlM step newMonoSink = .ok (true, false) := by decide +kernel
  obtain ⟨s, reached, flags⟩ := map_eq_ok.mp computed
  obtain ⟨receiving, inOrder⟩ := Prod.mk.inj flags
  refine ⟨s, reached, receiving, inOrder, ?_⟩
  exact no_status_event_lost rfl settled reached (by simp [readBetween, IsTick])

end SinkOp

end RavennaLkm
