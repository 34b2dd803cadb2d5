import Mathlib.Data.List.Chain
import RavennaLkm.SlotReuse
import RavennaLkm.StatusEvents

/-!
Whether a sink reports errors of a stream that has none. The sequence number and
the timestamp that it expects go from packet to packet; those of the first one
are what the slot holds, which `rtp_stream_init` leaves as it finds it.
-/
namespace RavennaLkm
open CheckedLoop StickyFlag RTPStreamsManager

namespace RTPFrame

def seqNum (frame : RTPFrame) : UInt16 := mtalSwap16 frame.packetBase.rtpHeader.seqNum
def timestamp (frame : RTPFrame) : UInt32 := mtalSwap32 frame.packetBase.rtpHeader.timestamp

end RTPFrame

structure Belongs (s : RTPAudioStream) (ssrc : UInt32) (frame : RTPFrame) : Prop where
  ofSequence : OfSequence ssrc s frame.packetBase.rtpHeader
  countable : Countable s frame
  audio : claimedSamples s frame ≠ 0

structure NextPacket (s : RTPAudioStream) (first second : RTPFrame) : Prop where
  seqNum : second.seqNum = first.seqNum + 1
  timestamp : second.timestamp = first.timestamp + claimedSamples s first

/-- The stream of one sender, in order and without loss; a sink that knows no SSRC takes any. -/
structure InOrder (s : RTPAudioStream) (frames : List RTPFrame) : Prop where
  oneSSRC : ∃ ssrc, Follows ssrc s ∧ ∀ frame ∈ frames, Belongs s ssrc frame
  contiguous : frames.IsChain (NextPacket s)

def ReportsNeither (status : RTPStreamStatus) : Prop :=
  status.sinkRTPSeqIdError = false ∧ status.sinkRTPSACError = false

namespace SinkOp

def packets (run : List SinkOp) : List RTPFrame :=
  run.filterMap fun
    | packet _ _ frame _ => some frame
    | tick _ _ _ | read => none

/-- Whatever happens while the stream arrives, no reading shows one of the errors. -/
def NeverAlarms (s : RTPAudioStream) (frames : List RTPFrame) : Prop :=
  ∀ run t status, packets run <+: frames → run.foldlM step s = .ok t →
    (getRTPStreamStatus t).2 = some status → ReportsNeither status

end SinkOp

def Silent (e : StatusEvent) (s : RTPAudioStream) : Prop :=
  StatusEvent.counter e s = StatusEvent.lastCounter e s ∧ StatusEvent.flag e s.streamStatus = false

/-- What the slot is to hold for a stream `info` that begins with the first of the frames. -/
structure Awaits (slot : RTPAudioStream) (info : RTPStreamInfo) (frames : List RTPFrame) : Prop where
  seqIdSilent : Silent .seqId slot
  sacSilent : Silent .sac slot
  seqNum : ∀ first, frames.head? = some first → first.seqNum = slot.incomingSeqNum + 1
  timestamp : ∀ first, frames.head? = some first →
    first.timestamp - info.rtpTimestampOffset = slot.lastRTPSAC + slot.lastRTPLengthInSamples

variable {s t : RTPAudioStream} {partner : Option RTPStream} {ops : RTPAudioStreamOps} {frame : RTPFrame}
  {mem mem' : RingMemory} {used : Bool} {frames rest : List RTPFrame} {ssrc : UInt32}

def expects (s : RTPStream) : UInt16 × UInt32 := (s.incomingSeqNum + 1, s.lastRTPSAC + s.lastRTPLengthInSamples)

theorem receiveAudio_expects {payload : Nat} {n : UInt32}
    (done : receiveAudio s partner ops frame payload n mem = .ok (t, mem')) :
    expects t.toRTPStream = (s.incomingSeqNum + 1, frame.timestamp - s.rtpStreamInfo.rtpTimestampOffset + n) := by
  obtain ⟨copied, -, rest⟩ := bind_eq_ok.mp done
  obtain ⟨ahead, updated, last⟩ := bind_eq_ok.mp rest
  cases last
  have kept (sac : UInt64) : expects { ahead with lastAudioSampleReceivedSAC := sac }.toRTPStream =
      expects ahead.toRTPStream := rfl
  rw [kept, updateSinkAheadTime_stream updated]
  rfl

theorem processRTPAudioPacket_expects (belongs : Belongs s ssrc frame) (follows : Follows ssrc s)
    (done : processRTPAudioPacket s partner ops frame mem = .ok (t, mem', used)) :
    expects t.toRTPStream =
      (frame.seqNum + 1, frame.timestamp - s.rtpStreamInfo.rtpTimestampOffset + claimedSamples s frame) := by
  have accepts := (checkRTPHeader_of_sequence belongs.ofSequence follows).1
  have offset := (StatusEvent.checkRTPHeader_kept s frame.packetBase.rtpHeader).2.2.2
  have samples := (checkRTPHeader_same s frame.packetBase.rtpHeader).claimedSamples frame
  unfold processRTPAudioPacket at done
  simp only [if_pos accepts] at done
  obtain ⟨skip, skipped, rest⟩ := bind_eq_ok.mp done
  obtain ⟨n, counted, rest⟩ := bind_eq_ok.mp rest
  have number := StatusEvent.nbOfSamplesInPacket_claimed skipped counted
  rw [(checkSeqNum_same _ _).claimedSamples, samples] at number
  rw [if_neg (by rw [number]; exact belongs.audio)] at rest
  obtain ⟨⟨t', mem''⟩, received, last⟩ := bind_eq_ok.mp rest
  cases last
  rw [receiveAudio_expects received, number, ← offset]
  rfl

theorem muteFrame_stream (done : muteFrame s ops mem = .ok (t, mem')) : t.toRTPStream = s.toRTPStream := by
  unfold muteFrame at done
  split at done
  · obtain ⟨offset, -, rest⟩ := bind_eq_ok.mp done
    split_ifs at rest
    · cases rest
      rfl
    · cases rest
      rfl
  · cases done
    rfl

theorem prepareBufferLives_stream (done : prepareBufferLives s partner ops mem = .ok (t, mem')) :
    t.toRTPStream = s.toRTPStream := by
  unfold prepareBufferLives at done
  split at done
  · cases done
    rfl
  · simp only at done
    split at done
    · obtain ⟨⟨u, mem''⟩, muted, last⟩ := bind_eq_ok.mp done
      cases last
      rw [← muteFrame_stream muted]
      rfl
    · cases done
      rfl

theorem silent_of_step {e : StatusEvent} {happening : Happening} (silent : Silent e s) (other : happening ≠ .event)
    (step : StatusEvent.latch e t = (StatusEvent.latch e s).step happening) : Silent e t := by
  obtain ⟨settled, down⟩ := silent
  have isSettled : (StatusEvent.latch e s).counter = (StatusEvent.latch e s).lastCounter :=
    congrArg UInt32.toBitVec settled
  have isDown : (StatusEvent.latch e s).flag = false := down
  have after : (StatusEvent.latch e t).counter = (StatusEvent.latch e t).lastCounter ∧
      (StatusEvent.latch e t).flag = false := by
    rw [step]
    cases happening with
    | event => exact absurd rfl other
    | quiet => exact ⟨isSettled, isDown⟩
    | tick => simp [Latch.step, Latch.tick, isSettled, isDown]
    | read => exact ⟨isSettled, isDown⟩
  exact ⟨UInt32.toBitVec_inj.mp after.1, after.2⟩

theorem Belongs.same (belongs : Belongs s ssrc frame) (same : SameStream s t) : Belongs t ssrc frame := by
  have samples := same.claimedSamples frame
  have word := same.wordLength
  obtain ⟨_, _, info⟩ := same.info
  constructor
  · constructor
    · exact belongs.ofSequence.noPadding
    · exact belongs.ofSequence.version
    · rw [info]
      exact belongs.ofSequence.payloadType
    · exact belongs.ofSequence.ssrc
  · constructor
    · exact belongs.countable.1
    · rw [word]
      exact belongs.countable.2
  · rw [samples]
    exact belongs.audio

theorem inOrder_of_same (same : SameStream s t) (follows : Follows ssrc t)
    (belong : ∀ frame ∈ frames, Belongs s ssrc frame) (contiguous : frames.IsChain (NextPacket s)) :
    InOrder t frames := by
  constructor
  · exact ⟨ssrc, follows, fun frame found => (belong frame found).same same⟩
  · apply contiguous.imp
    intro first second next
    constructor
    · exact next.seqNum
    · rw [same.claimedSamples]
      exact next.timestamp

structure Awaiting (s : RTPAudioStream) (frames : List RTPFrame) : Prop where
  accepted : AcceptedSink s
  inOrder : InOrder s frames
  awaits : Awaits s s.rtpStreamInfo frames

namespace Awaiting

theorem packet (awaiting : Awaiting s (frame :: rest))
    (done : processRTPAudioPacket s partner ops frame mem = .ok (t, mem', used)) : Awaiting t rest := by
  obtain ⟨⟨ssrc, follows, belong⟩, contiguous⟩ := awaiting.inOrder
  have belongs := belong frame List.mem_cons_self
  have same := processRTPAudioPacket_same done
  have next := processRTPAudioPacket_expects belongs follows done
  have following := (awaiting.accepted.received belongs.ofSequence follows belongs.audio done).2.1
  have offset : t.rtpStreamInfo.rtpTimestampOffset = s.rtpStreamInfo.rtpTimestampOffset := by
    obtain ⟨_, _, info⟩ := same.info
    rw [info]
  unfold expects at next
  rw [Prod.mk.injEq] at next
  constructor
  case accepted => exact awaiting.accepted.same same
  case inOrder =>
    exact inOrder_of_same same following (fun frame found => belong frame (List.mem_cons_of_mem _ found))
      contiguous.tail
  case awaits =>
    constructor
    case seqIdSilent =>
      apply silent_of_step awaiting.awaits.seqIdSilent _ (StatusEvent.processRTPAudioPacket_latch .seqId done)
      have expected : (s.incomingSeqNum + 1 != mtalSwap16 frame.packetBase.rtpHeader.seqNum) = false := by
        rw [bne_eq_false_iff_eq]
        exact (awaiting.awaits.seqNum frame rfl).symm
      rw [StatusEvent.occurs_seqId, expected, Bool.and_false]
      decide
    case sacSilent =>
      apply silent_of_step awaiting.awaits.sacSilent _ (StatusEvent.processRTPAudioPacket_latch .sac done)
      have expected : (mtalSwap32 frame.packetBase.rtpHeader.timestamp - s.rtpStreamInfo.rtpTimestampOffset !=
          s.lastRTPSAC + s.lastRTPLengthInSamples) = false := by
        rw [bne_eq_false_iff_eq]
        exact awaiting.awaits.timestamp frame rfl
      rw [StatusEvent.occurs_sac, expected, Bool.and_false]
      decide
    case seqNum =>
      intro second isSecond
      rw [next.1]
      exact (contiguous.rel_head? isSecond).seqNum
    case timestamp =>
      intro second isSecond
      have ahead := (contiguous.rel_head? isSecond).timestamp
      rw [next.2, offset, ahead]
      grind

theorem other (awaiting : Awaiting s frames) (same : t.toRTPStream = s.toRTPStream) (stream : SameStream s t)
    (steps : ∀ e, ∃ happening, happening ≠ .event ∧
      StatusEvent.latch e t = (StatusEvent.latch e s).step happening) : Awaiting t frames := by
  have info : t.rtpStreamInfo = s.rtpStreamInfo := congrArg RTPStream.rtpStreamInfo same
  have silent (e : StatusEvent) (before : Silent e s) : Silent e t := by
    obtain ⟨happening, noEvent, step⟩ := steps e
    exact silent_of_step before noEvent step
  constructor
  case accepted => exact awaiting.accepted.same stream
  case inOrder =>
    obtain ⟨⟨ssrc, follows, belong⟩, contiguous⟩ := awaiting.inOrder
    apply inOrder_of_same stream _ belong contiguous
    unfold Follows
    rw [info]
    exact follows
  case awaits =>
    constructor
    case seqIdSilent => exact silent .seqId awaiting.awaits.seqIdSilent
    case sacSilent => exact silent .sac awaiting.awaits.sacSilent
    case seqNum =>
      intro first isFirst
      rw [congrArg RTPStream.incomingSeqNum same]
      exact awaiting.awaits.seqNum first isFirst
    case timestamp =>
      intro first isFirst
      rw [info, congrArg RTPStream.lastRTPSAC same, congrArg RTPStream.lastRTPLengthInSamples same]
      exact awaiting.awaits.timestamp first isFirst

theorem run {ops : List SinkOp} (awaiting : Awaiting s frames) (arrive : SinkOp.packets ops <+: frames)
    (done : ops.foldlM SinkOp.step s = .ok t) : ∃ later, Awaiting t later := by
  induction ops generalizing s frames with
  | nil =>
    cases done
    exact ⟨frames, awaiting⟩
  | cons op others ih =>
    rw [List.foldlM_cons] at done
    obtain ⟨u, first, last⟩ := bind_eq_ok.mp done
    have stream := SinkOp.step_same awaiting.accepted.sink first
    have steps (e : StatusEvent) := SinkOp.step_latch e awaiting.accepted.sink first
    cases op with
    | packet partner ops frame mem =>
      obtain ⟨rest, isFrames⟩ := arrive
      have whole : frames = frame :: (SinkOp.packets others ++ rest) := isFrames.symm
      subst whole
      obtain ⟨⟨t', mem', used⟩, processed, isLast⟩ := map_eq_ok.mp first
      cases isLast
      exact ih (awaiting.packet processed) (List.prefix_append _ rest) last
    | tick partner ops mem =>
      obtain ⟨⟨t', mem'⟩, prepared, isLast⟩ := map_eq_ok.mp first
      cases isLast
      apply ih _ arrive last
      exact awaiting.other (prepareBufferLives_stream prepared) stream fun e => ⟨.tick, by decide, steps e⟩
    | read =>
      apply ih _ arrive last
      apply awaiting.other _ stream fun e => ⟨.read, by decide, steps e⟩
      cases first
      unfold getRTPStreamStatus
      rw [awaiting.accepted.sink, if_neg Bool.false_ne_true]

end Awaiting

theorem reading_eq (sink : s.rtpStreamInfo.source = false) : (getRTPStreamStatus s).2 = some s.streamStatus := by
  unfold getRTPStreamStatus
  rw [sink, if_neg Bool.false_ne_true]

def fedTick : SinkOp := .tick (some {}) {} fun _ => {}

theorem fedTick_succeeds (sink : s.rtpStreamInfo.source = false) : Succeeds (fedTick.step s) := by
  have fed : livesInMuted s (some {}) {} = false := Bool.and_false _
  change Succeeds ((·.1) <$> prepareBufferLives s (some {}) {} fun _ => {})
  rw [prepareBufferLives_eq, sink, if_neg Bool.false_ne_true, fed, if_neg Bool.false_ne_true]
  exact succeeds_ok _

def copiedPacket (frame : RTPFrame) : SinkOp :=
  .packet (some { lastAudioSampleReceivedSAC := 0xFFFFFFFFFFFFFFFF }) { frameSize := 1 } frame fun _ => {}

theorem copiedPacket_succeeds (accepted : AcceptedSink s) (countable : Countable s frame) :
    Succeeds ((copiedPacket frame).step s) := by
  have safe : PacketSafe s (some { lastAudioSampleReceivedSAC := 0xFFFFFFFFFFFFFFFF }) { frameSize := 1 } frame := by
    intro _
    constructor
    · exact countable
    · right
      constructor
      · change (1 : UInt32) ≠ 0
        decide
      · left
        apply decide_eq_true
        rw [ge_iff_le, UInt64.le_iff_toNat_le]
        have bound := (arrivalSAC s { frameSize := 1 } frame + (claimedSamples s frame).toUInt64).toNat_lt
        change _ ≤ 2 ^ 64 - 1
        omega
  obtain ⟨done, processed⟩ := (accepted.process_succeeds_iff _ _ _ fun _ => {}).mpr safe
  exact ⟨done.1, map_eq_ok.mpr ⟨done, processed, rfl⟩⟩

namespace SinkOp.NeverAlarms

theorem silent (never : NeverAlarms s frames) (accepted : AcceptedSink s) {run : List SinkOp}
    (arrive : packets run <+: frames) (done : run.foldlM step s = .ok t) : Silent .seqId t ∧ Silent .sac t := by
  have sink := (run_latch .received accepted.sink done).2.2
  obtain ⟨u, ticked⟩ := fedTick_succeeds sink
  have now := never run t _ arrive done (reading_eq sink)
  have both : (run ++ [fedTick]).foldlM step s = .ok u := by
    rw [List.foldlM_append, done, ok_bind, List.foldlM_cons, ticked]
    rfl
  have arrived : packets (run ++ [fedTick]) = packets run := by
    unfold packets
    rw [List.filterMap_append]
    exact List.append_nil _
  have later := never _ u _ (arrived ▸ arrive) both (reading_eq (step_sink sink ticked))
  have settled (e : StatusEvent) (down : StatusEvent.flag e u.streamStatus = false) :
      StatusEvent.counter e t = StatusEvent.lastCounter e t := by
    have raised : (StatusEvent.latch e u).flag = false := down
    rw [step_latch e sink ticked] at raised
    simp only [happening, fedTick, Latch.step, Latch.tick, Bool.or_eq_false_iff, decide_eq_false_iff_not,
      not_not] at raised
    exact UInt32.toBitVec_inj.mp raised.2
  exact ⟨⟨settled .seqId later.1, now.1⟩, ⟨settled .sac later.2, now.2⟩⟩

theorem not_occurs {e : StatusEvent} (before : Silent e s) (after : Silent e t)
    (latched : StatusEvent.latch e t = (StatusEvent.latch e s).step (StatusEvent.happening (e.occurs s frame))) :
    e.occurs s frame = false := by
  cases occurs : e.occurs s frame with
  | false => rfl
  | true =>
    have was : (StatusEvent.latch e s).counter = (StatusEvent.latch e s).lastCounter :=
      congrArg UInt32.toBitVec before.1
    have stays : (StatusEvent.latch e t).counter = (StatusEvent.latch e t).lastCounter :=
      congrArg UInt32.toBitVec after.1
    rw [latched, occurs] at stays
    simp only [StatusEvent.happening, if_true, Latch.step, was] at stays
    bv_omega

theorem awaits (never : NeverAlarms s frames) (accepted : AcceptedSink s) (inOrder : InOrder s frames) :
    Awaits s s.rtpStreamInfo frames := by
  have noPackets : packets [] <+: frames := List.nil_prefix
  obtain ⟨seqIdSilent, sacSilent⟩ := never.silent accepted noPackets rfl
  have first (frame : RTPFrame) (isFirst : frames.head? = some frame) :
      frame.seqNum = s.incomingSeqNum + 1 ∧
        frame.timestamp - s.rtpStreamInfo.rtpTimestampOffset = s.lastRTPSAC + s.lastRTPLengthInSamples := by
    obtain ⟨⟨ssrc, follows, belong⟩, -⟩ := inOrder
    have belongs := belong frame (List.mem_of_mem_head? isFirst)
    have accepts := (checkRTPHeader_of_sequence belongs.ofSequence follows).1
    obtain ⟨t, done⟩ := copiedPacket_succeeds accepted belongs.countable
    have alone : [copiedPacket frame].foldlM step s = .ok t := by
      rw [List.foldlM_cons, done]
      rfl
    have arrive : packets [copiedPacket frame] <+: frames := by
      obtain ⟨rest, whole⟩ := List.head?_eq_some_iff.mp isFirst
      rw [whole]
      exact ⟨rest, rfl⟩
    obtain ⟨seqIdAfter, sacAfter⟩ := never.silent accepted arrive alone
    have noSeqId := not_occurs seqIdSilent seqIdAfter (step_latch .seqId accepted.sink done)
    have noSAC := not_occurs sacSilent sacAfter (step_latch .sac accepted.sink done)
    rw [StatusEvent.occurs_seqId, accepts, Bool.true_and, bne_eq_false_iff_eq] at noSeqId
    rw [StatusEvent.occurs_sac, accepts, Bool.true_and, bne_iff_ne.mpr belongs.audio, Bool.true_and,
      bne_eq_false_iff_eq] at noSAC
    exact ⟨noSeqId.symm, noSAC⟩
  constructor
  case seqIdSilent => exact seqIdSilent
  case sacSilent => exact sacSilent
  case seqNum => exact fun frame isFirst => (first frame isFirst).1
  case timestamp => exact fun frame isFirst => (first frame isFirst).2

end SinkOp.NeverAlarms

theorem neverAlarms_iff (accepted : AcceptedSink s) (inOrder : InOrder s frames) :
    SinkOp.NeverAlarms s frames ↔ Awaits s s.rtpStreamInfo frames := by
  constructor
  · intro never
    exact never.awaits accepted inOrder
  · intro awaits run t status arrive done reading
    obtain ⟨later, awaiting⟩ := (Awaiting.mk accepted inOrder awaits).run arrive done
    rw [reading_eq awaiting.accepted.sink, Option.some.injEq] at reading
    rw [← reading]
    exact ⟨awaiting.awaits.seqIdSilent.2, awaiting.awaits.sacSilent.2⟩

/-- A new sink in a slot, whatever the slot was used for before. -/
theorem no_false_alarm_iff {slot : RTPAudioStream} {info : RTPStreamInfo} {nf : EtherTubeNetfilter}
    (valid : isValid info = true) (sink : info.source = false)
    (created : (create slot info ops nf mem).2.2 = true)
    (inOrder : InOrder (create slot info ops nf mem).1 frames) :
    SinkOp.NeverAlarms (create slot info ops nf mem).1 frames ↔ Awaits slot info frames := by
  rw [neverAlarms_iff (create_sink_valid valid sink created) inOrder]
  obtain ⟨lives, convert, made, -⟩ := create_sink_eq sink created
  rw [made]
  constructor
  · intro awaits
    exact ⟨awaits.seqIdSilent, awaits.sacSilent, awaits.seqNum, awaits.timestamp⟩
  · intro awaits
    exact ⟨awaits.seqIdSilent, awaits.sacSilent, awaits.seqNum, awaits.timestamp⟩

theorem monoFrames_inOrder {first second : RTPFrame}
    (belong : ∀ frame ∈ [first, second], Belongs newMonoSink 0 frame) (next : NextPacket newMonoSink first second) :
    InOrder newMonoSink [first, second] where
  oneSSRC := ⟨0, fun known => absurd known (by decide), belong⟩
  contiguous := .cons_cons next (.singleton _)

theorem no_false_alarm_iff_awaited :
    SinkOp.NeverAlarms newMonoSink [monoFrame 1 0, monoFrame 2 1] ↔
      Awaits {} (monoSink 0) [monoFrame 1 0, monoFrame 2 1] := by
  have belong : ∀ frame ∈ [monoFrame 1 0, monoFrame 2 1], Belongs newMonoSink 0 frame := by
    simp only [List.forall_mem_cons, List.not_mem_nil, false_implies, implies_true, and_true]
    constructor
    · exact ⟨⟨rfl, rfl, rfl, rfl⟩, ⟨fun extension => absurd extension (by decide), by decide⟩, by decide⟩
    · exact ⟨⟨rfl, rfl, rfl, rfl⟩, ⟨fun extension => absurd extension (by decide), by decide⟩, by decide⟩
  exact no_false_alarm_iff rfl rfl rfl (monoFrames_inOrder belong ⟨rfl, rfl⟩)

/-- A stream that begins with the sequence number 7 at the time 4800. -/
theorem false_alarm : InOrder newMonoSink [monoFrame 7 4800, monoFrame 8 4801] ∧
    ¬ SinkOp.NeverAlarms newMonoSink [monoFrame 7 4800, monoFrame 8 4801] := by
  have belong : ∀ frame ∈ [monoFrame 7 4800, monoFrame 8 4801], Belongs newMonoSink 0 frame := by
    simp only [List.forall_mem_cons, List.not_mem_nil, false_implies, implies_true, and_true]
    constructor
    · exact ⟨⟨rfl, rfl, rfl, rfl⟩, ⟨fun extension => absurd extension (by decide), by decide⟩, by decide⟩
    · exact ⟨⟨rfl, rfl, rfl, rfl⟩, ⟨fun extension => absurd extension (by decide), by decide⟩, by decide⟩
  have inOrder := monoFrames_inOrder belong ⟨rfl, rfl⟩
  constructor
  · exact inOrder
  · intro never
    have accepted : AcceptedSink newMonoSink := create_sink_valid rfl rfl rfl
    have expected := ((neverAlarms_iff accepted inOrder).mp never).seqNum (monoFrame 7 4800) rfl
    exact absurd expected (by decide)

end RavennaLkm
