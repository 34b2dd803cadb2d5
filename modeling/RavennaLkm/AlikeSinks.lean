import RavennaLkm.StreamsCalls
import RavennaLkm.ReceiveSpec
import RavennaLkm.Lib.PairedRuns

/-!
Two streams are `Alike` if no packet, tick or reading of the status of a sink
can tell them apart: whatever is done to both returns the same, writes the same
into the rings and leaves them alike.
-/
namespace RavennaLkm
open CheckedLoop GuardedRun PairedRuns

/-- What packets, ticks and readings of a sink depend on; of the counters only whether they
moved, of a status that is clear not even that. -/
structure Alike (s t : RTPAudioStream) : Prop where
  info : t.rtpStreamInfo = s.rtpStreamInfo
  nic : t.ethNetfilter = s.ethNetfilter
  attached : t.attachedStream = s.attachedStream
  lastSAC : t.lastAudioSampleReceivedSAC = s.lastAudioSampleReceivedSAC
  seqNum : t.incomingSeqNum = s.incomingSeqNum
  nextSAC : t.lastRTPSAC + t.lastRTPLengthInSamples = s.lastRTPSAC + s.lastRTPLengthInSamples
  mutedFrames : t.livesInDMCounter = s.livesInDMCounter
  rings : ∀ us < s.rtpStreamInfo.nbOfChannels.toNat,
    t.livesInCircularBuffer us = s.livesInCircularBuffer us
  wordLength : t.audioEngineSampleWordLength = s.audioEngineSampleWordLength
  convert : t.mtConvertInterleaveToMapped = s.mtConvertInterleaveToMapped
  seqIdErrors : t.wrongRTPSeqIdCounter - t.wrongRTPSeqIdLastCounter =
    s.wrongRTPSeqIdCounter - s.wrongRTPSeqIdLastCounter
  ssrcErrors : t.wrongRTPSSRCCounter - t.wrongRTPSSRCLastCounter =
    s.wrongRTPSSRCCounter - s.wrongRTPSSRCLastCounter
  payloadTypeErrors : t.wrongRTPPayloadTypeCounter - t.wrongRTPPayloadTypeLastCounter =
    s.wrongRTPPayloadTypeCounter - s.wrongRTPPayloadTypeLastCounter
  sacErrors : t.wrongRTPSACCounter - t.wrongRTPSACLastCounter =
    s.wrongRTPSACCounter - s.wrongRTPSACLastCounter
  packets : t.rtpPacketCounter - t.rtpPacketLastCounter = s.rtpPacketCounter - s.rtpPacketLastCounter
  status : t.streamStatus = s.streamStatus
  reset : s.streamStatus = {} ∨ t.streamStatusResetCounter - t.streamStatusLastResetCounter =
    s.streamStatusResetCounter - s.streamStatusLastResetCounter

def PartnersAlike (p q : Option RTPStream) : Prop :=
  q.map (·.lastAudioSampleReceivedSAC) = p.map (·.lastAudioSampleReceivedSAC)

theorem counted {a b c d : UInt32} (same : c - d = a - b) : c + 1 - d = a + 1 - b := by
  grind

theorem unmoved_iff {a b c d : UInt32} (same : c - d = a - b) : c = d ↔ a = b := by
  constructor
  · intro unmoved
    grind
  · intro unmoved
    grind

def livesInMuted (s : RTPAudioStream) (partner : Option RTPStream) (ops : RTPAudioStreamOps) : Bool :=
  isLivesInMustBeMuted s.toRTPStream ops && partner.all (isLivesInMustBeMuted · ops)

theorem getRTPStreamStatus_same (s : RTPAudioStream) : SameStream s (getRTPStreamStatus s).1 := by
  unfold getRTPStreamStatus
  split
  · exact .refl s
  · exact ⟨⟨_, _, rfl⟩, rfl, rfl, rfl, rfl, rfl, rfl, rfl⟩

theorem getStatsSinkAheadTime_same (s : RTPAudioStream) : SameStream s (getStatsSinkAheadTime s).1 :=
  ⟨⟨_, _, rfl⟩, rfl, rfl, rfl, rfl, rfl, rfl, rfl⟩

theorem prepareBufferLives_eq (s : RTPAudioStream) (partner : Option RTPStream) (ops : RTPAudioStreamOps)
    (mem : RingMemory) : prepareBufferLives s partner ops mem =
      if s.rtpStreamInfo.source = true then .ok (s, mem)
      else if livesInMuted s partner ops = true then
        muteFrame s ops mem >>= fun muted =>
          .ok (updateStreamStatus muted.1 false (livesInMuted s partner ops), muted.2)
      else
        .ok (updateStreamStatus { s with livesInDMCounter := 0 } false (livesInMuted s partner ops), mem) :=
  rfl

def mutesFrame (s : RTPAudioStream) (partner : Option RTPStream) (ops : RTPAudioStreamOps) : Bool :=
  livesInMuted s partner ops && s.ethNetfilter.nicId == 0 &&
    decide (s.livesInDMCounter < ops.liveInJitterBufferLength / ops.frameSize)

theorem prepareBufferLives_mutes {s : RTPAudioStream} {partner : Option RTPStream}
    {ops : RTPAudioStreamOps} {mem : RingMemory} {done : RTPAudioStream × RingMemory}
    (sink : s.rtpStreamInfo.source = false) (prepared : prepareBufferLives s partner ops mem = .ok done) :
    ∃ offset, (mutesFrame s partner ops = true → getLiveInJitterBufferOffset ops ops.globalSAC = .ok offset) ∧
      done.2 = if mutesFrame s partner ops then muteLivesIn s ops offset ops.frameSize mem else mem := by
  rw [prepareBufferLives_eq, sink, if_neg Bool.false_ne_true] at prepared
  rw [mutesFrame]
  cases muted : livesInMuted s partner ops with
  | false =>
    simp only [muted, Bool.false_eq_true, if_false] at prepared
    cases prepared
    exact ⟨0, by simp, by simp⟩
  | true =>
    simp only [muted, if_true] at prepared
    obtain ⟨frame, run, last⟩ := bind_eq_ok.mp prepared
    cases last
    unfold muteFrame at run
    split at run
    · rename_i nic0
      obtain ⟨offset, isOffset, rest⟩ := bind_eq_ok.mp run
      refine ⟨offset, fun _ => isOffset, ?_⟩
      split at rest
      · cases rest
      split at rest
      · rename_i below
        cases rest
        simp [nic0, below]
      · rename_i notBelow
        cases rest
        simp [notBelow]
    · rename_i nic1
      cases run
      exact ⟨0, by simp [nic1], by simp [nic1]⟩

namespace Alike

variable {s t : RTPAudioStream} {p q : Option RTPStream} {ops : RTPAudioStreamOps}

theorem refl (s : RTPAudioStream) : Alike s s := by
  constructor
  case reset => exact .inr rfl
  all_goals intros
  all_goals rfl

theorem checkRTPHeader (alike : Alike s t) (h : RTPHeader) :
    Alike (checkRTPHeader s h).1 (checkRTPHeader t h).1 ∧
      (RavennaLkm.checkRTPHeader t h).2 = (RavennaLkm.checkRTPHeader s h).2 := by
  have seen := counted alike.packets
  simp only [RavennaLkm.checkRTPHeader, alike.info]
  split_ifs
  · exact ⟨{ alike with packets := seen }, rfl⟩
  · exact ⟨{ alike with packets := seen }, rfl⟩
  · exact ⟨{ alike with packets := seen, payloadTypeErrors := counted alike.payloadTypeErrors }, rfl⟩
  · exact ⟨{ alike with packets := seen, info := rfl }, rfl⟩
  all_goals first
    | exact ⟨{ alike with packets := seen, ssrcErrors := counted alike.ssrcErrors }, rfl⟩
    | exact ⟨{ alike with packets := seen }, rfl⟩

theorem checkSeqNum (alike : Alike s t) (seqNum : UInt16) :
    Alike (checkSeqNum s seqNum) (checkSeqNum t seqNum) := by
  simp only [RavennaLkm.checkSeqNum, alike.seqNum]
  split_ifs
  · exact { alike with seqNum := rfl, seqIdErrors := counted alike.seqIdErrors }
  · exact { alike with seqNum := rfl }

theorem checkTimestamp (alike : Alike s t) (timestamp n : UInt32) :
    Alike (checkTimestamp s timestamp n) (checkTimestamp t timestamp n) := by
  simp only [RavennaLkm.checkTimestamp, alike.nextSAC]
  split_ifs
  · exact { alike with nextSAC := rfl, sacErrors := counted alike.sacErrors }
  · exact { alike with nextSAC := rfl }

theorem getNbOfLivesIn (alike : Alike s t) : getNbOfLivesIn t = getNbOfLivesIn s := by
  rw [RavennaLkm.getNbOfLivesIn, RavennaLkm.getNbOfLivesIn, alike.info]

theorem convertToLivesIn (alike : Alike s t) (input : PacketReader) (offset n : UInt32) (mem : RingMemory) :
    convertToLivesIn t input t.livesInCircularBuffer offset n mem =
      convertToLivesIn s input s.livesInCircularBuffer offset n mem := by
  simp only [RavennaLkm.convertToLivesIn, alike.convert, alike.info]
  cases s.mtConvertInterleaveToMapped with
  | none => rfl
  | some f =>
    simp only [f.call_eq, deInterleave]
    apply forUp_congr
    intro ch below mem
    rw [alike.rings ch (by simpa using below)]

theorem writeLivesIn (alike : Alike s t) (input : PacketReader) (offset n : UInt32) (mem : RingMemory) :
    writeLivesIn t ops input offset n mem = writeLivesIn s ops input offset n mem := by
  rw [RavennaLkm.writeLivesIn, RavennaLkm.writeLivesIn, alike.convertToLivesIn]

theorem copyToLivesIn (alike : Alike s t) (frame : RTPFrame) (payload : Nat) (rtpSAC : UInt64) (n : UInt32)
    (mem : RingMemory) :
    copyToLivesIn t ops frame payload rtpSAC n mem = copyToLivesIn s ops frame payload rtpSAC n mem := by
  simp only [RavennaLkm.copyToLivesIn, alike.writeLivesIn, alike.info, alike.getNbOfLivesIn]

theorem alreadyCopied (partners : PartnersAlike p q) (lastSAC : UInt64) :
    alreadyCopied q lastSAC = alreadyCopied p lastSAC := by
  cases p <;> cases q <;> simp_all [PartnersAlike, RavennaLkm.alreadyCopied]

theorem copyAudio (alike : Alike s t) (partners : PartnersAlike p q) (frame : RTPFrame) (payload : Nat)
    (rtpSAC : UInt64) (n : UInt32) (mem : RingMemory) :
    copyAudio t q ops frame payload rtpSAC n mem = copyAudio s p ops frame payload rtpSAC n mem := by
  simp only [RavennaLkm.copyAudio, alreadyCopied partners, alike.copyToLivesIn]

/-- The statistics are nothing that a packet, a tick or the status depends on. -/
theorem updateSinkAheadTime (alike : Alike s t) (rtpSAC : UInt64) :
    Agree Alike (updateSinkAheadTime s ops rtpSAC) (updateSinkAheadTime t ops rtpSAC) := by
  unfold RavennaLkm.updateSinkAheadTime
  refine Agree.bind (agree_same rfl) ?_
  rintro inFrame _ rfl
  simp only [alike.info]
  apply agree_ite Iff.rfl
  · intro _
    exact agree_error _ _
  · intro _
    apply agree_ok
    split_ifs
    all_goals exact { alike with }

theorem receiveAudio (alike : Alike s t) (partners : PartnersAlike p q) (frame : RTPFrame) (payload : Nat)
    (n : UInt32) (mem : RingMemory) :
    Agree (fun a b => Alike a.1 b.1 ∧ b.2 = a.2) (receiveAudio s p ops frame payload n mem)
      (receiveAudio t q ops frame payload n mem) := by
  have sameInfo : ∀ (u : RTPAudioStream) (ts k : UInt32),
      (RavennaLkm.checkTimestamp u ts k).rtpStreamInfo = u.rtpStreamInfo := fun _ _ _ => rfl
  simp only [RavennaLkm.receiveAudio, sameInfo, alike.info]
  have timed := alike.checkTimestamp
    (mtalSwap32 frame.packetBase.rtpHeader.timestamp - s.rtpStreamInfo.rtpTimestampOffset) n
  refine Agree.bind (agree_same (timed.copyAudio partners frame payload _ n mem)) ?_
  rintro written _ rfl
  refine Agree.bind (timed.updateSinkAheadTime _) ?_
  intro a b alike
  apply agree_ok
  exact ⟨{ alike with lastSAC := rfl }, rfl⟩

theorem nbOfSamplesInPacket (alike : Alike s t) (length : UInt32) :
    nbOfSamplesInPacket t length = nbOfSamplesInPacket s length := by
  rw [RavennaLkm.nbOfSamplesInPacket, RavennaLkm.nbOfSamplesInPacket, alike.getNbOfLivesIn, alike.info]

theorem processRTPAudioPacket (alike : Alike s t) (partners : PartnersAlike p q) (frame : RTPFrame)
    (mem : RingMemory) :
    Agree (fun a b => Alike a.1 b.1 ∧ b.2 = a.2) (processRTPAudioPacket s p ops frame mem)
      (processRTPAudioPacket t q ops frame mem) := by
  obtain ⟨checked, same⟩ := alike.checkRTPHeader frame.packetBase.rtpHeader
  unfold RavennaLkm.processRTPAudioPacket
  apply agree_ite (iff_of_eq (congrArg (· = true) same))
  · intro _
    have numbered := checked.checkSeqNum (mtalSwap16 frame.packetBase.rtpHeader.seqNum)
    refine Agree.bind (agree_same rfl) ?_
    rintro skip _ rfl
    refine Agree.bind (agree_same (numbered.nbOfSamplesInPacket _)) ?_
    rintro n _ rfl
    apply agree_ite Iff.rfl
    · intro _
      exact agree_ok ⟨numbered, rfl⟩
    · intro _
      refine Agree.bind (numbered.receiveAudio partners frame _ _ mem) ?_
      rintro ⟨a, mem₁⟩ ⟨b, mem₂⟩ ⟨alike, same⟩
      cases same
      exact agree_ok ⟨alike, rfl⟩
  · intro _
    exact agree_ok ⟨checked, rfl⟩

theorem isLivesInMustBeMuted (alike : Alike s t) :
    isLivesInMustBeMuted t.toRTPStream ops = isLivesInMustBeMuted s.toRTPStream ops := by
  rw [RavennaLkm.isLivesInMustBeMuted, RavennaLkm.isLivesInMustBeMuted, alike.lastSAC]

theorem partnersMuted (partners : PartnersAlike p q) :
    q.all (RavennaLkm.isLivesInMustBeMuted · ops) = p.all (RavennaLkm.isLivesInMustBeMuted · ops) := by
  cases p <;> cases q <;> simp_all [PartnersAlike, RavennaLkm.isLivesInMustBeMuted]

theorem livesInMuted (alike : Alike s t) (partners : PartnersAlike p q) :
    livesInMuted t q ops = livesInMuted s p ops := by
  rw [RavennaLkm.livesInMuted, RavennaLkm.livesInMuted, alike.isLivesInMustBeMuted, partnersMuted partners]

theorem mutesFrame (alike : Alike s t) (partners : PartnersAlike p q) :
    mutesFrame t q ops = mutesFrame s p ops := by
  rw [RavennaLkm.mutesFrame, RavennaLkm.mutesFrame, alike.livesInMuted partners, alike.nic, alike.mutedFrames]

theorem muteLivesIn (alike : Alike s t) (offset n : UInt32) (mem : RingMemory) :
    muteLivesIn t ops offset n mem = muteLivesIn s ops offset n mem := by
  unfold RavennaLkm.muteLivesIn
  rw [alike.info]
  apply iterUp_congr
  intro us below mem
  rw [alike.rings us below, alike.wordLength]

theorem muteFrame (alike : Alike s t) (mem : RingMemory) :
    Agree (fun a b => Alike a.1 b.1 ∧ b.2 = a.2) (muteFrame s ops mem) (muteFrame t ops mem) := by
  unfold RavennaLkm.muteFrame
  apply agree_ite (by rw [alike.nic])
  · intro _
    refine Agree.bind (agree_same rfl) ?_
    rintro offset _ rfl
    apply agree_ite Iff.rfl
    · intro _
      exact agree_error _ _
    · intro _
      apply agree_ite (by rw [alike.mutedFrames])
      · intro _
        apply agree_ok
        exact ⟨{ alike with mutedFrames := by simp only [alike.mutedFrames] }, alike.muteLivesIn ..⟩
      · intro _
        exact agree_ok ⟨alike, rfl⟩
  · intro _
    exact agree_ok ⟨alike, rfl⟩

/-- A status that is clear is the same whether it is to be reset or not. -/
theorem updateStreamStatus (alike : Alike s t) (muted globalMuted : Bool) :
    Alike (updateStreamStatus s muted globalMuted) (updateStreamStatus t muted globalMuted) := by
  have old : (if t.streamStatusResetCounter ≠ t.streamStatusLastResetCounter then {} else t.streamStatus) =
      if s.streamStatusResetCounter ≠ s.streamStatusLastResetCounter then {} else s.streamStatus := by
    rw [alike.status]
    rcases alike.reset with clear | same
    · rw [clear, ite_self, ite_self]
    · simp only [ne_eq, unmoved_iff same]
  constructor
  case status =>
    simp only [RavennaLkm.updateStreamStatus, old, ne_eq, unmoved_iff alike.seqIdErrors,
      unmoved_iff alike.ssrcErrors, unmoved_iff alike.payloadTypeErrors, unmoved_iff alike.sacErrors,
      unmoved_iff alike.packets]
  case reset => exact .inr (by simp [RavennaLkm.updateStreamStatus])
  case seqIdErrors => simp [RavennaLkm.updateStreamStatus]
  case ssrcErrors => simp [RavennaLkm.updateStreamStatus]
  case payloadTypeErrors => simp [RavennaLkm.updateStreamStatus]
  case sacErrors => simp [RavennaLkm.updateStreamStatus]
  case packets => simp [RavennaLkm.updateStreamStatus]
  case info => exact alike.info
  case nic => exact alike.nic
  case attached => exact alike.attached
  case lastSAC => exact alike.lastSAC
  case seqNum => exact alike.seqNum
  case nextSAC => exact alike.nextSAC
  case mutedFrames => exact alike.mutedFrames
  case rings => exact alike.rings
  case wordLength => exact alike.wordLength
  case convert => exact alike.convert

theorem prepareBufferLives (alike : Alike s t) (partners : PartnersAlike p q) (mem : RingMemory) :
    Agree (fun a b => Alike a.1 b.1 ∧ b.2 = a.2) (prepareBufferLives s p ops mem)
      (prepareBufferLives t q ops mem) := by
  rw [prepareBufferLives_eq, prepareBufferLives_eq, alike.livesInMuted partners]
  apply agree_ite (by rw [alike.info])
  · intro _
    exact agree_ok ⟨alike, rfl⟩
  · intro _
    apply agree_ite Iff.rfl
    · intro _
      refine Agree.bind (alike.muteFrame mem) ?_
      rintro ⟨a, mem₁⟩ ⟨b, mem₂⟩ ⟨alike, same⟩
      cases same
      exact agree_ok ⟨alike.updateStreamStatus _ _, rfl⟩
    · intro _
      apply agree_ok
      have counting : Alike { s with livesInDMCounter := 0 } { t with livesInDMCounter := 0 } :=
        { alike with mutedFrames := rfl }
      exact ⟨counting.updateStreamStatus _ _, rfl⟩

theorem getRTPStreamStatus (alike : Alike s t) :
    Alike (getRTPStreamStatus s).1 (getRTPStreamStatus t).1 ∧
      (getRTPStreamStatus t).2 = (getRTPStreamStatus s).2 := by
  unfold RavennaLkm.getRTPStreamStatus
  rw [alike.info]
  split
  · exact ⟨alike, rfl⟩
  · exact ⟨{ alike with reset := alike.reset.imp_right counted }, congrArg some alike.status⟩

theorem getStatsSinkAheadTime (alike : Alike s t) :
    Alike (getStatsSinkAheadTime s).1 (getStatsSinkAheadTime t).1 := { alike with }

end Alike

end RavennaLkm
