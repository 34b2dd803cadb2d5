import RavennaLkm.Receive

/-!
What receiving leaves as it was, and the exact condition under which a packet is
received without a fault.
-/
namespace RavennaLkm
open CheckedLoop LittleEndian

theorem checkRTPHeader_same (s : RTPAudioStream) (h : RTPHeader) :
    SameStream s (checkRTPHeader s h).1 := by
  unfold checkRTPHeader
  simp only
  split_ifs
  all_goals exact ⟨⟨_, _, rfl⟩, rfl, rfl, rfl, rfl, rfl, rfl, rfl⟩

theorem checkSeqNum_same (s : RTPAudioStream) (seqNum : UInt16) : SameStream s (checkSeqNum s seqNum) :=
  ⟨⟨_, _, rfl⟩, rfl, rfl, rfl, rfl, rfl, rfl, rfl⟩

theorem checkTimestamp_same (s : RTPAudioStream) (timestamp n : UInt32) :
    SameStream s (checkTimestamp s timestamp n) :=
  ⟨⟨_, _, rfl⟩, rfl, rfl, rfl, rfl, rfl, rfl, rfl⟩

theorem updateSinkAheadTime_same {s t : RTPAudioStream} {ops : RTPAudioStreamOps} {sac : UInt64}
    (done : updateSinkAheadTime s ops sac = .ok t) : SameStream s t := by
  obtain ⟨inFrame, -, rest⟩ := bind_eq_ok.mp done
  simp only at rest
  split_ifs at rest
  all_goals
    cases rest
    exact ⟨⟨_, _, rfl⟩, rfl, rfl, rfl, rfl, rfl, rfl, rfl⟩

theorem receiveAudio_same {s t : RTPAudioStream} {partner : Option RTPStream} {ops : RTPAudioStreamOps}
    {frame : RTPFrame} {payload : Nat} {n : UInt32} {mem mem' : RingMemory}
    (done : receiveAudio s partner ops frame payload n mem = .ok (t, mem')) : SameStream s t := by
  unfold receiveAudio at done
  obtain ⟨copied, -, rest⟩ := bind_eq_ok.mp done
  obtain ⟨ahead, updated, last⟩ := bind_eq_ok.mp rest
  cases last
  have same := (checkTimestamp_same s _ n).trans (updateSinkAheadTime_same updated)
  exact same.trans ⟨⟨_, _, rfl⟩, rfl, rfl, rfl, rfl, rfl, rfl, rfl⟩

theorem processRTPAudioPacket_same {s t : RTPAudioStream} {partner : Option RTPStream}
    {ops : RTPAudioStreamOps} {frame : RTPFrame} {mem mem' : RingMemory} {used : Bool}
    (done : processRTPAudioPacket s partner ops frame mem = .ok (t, mem', used)) : SameStream s t := by
  unfold processRTPAudioPacket at done
  have checked := checkRTPHeader_same s frame.packetBase.rtpHeader
  simp only at done
  split at done
  · obtain ⟨skip, -, rest⟩ := bind_eq_ok.mp done
    obtain ⟨n, -, rest⟩ := bind_eq_ok.mp rest
    have counted := checked.trans (checkSeqNum_same _ (mtalSwap16 frame.packetBase.rtpHeader.seqNum))
    split at rest
    · cases rest
      exact counted
    · obtain ⟨⟨t', mem''⟩, received, last⟩ := bind_eq_ok.mp rest
      cases last
      exact counted.trans (receiveAudio_same received)
  · cases done
    exact checked

theorem muteFrame_same {s t : RTPAudioStream} {ops : RTPAudioStreamOps} {mem mem' : RingMemory}
    (done : muteFrame s ops mem = .ok (t, mem')) : SameStream s t := by
  unfold muteFrame at done
  split at done
  · obtain ⟨offset, -, rest⟩ := bind_eq_ok.mp done
    split_ifs at rest
    all_goals
      cases rest
      exact ⟨⟨_, _, rfl⟩, rfl, rfl, rfl, rfl, rfl, rfl, rfl⟩
  · cases done
    exact .refl s

theorem prepareBufferLives_same {s t : RTPAudioStream} {partner : Option RTPStream}
    {ops : RTPAudioStreamOps} {mem mem' : RingMemory}
    (done : prepareBufferLives s partner ops mem = .ok (t, mem')) : SameStream s t := by
  have cleared : SameStream s { s with livesInDMCounter := 0 } :=
    ⟨⟨_, _, rfl⟩, rfl, rfl, rfl, rfl, rfl, rfl, rfl⟩
  have status : ∀ u muted, SameStream u (updateStreamStatus u false muted) := fun u muted =>
    ⟨⟨_, _, rfl⟩, rfl, rfl, rfl, rfl, rfl, rfl, rfl⟩
  unfold prepareBufferLives at done
  split at done
  · cases done
    exact .refl s
  · simp only at done
    split at done
    · obtain ⟨⟨u, mem''⟩, muted, last⟩ := bind_eq_ok.mp done
      cases last
      exact (muteFrame_same muted).trans (status _ _)
    · cases done
      exact cleared.trans (status _ _)

def rowBytes (s : RTPAudioStream) (f : InterleaveToMapped) : Nat :=
  s.rtpStreamInfo.nbOfChannels.toNat * f.width.toNat

def AllMapped (s : RTPAudioStream) : Prop :=
  ∀ us < s.rtpStreamInfo.nbOfChannels.toNat, (s.livesInCircularBuffer us).isSome = true

def liveInBase (s : RTPAudioStream) (us : Nat) : Nat := (s.livesInCircularBuffer us).getD 0

theorem AllMapped.ring {s : RTPAudioStream} (mapped : AllMapped s) {us : Nat}
    (below : us < s.rtpStreamInfo.nbOfChannels.toNat) :
    s.livesInCircularBuffer us = some (liveInBase s us) := by
  obtain ⟨base, isBase⟩ := Option.isSome_iff_exists.mp (mapped us below)
  rw [liveInBase, isBase, Option.getD_some]

theorem RTPFrame.packetBase_of_bytes (frame : RTPFrame) {header : RTPPacketBase} {rest : List UInt8}
    (isFrame : frame.bytes = header.bytes ++ rest) : frame.packetBase = header := by
  apply RTPPacketBase.ofBytes_of_holds
  apply holds_of_getElem
  intro k below
  have front : (header.bytes ++ rest)[k]? = header.bytes[k]? := List.getElem?_append_left below
  rw [Nat.zero_add, RTPFrame.byte, isFrame, List.getD_eq_getElem?_getD, front,
    List.getElem?_eq_getElem below, Option.getD_some]

theorem RTPFrame.read_succeeds_iff {frame : RTPFrame} {k : Nat} :
    Succeeds (frame.read k) ↔ k < frame.bytes.length := by
  rw [RTPFrame.read, succeeds_guard, and_iff_left (succeeds_ok _)]

theorem InterleaveToMapped.samplePos_eq (f : InterleaveToMapped) (s : RTPAudioStream) (ch i : Nat) :
    f.samplePos s.rtpStreamInfo.nbOfChannels.toUInt32 ch i = f.width.toNat * ch + i * rowBytes s f := by
  have channels := s.rtpStreamInfo.nbOfChannels.toNat_lt
  have width : f.width.toNat ≤ 4 := by cases f <;> decide
  have small : f.width.toNat * s.rtpStreamInfo.nbOfChannels.toNat < 2 ^ 32 :=
    calc _ ≤ 4 * 255 := Nat.mul_le_mul width (by omega)
      _ < 2 ^ 32 := by norm_num
  rw [samplePos, rowBytes, UInt32.toNat_mul, UInt8.toNat_toUInt32, Nat.mod_eq_of_lt small,
    Nat.mul_comm s.rtpStreamInfo.nbOfChannels.toNat]

/-- The rings after one piece whose channels are mapped and whose bytes were received. -/
theorem AcceptedSink.convert_eq {s : RTPAudioStream} {f : InterleaveToMapped}
    (accepted : AcceptedSink s) (codec : convertInterleaveToMapped s.rtpStreamInfo.codec = some f)
    {frame : RTPFrame} {pos : Nat} {n : UInt32} (offset : UInt32) (mem : RingMemory)
    (mapped : AllMapped s) (fits : pos + n.toNat * rowBytes s f ≤ frame.bytes.length) :
    convertToLivesIn s (fun k => frame.read (pos + k)) s.livesInCircularBuffer offset n mem =
      .ok (f.deInterleaved (fun k => frame.byte (pos + k)) (liveInBase s) offset
        s.rtpStreamInfo.nbOfChannels.toUInt32 n mem) := by
  rw [convertToLivesIn, accepted.convert, codec]
  apply f.call_eq_deInterleaved
  intro ch chBelow i iBelow
  rw [UInt8.toNat_toUInt32] at chBelow
  refine ⟨mapped.ring chBelow, ?_⟩
  intro k below
  rw [f.samplePos_eq]
  have column : f.width.toNat * ch + f.width.toNat ≤ rowBytes s f := by
    rw [← Nat.mul_succ, rowBytes, Nat.mul_comm s.rtpStreamInfo.nbOfChannels.toNat]
    exact Nat.mul_le_mul_left _ chBelow
  have row : i * rowBytes s f + rowBytes s f ≤ n.toNat * rowBytes s f := by
    rw [← Nat.succ_mul]
    exact Nat.mul_le_mul_right _ iBelow
  exact if_pos (by omega)

/-- One piece needs all its channels mapped and all its bytes received. -/
theorem AcceptedSink.convert_succeeds_iff {s : RTPAudioStream} {f : InterleaveToMapped}
    (accepted : AcceptedSink s) (codec : convertInterleaveToMapped s.rtpStreamInfo.codec = some f)
    (frame : RTPFrame) (pos : Nat) (offset : UInt32) {n : UInt32} (someSample : n ≠ 0)
    (mem : RingMemory) :
    Succeeds (convertToLivesIn s (fun k => frame.read (pos + k)) s.livesInCircularBuffer offset n mem) ↔
      AllMapped s ∧ pos + n.toNat * rowBytes s f ≤ frame.bytes.length := by
  have someChannel : s.rtpStreamInfo.nbOfChannels.toNat ≠ 0 := fun zero =>
    accepted.valid.someChannel (UInt8.toNat_inj.mp zero)
  have some : n.toNat ≠ 0 := fun zero => someSample (UInt32.toNat_inj.mp zero)
  have width : 0 < f.width.toNat := by cases f <;> decide
  constructor
  · intro done
    rw [convertToLivesIn, accepted.convert, codec] at done
    have all := f.call_succeeds done
    simp only [UInt8.toNat_toUInt32, RTPFrame.read_succeeds_iff, f.samplePos_eq] at all
    refine ⟨fun us below => (all us below 0 (by omega)).1, ?_⟩
    have last := (all (s.rtpStreamInfo.nbOfChannels.toNat - 1) (by omega) (n.toNat - 1) (by omega)).2
      (f.width.toNat - 1) (by omega)
    have row : rowBytes s f = f.width.toNat * (s.rtpStreamInfo.nbOfChannels.toNat - 1) + f.width.toNat := by
      rw [← Nat.mul_succ, Nat.succ_eq_add_one, Nat.sub_add_cancel (by omega), rowBytes, Nat.mul_comm]
    have rows : n.toNat * rowBytes s f = (n.toNat - 1) * rowBytes s f + rowBytes s f := by
      rw [← Nat.succ_mul, Nat.succ_eq_add_one, Nat.sub_add_cancel (by omega)]
    omega
  · rintro ⟨mapped, fits⟩
    exact ⟨_, accepted.convert_eq codec offset mem mapped fits⟩

theorem outPos_le (offset : UInt32) : outPos offset ≤ offset.toNat := by
  have le : (offset * 4).toNat ≤ offset.toNat * 4 := by
    rw [UInt32.toNat_mul]
    exact Nat.mod_le _ _
  rw [outPos]
  omega

theorem AcceptedSink.writeLivesIn_succeeds_iff {s : RTPAudioStream} {f : InterleaveToMapped}
    (accepted : AcceptedSink s) (codec : convertInterleaveToMapped s.rtpStreamInfo.codec = some f)
    (ops : RTPAudioStreamOps) (frame : RTPFrame) (pos : Nat) (offset n : UInt32) (mem : RingMemory) :
    Succeeds (writeLivesIn s ops (fun k => frame.read (pos + k)) offset n mem) ↔
      n = 0 ∨ (outPos offset + n.toNat ≤ ops.liveInJitterBufferLength.toNat ∧
        AllMapped s ∧ pos + n.toNat * rowBytes s f ≤ frame.bytes.length) := by
  rw [writeLivesIn]
  by_cases empty : n = 0
  · rw [if_neg (by rw [empty]; decide)]
    exact iff_of_true (succeeds_ok mem) (.inl empty)
  · have positive : n > 0 := UInt32.pos_iff_ne_zero.mpr empty
    rw [if_pos positive, succeeds_guard, accepted.convert_succeeds_iff codec _ _ _ empty,
      or_iff_right empty]

def ringOffset (ops : RTPAudioStreamOps) (sac : UInt64) : UInt32 :=
  (sac % ops.liveInJitterBufferLength.toUInt64).toUInt32

def samplesToEnd (ops : RTPAudioStreamOps) (sac : UInt64) (n : UInt32) : UInt32 :=
  min (ops.liveInJitterBufferLength - ringOffset ops sac) n

/-- The audio of `n` samples behind `payload` was received, and goes into the ring at most once. -/
def AudioInside (s : RTPAudioStream) (ops : RTPAudioStreamOps) (frame : RTPFrame) (payload : Nat)
    (sac : UInt64) (n : UInt32) : Prop :=
  let front := samplesToEnd ops sac n
  let back := n - front
  let skip := (front * s.rtpStreamInfo.wordLength.toUInt32 * getNbOfLivesIn s).toNat
  ∀ f, convertInterleaveToMapped s.rtpStreamInfo.codec = some f →
    payload + front.toNat * rowBytes s f ≤ frame.bytes.length ∧
      (back = 0 ∨ (back ≤ ops.liveInJitterBufferLength ∧
        payload + skip + back.toNat * rowBytes s f ≤ frame.bytes.length))

theorem getLiveInJitterBufferOffset_eq {ops : RTPAudioStreamOps}
    (someRing : ops.liveInJitterBufferLength ≠ 0) (sac : UInt64) :
    getLiveInJitterBufferOffset ops sac = .ok (ringOffset ops sac) := by
  rw [getLiveInJitterBufferOffset, cwLlModulo, UInt32.toUInt32_toUInt64, if_neg someRing]
  rfl

theorem ringOffset_lt {ops : RTPAudioStreamOps} (someRing : ops.liveInJitterBufferLength ≠ 0)
    (sac : UInt64) : (ringOffset ops sac).toNat < ops.liveInJitterBufferLength.toNat := by
  have positive : 0 < ops.liveInJitterBufferLength.toNat := Nat.pos_of_ne_zero fun zero =>
    someRing (UInt32.toNat_inj.mp zero)
  have below := Nat.mod_lt sac.toNat positive
  have bound := ops.liveInJitterBufferLength.toNat_lt
  rw [ringOffset, UInt64.toNat_toUInt32, UInt64.toNat_mod, UInt32.toNat_toUInt64,
    Nat.mod_eq_of_lt (by omega)]
  exact below

theorem samplesToEnd_toNat {ops : RTPAudioStreamOps} (someRing : ops.liveInJitterBufferLength ≠ 0)
    (sac : UInt64) (n : UInt32) : (samplesToEnd ops sac n).toNat =
      min (ops.liveInJitterBufferLength.toNat - (ringOffset ops sac).toNat) n.toNat := by
  have below := ringOffset_lt someRing sac
  rw [samplesToEnd, toNat_min, UInt32.toNat_sub_of_le _ _ (UInt32.le_iff_toNat_le.mpr (by omega))]

theorem AcceptedSink.copy_succeeds_iff {s : RTPAudioStream} (accepted : AcceptedSink s)
    (ops : RTPAudioStreamOps) (frame : RTPFrame) (payload : Nat) (sac : UInt64) {n : UInt32}
    (someSample : n ≠ 0) (mem : RingMemory) :
    Succeeds (copyToLivesIn s ops frame payload sac n mem) ↔
      ops.liveInJitterBufferLength ≠ 0 ∧ AllMapped s ∧ AudioInside s ops frame payload sac n := by
  by_cases noRing : ops.liveInJitterBufferLength = 0
  · have fault : getLiveInJitterBufferOffset ops sac = .error .divideByZero := by
      rw [getLiveInJitterBufferOffset, cwLlModulo, noRing]
      rfl
    rw [copyToLivesIn, fault]
    exact iff_of_false (not_succeeds_error _) fun inside => inside.1 noRing
  obtain ⟨f, codec⟩ := Option.isSome_iff_exists.mp accepted.converts
  have below := ringOffset_lt noRing sac
  have front := samplesToEnd_toNat noRing sac n
  have atStart := outPos_le (ringOffset ops sac)
  have frontSome : samplesToEnd ops sac n ≠ 0 := by
    intro zero
    have some : n.toNat ≠ 0 := fun none => someSample (UInt32.toNat_inj.mp none)
    have isZero := congrArg UInt32.toNat zero
    rw [front, UInt32.toNat_zero] at isZero
    omega
  rw [copyToLivesIn, getLiveInJitterBufferOffset_eq noRing, ok_bind, ← samplesToEnd, succeeds_bind]
  constructor
  · rintro ⟨mem', first, second⟩
    obtain ⟨-, mapped, inFrame⟩ :=
      ((accepted.writeLivesIn_succeeds_iff codec ..).mp ⟨mem', first⟩).resolve_left frontSome
    refine ⟨noRing, mapped, ?_⟩
    intro g isG
    cases codec.symm.trans isG
    refine ⟨inFrame, ?_⟩
    exact ((accepted.writeLivesIn_succeeds_iff codec ..).mp second).imp id fun ⟨ring, _, inFrame⟩ =>
      ⟨UInt32.le_iff_toNat_le.mpr (by simpa [outPos] using ring), inFrame⟩
  · rintro ⟨-, mapped, inside⟩
    obtain ⟨inFrame, back⟩ := inside f codec
    obtain ⟨mem', first⟩ := (accepted.writeLivesIn_succeeds_iff codec ops frame payload
      (ringOffset ops sac) (samplesToEnd ops sac n) mem).mpr (.inr ⟨by omega, mapped, inFrame⟩)
    refine ⟨mem', first, (accepted.writeLivesIn_succeeds_iff codec ..).mpr ?_⟩
    exact back.imp id fun ⟨ring, inFrame⟩ =>
      ⟨by simpa [outPos] using UInt32.le_iff_toNat_le.mp ring, mapped, inFrame⟩

def claimedSkip (frame : RTPFrame) : UInt32 :=
  let version := frame.packetBase.rtpHeader.version
  let csrc := (rtpGetCC version).toUInt32 * 4
  if rtpIsExtension version then
    csrc + (4 + (mtalSwap16 (load16 frame.byte (sizeofRTPPacketBase + 2))).toUInt32 * 4)
  else csrc

theorem claimedSkip_of_plain (frame : RTPFrame)
    (plain : frame.packetBase.rtpHeader.version = 0x80) : claimedSkip frame = 0 := by
  rw [claimedSkip, plain]
  rfl

def claimedSamples (s : RTPAudioStream) (frame : RTPFrame) : UInt32 :=
  payloadLength frame (claimedSkip frame) /
    (getNbOfLivesIn s * s.rtpStreamInfo.wordLength.toUInt32)

def arrivalSAC (s : RTPAudioStream) (ops : RTPAudioStreamOps) (frame : RTPFrame) : UInt64 :=
  expandSAC (mtalSwap32 frame.packetBase.rtpHeader.timestamp - s.rtpStreamInfo.rtpTimestampOffset)
    ops.globalSAC + s.rtpStreamInfo.playOutDelay.toUInt64

/-- The extension header was received and the audio can be counted in samples. -/
def Countable (s : RTPAudioStream) (frame : RTPFrame) : Prop :=
  (rtpIsExtension frame.packetBase.rtpHeader.version = true →
    sizeofRTPPacketBase + 4 ≤ frame.bytes.length) ∧ s.rtpStreamInfo.wordLength ≠ 0

/-- A packet for `s` whose claims about itself are met by what was received, unless the
checks of its header drop it. -/
def PacketSafe (s : RTPAudioStream) (partner : Option RTPStream) (ops : RTPAudioStreamOps)
    (frame : RTPFrame) : Prop :=
  let n := claimedSamples s frame
  let sac := arrivalSAC s ops frame
  (checkRTPHeader s frame.packetBase.rtpHeader).2 = true → Countable s frame ∧
    (n = 0 ∨ (ops.frameSize ≠ 0 ∧ (alreadyCopied partner (sac + n.toUInt64) = true ∨
      (ops.liveInJitterBufferLength ≠ 0 ∧ AllMapped s ∧
        AudioInside s ops frame (sizeofRTPPacketBase + (claimedSkip frame).toNat) sac n))))

theorem csrcExtensionLength_eq (frame : RTPFrame) :
    csrcExtensionLength frame =
      if rtpIsExtension frame.packetBase.rtpHeader.version = true →
        sizeofRTPPacketBase + 4 ≤ frame.bytes.length then .ok (claimedSkip frame)
      else .error .readPast := by
  rw [csrcExtensionLength, claimedSkip]
  by_cases extension : rtpIsExtension frame.packetBase.rtpHeader.version = true
  · simp only [extension, if_true, true_implies]
    by_cases received : sizeofRTPPacketBase + 4 ≤ frame.bytes.length
    · have low : frame.read (sizeofRTPPacketBase + 2) = .ok (frame.byte (sizeofRTPPacketBase + 2)) :=
        if_pos (by omega)
      have high : frame.read (sizeofRTPPacketBase + 3) = .ok (frame.byte (sizeofRTPPacketBase + 3)) :=
        if_pos (by omega)
      rw [low, high, if_pos received]
      rfl
    · rw [if_neg received]
      by_cases lowReceived : sizeofRTPPacketBase + 2 < frame.bytes.length
      · have low : frame.read (sizeofRTPPacketBase + 2) = .ok (frame.byte (sizeofRTPPacketBase + 2)) :=
          if_pos lowReceived
        have high : frame.read (sizeofRTPPacketBase + 3) = .error .readPast := if_neg (by omega)
        rw [low, high]
        rfl
      · have low : frame.read (sizeofRTPPacketBase + 2) = .error .readPast := if_neg lowReceived
        rw [low]
        rfl
  · rw [if_neg extension, if_pos fun isExtension => absurd isExtension extension, if_neg extension]

theorem AcceptedSink.nbOfSamplesInPacket_eq {s : RTPAudioStream} (accepted : AcceptedSink s)
    (frame : RTPFrame) : nbOfSamplesInPacket s (payloadLength frame (claimedSkip frame)) =
      if s.rtpStreamInfo.wordLength ≠ 0 then .ok (claimedSamples s frame)
      else .error .divideByZero := by
  have channels := s.rtpStreamInfo.nbOfChannels.toNat_lt
  have word := s.rtpStreamInfo.wordLength.toNat_lt
  have small : s.rtpStreamInfo.nbOfChannels.toNat * s.rtpStreamInfo.wordLength.toNat < 2 ^ 32 :=
    calc _ ≤ 255 * 255 := Nat.mul_le_mul (by omega) (by omega)
      _ < 2 ^ 32 := by norm_num
  have sampleBytes : getNbOfLivesIn s * s.rtpStreamInfo.wordLength.toUInt32 = 0 ↔
      s.rtpStreamInfo.wordLength = 0 := by
    rw [getNbOfLivesIn, accepted.sink, ← UInt32.toNat_inj, ← UInt8.toNat_inj]
    simp only [Bool.false_eq_true, if_false, UInt32.toNat_mul, UInt8.toNat_toUInt32,
      Nat.mod_eq_of_lt small, UInt32.toNat_zero, Nat.mul_eq_zero, UInt8.toNat_zero]
    exact or_iff_right fun zero => accepted.valid.someChannel (UInt8.toNat_inj.mp zero)
  rw [nbOfSamplesInPacket, claimedSamples]
  by_cases noWord : s.rtpStreamInfo.wordLength = 0
  · rw [if_neg (not_not.mpr noWord)]
    exact if_pos (sampleBytes.mpr noWord)
  · rw [if_pos noWord]
    exact if_neg (mt sampleBytes.mp noWord)

theorem AcceptedSink.updateSinkAheadTime_succeeds_iff {s : RTPAudioStream} (accepted : AcceptedSink s)
    (ops : RTPAudioStreamOps) (sac : UInt64) :
    Succeeds (updateSinkAheadTime s ops sac) ↔ ops.frameSize ≠ 0 := by
  rw [updateSinkAheadTime, cwLlModulo, UInt32.toUInt32_toUInt64]
  by_cases noFrame : ops.frameSize = 0
  · rw [if_pos noFrame]
    exact iff_of_false (not_succeeds_error _) fun some => some noFrame
  · rw [if_neg noFrame, ok_bind]
    simp only [accepted.valid.rate, if_false]
    exact iff_of_true (succeeds_ok _) noFrame

namespace SameStream

variable {s t : RTPAudioStream} (same : SameStream s t)

include same

theorem claimedSamples (frame : RTPFrame) : claimedSamples t frame = claimedSamples s frame := by
  obtain ⟨_, _, info⟩ := same.info
  simp only [RavennaLkm.claimedSamples, getNbOfLivesIn, info]

theorem arrivalSAC (ops : RTPAudioStreamOps) (frame : RTPFrame) :
    arrivalSAC t ops frame = arrivalSAC s ops frame := by
  obtain ⟨_, _, info⟩ := same.info
  simp only [RavennaLkm.arrivalSAC, info]

theorem allMapped : AllMapped t ↔ AllMapped s := by
  rw [AllMapped, same.nbOfChannels, same.livesIn]
  exact Iff.rfl

theorem audioInside (ops : RTPAudioStreamOps) (frame : RTPFrame) (payload : Nat) (sac : UInt64)
    (n : UInt32) : AudioInside t ops frame payload sac n ↔ AudioInside s ops frame payload sac n := by
  obtain ⟨_, _, info⟩ := same.info
  simp only [AudioInside, rowBytes, getNbOfLivesIn, info]

theorem wordLength : t.rtpStreamInfo.wordLength = s.rtpStreamInfo.wordLength := by
  obtain ⟨_, _, info⟩ := same.info
  rw [info]

end SameStream

theorem AcceptedSink.copyAudio_succeeds_iff {s : RTPAudioStream} (accepted : AcceptedSink s)
    (partner : Option RTPStream) (ops : RTPAudioStreamOps) (frame : RTPFrame) (payload : Nat)
    (sac : UInt64) {n : UInt32} (someSample : n ≠ 0) (mem : RingMemory) :
    Succeeds (copyAudio s partner ops frame payload sac n mem) ↔
      alreadyCopied partner (sac + n.toUInt64) = true ∨ (ops.liveInJitterBufferLength ≠ 0 ∧
        AllMapped s ∧ AudioInside s ops frame payload sac n) := by
  rw [copyAudio]
  by_cases copied : alreadyCopied partner (sac + n.toUInt64) = true
  · rw [if_pos copied]
    exact iff_of_true (succeeds_ok mem) (.inl copied)
  · rw [if_neg copied, or_iff_right copied]
    exact accepted.copy_succeeds_iff ops frame payload sac someSample mem

theorem AcceptedSink.receiveAudio_succeeds_iff {s : RTPAudioStream} (accepted : AcceptedSink s)
    (partner : Option RTPStream) (ops : RTPAudioStreamOps) (frame : RTPFrame) (payload : Nat)
    {n : UInt32} (someSample : n ≠ 0) (mem : RingMemory) :
    Succeeds (receiveAudio s partner ops frame payload n mem) ↔ ops.frameSize ≠ 0 ∧
      (alreadyCopied partner (arrivalSAC s ops frame + n.toUInt64) = true ∨
        (ops.liveInJitterBufferLength ≠ 0 ∧ AllMapped s ∧
          AudioInside s ops frame payload (arrivalSAC s ops frame) n)) := by
  have timed := checkTimestamp_same s
    (mtalSwap32 frame.packetBase.rtpHeader.timestamp - s.rtpStreamInfo.rtpTimestampOffset) n
  have acceptedTimed := accepted.same timed
  have copies := fun mem => acceptedTimed.copyAudio_succeeds_iff partner ops frame payload
    (arrivalSAC s ops frame) someSample mem
  simp only [timed.allMapped, timed.audioInside] at copies
  rw [receiveAudio, ← copies mem, succeeds_bind, and_comm]
  constructor
  · rintro ⟨mem', copied, ahead⟩
    obtain ⟨t, updated, -⟩ := succeeds_bind.mp ahead
    exact ⟨⟨mem', copied⟩, (acceptedTimed.updateSinkAheadTime_succeeds_iff ops _).mp ⟨t, updated⟩⟩
  · rintro ⟨⟨mem', copied⟩, someFrame⟩
    obtain ⟨t, updated⟩ := (acceptedTimed.updateSinkAheadTime_succeeds_iff ops
      (arrivalSAC s ops frame)).mpr someFrame
    exact ⟨mem', copied, succeeds_bind.mpr ⟨t, updated, succeeds_ok _⟩⟩

/-- A packet is processed without a fault exactly when what it claims was received. -/
theorem AcceptedSink.process_succeeds_iff {s : RTPAudioStream} (accepted : AcceptedSink s)
    (partner : Option RTPStream) (ops : RTPAudioStreamOps) (frame : RTPFrame) (mem : RingMemory) :
    Succeeds (processRTPAudioPacket s partner ops frame mem) ↔ PacketSafe s partner ops frame := by
  unfold processRTPAudioPacket PacketSafe
  simp only
  by_cases passes : (checkRTPHeader s frame.packetBase.rtpHeader).2 = true
  · have same := (checkRTPHeader_same s frame.packetBase.rtpHeader).trans
      (checkSeqNum_same _ (mtalSwap16 frame.packetBase.rtpHeader.seqNum))
    have checked := accepted.same same
    rw [if_pos passes, forall_prop_of_true passes, csrcExtensionLength_eq]
    generalize checkSeqNum (checkRTPHeader s frame.packetBase.rtpHeader).1
      (mtalSwap16 frame.packetBase.rtpHeader.seqNum) = t at same checked ⊢
    by_cases received : rtpIsExtension frame.packetBase.rtpHeader.version = true →
        sizeofRTPPacketBase + 4 ≤ frame.bytes.length
    · rw [if_pos received, ok_bind, checked.nbOfSamplesInPacket_eq, same.wordLength,
        same.claimedSamples, Countable, and_iff_right received]
      by_cases noWord : s.rtpStreamInfo.wordLength = 0
      · rw [if_neg (not_not.mpr noWord)]
        exact iff_of_false (not_succeeds_error _) fun all => all.1 noWord
      · rw [if_pos noWord, ok_bind, and_iff_right noWord]
        by_cases noSample : claimedSamples s frame = 0
        · rw [if_pos noSample]
          exact iff_of_true (succeeds_ok _) (.inl noSample)
        · have receives := checked.receiveAudio_succeeds_iff partner ops frame
            (sizeofRTPPacketBase + (claimedSkip frame).toNat) noSample mem
          rw [same.arrivalSAC, same.allMapped, same.audioInside] at receives
          rw [if_neg noSample, or_iff_right noSample, ← receives, succeeds_bind]
          exact ⟨fun ⟨done, ok, _⟩ => ⟨done, ok⟩, fun ⟨done, ok⟩ => ⟨done, ok, succeeds_ok _⟩⟩
    · rw [if_neg received]
      exact iff_of_false (not_succeeds_error _) fun all => received all.1.1
  · rw [if_neg passes]
    exact iff_of_true (succeeds_ok _) fun passed => absurd passed passes

structure OfSequence (ssrc : UInt32) (s : RTPAudioStream) (h : RTPHeader) : Prop where
  noPadding : rtpIsPadding h.version = false
  version : rtpGetVersion h.version = 2
  payloadType : h.payloadType = s.rtpStreamInfo.payloadType
  ssrc : mtalSwap32 h.ssrc = ssrc

def Follows (ssrc : UInt32) (s : RTPAudioStream) : Prop :=
  s.rtpStreamInfo.ssrcInitialized = true → s.rtpStreamInfo.ssrc = ssrc

def endSAC (s : RTPAudioStream) (ops : RTPAudioStreamOps) (frame : RTPFrame) : UInt64 :=
  arrivalSAC s ops frame + (claimedSamples s frame).toUInt64

theorem checkRTPHeader_of_sequence {ssrc : UInt32} {s : RTPAudioStream} {h : RTPHeader}
    (ofSequence : OfSequence ssrc s h) (follows : Follows ssrc s) :
    (checkRTPHeader s h).2 = true ∧ Follows ssrc (checkRTPHeader s h).1 := by
  obtain ⟨noPadding, version, payloadType, isSSRC⟩ := ofSequence
  unfold checkRTPHeader
  simp only [noPadding, version, payloadType, isSSRC, Bool.false_eq_true, if_false, ne_eq,
    not_true_eq_false]
  cases learned : s.rtpStreamInfo.ssrcInitialized with
  | false => exact ⟨rfl, fun _ => rfl⟩
  | true =>
    simp only [Bool.not_true, Bool.false_eq_true, if_false, follows learned, not_true_eq_false]
    exact ⟨trivial, fun _ => follows learned⟩

theorem updateSinkAheadTime_stream {s t : RTPAudioStream} {ops : RTPAudioStreamOps} {sac : UInt64}
    (done : updateSinkAheadTime s ops sac = .ok t) : t.toRTPStream = s.toRTPStream := by
  obtain ⟨inFrame, -, rest⟩ := bind_eq_ok.mp done
  simp only at rest
  split_ifs at rest
  all_goals
    cases rest
    rfl

theorem SameStream.copyAudio {s t : RTPAudioStream} (same : SameStream s t) (partner : Option RTPStream)
    (ops : RTPAudioStreamOps) (frame : RTPFrame) (payload : Nat) (sac : UInt64) (n : UInt32)
    (mem : RingMemory) :
    copyAudio t partner ops frame payload sac n mem = copyAudio s partner ops frame payload sac n mem := by
  obtain ⟨_, _, info⟩ := same.info
  simp only [RavennaLkm.copyAudio, copyToLivesIn, writeLivesIn, convertToLivesIn, getNbOfLivesIn, info,
    same.livesIn, same.convertIn]

theorem AcceptedSink.received {ssrc : UInt32} {s t : RTPAudioStream} (accepted : AcceptedSink s)
    {partner : Option RTPStream} {ops : RTPAudioStreamOps} {frame : RTPFrame} {mem mem' : RingMemory}
    {used : Bool} (ofSequence : OfSequence ssrc s frame.packetBase.rtpHeader) (follows : Follows ssrc s)
    (someSample : claimedSamples s frame ≠ 0)
    (processed : processRTPAudioPacket s partner ops frame mem = .ok (t, mem', used)) :
    t.lastAudioSampleReceivedSAC = endSAC s ops frame ∧ Follows ssrc t ∧
      copyAudio s partner ops frame (sizeofRTPPacketBase + (claimedSkip frame).toNat)
        (arrivalSAC s ops frame) (claimedSamples s frame) mem = .ok mem' := by
  obtain ⟨passes, learned⟩ := checkRTPHeader_of_sequence ofSequence follows
  have same := (checkRTPHeader_same s frame.packetBase.rtpHeader).trans
    (checkSeqNum_same _ (mtalSwap16 frame.packetBase.rtpHeader.seqNum))
  have checked := accepted.same same
  have learned : Follows ssrc (checkSeqNum (checkRTPHeader s frame.packetBase.rtpHeader).1
    (mtalSwap16 frame.packetBase.rtpHeader.seqNum)) := learned
  unfold processRTPAudioPacket at processed
  simp only [if_pos passes] at processed
  generalize checkSeqNum (checkRTPHeader s frame.packetBase.rtpHeader).1
    (mtalSwap16 frame.packetBase.rtpHeader.seqNum) = u at same checked learned processed
  obtain ⟨skip, isSkip, rest⟩ := bind_eq_ok.mp processed
  rw [csrcExtensionLength_eq] at isSkip
  split at isSkip
  · cases isSkip
    obtain ⟨n, isN, rest⟩ := bind_eq_ok.mp rest
    rw [checked.nbOfSamplesInPacket_eq, same.claimedSamples] at isN
    split at isN
    · cases isN
      rw [if_neg someSample] at rest
      obtain ⟨⟨v, mem''⟩, received, last⟩ := bind_eq_ok.mp rest
      cases last
      obtain ⟨copiedMem, copied, rest⟩ := bind_eq_ok.mp received
      obtain ⟨w, updated, last⟩ := bind_eq_ok.mp rest
      cases last
      have stream := updateSinkAheadTime_stream updated
      have timed := checkTimestamp_same u
        (mtalSwap32 frame.packetBase.rtpHeader.timestamp - u.rtpStreamInfo.rtpTimestampOffset)
        (claimedSamples s frame)
      rw [(same.trans timed).copyAudio] at copied
      have sac : expandSAC (mtalSwap32 frame.packetBase.rtpHeader.timestamp -
          u.rtpStreamInfo.rtpTimestampOffset) ops.globalSAC + u.rtpStreamInfo.playOutDelay.toUInt64 =
          arrivalSAC s ops frame := same.arrivalSAC ops frame
      refine ⟨?_, ?_, ?_⟩
      · exact congrArg (· + _) sac
      · have info : w.rtpStreamInfo = u.rtpStreamInfo := (congrArg RTPStream.rtpStreamInfo stream :)
        change w.rtpStreamInfo.ssrcInitialized = true → w.rtpStreamInfo.ssrc = ssrc
        rw [info]
        exact learned
      · rw [← sac]
        exact copied
    · cases isN
  · cases isSkip

end RavennaLkm
