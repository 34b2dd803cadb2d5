import RavennaLkm.PacketRoundTrip
import RavennaLkm.Lib.CellWrites

/-!
From the playback rings of a source to the capture rings of a sink: one frame,
sent in packets, each received packet by packet. Both rings may wrap anywhere
in the frame.
-/
namespace RavennaLkm
open CheckedLoop Gather CellWrites

abbrev ChannelSample := Nat × Nat

namespace InterleaveToMapped

theorem deInterleaved_writes (g : InterleaveToMapped) (b : Nat → UInt8) (base : Nat → Nat)
    (offset nbChannels nbSamples : UInt32) (mem : RingMemory)
    (distinct : ∀ ch < nbChannels.toNat, ∀ i < nbSamples.toNat,
      ∀ ch' < nbChannels.toNat, ∀ i' < nbSamples.toNat,
        base ch + (outPos offset + i) = base ch' + (outPos offset + i') → ch = ch' ∧ i = i') :
    Writes (fun k : ChannelSample => k.1 < nbChannels.toNat ∧ k.2 < nbSamples.toNat)
      (fun k => base k.1 + (outPos offset + k.2)) (fun k => g.decode b (g.samplePos nbChannels k.1 k.2))
      mem (g.deInterleaved b base offset nbChannels nbSamples mem) :=
  Writes.grid_distinct mem distinct

end InterleaveToMapped

def DistinctRings (s : RTPAudioStream) (length : Nat) : Prop :=
  ∀ ch < s.rtpStreamInfo.nbOfChannels.toNat, ∀ ch' < s.rtpStreamInfo.nbOfChannels.toNat,
    ∀ i < length, ∀ i' < length, liveInBase s ch + i = liveInBase s ch' + i' → ch = ch'

def Samples (s : RTPAudioStream) (n : Nat) (k : ChannelSample) : Prop :=
  k.1 < s.rtpStreamInfo.nbOfChannels.toNat ∧ k.2 < n

def ringCell (s : RTPAudioStream) (length start : Nat) (k : ChannelSample) : Nat :=
  liveInBase s k.1 + (start + k.2) % length

def audioPos (s : RTPAudioStream) (g : InterleaveToMapped) (payload : Nat) (k : ChannelSample) : Nat :=
  payload + (g.width.toNat * k.1 + k.2 * rowBytes s g)

namespace DistinctRings

variable {s : RTPAudioStream} {length : Nat} (distinct : DistinctRings s length)

include distinct

theorem sample_unique {start n : Nat} {j k : ChannelSample} (once : n ≤ length) (first : Samples s n j)
    (second : Samples s n k) (same : ringCell s length start j = ringCell s length start k) : j = k := by
  obtain ⟨channel, below⟩ := first
  obtain ⟨channel', below'⟩ := second
  have positive : 0 < length := by omega
  have sameChannel := distinct j.1 channel k.1 channel' _ (Nat.mod_lt _ positive) _
    (Nat.mod_lt _ positive) same
  rw [ringCell, ringCell, sameChannel] at same
  exact Prod.ext sameChannel
    (ring_index_injective (by omega) (by omega) (Nat.add_left_cancel same))

theorem append {start m n : Nat} {value : ChannelSample → Sample} {before middle after : RingMemory}
    (once : m + n ≤ length) (first : Writes (Samples s m) (ringCell s length start) value before middle)
    (second : Writes (Samples s n) (ringCell s length (start + m)) (fun k => value (k.1, m + k.2))
      middle after) : Writes (Samples s (m + n)) (ringCell s length start) value before after := by
  have later := second.reindex (fun k => (k.1, m + k.2)) (ringCell s length start) value
    (fun k _ => by rw [ringCell, ringCell, Nat.add_assoc]) fun k _ => rfl
  refine (first.append later ?_).congr ?_
  · rintro j _ isFirst ⟨k, isSecond, rfl⟩ same
    have bound := isFirst.2
    have sameSample := distinct.sample_unique once ⟨isFirst.1, by omega⟩
      (k := (k.1, m + k.2)) ⟨isSecond.1, Nat.add_lt_add_left isSecond.2 m⟩ same
    rw [sameSample]
  · rintro ⟨ch, i⟩
    constructor
    · rintro ⟨channel, below⟩
      by_cases early : i < m
      · exact .inl ⟨channel, early⟩
      · have position : m + (i - m) = i := by omega
        exact .inr ⟨(ch, i - m), ⟨channel, by omega⟩, Prod.ext rfl position⟩
    · rintro (⟨channel, below⟩ | ⟨k, ⟨channel, below⟩, isK⟩)
      · exact ⟨channel, by omega⟩
      · cases isK
        exact ⟨channel, Nat.add_lt_add_left below m⟩

end DistinctRings

theorem outPos_eq {offset : UInt32} (small : offset.toNat < 2 ^ 30) : outPos offset = offset.toNat := by
  have bytes : (offset * 4).toNat = offset.toNat * 4 := by
    rw [UInt32.toNat_mul]
    exact Nat.mod_eq_of_lt (by change offset.toNat * 4 < _; omega)
  rw [outPos, bytes, Nat.mul_div_cancel _ (by decide)]

theorem AcceptedSink.piece_writes {s : RTPAudioStream} {g : InterleaveToMapped}
    (accepted : AcceptedSink s) (codec : convertInterleaveToMapped s.rtpStreamInfo.codec = some g)
    {ops : RTPAudioStreamOps} {frame : RTPFrame} {pos : Nat} {offset n : UInt32}
    {mem mem' : RingMemory} (distinct : DistinctRings s ops.liveInJitterBufferLength.toNat)
    (run : writeLivesIn s ops (fun k => frame.read (pos + k)) offset n mem = .ok mem') :
    Writes (Samples s n.toNat) (fun k => liveInBase s k.1 + (outPos offset + k.2))
      (fun k => g.decode frame.byte (audioPos s g pos k)) mem mem' := by
  rcases (accepted.writeLivesIn_succeeds_iff codec ..).mp ⟨mem', run⟩ with empty | ⟨ring, mapped, fits⟩
  · rw [empty] at run ⊢
    cases run
    exact .none fun k inside => Nat.not_lt_zero _ inside.2
  · by_cases empty : n = 0
    · rw [empty] at run ⊢
      cases run
      exact .none fun k inside => Nat.not_lt_zero _ inside.2
    · rw [writeLivesIn, if_pos (UInt32.pos_iff_ne_zero.mpr empty), if_pos ring,
        accepted.convert_eq codec offset mem mapped fits] at run
      cases run
      have writes := g.deInterleaved_writes (fun k => frame.byte (pos + k)) (liveInBase s) offset
        s.rtpStreamInfo.nbOfChannels.toUInt32 n mem (by
          rw [UInt8.toNat_toUInt32]
          intro ch chBelow i iBelow ch' chBelow' i' iBelow' same
          have channel := distinct ch chBelow ch' chBelow' _ (by omega) _ (by omega) same
          subst channel
          omega)
      simp only [g.samplePos_eq, g.decode_shift, UInt8.toNat_toUInt32] at writes
      exact writes

theorem ringOffset_toNat {ops : RTPAudioStreamOps} (someRing : ops.liveInJitterBufferLength ≠ 0)
    (sac : UInt64) :
    (ringOffset ops sac).toNat = sac.toNat % ops.liveInJitterBufferLength.toNat := by
  have positive : 0 < ops.liveInJitterBufferLength.toNat := Nat.pos_of_ne_zero fun zero =>
    someRing (UInt32.toNat_inj.mp zero)
  have below := Nat.mod_lt sac.toNat positive
  have bound := ops.liveInJitterBufferLength.toNat_lt
  rw [ringOffset, UInt64.toNat_toUInt32, UInt64.toNat_mod, UInt32.toNat_toUInt64,
    Nat.mod_eq_of_lt (by omega)]

theorem AcceptedSink.skip_toNat {s : RTPAudioStream} {g : InterleaveToMapped} (accepted : AcceptedSink s)
    (wordLength : s.rtpStreamInfo.wordLength.toNat = g.width.toNat) {front n : UInt32}
    (le : front.toNat ≤ n.toNat) (noWrap : n.toNat * rowBytes s g < 2 ^ 32) :
    (front * s.rtpStreamInfo.wordLength.toUInt32 * getNbOfLivesIn s).toNat =
      front.toNat * rowBytes s g := by
  have small : front.toNat * rowBytes s g ≤ n.toNat * rowBytes s g := Nat.mul_le_mul_right _ le
  rw [getNbOfLivesIn, accepted.sink, rowBytes, ← wordLength]
  exact pieceBytes_toNat s (by rw [wordLength]; change _ * rowBytes s g < _; omega)

theorem AcceptedSink.audioInside {s : RTPAudioStream} {g : InterleaveToMapped} (accepted : AcceptedSink s)
    (codec : convertInterleaveToMapped s.rtpStreamInfo.codec = some g)
    (wordLength : s.rtpStreamInfo.wordLength.toNat = g.width.toNat) {ops : RTPAudioStreamOps}
    {frame : RTPFrame} {payload : Nat} {n : UInt32} (sac : UInt64)
    (someRing : ops.liveInJitterBufferLength ≠ 0)
    (once : n.toNat ≤ ops.liveInJitterBufferLength.toNat) (noWrap : n.toNat * rowBytes s g < 2 ^ 32)
    (received : payload + n.toNat * rowBytes s g ≤ frame.bytes.length) :
    AudioInside s ops frame payload sac n := by
  have front := samplesToEnd_toNat someRing sac n
  have back := UInt32.toNat_sub_of_le n (samplesToEnd ops sac n)
    (UInt32.le_iff_toNat_le.mpr (by omega))
  have skip := accepted.skip_toNat wordLength (by omega : (samplesToEnd ops sac n).toNat ≤ _) noWrap
  intro f isF
  cases codec.symm.trans isF
  have rows : n.toNat * rowBytes s g = (samplesToEnd ops sac n).toNat * rowBytes s g +
      (n - samplesToEnd ops sac n).toNat * rowBytes s g := by
    rw [← Nat.add_mul, back, Nat.add_sub_cancel' (by omega)]
  refine ⟨by omega, .inr ⟨UInt32.le_iff_toNat_le.mpr (by omega), ?_⟩⟩
  rw [skip]
  omega

/-- Both pieces together: sample `i` of the packet is in the ring cell of its time. -/
theorem AcceptedSink.copy_writes {s : RTPAudioStream} {g : InterleaveToMapped}
    (accepted : AcceptedSink s) (codec : convertInterleaveToMapped s.rtpStreamInfo.codec = some g)
    (wordLength : s.rtpStreamInfo.wordLength.toNat = g.width.toNat) {ops : RTPAudioStreamOps}
    {frame : RTPFrame} {payload : Nat} {sac : UInt64} {n : UInt32} {mem mem' : RingMemory}
    (distinct : DistinctRings s ops.liveInJitterBufferLength.toNat)
    (someRing : ops.liveInJitterBufferLength ≠ 0)
    (small : ops.liveInJitterBufferLength.toNat ≤ 2 ^ 30)
    (once : n.toNat ≤ ops.liveInJitterBufferLength.toNat) (noWrap : n.toNat * rowBytes s g < 2 ^ 32)
    (run : copyToLivesIn s ops frame payload sac n mem = .ok mem') :
    Writes (Samples s n.toNat) (ringCell s ops.liveInJitterBufferLength.toNat sac.toNat)
      (fun k => g.decode frame.byte (audioPos s g payload k)) mem mem' := by
  have below := ringOffset_lt someRing sac
  have isOffset := ringOffset_toNat someRing sac
  have front := samplesToEnd_toNat someRing sac n
  rw [copyToLivesIn, getLiveInJitterBufferOffset_eq someRing, ok_bind, ← samplesToEnd] at run
  obtain ⟨mem1, first, second⟩ := bind_eq_ok.mp run
  have back := UInt32.toNat_sub_of_le n (samplesToEnd ops sac n)
    (UInt32.le_iff_toNat_le.mpr (by omega))
  have ring : ∀ i < n.toNat, (sac.toNat + i) % ops.liveInJitterBufferLength.toNat =
      if i < ops.liveInJitterBufferLength.toNat - (ringOffset ops sac).toNat then
        (ringOffset ops sac).toNat + i
      else i - (ops.liveInJitterBufferLength.toNat - (ringOffset ops sac).toNat) := by
    intro i iBelow
    rw [← ring_index below (by omega), isOffset, Nat.mod_add_mod]
  have skip := accepted.skip_toNat wordLength (by omega : (samplesToEnd ops sac n).toNat ≤ _) noWrap
  have firstCells := accepted.piece_writes codec distinct first
  have secondCells := accepted.piece_writes codec distinct second
  rw [outPos_eq (by omega)] at firstCells
  rw [outPos_eq (by decide), back, skip] at secondCells
  have total : n.toNat = (samplesToEnd ops sac n).toNat + (n.toNat - (samplesToEnd ops sac n).toNat) := by
    omega
  rw [total]
  apply distinct.append (by omega)
  · refine firstCells.agree (fun k inside => ?_) fun k _ => rfl
    have bound := inside.2
    rw [ringCell, ring _ (by omega), if_pos (by omega)]
  · refine secondCells.agree (fun k inside => ?_) fun k _ => ?_
    · have bound := inside.2
      rw [ringCell, Nat.add_assoc, ring _ (by omega), if_neg (by omega), UInt32.toNat_zero]
      omega
    · dsimp only [audioPos]
      rw [Nat.add_mul]
      congr 1
      omega

/-- The rings of a sink and the frame counter of its engine. -/
structure Receiving (sink : RTPAudioStream) (ops : RTPAudioStreamOps) : Prop where
  someFrame : ops.frameSize ≠ 0
  small : ops.liveInJitterBufferLength.toNat ≤ 2 ^ 30
  distinct : DistinctRings sink ops.liveInJitterBufferLength.toNat

/-- `n` samples from `sac` on that the sink can place by their timestamps, and that the stream
on its other NIC has not received. -/
structure InTime (sink : RTPAudioStream) (partner : Option RTPStream) (ops : RTPAudioStreamOps)
    (sac : UInt64) (n : Nat) : Prop where
  behind : ops.globalSAC.toNat ≤ sac.toNat + (2 ^ 30 - 1)
  ahead : sac.toNat + n ≤ ops.globalSAC.toNat + 2 ^ 30
  noOverflow : sac.toNat + sink.rtpStreamInfo.playOutDelay.toNat + n < 2 ^ 64
  first : ∀ p, partner = some p →
    p.lastAudioSampleReceivedSAC.toNat ≤ sac.toNat + sink.rtpStreamInfo.playOutDelay.toNat

namespace SameStream

variable {s t : RTPAudioStream} (same : SameStream s t)

include same

theorem playOutDelay : t.rtpStreamInfo.playOutDelay = s.rtpStreamInfo.playOutDelay := by
  obtain ⟨_, _, info⟩ := same.info
  rw [info]

theorem liveInBase : liveInBase t = liveInBase s := by
  funext ch
  rw [RavennaLkm.liveInBase, RavennaLkm.liveInBase, same.livesIn]

theorem samples (n : Nat) : Samples t n = Samples s n := by
  funext k
  rw [Samples, Samples, same.nbOfChannels]

theorem ringCell (length start : Nat) : ringCell t length start = ringCell s length start := by
  funext k
  rw [RavennaLkm.ringCell, RavennaLkm.ringCell, same.liveInBase]

theorem receiving {ops : RTPAudioStreamOps} (receiving : Receiving s ops) : Receiving t ops where
  someFrame := receiving.someFrame
  small := receiving.small
  distinct := by
    rw [DistinctRings, same.nbOfChannels, same.liveInBase]
    exact receiving.distinct

end SameStream

namespace InTime

variable {sink t : RTPAudioStream} {partner : Option RTPStream} {ops : RTPAudioStreamOps} {sac : UInt64}
  {m n : Nat}

theorem front (inTime : InTime sink partner ops sac n) (le : m ≤ n) : InTime sink partner ops sac m := by
  obtain ⟨behind, ahead, noOverflow, first⟩ := inTime
  exact ⟨behind, by omega, by omega, first⟩

theorem rest (inTime : InTime sink partner ops sac (m + n)) (same : SameStream sink t) {later : UInt64}
    (isLater : later.toNat = sac.toNat + m) : InTime t partner ops later n := by
  obtain ⟨behind, ahead, noOverflow, first⟩ := inTime
  rw [← same.playOutDelay] at noOverflow first
  refine ⟨by omega, by omega, by omega, ?_⟩
  intro p isPartner
  have before := first p isPartner
  omega

theorem arrival (inTime : InTime sink partner ops sac n) :
    (sac + sink.rtpStreamInfo.playOutDelay.toUInt64).toNat =
      sac.toNat + sink.rtpStreamInfo.playOutDelay.toNat := by
  have noOverflow := inTime.noOverflow
  rw [UInt64.toNat_add, UInt32.toNat_toUInt64]
  omega

theorem notCopied {samples : UInt32} (inTime : InTime sink partner ops sac samples.toNat) (some : samples ≠ 0) :
    alreadyCopied partner (sac + sink.rtpStreamInfo.playOutDelay.toUInt64 + samples.toUInt64) ≠ true := by
  have positive : samples.toNat ≠ 0 := fun zero => some (UInt32.toNat_inj.mp zero)
  have noOverflow := inTime.noOverflow
  cases isPartner : partner with
  | none => exact Bool.false_ne_true
  | some q =>
    have first := inTime.first q isPartner
    simp only [alreadyCopied, ne_eq, ge_iff_le, decide_eq_true_eq, UInt64.le_iff_toNat_le,
      UInt64.toNat_add, UInt32.toNat_toUInt64]
    omega

end InTime

def sourceSample (source : RTPAudioStream) (g : InterleaveToMapped) (ops : RTPAudioStreamOps)
    (livesOut : RingMemory) (offset : Nat) (k : ChannelSample) : Sample :=
  g.truncated (livesOut (ringBase source k.1 + (offset + k.2) % ops.liveOutJitterBufferLength.toNat))

namespace Session

variable {source sink : RTPAudioStream} {g : InterleaveToMapped} {ops sinkOps : RTPAudioStreamOps} {p : Piece}
  {frame : RTPFrame} {livesOut : RingMemory}

theorem decoded_sample (session : Session source sink g)
    (carries : Carries frame (pieceHeader source p) (gather (audioRow g source ops livesOut p.offset) p.n.toNat))
    {k : ChannelSample} (isSample : Samples sink p.n.toNat k) :
    g.decode frame.byte (audioPos sink g sizeofRTPPacketBase k) =
      sourceSample source g ops livesOut p.offset.toNat k := by
  apply g.decode_store
  intro r below
  have channel : k.1 < source.rtpStreamInfo.nbOfChannels.toNat := by
    rw [← session.channels]
    exact isSample.1
  have stored := getElem?_audio g source ops livesOut p.offset isSample.2 channel below
  have long : r < (g.counterpart.store (livesOut (ringBase source k.1 +
      (p.offset.toNat + k.2) % ops.liveOutJitterBufferLength.toNat))).length := by
    rw [g.counterpart.length_store, g.counterpart_width]
    exact below
  rw [List.getElem?_eq_getElem long] at stored ⊢
  rw [← carries.byte stored, audioPos, session.rowBytes_eq]
  simp only [Nat.add_assoc]

theorem packet_safe (session : Session source sink g) (partner : Option RTPStream)
    (carries : Carries frame (pieceHeader source p) (gather (audioRow g source ops livesOut p.offset) p.n.toNat))
    (receiving : Receiving sink sinkOps) (someRing : sinkOps.liveInJitterBufferLength ≠ 0)
    (onceIn : p.n.toNat ≤ sinkOps.liveInJitterBufferLength.toNat) : PacketSafe sink partner sinkOps frame := by
  have audioLength := length_gather (n := p.n.toNat) fun k _ =>
    length_audioRow g source ops livesOut p.offset k
  have audioSmall := carries.small
  rw [audioLength, ← session.rowBytes_eq] at audioSmall
  have received : sizeofRTPPacketBase + p.n.toNat * rowBytes sink g ≤ frame.bytes.length := by
    rw [carries.bytes, List.length_append, RTPPacketBase.length_bytes, audioLength, session.rowBytes_eq]
  have plain : frame.packetBase.rtpHeader.version = 0x80 := by
    rw [carries.packetBase]
    exact session.prepared.version
  have word : sink.rtpStreamInfo.wordLength ≠ 0 := by
    intro zero
    have width := session.wordLength
    rw [zero] at width
    cases g <;> exact absurd width (by decide)
  intro _
  refine ⟨⟨?_, word⟩, .inr ⟨receiving.someFrame, .inr ⟨someRing, session.mapped, ?_⟩⟩⟩
  · rw [plain]
    exact fun extension => absurd extension (by decide)
  · rw [session.claimedSamples_eq carries audioLength, session.claimedSkip_eq carries]
    exact session.sinkAccepted.audioInside session.sinkConverts session.wordLength _ someRing onceIn
      (by omega) received

theorem packet_received (session : Session source sink g) {partner : Option RTPStream}
    (livesOut mem : RingMemory) (fits : LegFits p.n source) (someSample : p.n ≠ 0)
    (inside : p.offset < ops.liveOutJitterBufferLength)
    (small : ops.liveOutJitterBufferLength.toNat ≤ 2 ^ 30)
    (once : p.n.toNat ≤ ops.liveOutJitterBufferLength.toNat)
    (onceIn : p.n.toNat ≤ sinkOps.liveInJitterBufferLength.toNat) (receiving : Receiving sink sinkOps)
    (inTime : InTime sink partner sinkOps p.sac p.n.toNat) :
    ∃ frame t mem' used, (piecePacket source ops livesOut p).received = some frame ∧
      processRTPAudioPacket sink partner sinkOps frame mem = .ok (t, mem', used) ∧ SameStream sink t ∧
      Session source t g ∧
      Writes (Samples sink p.n.toNat) (ringCell sink sinkOps.liveInJitterBufferLength.toNat
          (p.sac.toNat + sink.rtpStreamInfo.playOutDelay.toNat))
        (sourceSample source g ops livesOut p.offset.toNat) mem mem' := by
  obtain ⟨frame, isFrame, carries⟩ := piecePacket_received ops livesOut
    ⟨session.accepted, fits⟩ session.converts
  rw [audio_eq_gather g source livesOut inside small once] at carries
  have audioLength := length_gather (n := p.n.toNat) fun k _ =>
    length_audioRow g source ops livesOut p.offset k
  have nPositive : p.n.toNat ≠ 0 := fun zero => someSample (UInt32.toNat_inj.mp zero)
  have someRing : sinkOps.liveInJitterBufferLength ≠ 0 := by
    intro zero
    rw [zero, UInt32.toNat_zero] at onceIn
    omega
  have audioSmall := carries.small
  rw [audioLength, ← session.rowBytes_eq] at audioSmall
  have samples := session.claimedSamples_eq carries audioLength
  have ahead := inTime.ahead
  have arrival := session.arrivalSAC_eq carries inTime.behind (by omega)
  obtain ⟨⟨t, mem', used⟩, done⟩ := (session.sinkAccepted.process_succeeds_iff partner sinkOps frame mem).mpr
    (session.packet_safe partner carries receiving someRing onceIn)
  have same := processRTPAudioPacket_same done
  have ofSequence := session.ofSequence p
  rw [← carries.packetBase] at ofSequence
  obtain ⟨-, follows, copied⟩ := session.sinkAccepted.received ofSequence session.follows
    (by rw [samples]; exact someSample) done
  rw [samples, session.claimedSkip_eq carries, arrival, copyAudio, if_neg (inTime.notCopied someSample)] at copied
  have writes := session.sinkAccepted.copy_writes session.sinkConverts session.wordLength
    receiving.distinct someRing receiving.small onceIn (by omega) copied
  rw [inTime.arrival] at writes
  refine ⟨frame, t, mem', used, isFrame, done, same, session.next same follows, writes.agree (fun _ _ => rfl) ?_⟩
  intro k isSample
  exact (session.decoded_sample carries isSample).symm

end Session

def arrivedFrames (sent : List (Option TransmittedPacket)) : List RTPFrame :=
  sent.filterMap fun out => out.bind TransmittedPacket.received

def receiveFrames (partner : Option RTPStream) (ops : RTPAudioStreamOps) :
    List RTPFrame → RTPAudioStream → RingMemory → Except Fault (RTPAudioStream × RingMemory)
  | [], s, mem => .ok (s, mem)
  | frame :: frames, s, mem => do
    let received ← processRTPAudioPacket s partner ops frame mem
    receiveFrames partner ops frames received.1 received.2.1

/-- The rounds of a frame, received one after the other, fill the ring of the sink in order. -/
theorem Session.pieces_received {source : RTPAudioStream} {g : InterleaveToMapped}
    {ops sinkOps : RTPAudioStreamOps} {partner : Option RTPStream} (livesOut : RingMemory)
    {maxSamples largest : UInt32} {remaining : Nat} {sac : UInt64} {offset : UInt32} {seqNum : UInt16}
    {pieces : List Piece} (rounds : Rounds ops maxSamples remaining sac offset seqNum pieces)
    (fits : LegFits largest source) (small : ops.liveOutJitterBufferLength.toNat ≤ 2 ^ 30)
    {sink : RTPAudioStream} (session : Session source sink g) (mem : RingMemory)
    (atMost : min maxSamples.toNat remaining ≤ largest.toNat)
    (inside : offset < ops.liveOutJitterBufferLength)
    (once : remaining ≤ ops.liveOutJitterBufferLength.toNat)
    (onceIn : remaining ≤ sinkOps.liveInJitterBufferLength.toNat)
    (receiving : Receiving sink sinkOps) (inTime : InTime sink partner sinkOps sac remaining) :
    ∃ t mem', receiveFrames partner sinkOps (arrivedFrames (legPackets (some source) ops livesOut pieces)) sink mem =
        .ok (t, mem') ∧
      Writes (Samples sink remaining) (ringCell sink sinkOps.liveInJitterBufferLength.toNat
          (sac.toNat + sink.rtpStreamInfo.playOutDelay.toNat))
        (sourceSample source g ops livesOut offset.toNat) mem mem' := by
  induction rounds generalizing sink mem with
  | done => exact ⟨sink, mem, rfl, .none fun k inside => Nat.not_lt_zero _ inside.2⟩
  | @round left sac offset seqNum rest n positive few later ih =>
    have fewer : n.toNat ≤ largest.toNat := by omega
    have someSample : n ≠ 0 := by
      intro zero
      rw [zero] at positive
      exact Nat.not_lt_zero _ positive
    have noOverflow := inTime.noOverflow
    have nextTime : (sac + n.toUInt64).toNat = sac.toNat + n.toNat := by
      rw [UInt64.toNat_add, UInt32.toNat_toUInt64]
      omega
    have below := UInt32.lt_iff_toNat_lt.mp inside
    have nextNat := nextOffset_toNat (n := n) inside (by omega) (by omega)
    have nextInside : nextOffset ops offset n < ops.liveOutJitterBufferLength := by
      rw [UInt32.lt_iff_toNat_lt, nextNat]
      exact Nat.mod_lt _ (by omega)
    obtain ⟨frame, t, mem1, used, isFrame, done, same, session', first⟩ :=
      session.packet_received (p := ⟨sac, offset, n, seqNum⟩) livesOut mem (fits.mono fewer)
        someSample inside small (by dsimp only; omega) (by dsimp only; omega) receiving
        (inTime.front (by dsimp only; omega))
    obtain ⟨t', mem', run, second⟩ := ih session' mem1 (by omega) nextInside (by omega) (by omega)
      (same.receiving receiving) (inTime.rest same nextTime)
    refine ⟨t', mem', ?_, ?_⟩
    · have isFirst : (some (piecePacket source ops livesOut ⟨sac, offset, n, seqNum⟩)).bind
          TransmittedPacket.received = some frame := isFrame
      simp only [arrivedFrames, legPackets, List.map_cons, List.filterMap_cons, isFirst] at run ⊢
      rw [receiveFrames, done, ok_bind]
      exact run
    · refine receiving.distinct.append (by omega) first ?_
      rw [same.samples, same.ringCell, same.playOutDelay, nextTime] at second
      refine second.agree (fun k _ => ?_) fun k _ => ?_
      · rw [Nat.add_right_comm]
      · dsimp only [sourceSample]
        rw [nextNat, Nat.mod_add_mod, Nat.add_assoc]

/-- What the source had in its rings during the frame is in the rings of the sink, each sample at
the cell of its time, and no other cell is touched. -/
def Transported (source : RTPAudioStream) (sourcePartner : Option RTPAudioStream)
    (ops : RTPAudioStreamOps) (sink : RTPAudioStream) (partner : Option RTPStream)
    (sinkOps : RTPAudioStreamOps) (g : InterleaveToMapped) (livesOut mem : RingMemory) : Prop :=
  let sac := ops.globalSAC - ops.frameSize.toUInt64
  ∃ done t mem', sendRTPAudioPackets source sourcePartner ops true livesOut = .ok done ∧
    receiveFrames partner sinkOps (arrivedFrames done.sent) sink mem = .ok (t, mem') ∧
    Writes (Samples sink ops.frameSize.toNat) (ringCell sink sinkOps.liveInJitterBufferLength.toNat
        (sac.toNat + sink.rtpStreamInfo.playOutDelay.toNat))
      (sourceSample source g ops livesOut (getLiveOutJitterBufferOffset ops sac).toNat) mem mem'

theorem getLiveOutJitterBufferOffset_lt {ops : RTPAudioStreamOps}
    (inside : ops.playbackBufferOffset < ops.liveOutJitterBufferLength) :
    getLiveOutJitterBufferOffset ops (ops.globalSAC - ops.frameSize.toUInt64) <
      ops.liveOutJitterBufferLength := by
  have zero : ops.globalSAC - ops.frameSize.toUInt64 - (ops.globalSAC - ops.frameSize.toUInt64) = 0 :=
    UInt64.sub_self _
  have below := UInt32.lt_iff_toNat_lt.mp inside
  simp only [getLiveOutJitterBufferOffset, zero]
  split
  · exact UInt32.lt_iff_toNat_lt.mpr (by rw [UInt32.toNat_zero]; omega)
  · exact inside

/-- Samples of one session arrive at the cells of their time, whatever the packet size and wherever
the rings wrap. -/
theorem frame_transported {source sink : RTPAudioStream} {g : InterleaveToMapped}
    (session : Session source sink g) {ops sinkOps : RTPAudioStreamOps}
    {sourcePartner : Option RTPAudioStream} {partner : Option RTPStream} (livesOut mem : RingMemory)
    (fits : LegFits (min source.rtpStreamInfo.maxSamplesPerPacket ops.frameSize) source)
    (speaks : ¬ (source.ethNetfilter.nicId = 1 ∧ sourcePartner.isSome = true))
    (partnerReady : ∀ s, sourcePartner = some s →
      ReadyLeg (min source.rtpStreamInfo.maxSamplesPerPacket ops.frameSize) s)
    (inside : ops.playbackBufferOffset < ops.liveOutJitterBufferLength)
    (small : ops.liveOutJitterBufferLength.toNat ≤ 2 ^ 30)
    (once : ops.frameSize.toNat ≤ ops.liveOutJitterBufferLength.toNat)
    (onceIn : ops.frameSize.toNat ≤ sinkOps.liveInJitterBufferLength.toNat)
    (receiving : Receiving sink sinkOps)
    (inTime : InTime sink partner sinkOps (ops.globalSAC - ops.frameSize.toUInt64)
      ops.frameSize.toNat) :
    Transported source sourcePartner ops sink partner sinkOps g livesOut mem := by
  obtain ⟨done, run, sent, -⟩ := sendRTPAudioPackets_of_ready source sourcePartner ops livesOut speaks
    (.inl inside) ⟨session.accepted, fits⟩ partnerReady
  have rounds := outgoingPieces_rounds ops source.outgoingSeqNum session.accepted.someSamples
  obtain ⟨t, mem', received, writes⟩ := session.pieces_received livesOut rounds fits small mem
    (toNat_min .. ▸ Nat.le_refl _) (getLiveOutJitterBufferOffset_lt inside) once onceIn receiving inTime
  exact ⟨done, t, mem', run, by rw [sent]; exact received, writes⟩

theorem receiveFrames_untouched {partner : Option RTPStream} {ops : RTPAudioStreamOps}
    (Kept : RTPAudioStream → Prop) {frames : List RTPFrame}
    (untouched : ∀ s t frame mem mem' used, frame ∈ frames → Kept s →
      processRTPAudioPacket s partner ops frame mem = .ok (t, mem', used) → Kept t ∧ mem' = mem)
    {sink t : RTPAudioStream} {mem mem' : RingMemory} (kept : Kept sink)
    (run : receiveFrames partner ops frames sink mem = .ok (t, mem')) : mem' = mem := by
  induction frames generalizing sink mem with
  | nil =>
    cases run
    rfl
  | cons frame frames ih =>
    obtain ⟨⟨s, mem1, used⟩, done, rest⟩ := bind_eq_ok.mp run
    obtain ⟨kept', same⟩ := untouched _ _ _ _ _ _ (List.mem_cons_self ..) kept done
    rw [← same]
    exact ih (fun s t frame mem mem' used isFrame => untouched s t frame mem mem' used
      (List.mem_cons_of_mem _ isFrame)) kept' rest

theorem process_otherSSRC {s t : RTPAudioStream} {partner : Option RTPStream} {ops : RTPAudioStreamOps}
    {frame : RTPFrame} {mem mem' : RingMemory} {used : Bool}
    (learned : s.rtpStreamInfo.ssrcInitialized = true)
    (other : s.rtpStreamInfo.ssrc ≠ mtalSwap32 frame.packetBase.rtpHeader.ssrc)
    (done : processRTPAudioPacket s partner ops frame mem = .ok (t, mem', used)) :
    t.rtpStreamInfo = s.rtpStreamInfo ∧ mem' = mem := by
  have dropped : (checkRTPHeader s frame.packetBase.rtpHeader).2 = false ∧
      (checkRTPHeader s frame.packetBase.rtpHeader).1.rtpStreamInfo = s.rtpStreamInfo := by
    unfold checkRTPHeader
    simp only [learned, other, Bool.not_true, Bool.false_eq_true, if_false, ne_eq, not_false_eq_true,
      if_true]
    split_ifs <;> exact ⟨rfl, rfl⟩
  rw [processRTPAudioPacket, if_neg (by rw [dropped.1]; exact Bool.false_ne_true)] at done
  cases done
  exact ⟨dropped.2, rfl⟩

theorem process_ahead {s t : RTPAudioStream} {partner : Option RTPStream} {ops : RTPAudioStreamOps}
    {frame : RTPFrame} {mem mem' : RingMemory} {used : Bool}
    (ahead : ∀ sac, alreadyCopied partner sac = true)
    (done : processRTPAudioPacket s partner ops frame mem = .ok (t, mem', used)) : mem' = mem := by
  unfold processRTPAudioPacket at done
  simp only at done
  split at done
  · obtain ⟨skip, -, rest⟩ := bind_eq_ok.mp done
    obtain ⟨n, -, rest⟩ := bind_eq_ok.mp rest
    split at rest
    · cases rest
      rfl
    · obtain ⟨⟨t', mem1⟩, received, last⟩ := bind_eq_ok.mp rest
      cases last
      obtain ⟨copied, copies, rest⟩ := bind_eq_ok.mp received
      obtain ⟨_, -, last⟩ := bind_eq_ok.mp rest
      cases last
      rw [copyAudio, if_pos (ahead _)] at copies
      cases copies
      rfl
  · cases done
    rfl

theorem arrivedFrames_ssrc {source : RTPAudioStream} {g : InterleaveToMapped} {ops : RTPAudioStreamOps}
    {livesOut : RingMemory} (accepted : AcceptedSource source) (prepared : Prepared source)
    (converts : convertInterleaveToMapped source.rtpStreamInfo.codec = some g)
    (fits : LegFits (min source.rtpStreamInfo.maxSamplesPerPacket ops.frameSize) source) :
    ∀ frame ∈ arrivedFrames (legPackets (some source) ops livesOut
        (outgoingPieces source ops source.outgoingSeqNum)),
      mtalSwap32 frame.packetBase.rtpHeader.ssrc = source.rtpStreamInfo.ssrc := by
  intro frame isFrame
  obtain ⟨out, isOut, isReceived⟩ := List.mem_filterMap.mp isFrame
  obtain ⟨p, isPiece, rfl⟩ := List.mem_map.mp isOut
  obtain ⟨frame', isFrame', carries⟩ := piecePacket_received ops livesOut
    ⟨accepted, fits.mono (framePieces_le _ _ _ _ _ p isPiece)⟩ converts
  cases isFrame'.symm.trans isReceived
  rw [carries.packetBase, ← mtalSwap32_swap32 source.rtpStreamInfo.ssrc]
  exact congrArg mtalSwap32 prepared.ssrc

def stereoSource : RTPAudioStream := announcedStream .l24 3 2 16

def stereoSourceOps : RTPAudioStreamOps := { liveOutOps with playbackBufferOffset := 24550 }

def liveInOps : RTPAudioStreamOps where
  globalSAC := 4800
  frameSize := 48
  liveInJitterBuffer := fun ch => if ch < 64 then some (ringBufferSize.toNat * ch.toNat) else none
  liveInJitterBufferLength := ringBufferSize

def stereoSink (routing : Nat → UInt32) : RTPAudioStream :=
  (create {} { announcedSource .l24 3 2 16 with source := false, playOutDelay := 96, routing := routing }
    liveInOps {} (fun _ => {})).1

theorem stereoSink_accepted : AcceptedSink (stereoSink UInt32.ofNat) :=
  create_sink_valid (by decide) rfl rfl

theorem stereoSession : Session stereoSource (stereoSink UInt32.ofNat) .bigEndianInt24 where
  accepted := create_source (by decide) rfl rfl
  prepared := create_prepared rfl rfl
  sinkAccepted := stereoSink_accepted
  mapped := by unfold AllMapped; decide
  codec := rfl
  converts := rfl
  channels := rfl
  wordLength := rfl
  payloadType := rfl
  timestampOffset := rfl
  follows := fun learned => by cases learned

theorem stereoSink_receiving : Receiving (stereoSink UInt32.ofNat) liveInOps where
  someFrame := by decide
  small := by decide
  distinct := by
    have base : ∀ ch < 2, liveInBase (stereoSink UInt32.ofNat) ch = ringBufferSize.toNat * ch := by decide
    intro ch chBelow ch' chBelow' i iBelow i' iBelow' same
    rw [base ch chBelow, base ch' chBelow', toNat_ringBufferSize] at same
    change i < 49152 at iBelow
    change i' < 49152 at iBelow'
    omega

theorem stereo_inTime : InTime (stereoSink UInt32.ofNat) none liveInOps
    (stereoSourceOps.globalSAC - stereoSourceOps.frameSize.toUInt64) stereoSourceOps.frameSize.toNat :=
  ⟨by decide, by decide, by decide, fun _ isPartner => by cases isPartner⟩

def stereoTones : RingMemory := fun a => if a < ringBufferSize.toNat then ⟨0, 0, 0, 1⟩ else ⟨0, 0, 0, 2⟩

theorem frame_transported_stereo :
    Transported stereoSource none stereoSourceOps (stereoSink UInt32.ofNat) none liveInOps
      .bigEndianInt24 stereoTones (fun _ => {}) :=
  frame_transported stereoSession _ _ (by decide) (by decide) (fun _ isPartner => by cases isPartner)
    (by decide) (by decide) (by decide) (by decide) stereoSink_receiving stereo_inTime

def learnedSink : RTPAudioStream :=
  let sink := stereoSink UInt32.ofNat
  { sink with rtpStreamInfo := setSSRC sink.rtpStreamInfo 7 }

theorem learnedSink_same : SameStream (stereoSink UInt32.ofNat) learnedSink :=
  ⟨⟨_, _, rfl⟩, rfl, rfl, rfl, rfl, rfl, rfl, rfl⟩

def aheadPartner : RTPStream := { lastAudioSampleReceivedSAC := 0xFFFFFFFFFFFFFFFF }

theorem stereo_untouched {sink : RTPAudioStream} {partner : Option RTPStream}
    (untouched : ∀ t mem', receiveFrames partner liveInOps (arrivedFrames (legPackets (some stereoSource)
        stereoSourceOps stereoTones (outgoingPieces stereoSource stereoSourceOps 0))) sink (fun _ => {}) =
      .ok (t, mem') → mem' = fun _ => {}) (someChannel : 0 < sink.rtpStreamInfo.nbOfChannels.toNat) :
    ¬ Transported stereoSource none stereoSourceOps sink partner liveInOps .bigEndianInt24 stereoTones
      (fun _ => {}) := by
  rintro ⟨done, t, mem', run, received, writes⟩
  obtain ⟨done', run', sent, -⟩ := sendRTPAudioPackets_of_ready stereoSource none stereoSourceOps
    stereoTones (by decide) (.inl (by decide)) ⟨stereoSession.accepted, by decide⟩
    fun _ isPartner => by cases isPartner
  cases run.symm.trans run'
  rw [sent] at received
  have kept := untouched t mem' received
  have written := writes.written (0, 0) ⟨someChannel, by decide⟩
  rw [kept] at written
  change ({} : Sample) = _ at written
  exact absurd written (by decide)

/-- A sink that follows another SSRC, a sink with both channels in one ring, and a sink whose other
NIC was faster. -/
theorem frame_not_transported :
    (SameSession stereoSource learnedSink .bigEndianInt24 ∧ Receiving learnedSink liveInOps ∧
        InTime learnedSink none liveInOps 4752 48 ∧
        ¬ Transported stereoSource none stereoSourceOps learnedSink none liveInOps .bigEndianInt24
          stereoTones (fun _ => {})) ∧
      (Session stereoSource (stereoSink fun _ => 0) .bigEndianInt24 ∧
        InTime (stereoSink fun _ => 0) none liveInOps 4752 48 ∧
        ¬ Transported stereoSource none stereoSourceOps (stereoSink fun _ => 0) none liveInOps
          .bigEndianInt24 stereoTones (fun _ => {})) ∧
      Session stereoSource (stereoSink UInt32.ofNat) .bigEndianInt24 ∧
        Receiving (stereoSink UInt32.ofNat) liveInOps ∧
        ¬ Transported stereoSource none stereoSourceOps (stereoSink UInt32.ofNat) (some aheadPartner)
          liveInOps .bigEndianInt24 stereoTones (fun _ => {}) := by
  refine ⟨⟨?_, ?_, ?_, ?_⟩, ⟨?_, ?_, ?_⟩, stereoSession, stereoSink_receiving, ?_⟩
  · exact { stereoSession.toSameSession with
      sinkAccepted := stereoSink_accepted.same learnedSink_same
      mapped := learnedSink_same.allMapped.mpr stereoSession.mapped }
  · exact learnedSink_same.receiving stereoSink_receiving
  · exact ⟨by decide, by decide, by decide, fun _ isPartner => by cases isPartner⟩
  · apply stereo_untouched _ (by decide)
    intro t mem' received
    apply receiveFrames_untouched (fun s => s.rtpStreamInfo = learnedSink.rtpStreamInfo) _ rfl received
    intro s t frame mem mem' used isFrame kept done
    have ssrc := arrivedFrames_ssrc stereoSession.accepted stereoSession.prepared stereoSession.converts
      (by decide) frame isFrame
    obtain ⟨info, same⟩ := process_otherSSRC (by rw [kept]; rfl)
      (by rw [kept, ssrc]; decide) done
    exact ⟨info.trans kept, same⟩
  · exact { stereoSession with
      sinkAccepted := create_sink_valid (by decide) rfl rfl
      mapped := by unfold AllMapped; decide
      follows := fun learned => by cases learned }
  · exact ⟨by decide, by decide, by decide, fun _ isPartner => by cases isPartner⟩
  · rintro ⟨done, t, mem', -, -, writes⟩
    have first := writes.written (0, 0) ⟨by decide, by decide⟩
    have second := writes.written (1, 0) ⟨by decide, by decide⟩
    exact absurd (first.symm.trans second) (by decide)
  · apply stereo_untouched _ (by decide)
    intro t mem' received
    apply receiveFrames_untouched (fun _ => True) _ trivial received
    intro s t frame mem mem' used isFrame _ done
    refine ⟨trivial, process_ahead (fun sac => ?_) done⟩
    have bound := sac.toNat_lt
    exact decide_eq_true (UInt64.le_iff_toNat_le.mpr (Nat.le_of_lt_succ bound))

end RavennaLkm
