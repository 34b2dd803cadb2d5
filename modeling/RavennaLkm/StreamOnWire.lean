import RavennaLkm.AlikeSinks
import RavennaLkm.Lib.RingWindow
import RavennaLkm.MuteDecision
import RavennaLkm.Transport

/-!
A stream of samples between a source and a sink, in packets of any size. What is on
the wire continues what the sink has been given, and of that the rings of the sink
have the last turn.
-/
namespace RavennaLkm
open CheckedLoop CellWrites Gather

abbrev AudioStream := Nat → Nat → Sample

/-- A piece of a source with the samples of `stream` from position `p` on, of which sample 0 is of time `sac`.
No piece is longer than a frame. -/
structure CarriesStream (sink : RTPAudioStream) (g : InterleaveToMapped) (ssrc : UInt32) (frameSize sac : Nat)
    (stream : AudioStream) (source : RTPAudioStream) (ops : RTPAudioStreamOps) (livesOut : RingMemory)
    (piece : Piece) (p : Nat) : Prop where
  session : Session source sink g
  isSSRC : source.rtpStreamInfo.ssrc = ssrc
  fits : LegFits piece.n source
  someSample : piece.n ≠ 0
  inFrame : piece.n.toNat ≤ frameSize
  inside : piece.offset < ops.liveOutJitterBufferLength
  small : ops.liveOutJitterBufferLength.toNat ≤ 2 ^ 30
  once : piece.n.toNat ≤ ops.liveOutJitterBufferLength.toNat
  position : piece.sac.toNat = sac + p
  samples : ∀ us < sink.rtpStreamInfo.nbOfChannels.toNat, ∀ i < piece.n.toNat,
    sourceSample source g ops livesOut piece.offset.toNat (us, i) = stream us (p + i)

inductive OnWire (sink : RTPAudioStream) (g : InterleaveToMapped) (ssrc : UInt32) (frameSize sac : Nat)
    (stream : AudioStream) : Nat → List RTPFrame → Nat → Prop
  | empty (p) : OnWire sink g ssrc frameSize sac stream p [] p
  | packet {p q source ops livesOut piece frame rest} :
      CarriesStream sink g ssrc frameSize sac stream source ops livesOut piece p →
      (piecePacket source ops livesOut piece).received = some frame →
      OnWire sink g ssrc frameSize sac stream (p + piece.n.toNat) rest q →
      OnWire sink g ssrc frameSize sac stream p (frame :: rest) q

section
variable {sink : RTPAudioStream} {g : InterleaveToMapped} {ssrc : UInt32} {frameSize sac : Nat} {stream : AudioStream}
  {p q r : Nat} {frames more : List RTPFrame}

theorem OnWire.le (onWire : OnWire sink g ssrc frameSize sac stream p frames q) : p ≤ q := by
  induction onWire with
  | empty p => exact Nat.le_refl p
  | packet _ _ _ later =>
    exact Nat.le_trans (Nat.le_add_right ..) later

theorem OnWire.eq_of_empty (onWire : OnWire sink g ssrc frameSize sac stream p [] q) : p = q := by
  cases onWire
  rfl

theorem OnWire.append (front : OnWire sink g ssrc frameSize sac stream p frames q)
    (back : OnWire sink g ssrc frameSize sac stream q more r) :
    OnWire sink g ssrc frameSize sac stream p (frames ++ more) r := by
  induction front with
  | empty p => exact back
  | packet carries isFrame _ ih => exact .packet carries isFrame (ih back)

theorem Rounds.onWire {source : RTPAudioStream} {ops : RTPAudioStreamOps} {livesOut : RingMemory}
    {maxSamples largest : UInt32} {remaining : Nat} {time : UInt64} {offset : UInt32} {seqNum : UInt16}
    {pieces : List Piece} (rounds : Rounds ops maxSamples remaining time offset seqNum pieces)
    (session : Session source sink g) (isSSRC : source.rtpStreamInfo.ssrc = ssrc) (fits : LegFits largest source)
    (small : ops.liveOutJitterBufferLength.toNat ≤ 2 ^ 30) (atMost : min maxSamples.toNat remaining ≤ largest.toNat)
    (inFrame : remaining ≤ frameSize) (inside : offset < ops.liveOutJitterBufferLength)
    (once : remaining ≤ ops.liveOutJitterBufferLength.toNat)
    (position : time.toNat = sac + p) (noOverflow : time.toNat + remaining < 2 ^ 64)
    (samples : ∀ us < sink.rtpStreamInfo.nbOfChannels.toNat, ∀ i < remaining,
      sourceSample source g ops livesOut offset.toNat (us, i) = stream us (p + i)) :
    OnWire sink g ssrc frameSize sac stream p (arrivedFrames (legPackets (some source) ops livesOut pieces))
      (p + remaining) := by
  induction rounds generalizing p with
  | done => exact .empty p
  | @round left time offset seqNum rest n positive few later ih =>
    have fewer : n.toNat ≤ largest.toNat := by omega
    have someSample : n ≠ 0 := by
      intro zero
      rw [zero] at positive
      exact Nat.not_lt_zero _ positive
    have nextTime : (time + n.toUInt64).toNat = time.toNat + n.toNat := by
      rw [UInt64.toNat_add, UInt32.toNat_toUInt64]
      omega
    have below := UInt32.lt_iff_toNat_lt.mp inside
    have nextNat := nextOffset_toNat (n := n) inside (by omega) (by omega)
    have nextInside : nextOffset ops offset n < ops.liveOutJitterBufferLength := by
      rw [UInt32.lt_iff_toNat_lt, nextNat]
      exact Nat.mod_lt _ (by omega)
    obtain ⟨frame, isFrame, -⟩ := piecePacket_received ops livesOut (p := ⟨time, offset, n, seqNum⟩)
      ⟨session.accepted, fits.mono fewer⟩ session.converts
    have carries : CarriesStream sink g ssrc frameSize sac stream source ops livesOut ⟨time, offset, n, seqNum⟩ p :=
      ⟨session, isSSRC, fits.mono fewer, someSample, by dsimp only; omega, inside, small, by dsimp only; omega, position,
        fun us channel i inPiece => samples us channel i (by dsimp only at inPiece; omega)⟩
    have others := ih (p := p + n.toNat) (by omega) (by omega) nextInside (by omega) (by omega) (by omega) (by
      intro us channel i inRest
      rw [Nat.add_assoc p, ← samples us channel (n.toNat + i) (by omega)]
      dsimp only [sourceSample]
      rw [nextNat, Nat.mod_add_mod, Nat.add_assoc])
    have isFirst : (some (piecePacket source ops livesOut ⟨time, offset, n, seqNum⟩)).bind
        TransmittedPacket.received = some frame := isFrame
    simp only [arrivedFrames, legPackets, List.map_cons, List.filterMap_cons, isFirst] at others ⊢
    rw [← Nat.add_assoc]
    exact .packet carries isFrame others

end

def WindowOf (sink : RTPAudioStream) (length sac : Nat) (stream : AudioStream) (n : Nat) (rings : RingMemory) : Prop :=
  ∀ us < sink.rtpStreamInfo.nbOfChannels.toNat, RingWindow.Keeps length (sac + sink.rtpStreamInfo.playOutDelay.toNat)
    (stream us) n fun slot => rings (liveInBase sink us + slot)

structure GivenStream (sink : RTPAudioStream) (ssrc : UInt32) (length sac : Nat) (stream : AudioStream) (n : Nat)
    (s : RTPAudioStream) (rings : RingMemory) : Prop where
  same : SameStream sink s
  follows : Follows ssrc s
  last : n = 0 ∨ s.lastAudioSampleReceivedSAC.toNat = sac + sink.rtpStreamInfo.playOutDelay.toNat + n
  window : WindowOf sink length sac stream n rings

section
variable {sink s : RTPAudioStream} {g : InterleaveToMapped} {ssrc : UInt32}
  {frameSize length sac n : Nat} {stream : AudioStream} {rings rings' : RingMemory} {ops : RTPAudioStreamOps}

theorem WindowOf.write (window : WindowOf sink length sac stream n rings) (distinct : DistinctRings sink length)
    {m start : Nat} {value : ChannelSample → Sample}
    (isStart : start = sac + sink.rtpStreamInfo.playOutDelay.toNat + n)
    (writes : Writes (Samples sink m) (ringCell sink length start) value rings rings')
    (values : ∀ us < sink.rtpStreamInfo.nbOfChannels.toNat, ∀ i < m, value (us, i) = stream us (n + i)) :
    WindowOf sink length sac stream (n + m) rings' := by
  intro us channel
  apply (window us channel).write
  · intro i inBlock
    have written := writes.written (us, i) ⟨channel, inBlock⟩
    rw [values us channel i inBlock] at written
    rw [← Nat.add_assoc, ← isStart]
    exact written
  · intro slot inRing other
    apply writes.other
    rintro ⟨us', i⟩ ⟨channel', inBlock⟩ same
    have positive : 0 < length := by omega
    have sameChannel := distinct us channel us' channel' slot inRing _ (Nat.mod_lt _ positive) same
    subst sameChannel
    apply other i inBlock
    rw [← Nat.add_assoc, ← isStart]
    exact Nat.add_left_cancel same

variable {source : RTPAudioStream} {sourceOps : RTPAudioStreamOps} {livesOut : RingMemory} {piece : Piece}
  {frame : RTPFrame}

theorem GivenStream.deliver (given : GivenStream sink ssrc length sac stream n s rings)
    (carries : CarriesStream sink g ssrc frameSize sac stream source sourceOps livesOut piece n)
    (isFrame : (piecePacket source sourceOps livesOut piece).received = some frame) (receiving : Receiving sink ops)
    (isLength : ops.liveInJitterBufferLength.toNat = length) (short : frameSize ≤ length)
    (behind : ops.globalSAC.toNat < sac + n + 2 ^ 30)
    (ahead : sac + (n + piece.n.toNat) ≤ ops.globalSAC.toNat + 2 ^ 30)
    (noOverflow : sac + sink.rtpStreamInfo.playOutDelay.toNat + (n + piece.n.toNat) < 2 ^ 64) :
    claimedSamples s frame = piece.n ∧ ∃ s' rings' used,
      processRTPAudioPacket s none ops frame rings = .ok (s', rings', used) ∧
        GivenStream sink ssrc length sac stream (n + piece.n.toNat) s' rings' := by
  have follows : Follows source.rtpStreamInfo.ssrc s := by
    rw [carries.isSSRC]
    exact given.follows
  have session := carries.session.next given.same follows
  have position := carries.position
  have positive : 0 < piece.n.toNat := Nat.pos_of_ne_zero fun zero => carries.someSample (UInt32.toNat_inj.mp zero)
  have delay := given.same.playOutDelay
  have inTime : InTime s none ops piece.sac piece.n.toNat :=
    ⟨by omega, by omega, by rw [delay]; omega, fun _ isPartner => by cases isPartner⟩
  obtain ⟨frame', s', rings', used, isFrame', done, same, -, writes⟩ := session.packet_received livesOut rings
    carries.fits carries.someSample carries.inside carries.small carries.once
    (by rw [isLength]; exact Nat.le_trans carries.inFrame short)
    (given.same.receiving receiving) inTime
  cases isFrame.symm.trans isFrame'
  -- what the sink has taken down of the packet
  obtain ⟨frame', isFrame', inFrame⟩ := piecePacket_received sourceOps livesOut
    ⟨session.accepted, carries.fits⟩ session.converts
  cases isFrame.symm.trans isFrame'
  rw [audio_eq_gather g source livesOut carries.inside carries.small carries.once] at inFrame
  have claimed := session.claimedSamples_eq inFrame
    (length_gather fun k _ => length_audioRow g source sourceOps livesOut piece.offset k)
  have ofSequence := session.ofSequence piece
  rw [← inFrame.packetBase] at ofSequence
  obtain ⟨last, learned, -⟩ := session.sinkAccepted.received ofSequence session.follows
    (by rw [claimed]; exact carries.someSample) done
  rw [endSAC, session.arrivalSAC_eq inFrame inTime.behind (by omega), claimed] at last
  refine ⟨claimed, s', rings', used, done, given.same.trans same, ?_, .inr ?_, ?_⟩
  · rw [← carries.isSSRC]
    exact learned
  · rw [last, UInt64.toNat_add, inTime.arrival, UInt32.toNat_toUInt64, delay]
    omega
  · rw [given.same.samples, given.same.ringCell, isLength, delay] at writes
    exact given.window.write (isLength ▸ receiving.distinct) (by omega) writes carries.samples

theorem not_muted {s : RTPStream}
    (due : ops.globalSAC.toNat + ops.frameSize.toNat ≤ s.lastAudioSampleReceivedSAC.toNat)
    (near : s.lastAudioSampleReceivedSAC.toNat < ops.globalSAC.toNat + 2 ^ 31) :
    isLivesInMustBeMuted s ops = false := by
  rw [← Bool.not_eq_true, isLivesInMustBeMuted_iff, Int.bmod_def, Int.bmod_def]
  unfold audioAhead
  omega

theorem prepareBufferLives_succeeds {partner : Option RTPStream} (someRing : ops.liveInJitterBufferLength ≠ 0)
    (someFrame : ops.frameSize ≠ 0) : Succeeds (prepareBufferLives s partner ops rings) := by
  have mutes : Succeeds (muteFrame s ops rings) := by
    unfold muteFrame
    rw [getLiveInJitterBufferOffset_eq someRing, ok_bind, if_neg someFrame]
    split
    · split
      · exact succeeds_ok _
      · exact succeeds_ok _
    · exact succeeds_ok _
  rw [prepareBufferLives_eq]
  split
  · exact succeeds_ok _
  · split
    · obtain ⟨muted, done⟩ := mutes
      rw [done, ok_bind]
      exact succeeds_ok _
    · exact succeeds_ok _

theorem GivenStream.prepared (given : GivenStream sink ssrc length sac stream n s rings)
    (accepted : AcceptedSink sink)
    (due : ops.globalSAC.toNat + ops.frameSize.toNat ≤ sac + sink.rtpStreamInfo.playOutDelay.toNat + n)
    (near : sac + sink.rtpStreamInfo.playOutDelay.toNat + n < ops.globalSAC.toNat + 2 ^ 31) (some : n ≠ 0) :
    ∃ s', prepareBufferLives s none ops rings = .ok (s', rings) ∧
      GivenStream sink ssrc length sac stream n s' rings := by
  have last := given.last.resolve_left some
  have fed : livesInMuted s none ops = false := by
    rw [livesInMuted, not_muted (by omega) (by omega), Bool.false_and]
  have isSink : s.rtpStreamInfo.source = false := given.same.source.trans accepted.sink
  have done : prepareBufferLives s none ops rings =
      .ok (updateStreamStatus { s with livesInDMCounter := 0 } false false, rings) := by
    rw [prepareBufferLives_eq, isSink, fed, if_neg Bool.false_ne_true, if_neg Bool.false_ne_true]
  exact ⟨_, done, given.same.trans (prepareBufferLives_same done), given.follows, given.last, given.window⟩

end

end RavennaLkm
