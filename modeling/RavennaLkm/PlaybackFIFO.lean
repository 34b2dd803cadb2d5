import RavennaLkm.ChannelRings
import RavennaLkm.DMAGeometry
import RavennaLkm.Lib.DelayRing
import RavennaLkm.PacketRoundTrip
import RavennaLkm.SendOutgoing

/-!
Playback as a delay line. A TIC sends from each ring the frame that the interrupt
of the same TIC then overwrites, so that a frame is sent one turn of the rings
after it was read from the area.
-/
namespace RavennaLkm
open CheckedLoop CellWrites Gather DelayRing

def PCMSubstream.areaSample (sub : PCMSubstream) (dma : Nat → UInt8) (o ch : Nat) : Sample :=
  match AudioChip.selectDeinterleave sub with
  | none => {}
  | some fn => fn.decode fun k => dma ((o * sub.channels.toNat + ch) * sub.format.stride + k)

namespace AudioChip

theorem ring_cell_unique {c c' p p' : Nat} (below : p < ringBufferSize.toNat) (below' : p' < ringBufferSize.toNat)
    (same : c * ringBufferSize.toNat + p = c' * ringBufferSize.toNat + p') : c = c' ∧ p = p' := by
  have size := toNat_ringBufferSize
  rw [size] at below below' same
  omega

theorem selectDeinterleave_some {sub : PCMSubstream} (pcm : sub.format ∈ captureFormats) :
    ∃ fn, selectDeinterleave sub = some fn := by
  unfold selectDeinterleave getDSDSampleRate
  generalize sub.format = format at pcm
  simp only [captureFormats, List.mem_cons, List.not_mem_nil, or_false] at pcm
  rcases pcm with rfl | rfl | rfl | rfl
  all_goals exact ⟨_, rfl⟩

theorem deinterleave_ring {strideIn : Nat} {offsets : List Nat} {decode : (Nat → UInt8) → Sample} {size src : Nat}
    {dma : Nat → UInt8} {pos channels F : UInt32} {c d : PlaybackCopy}
    (inRing : pos.toNat + F.toNat ≤ ringBufferSize.toNat)
    (done : playbackDeinterleave strideIn offsets decode size dma src ringBufferSize pos channels F c = .ok d) :
    Writes (fun k : Nat × Nat => k.1 < channels.toNat ∧ k.2 < F.toNat)
      (fun k => k.1 * ringBufferSize.toNat + (pos.toNat + k.2))
      (fun k => decode fun i => dma (src + (k.2 * channels.toNat + k.1) * strideIn + i)) c.ring d.ring := by
  have straight {f : Nat} (below : f < F.toNat) : wrappedCell ringBufferSize pos F f = pos.toNat + f := by
    have room := UInt32.toNat_sub_of_le ringBufferSize pos (UInt32.le_iff_toNat_le.mpr (by omega))
    unfold wrappedCell
    rw [toNat_min, room, if_pos (by omega)]
  rw [playbackDeinterleave_eq] at done
  have isRing : d.ring = iterUp (fun ch => iterUp (fun f ring =>
      Function.update ring (ch * ringBufferSize.toNat + wrappedCell ringBufferSize pos F f)
        (decode fun i => dma (src + (f * channels.toNat + ch) * strideIn + i))) F.toNat)
      channels.toNat c.ring := by
    refine forUp_view (·.ring) ?_ done
    intro ch c d done
    refine forUp_view (·.ring) ?_ done
    intro f c d done
    unfold copySample at done
    split at done
    · cases done
      rfl
    · cases done
  rw [isRing]
  have writes := @Writes.grid_distinct Sample channels.toNat F.toNat
    (fun k => k.1 * ringBufferSize.toNat + wrappedCell ringBufferSize pos F k.2)
    (fun k => decode fun i => dma (src + (k.2 * channels.toNat + k.1) * strideIn + i)) c.ring (by
      intro ch _ f below ch' _ f' below' same
      dsimp only at same
      rw [straight below, straight below'] at same
      exact ring_cell_unique (by omega) (by omega) same |>.imp_right fun same => by omega)
  exact writes.agree (fun k isInside => by rw [straight isInside.2]) fun _ _ => rfl

theorem interrupt_ring {sub : PCMSubstream} {chip next : AudioChip} {F : UInt32} {dma : Nat → UInt8} {o : Nat}
    (playing : Playing sub chip) (format : sub.format ∈ captureFormats)
    (at_ : chip.playback.dmaOffset.toNat = o * sub.frameBytes)
    (inRing : chip.playback.bufferPos.toNat + F.toNat ≤ ringBufferSize.toNat)
    (done : chip.pcmInterruptPlayback F dma = .ok next) :
    Writes (fun k : Nat × Nat => k.1 < sub.channels.toNat ∧ k.2 < F.toNat)
      (fun k => k.1 * ringBufferSize.toNat + (chip.playback.bufferPos.toNat + k.2))
      (fun k => sub.areaSample dma (o + k.2) k.1) chip.playbackBuffer next.playbackBuffer := by
  obtain ⟨fn, selected⟩ := selectDeinterleave_some format
  obtain ⟨-, stride, -⟩ := selectDeinterleave_reads selected 1
  unfold pcmInterruptPlayback at done
  rw [playing.substream] at done
  obtain ⟨copied, ran, same⟩ := bind_eq_ok.mp done
  unfold playbackCopy at ran
  rw [playing.deinterleave, selected] at ran
  obtain ⟨copy, ran, isCopied⟩ := bind_eq_ok.mp ran
  rw [fn.call_eq] at ran
  have writes := deinterleave_ring inRing ran
  cases isCopied
  cases same
  refine writes.agree (fun _ _ => rfl) ?_
  rintro ⟨ch, f⟩ -
  unfold PCMSubstream.areaSample
  rw [selected]
  dsimp only
  congr 2
  funext i
  rw [at_, stride, PCMSubstream.frameBytes, sample_address]

def ringTurn (sub : PCMSubstream) (F : UInt32) : Nat := sub.ringFrames / F.toNat

structure FIFOGeometry (sub : PCMSubstream) (F : UInt32) : Prop where
  sized : sub.Sized
  format : sub.format ∈ captureFormats
  moves : 0 < F.toNat
  turns : F.toNat ∣ sub.ringFrames
  ring : sub.ringFrames ≤ ringBufferSize.toNat

variable {sub : PCMSubstream} {F : UInt32} {start chip next : AudioChip} {n : Nat}

theorem FIFOGeometry.turn (g : FIFOGeometry sub F) : ringTurn sub F * F.toNat = sub.ringFrames :=
  Nat.div_mul_cancel g.turns

theorem FIFOGeometry.turn_pos (g : FIFOGeometry sub F) : 0 < ringTurn sub F :=
  Nat.div_pos (Nat.le_of_dvd g.sized.ringFrames.1 g.turns) g.moves

theorem FIFOGeometry.position (g : FIFOGeometry sub F) (n : Nat) :
    RingCursor.after sub.ringFrames F.toNat 0 n = n % ringTurn sub F * F.toNat := by
  rw [RingCursor.after, Nat.zero_add, ← g.turn, Nat.mul_mod_mul_right]

theorem FIFOGeometry.inside (g : FIFOGeometry sub F) {slot j : Nat} (below : slot < ringTurn sub F)
    (inFrame : j < F.toNat) : slot * F.toNat + j < sub.ringFrames := by
  calc slot * F.toNat + j < (slot + 1) * F.toNat := by
        rw [Nat.succ_mul]
        omega
    _ ≤ ringTurn sub F * F.toNat := Nat.mul_le_mul_right _ below
    _ = sub.ringFrames := g.turn

structure Delaying (sub : PCMSubstream) (F : UInt32) (dma : Nat → Nat → UInt8) (start : AudioChip) (n : Nat)
    (chip : AudioChip) : Prop extends PCMPlayedFor sub F start n chip where
  rings : ∀ ch < sub.channels.toNat, ∀ j < F.toNat, Holds (ringTurn sub F)
    (fun slot => start.playbackBuffer (ch * ringBufferSize.toNat + (slot * F.toNat + j)))
    (fun i => sub.areaSample (dma i) (RingCursor.after sub.bufferSize F.toNat 0 i + j) ch) n
    (fun slot => chip.playbackBuffer (ch * ringBufferSize.toNat + (slot * F.toNat + j)))

theorem Delaying.interrupt {dma : Nat → Nat → UInt8} (delaying : Delaying sub F dma start n chip)
    (g : FIFOGeometry sub F) (done : chip.pcmInterruptPlayback F (dma n) = .ok next) :
    Delaying sub F dma start (n + 1) next := by
  have short := Nat.le_of_dvd g.sized.ringFrames.1 g.turns
  have played := ((delaying.toPCMPlayedFor.interrupt g.format g.sized short g.moves (dma n)).2 next done).2
  have here := Nat.mod_lt n g.turn_pos
  have position := delaying.bufferPos
  rw [g.position] at position
  have frame := g.inside here (show F.toNat - 1 < F.toNat by have := g.moves; omega)
  have ring := g.ring
  have writes := interrupt_ring delaying.playing g.format delaying.dmaOffset
    (by have := g.moves; omega) done
  rw [position] at writes
  refine ⟨played, ?_⟩
  intro ch channel j inFrame
  apply (delaying.rings ch channel j inFrame).write
  · exact writes.written (ch, j) ⟨channel, inFrame⟩
  · intro slot below other
    have inside := g.inside below inFrame
    apply writes.other
    rintro ⟨ch', j'⟩ ⟨channel', inFrame'⟩ same
    have inside' := g.inside here inFrame'
    obtain ⟨-, cell⟩ := ring_cell_unique (by omega) (by omega) same
    apply other
    have slots := congrArg (· / F.toNat) cell
    simpa only [Nat.mul_comm _ F.toNat, Nat.mul_add_div g.moves, Nat.div_eq_of_lt inFrame,
      Nat.div_eq_of_lt inFrame', Nat.add_zero] using slots

end AudioChip

def sentAudio (out : List (Option TransmittedPacket)) : List UInt8 :=
  out.flatMap fun p => (p.map (·.frame.drop sizeofRTPPacketBase)).getD []

def sentRow (s : RTPAudioStream) (livesOut : RingMemory) (offset i : Nat) : List UInt8 :=
  gather (fun us => (converter s).store (livesOut (ringBase s us + (offset + i))))
    s.rtpStreamInfo.nbOfChannels.toNat

section
variable {s : RTPAudioStream} {ops : RTPAudioStreamOps} {largest : UInt32} (livesOut : RingMemory)

theorem converter_cell (f : MappedToInterleave) {offset : UInt32} {i : Nat} (small : offset.toNat + i < 2 ^ 30) :
    f.cell offset i = offset.toNat + i := by
  cases f with
  | bigEndianDSD256 => rfl
  | _ => exact inPos_eq small

/-- A packet that ends before the end of the ring is read in one piece. -/
theorem straightAudio (s : RTPAudioStream) {offset n : UInt32}
    (small : ops.liveOutJitterBufferLength.toNat < 2 ^ 30)
    (inRing : offset.toNat + n.toNat ≤ ops.liveOutJitterBufferLength.toNat) :
    frontBytes (converter s) s ops livesOut offset n ++ backBytes (converter s) s ops livesOut offset n =
      gather (sentRow s livesOut offset.toNat) n.toNat := by
  have room := UInt32.toNat_sub_of_le ops.liveOutJitterBufferLength offset (UInt32.le_iff_toNat_le.mpr (by omega))
  have front : frontSamples ops offset n = n := by
    apply UInt32.toNat_inj.mp
    rw [frontSamples, toNat_min, room]
    omega
  rw [frontBytes, backBytes, front, UInt32.sub_self]
  change gather _ n.toNat ++ [] = _
  rw [List.append_nil]
  apply gather_congr
  intro i below
  unfold MappedToInterleave.row sentRow
  rw [converter_cell _ (by omega)]

theorem Rounds.sent {maxSamples : UInt32} {remaining : Nat} {sac : UInt64} {offset : UInt32} {seqNum : UInt16}
    {pieces : List Piece} (rounds : Rounds ops maxSamples remaining sac offset seqNum pieces)
    (small : ops.liveOutJitterBufferLength.toNat < 2 ^ 30) (ready : ReadyLeg largest s)
    (atMost : min maxSamples.toNat remaining ≤ largest.toNat)
    (inRing : offset.toNat + remaining ≤ ops.liveOutJitterBufferLength.toNat) :
    sentAudio (legPackets (some s) ops livesOut pieces) = gather (sentRow s livesOut offset.toNat) remaining := by
  induction rounds with
  | done => rfl
  | @round left sac offset seqNum rest n positive few later ih =>
    have fewer : n.toNat ≤ largest.toNat := by omega
    have piece := (piecePacket_frame ops livesOut (p := ⟨sac, offset, n, seqNum⟩) (ready.mono fewer)).1
    have head : sentAudio [some (piecePacket s ops livesOut ⟨sac, offset, n, seqNum⟩)] =
        gather (sentRow s livesOut offset.toNat) n.toNat := by
      rw [← straightAudio livesOut s small (by omega)]
      simp only [sentAudio, List.flatMap_cons, List.flatMap_nil, Option.map_some, Option.getD_some,
        List.append_nil, piece]
      rw [← (pieceHeader s ⟨sac, offset, n, seqNum⟩).length_bytes, List.drop_left]
    have inside : offset < ops.liveOutJitterBufferLength := UInt32.lt_iff_toNat_lt.mpr (by omega)
    have next := nextOffset_toNat (n := n) inside (by omega) (by omega)
    have inRing' : (nextOffset ops offset n).toNat + left ≤ ops.liveOutJitterBufferLength.toNat := by
      have round : offset.toNat + n.toNat ≤ ops.liveOutJitterBufferLength.toNat := by omega
      rcases Nat.lt_or_eq_of_le round with below | full
      · rw [next, Nat.mod_eq_of_lt below]
        omega
      · rw [next, full, Nat.mod_self]
        omega
    rw [legPackets_cons, sentAudio, List.flatMap_append, gather_add, ← head]
    congr 1
    rw [← sentAudio, ih (by omega) inRing']
    apply gather_congr
    intro k below
    rw [next, Nat.mod_eq_of_lt (by omega)]
    unfold sentRow
    rw [Nat.add_assoc]

/-- With the clock a frame past its start, or the ring at its own, the frame of a TIC starts at the position. -/
theorem sendOffset
    (here : ops.frameSize.toNat ≤ ops.globalSAC.toNat ∨ ops.playbackBufferOffset = 0) :
    getLiveOutJitterBufferOffset ops (ops.globalSAC - ops.frameSize.toUInt64) = ops.playbackBufferOffset := by
  unfold getLiveOutJitterBufferOffset
  rw [UInt64.sub_self]
  dsimp only
  rcases here with past | start
  · have before := UInt64.toNat_sub_of_le ops.globalSAC ops.frameSize.toUInt64
      (UInt64.le_iff_toNat_le.mpr (by rwa [UInt32.toNat_toUInt64]))
    rw [if_neg, if_neg (by decide)]
    intro ahead
    rw [gt_iff_lt, UInt64.lt_iff_toNat_lt, before] at ahead
    omega
  · rw [start, if_neg (show ¬ (0 : UInt64).toUInt32 > 0 by decide), ite_self]

theorem legAudio {self : RTPAudioStream} (small : ops.liveOutJitterBufferLength.toNat < 2 ^ 30)
    (someSamples : self.rtpStreamInfo.maxSamplesPerPacket ≠ 0)
    (ready : ReadyLeg (min self.rtpStreamInfo.maxSamplesPerPacket ops.frameSize) s)
    (here : ops.frameSize.toNat ≤ ops.globalSAC.toNat ∨ ops.playbackBufferOffset = 0)
    (inRing : ops.playbackBufferOffset.toNat + ops.frameSize.toNat ≤ ops.liveOutJitterBufferLength.toNat)
    (seqNum : UInt16) :
    sentAudio (legPackets (some s) ops livesOut (outgoingPieces self ops seqNum)) =
      gather (sentRow s livesOut ops.playbackBufferOffset.toNat) ops.frameSize.toNat := by
  have rounds := outgoingPieces_rounds ops seqNum someSamples
  rw [sendOffset here] at rounds
  exact rounds.sent livesOut small ready (toNat_min .. ▸ Nat.le_refl _) inRing

theorem sentRow_same {t : RTPAudioStream} (same : SameStream s t) : sentRow t livesOut = sentRow s livesOut := by
  obtain ⟨_, _, info⟩ := same.info
  funext offset i
  unfold sentRow converter ringBase
  rw [info, same.livesOut]

theorem getElem?_sentRows (s : RTPAudioStream) (livesOut : RingMemory) (offset : Nat) {frames j us i : Nat}
    (inFrame : j < frames) (channel : us < s.rtpStreamInfo.nbOfChannels.toNat) (byte : i < (converter s).width) :
    (gather (sentRow s livesOut offset) frames)[
        (j * s.rtpStreamInfo.nbOfChannels.toNat + us) * (converter s).width + i]? =
      ((converter s).store (livesOut (ringBase s us + (offset + j))))[i]? :=
  getElem?_gather_blocks (fun _ _ => (converter s).length_store _) inFrame channel byte

end

namespace RTPStreamsManager

variable {m m' : RTPStreamsManager} {ops : RTPAudioStreamOps}

theorem SameManager.sendable {ops' : RTPAudioStreamOps} (same : m.SameManager m') (can : m.Sendable ops)
    (frame : ops'.frameSize = ops.frameSize) : m'.Sendable ops' := by
  have attached (h : StreamHandle) : m'.attached h = m.attached h := (same.stream h).attached
  have nicId (h : StreamHandle) : m'.nicId h = m.nicId h := congrArg EtherTubeNetfilter.nicId (same.stream h).nic
  constructor
  · intro h listed p isPartner
    obtain ⟨_, _, infoP⟩ := (same.stream p).info
    obtain ⟨_, _, infoH⟩ := (same.stream h).info
    rw [same.sourceOrdered] at listed ⊢
    rw [attached] at isPartner ⊢
    rw [nicId, nicId, infoP, infoH]
    exact can.pairs h listed p isPartner
  · intro h listed
    rw [same.sourceOrdered] at listed
    have sends : m'.sendingLeg h = m.sendingLeg h := by
      rw [sendingLeg, nicId, attached]
      rfl
    obtain ⟨_, _, info⟩ := (same.stream h).info
    obtain ⟨_, _, infoSender⟩ := (same.stream (m.sendingLeg h)).info
    have fits := can.fits h listed
    unfold LegFits at fits ⊢
    rw [sends, infoSender, info, frame]
    exact fits

structure SendsAudio (m : RTPStreamsManager) (ops : RTPAudioStreamOps) (livesOut : RingMemory) (log : SendLog) :
    Prop where
  frame : ∀ q ∈ m.sourceOrdered, CarriesFrame (m.stream q) ops (sentBy log q)
  audio : ∀ q ∈ m.sourceOrdered, sentAudio (sentBy log q) =
    gather (sentRow (m.stream q) livesOut ops.playbackBufferOffset.toNat) ops.frameSize.toNat

theorem sendOutgoingPackets_audio (reached : m.Reachable) (can : m.Sendable ops) (livesOut : RingMemory)
    (small : ops.liveOutJitterBufferLength.toNat < 2 ^ 30)
    (here : ops.frameSize.toNat ≤ ops.globalSAC.toNat ∨ ops.playbackBufferOffset = 0)
    (inRing : ops.playbackBufferOffset.toNat + ops.frameSize.toNat ≤ ops.liveOutJitterBufferLength.toNat) :
    ∃ m' log, m.sendOutgoingPackets ops true livesOut = .ok (m', log) ∧ m.SendsAudio ops livesOut log := by
  have ready := reached.ready can
  obtain ⟨m', log, sent, seqNum, frames⟩ := sendOutgoingPackets_ready reached can livesOut (.inr (by omega))
  have someSamples {q : StreamHandle} (listed : q ∈ m.sourceOrdered) :=
    (ready.accepted _ (ready.sendingLeg_listed listed)).someSamples
  refine ⟨m', log, sent, ?_, ?_⟩
  · intro q listed
    rw [frames q listed]
    exact legPackets_carry (someSamples listed) (ready.leg listed) _
  · intro q listed
    rw [frames q listed]
    exact legAudio livesOut small (someSamples listed) (ready.leg listed) here inRing _

theorem sendAfterPrepare {prepared : RTPStreamsManager} {F : UInt32} (reached : m.Reachable)
    (can : m.Sendable { frameSize := F }) (frame : ops.frameSize = F)
    (livesOut : RingMemory) (small : ops.liveOutJitterBufferLength.toNat < 2 ^ 30)
    (here : ops.frameSize.toNat ≤ ops.globalSAC.toNat ∨ ops.playbackBufferOffset = 0)
    (inRing : ops.playbackBufferOffset.toNat + ops.frameSize.toNat ≤ ops.liveOutJitterBufferLength.toNat)
    (done : m.prepareBufferLivesAll ops = .ok prepared) :
    ∃ m' log, prepared.sendOutgoingPackets ops true livesOut = .ok (m', log) ∧ m.SendsAudio ops livesOut log := by
  have same := prepareBufferLivesAll_same reached.consistent done
  obtain ⟨m', log, sent, sends⟩ := sendOutgoingPackets_audio (reached.step (.prepareLives ops) done)
    (same.sendable can frame) livesOut small here inRing
  refine ⟨m', log, sent, ?_, ?_⟩
  · intro q listed
    exact (sends.frame q (by rwa [same.sourceOrdered])).same ((same.stream q).symm)
  · intro q listed
    rw [sends.audio q (by rwa [same.sourceOrdered]), sentRow_same livesOut (same.stream q)]

end RTPStreamsManager

/-- What a TIC finds: the streams, the clocks and their locks as messages, packets and the timers have left
them, and the area of the substream. -/
structure PlaybackTIC where
  streams : RTPStreamsManager
  ptp : Nat → ClockPTP
  lockStatus : Nat → PTPLockStatus
  tick : Manager.Tick
  dma : Nat → UInt8

structure PlaybackRun where
  manager : Manager
  chip : AudioChip
  /-- What the last TIC sent. -/
  log : RTPStreamsManager.SendLog := []

namespace PlaybackTIC

def manager (t : PlaybackTIC) (m : Manager) : Manager :=
  { m with ptp := t.ptp, lastLockStatus := t.lockStatus, streams := t.streams }

def run (t : PlaybackTIC) (r : PlaybackRun) : Except Fault PlaybackRun := do
  let next ← (t.manager r.manager).audioFrameTICWithChip r.chip t.tick t.dma
  .ok ⟨next.1, next.2.1, next.2.2⟩

/-- The first `n` TICs of a playback that is started on a prepared chip. -/
def runs (tics : Nat → PlaybackTIC) (n : Nat) (m : Manager) (prepared : AudioChip) : Except Fault PlaybackRun :=
  let started := m.startInterrupts prepared true
  forUp (fun k => (tics k).run) n ⟨started.1, started.2, []⟩

def ops (t : PlaybackTIC) (r : PlaybackRun) : RTPAudioStreamOps :=
  (t.manager r.manager).callbacks r.chip.alsaBuffers

theorem run_eq (t : PlaybackTIC) {r : PlaybackRun} (sends : (t.manager r.manager).sendsOutgoing = true) :
    t.run r = (do
      let streams ← t.streams.prepareBufferLivesAll (t.ops r)
      let sent ← streams.sendOutgoingPackets (t.ops r) t.tick.skb r.chip.playbackBuffer
      let captured ← (t.manager r.manager).interruptCapture r.chip streams.livesIn
      let played ← (t.manager r.manager).interruptPlayback captured t.dma
      .ok ⟨(t.manager r.manager).setStreams sent.1, played, sent.2⟩) := by
  unfold run Manager.audioFrameTICWithChip
  simp only [sends, if_true, bind_assoc, ok_bind]
  rfl

/-- The TIC sends: the clock is locked, and every source can send a frame. The position is that of the clock
unless the clock is in its first frame. -/
structure Plays (t : PlaybackTIC) (nic : Nat) (sub : PCMSubstream) (F : UInt32) (n : Nat) : Prop where
  reached : t.streams.Reachable
  sendable : t.streams.Sendable { frameSize := F }
  buffers : t.tick.skb = true
  locked : t.lockStatus nic = .locked
  clock : F.toNat ≤ (t.ptp nic).globalSAC.toNat ∨ AudioChip.ringTurn sub F ∣ n

/-- What a TIC does besides the playback goes well: the sinks and the interrupt of a capture. -/
def OthersSucceed (t : PlaybackTIC) (r : PlaybackRun) : Prop :=
  ∃ prepared, t.streams.prepareBufferLivesAll (t.ops r) = .ok prepared ∧
    Succeeds ((t.manager r.manager).interruptCapture r.chip prepared.livesIn)

end PlaybackTIC

namespace PlaybackRun
open AudioChip PlaybackTIC

variable {sub : PCMSubstream} {F : UInt32} {dma : Nat → Nat → UInt8} {start : AudioChip} {n : Nat}
  {r r' : PlaybackRun} {t : PlaybackTIC} {m : Manager}

structure Kept (sub : PCMSubstream) (m : Manager) (dma : Nat → Nat → UInt8) (start : AudioChip) (n : Nat)
    (r : PlaybackRun) : Prop where
  config : r.manager.config = m.config
  started : r.manager.isStarted = true
  playing : r.manager.isPlaybackIO = true
  recording : r.manager.isRecordingIO = m.isRecordingIO
  running : r.manager.ioRunning = true
  nic : r.manager.activePTPNICIdx = m.activePTPNICIdx
  chip : Delaying sub m.frameSize dma start n r.chip

theorem Kept.frame (kept : r.Kept sub m dma start n) : r.manager.frameSize = m.frameSize :=
  congrArg Manager.Config.frameSize kept.config

theorem pcmInterruptCapture_delaying {chip next : AudioChip} {livesIn : RingMemory}
    (delaying : Delaying sub F dma start n chip) (done : chip.pcmInterruptCapture F livesIn = .ok next) :
    Delaying sub F dma start n next := by
  unfold pcmInterruptCapture at done
  split at done
  · cases done
    exact delaying
  · obtain ⟨_, -, same⟩ := bind_eq_ok.mp done
    cases same
    obtain ⟨⟨⟨playing, offset, reads⟩, pcm, position⟩, rings⟩ := delaying
    obtain ⟨substream, stride, interrupts, size, deinterleave⟩ := playing
    exact ⟨⟨⟨⟨substream, stride, interrupts, size, deinterleave⟩, offset, reads⟩, pcm, position⟩, rings⟩

structure Answers (sub : PCMSubstream) (F : UInt32) (n : Nat) (ops : RTPAudioStreamOps) : Prop where
  frame : ops.frameSize = F
  length : ops.liveOutJitterBufferLength.toNat = sub.ringFrames
  position : ops.playbackBufferOffset.toNat = n % ringTurn sub F * F.toNat
  inRing : ops.playbackBufferOffset.toNat + F.toNat ≤ sub.ringFrames
  clock : F.toNat ≤ ops.globalSAC.toNat ∨ ops.playbackBufferOffset = 0

theorem Kept.answers (kept : r.Kept sub m dma start n) (g : FIFOGeometry sub m.frameSize)
    (plays : t.Plays m.activePTPNICIdx sub m.frameSize n) :
    Answers sub m.frameSize n (t.ops r) := by
  have position := kept.chip.bufferPos
  rw [g.position] at position
  have moves := g.moves
  have frame := g.inside (Nat.mod_lt n g.turn_pos) (show m.frameSize.toNat - 1 < m.frameSize.toNat by omega)
  constructor
  case frame => exact kept.frame
  case length =>
    have length := playbackLength g.sized kept.chip.playing.substream
    rw [kept.chip.pcm] at length
    exact (congrArg UInt32.toNat length).trans (toNat_ringFrames g.sized).1
  case position => exact position
  case inRing =>
    change r.chip.playback.bufferPos.toNat + m.frameSize.toNat ≤ sub.ringFrames
    rw [position]
    omega
  case clock =>
    rcases plays.clock with past | turns
    · left
      change m.frameSize.toNat ≤ (t.ptp r.manager.activePTPNICIdx).globalSAC.toNat
      rwa [kept.nic]
    · right
      apply UInt32.toNat_inj.mp
      change r.chip.playback.bufferPos.toNat = 0
      rw [position, Nat.mod_eq_zero_of_dvd turns, Nat.zero_mul]

theorem Kept.sends (kept : r.Kept sub m dma start n) (plays : t.Plays m.activePTPNICIdx sub m.frameSize n) :
    (t.manager r.manager).sendsOutgoing = true := by
  change (r.manager.ioRunning && t.lockStatus r.manager.activePTPNICIdx == .locked) = true
  rw [kept.running, kept.nic, plays.locked]
  rfl

theorem Kept.captured (kept : r.Kept sub m dma start n) {chip : AudioChip} {livesIn : RingMemory}
    (done : (t.manager r.manager).interruptCapture r.chip livesIn = .ok chip) :
    Delaying sub m.frameSize dma start n chip := by
  unfold Manager.interruptCapture at done
  split at done
  · change r.chip.pcmInterruptCapture r.manager.frameSize livesIn = .ok chip at done
    rw [kept.frame] at done
    exact pcmInterruptCapture_delaying kept.chip done
  · cases done
    exact kept.chip

theorem Kept.interruptPlayback (kept : r.Kept sub m dma start n) (chip : AudioChip) :
    (t.manager r.manager).interruptPlayback chip t.dma = chip.pcmInterruptPlayback m.frameSize t.dma := by
  unfold Manager.interruptPlayback
  change (if r.manager.isPlaybackIO then chip.pcmInterruptPlayback r.manager.frameSize t.dma else _) = _
  rw [if_pos kept.playing, kept.frame]

/-- One TIC of the run: it sends the frames that its interrupt then overwrites. -/
theorem Kept.tic (kept : r.Kept sub m dma start n) (g : FIFOGeometry sub m.frameSize)
    (area : m.frameSize.toNat ∣ sub.bufferSize) (plays : t.Plays m.activePTPNICIdx sub m.frameSize n)
    (isArea : t.dma = dma n) :
    (t.OthersSucceed r → Succeeds (t.run r)) ∧
      ∀ r', t.run r = .ok r' →
        r'.Kept sub m dma start (n + 1) ∧ t.streams.SendsAudio (t.ops r) r.chip.playbackBuffer r'.log := by
  have answers := kept.answers g plays
  have small := (toNat_ringFrames g.sized).2
  have short := Nat.le_of_dvd g.sized.ringFrames.1 g.turns
  have sent {prepared : RTPStreamsManager} (done : t.streams.prepareBufferLivesAll (t.ops r) = .ok prepared) :=
    RTPStreamsManager.sendAfterPrepare plays.reached plays.sendable answers.frame r.chip.playbackBuffer
      (by rw [answers.length]; omega) (by rw [answers.frame]; exact answers.clock)
      (by rw [answers.frame, answers.length]; exact answers.inRing) done
  rw [run_eq t (kept.sends plays), plays.buffers]
  constructor
  · rintro ⟨prepared, prepares, chip, captures⟩
    obtain ⟨streams, log, sending, -⟩ := sent prepares
    have interrupts := (kept.captured captures).toPCMPlayedFor.interrupt g.format g.sized short g.moves (dma n)
    obtain ⟨next, plays⟩ := interrupts.1 (RingCursor.fits_of_dvd g.sized.bufferSize.1 area (Nat.dvd_zero _) n)
    rw [prepares, ok_bind, sending, ok_bind, captures, ok_bind, kept.interruptPlayback, isArea, plays, ok_bind]
    exact succeeds_ok _
  · intro r' done
    obtain ⟨prepared, prepares, done⟩ := bind_eq_ok.mp done
    obtain ⟨⟨streams, log⟩, sending, done⟩ := bind_eq_ok.mp done
    obtain ⟨chip, captures, done⟩ := bind_eq_ok.mp done
    obtain ⟨next, interrupts, same⟩ := bind_eq_ok.mp done
    obtain ⟨streams', log', sending', sends⟩ := sent prepares
    cases sending.symm.trans sending'
    rw [kept.interruptPlayback, isArea] at interrupts
    cases same
    refine ⟨⟨kept.config, kept.started, kept.playing, kept.recording, kept.running, kept.nic, ?_⟩, sends⟩
    exact (kept.captured captures).interrupt g interrupts

/-- The position and the geometry are those of the preparation; the start has written to the rings alone. -/
theorem kept_start {before : Manager} {chip prepared : AudioChip} {err : Int32} (g : FIFOGeometry sub m.frameSize)
    (started : m.isStarted = true) (pcm : getDSDMode before.sampleRate = 0)
    (done : chip.preparePlayback sub before err = some prepared) (dma : Nat → Nat → UInt8) :
    Kept sub m dma (m.startInterrupts prepared true).2 0
      ⟨(m.startInterrupts prepared true).1, (m.startInterrupts prepared true).2, []⟩ := by
  obtain ⟨⟨⟨substream, stride, interrupts, size, deinterleave⟩, offset, reads⟩, isPCM, position⟩ :=
    preparePlayback_played m.frameSize g.sized pcm done
  unfold Manager.startInterrupts Manager.startIo
  rw [started, if_neg (by decide), if_pos rfl, if_pos (by decide)]
  refine ⟨rfl, rfl, rfl, rfl, rfl, rfl, ⟨⟨⟨?_, offset, ?_⟩, isPCM, position⟩, ?_⟩⟩
  · exact ⟨substream, stride, interrupts, size, deinterleave⟩
  · exact (List.append_nil _).symm
  · intro ch _ j _
    exact holds_start _

theorem Kept.runs {prepared : AudioChip} {tics : Nat → PlaybackTIC}
    (kept : Kept sub m (fun k => (tics k).dma) (m.startInterrupts prepared true).2 0
      ⟨(m.startInterrupts prepared true).1, (m.startInterrupts prepared true).2, []⟩)
    (g : FIFOGeometry sub m.frameSize) (area : m.frameSize.toNat ∣ sub.bufferSize)
    (plays : ∀ k < n, (tics k).Plays m.activePTPNICIdx sub m.frameSize k)
    (done : PlaybackTIC.runs tics n m prepared = .ok r) :
    Kept sub m (fun k => (tics k).dma) (m.startInterrupts prepared true).2 n r := by
  apply forUp_kept (Kept sub m (fun k => (tics k).dma) (m.startInterrupts prepared true).2 ·) kept _ done
  intro k r r' below kept step
  exact ((kept.tic g area (plays k below) rfl).2 r' step).1

end PlaybackRun

namespace PlaybackTIC
open AudioChip

/-- Sample `j` of channel `ch` in the frame that TIC `n` is to send: what the interrupt one turn before has
read, and the mute pattern in the first turn. -/
def delayedSample (tics : Nat → PlaybackTIC) (sub : PCMSubstream) (F : UInt32) (pattern : UInt8) (ch n j : Nat) :
    Sample :=
  delayed (ringTurn sub F) (fun _ => mutedCell pattern)
    (fun k => sub.areaSample (tics k).dma (RingCursor.after sub.bufferSize F.toNat 0 k + j) ch) n

/-- TIC `n` sends a frame of every source, in which a channel from the ring of `ch` has the delayed samples. -/
structure SendsDelayed (tics : Nat → PlaybackTIC) (sub : PCMSubstream) (m : Manager) (ch n : Nat) (r : PlaybackRun)
    (log : RTPStreamsManager.SendLog) : Prop where
  frame : ∀ q ∈ (tics n).streams.sourceOrdered,
    CarriesFrame ((tics n).streams.stream q) ((tics n).ops r) (RTPStreamsManager.sentBy log q)
  audio : ∀ q ∈ (tics n).streams.sourceOrdered, ∀ s, s = (tics n).streams.stream q →
    ∀ us < s.rtpStreamInfo.nbOfChannels.toNat, s.livesOutCircularBuffer us = some (ch * ringBufferSize.toNat) →
    ∀ j < m.frameSize.toNat, ∀ i < (converter s).width,
      (sentAudio (RTPStreamsManager.sentBy log q))[
          (j * s.rtpStreamInfo.nbOfChannels.toNat + us) * (converter s).width + i]? =
        ((converter s).store
          (delayedSample tics sub m.frameSize (Manager.muteChannels m.sampleRate) ch n j))[i]?

/-- The fill of the start reaches the whole ring of channel `ch`, or else finds it muted. -/
def StartsMuted (sub : PCMSubstream) (m : Manager) (prepared : AudioChip) (ch : Nat) : Prop :=
  ∀ p < sub.ringFrames, ch * ringBufferSize.toNat + p < sub.ringFrames * m.numberOfOutputs.toNat ∨
    prepared.playbackBuffer (ch * ringBufferSize.toNat + p) = mutedCell (Manager.muteChannels m.sampleRate)

theorem StartsMuted.started {sub : PCMSubstream} {m : Manager} {prepared : AudioChip} {ch p : Nat}
    (muted : StartsMuted sub m prepared ch) (sized : sub.Sized) (started : m.isStarted = true)
    (substream : prepared.playback.substream = some sub) (pcm : prepared.currentDSD = 0)
    (below : p < sub.ringFrames) :
    (m.startInterrupts prepared true).2.playbackBuffer (ch * ringBufferSize.toNat + p) =
      mutedCell (Manager.muteChannels m.sampleRate) := by
  have length := congrArg UInt32.toNat (playbackLength sized substream)
  rw [pcm, (toNat_ringFrames sized).1] at length
  unfold Manager.startInterrupts
  rw [if_pos ⟨started, rfl⟩]
  unfold Manager.muteOutputBuffer Manager.muteBuffer
  dsimp only
  rw [Manager.muteCells_eq, length]
  split
  · rfl
  · rename_i outside
    exact (muted p below).resolve_left outside

theorem delayedSample_eq {tics : Nat → PlaybackTIC} {sub : PCMSubstream} {m : Manager} {prepared chip : AudioChip}
    {ch n j : Nat} (g : FIFOGeometry sub m.frameSize)
    (delaying : Delaying sub m.frameSize (fun k => (tics k).dma) (m.startInterrupts prepared true).2 n chip)
    (muted : ∀ p < sub.ringFrames,
      (m.startInterrupts prepared true).2.playbackBuffer (ch * ringBufferSize.toNat + p) =
        mutedCell (Manager.muteChannels m.sampleRate))
    (channel : ch < sub.channels.toNat) (inFrame : j < m.frameSize.toNat) :
    chip.playbackBuffer
        (ch * ringBufferSize.toNat + (n % ringTurn sub m.frameSize * m.frameSize.toNat + j)) =
      delayedSample tics sub m.frameSize (Manager.muteChannels m.sampleRate) ch n j := by
  rw [(delaying.rings ch channel j inFrame).read g.turn_pos]
  unfold delayedSample delayed
  split
  · rename_i firstTurn
    exact muted _ (g.inside firstTurn inFrame)
  · rfl

/-- In every run from a start that mutes the ring of a channel, each source sends on it, in each TIC, what the
interrupt one turn before has read. -/
theorem playback_delays {opener before m : Manager} {c : HwConstraints} {sub : PCMSubstream}
    {chip prepared : AudioChip} {err : Int32} {tics : Nat → PlaybackTIC} {ch n : Nat} {r : PlaybackRun}
    (opened : pcmOpen playbackFormats opener = .ok c) (allows : c.Allows sub)
    (format : sub.format ∈ captureFormats) (ring : sub.ringFrames ≤ ringBufferSize.toNat)
    (turns : m.frameSize.toNat ∣ sub.ringFrames)
    (area : m.frameSize.toNat ∣ sub.bufferSize) (pcm : getDSDMode before.sampleRate = 0)
    (done : chip.preparePlayback sub before err = some prepared) (started : m.isStarted = true)
    (channel : ch < sub.channels.toNat) (muted : StartsMuted sub m prepared ch)
    (plays : ∀ k ≤ n, (tics k).Plays m.activePTPNICIdx sub m.frameSize k) (ran : runs tics n m prepared = .ok r) :
    ((tics n).OthersSucceed r → Succeeds ((tics n).run r)) ∧
      ∀ r', (tics n).run r = .ok r' → SendsDelayed tics sub m ch n r r'.log := by
  have sized := pcmOpen_sized opened allows
  have moves := Nat.pos_of_dvd_of_pos turns sized.ringFrames.1
  have g : FIFOGeometry sub m.frameSize := ⟨sized, format, moves, turns, ring⟩
  have isPrepared := preparePlayback_played m.frameSize sized pcm done
  have kept := (PlaybackRun.kept_start g started pcm done fun k => (tics k).dma).runs g area
    (fun k below => plays k (Nat.le_of_lt below)) ran
  have answers := kept.answers g (plays n (Nat.le_refl n))
  obtain ⟨succeeds, after⟩ := kept.tic g area (plays n (Nat.le_refl n)) rfl
  refine ⟨succeeds, ?_⟩
  intro r' last
  obtain ⟨-, frame, audio⟩ := after r' last
  refine ⟨frame, ?_⟩
  rintro q listed s rfl us isChannel routed j inFrame i byte
  have base : ringBase ((tics n).streams.stream q) us = ch * ringBufferSize.toNat := by
    rw [ringBase, routed, Option.getD_some]
  have sample := delayedSample_eq g kept.chip
    (fun p below => muted.started sized started isPrepared.playing.substream isPrepared.pcm below) channel inFrame
  rw [audio q listed, answers.frame, answers.position, getElem?_sentRows _ _ _ inFrame isChannel byte, base,
    sample]

def threeFrames : PCMSubstream :=
  { periodSize := 64, periods := 3, fits := by decide, format := .s16LE, rate := 48000, channels := 2,
    bufferSize := 192 }

def stereoSource : RTPStreamInfo :=
  { RTPStreamsManager.monoSource 0 with nbOfChannels := 2, routing := fun us => UInt32.ofNat us }

def onAir : Manager := { framesOf64 with isStarted := true }

def oneStereoSource : RTPStreamsManager :=
  ((RTPStreamsManager.init (fun _ => {}) fun _ => {}).addRTPStream stereoSource (onAir.callbacks {})).1

def ticOfSession (session : UInt8) (k : Nat) : PlaybackTIC where
  streams := oneStereoSource
  ptp := fun _ => { ClockPTP.initPTP with globalSAC := UInt64.ofNat (64 * (k + 1)) }
  lockStatus := fun _ => .locked
  tick := {
    clockTime := fun _ => 0
    endTime := fun _ => 0
    counterTime := fun _ => 0
    currentRTXClockTime := fun _ => 0
    alsa := {}
    skb := true
    livesOut := fun _ => {} }
  dma := fun _ => session

theorem threeFrames_allowed : ∃ c, pcmOpen playbackFormats onAir = .ok c ∧ c.Allows threeFrames := by
  refine ⟨_, rfl, ?_⟩
  constructor
  all_goals decide

theorem ticOfSession_plays (nic : Nat) (session : UInt8) {k : Nat} (small : k < 2 ^ 50) :
    (ticOfSession session k).Plays nic threeFrames onAir.frameSize k := by
  have listed : oneStereoSource.sourceOrdered = [.source 0] := by rfl
  have reached : oneStereoSource.Reachable :=
    (RTPStreamsManager.init_reachable _ _).step (.add stereoSource (onAir.callbacks {})) rfl
  constructor
  · exact reached
  · change oneStereoSource.Sendable { frameSize := onAir.frameSize }
    constructor
    · rw [listed]
      intro h isListed p isPartner
      rw [List.mem_singleton.mp isListed] at isPartner
      cases isPartner
    · rw [listed]
      intro h isListed
      rw [List.mem_singleton.mp isListed]
      decide
  · rfl
  · rfl
  · left
    change 64 ≤ (UInt64.ofNat (64 * (k + 1))).toNat
    rw [UInt64.toNat_ofNat']
    omega

theorem threeFrames_geometry : FIFOGeometry threeFrames onAir.frameSize := by
  obtain ⟨c, opened, allows⟩ := threeFrames_allowed
  exact ⟨pcmOpen_sized opened allows, by decide, by decide, by decide, by decide⟩

/-- The rings of a chip that was not used are muted. -/
theorem playback_delays_first : ∃ prepared, ({} : AudioChip).preparePlayback threeFrames onAir 0 = some prepared ∧
    ∀ n r, n < 2 ^ 50 → runs (ticOfSession 1) n onAir prepared = .ok r →
      ((ticOfSession 1 n).OthersSucceed r → Succeeds ((ticOfSession 1 n).run r)) ∧
        ∀ r', (ticOfSession 1 n).run r = .ok r' →
          SendsDelayed (ticOfSession 1) threeFrames onAir 1 n r r'.log := by
  obtain ⟨c, opened, allows⟩ := threeFrames_allowed
  obtain ⟨prepared, done, muted⟩ : ∃ prepared,
      ({} : AudioChip).preparePlayback threeFrames onAir 0 = some prepared ∧
        StartsMuted threeFrames onAir prepared 1 := ⟨_, rfl, fun _ _ => .inr rfl⟩
  refine ⟨prepared, done, ?_⟩
  intro n r short ran
  exact playback_delays opened allows (by decide) (by decide) (by decide) (by decide) rfl done rfl (by decide)
    muted (fun k _ => ticOfSession_plays _ 1 (show k < 2 ^ 50 by omega)) ran

theorem others_succeed {session : UInt8} {k : Nat} {r : PlaybackRun} (idle : r.manager.isRecordingIO = false) :
    (ticOfSession session k).OthersSucceed r := by
  refine ⟨_, rfl, ?_⟩
  unfold Manager.interruptCapture
  change Succeeds (if r.manager.isRecordingIO then _ else _)
  rw [idle, if_neg Bool.false_ne_true]
  exact succeeds_ok _

/-- The stop and the next preparation leave the frame of a first TIC in the ring of channel 1. -/
theorem stale_after_stop {first : AudioChip} {r : PlaybackRun}
    (kept : PlaybackRun.Kept threeFrames onAir (fun k => (ticOfSession 1 k).dma) first 1 r) :
    (r.manager.stopInterrupts r.chip true).2.playbackBuffer ringBufferSize.toNat = ⟨0, 0, 1, 1⟩ := by
  have sized := threeFrames_geometry.sized
  have written := kept.chip.rings 1 (by decide) 0 (by decide) 3 (by decide) (by decide)
  have length := congrArg UInt32.toNat (playbackLength sized kept.chip.playing.substream)
  rw [kept.chip.pcm, (toNat_ringFrames sized).1] at length
  have outputs : r.manager.numberOfOutputs = 64 := congrArg Manager.Config.numberOfOutputs kept.config
  unfold Manager.stopInterrupts
  rw [if_pos ⟨rfl, kept.playing⟩]
  unfold Manager.muteOutputBuffer Manager.muteBuffer
  dsimp only
  rw [Manager.muteCells_eq, length, outputs, if_neg (by decide)]
  exact written

theorem SendsDelayed.first {tics : Nat → PlaybackTIC} {sub : PCMSubstream} {m : Manager} {start : AudioChip}
    {ch : Nat} {r sent : PlaybackRun} (delayed : SendsDelayed tics sub m ch 0 r sent.log)
    (kept : PlaybackRun.Kept sub m (fun k => (tics k).dma) start 0 r) (g : FIFOGeometry sub m.frameSize)
    (area : m.frameSize.toNat ∣ sub.bufferSize) (plays : (tics 0).Plays m.activePTPNICIdx sub m.frameSize 0)
    (ran : (tics 0).run r = .ok sent) {q : StreamHandle} (listed : q ∈ (tics 0).streams.sourceOrdered) {us : Nat}
    (isChannel : us < ((tics 0).streams.stream q).rtpStreamInfo.nbOfChannels.toNat)
    (routed : ((tics 0).streams.stream q).livesOutCircularBuffer us = some (ch * ringBufferSize.toNat)) :
    (converter ((tics 0).streams.stream q)).store (r.chip.playbackBuffer (ch * ringBufferSize.toNat)) =
      (converter ((tics 0).streams.stream q)).store (mutedCell (Manager.muteChannels m.sampleRate)) := by
  have answers := kept.answers g plays
  have sends := ((kept.tic g area plays rfl).2 sent ran).2
  have base : ringBase ((tics 0).streams.stream q) us = ch * ringBufferSize.toNat := by
    rw [ringBase, routed, Option.getD_some]
  apply List.ext_getElem?
  intro i
  by_cases byte : i < (converter ((tics 0).streams.stream q)).width
  · have isMute := delayed.audio q listed _ rfl us isChannel routed 0 g.moves i byte
    rw [sends.audio q listed, answers.frame, answers.position, getElem?_sentRows _ _ _ g.moves isChannel byte,
      base] at isMute
    simp only [Nat.zero_mod, Nat.zero_mul, Nat.add_zero] at isMute
    rw [isMute, delayedSample, DelayRing.delayed, if_pos g.turn_pos]
  · rw [List.getElem?_eq_none (by rw [MappedToInterleave.length_store]; omega),
      List.getElem?_eq_none (by rw [MappedToInterleave.length_store]; omega)]

/-- A second playback starts where a first one of one TIC has left the chip. -/
theorem second_start {first : AudioChip} {r : PlaybackRun}
    (kept : PlaybackRun.Kept threeFrames onAir (fun k => (ticOfSession 1 k).dma) first 1 r) :
    ∃ second, (r.manager.stopInterrupts r.chip true).2.preparePlayback threeFrames r.manager 0 = some second ∧
      second.playbackBuffer ringBufferSize.toNat = ⟨0, 0, 1, 1⟩ := by
  have stale := stale_after_stop kept
  refine ⟨_, if_neg fun refused => ?_, stale⟩
  exact absurd refused.2 (by decide)

theorem stopped_config {first : AudioChip} {r : PlaybackRun}
    (kept : PlaybackRun.Kept threeFrames onAir (fun k => (ticOfSession 1 k).dma) first 1 r) :
    (r.manager.stopInterrupts r.chip true).1.config = onAir.config ∧
      (r.manager.stopInterrupts r.chip true).1.isStarted = true ∧
      Manager.isRecordingIO (r.manager.stopInterrupts r.chip true).1 = false := by
  unfold Manager.stopInterrupts Manager.stopIo
  rw [if_pos rfl, if_pos kept.playing]
  exact ⟨kept.config, kept.started, kept.recording⟩

/-- The start of the second playback does not reach the ring of channel 1. -/
theorem second_stale {m : Manager} {second : AudioChip} (config : m.config = onAir.config)
    (started : m.isStarted = true) (substream : second.playback.substream = some threeFrames)
    (pcm : second.currentDSD = 0) :
    (m.startInterrupts second true).2.playbackBuffer ringBufferSize.toNat =
      second.playbackBuffer ringBufferSize.toNat := by
  have sized := threeFrames_geometry.sized
  have length := congrArg UInt32.toNat (playbackLength sized substream)
  rw [pcm, (toNat_ringFrames sized).1] at length
  have outputs : m.numberOfOutputs = 64 := congrArg Manager.Config.numberOfOutputs config
  unfold Manager.startInterrupts
  rw [if_pos ⟨started, rfl⟩]
  unfold Manager.muteOutputBuffer Manager.muteBuffer
  dsimp only
  rw [Manager.muteCells_eq, length, outputs, if_neg (by decide)]

theorem stale_sent {m before : Manager} {chip second : AudioChip} (config : m.config = onAir.config)
    (started : m.isStarted = true) (idle : m.isRecordingIO = false) (pcm : before.sampleRate = 48000)
    (prepared : chip.preparePlayback threeFrames before 0 = some second)
    (stale : second.playbackBuffer ringBufferSize.toNat = ⟨0, 0, 1, 1⟩) :
    ∃ r sent, runs (ticOfSession 2) 0 m second = .ok r ∧ (ticOfSession 2 0).run r = .ok sent ∧
      ¬ SendsDelayed (ticOfSession 2) threeFrames m 1 0 r sent.log := by
  have frame : m.frameSize = onAir.frameSize := congrArg Manager.Config.frameSize config
  have rate : m.sampleRate = 48000 := congrArg Manager.Config.sampleRate config
  have g : FIFOGeometry threeFrames m.frameSize := by
    rw [frame]
    exact threeFrames_geometry
  have area : m.frameSize.toNat ∣ threeFrames.bufferSize := by
    rw [frame]
    decide
  have plays : (ticOfSession 2 0).Plays m.activePTPNICIdx threeFrames m.frameSize 0 := by
    rw [frame]
    exact ticOfSession_plays _ 2 (by decide)
  have mode : getDSDMode before.sampleRate = 0 := by
    rw [pcm]
    rfl
  have kept := PlaybackRun.kept_start g started mode prepared (fun k => (ticOfSession 2 k).dma)
  have played := preparePlayback_played m.frameSize g.sized mode prepared
  have cell := second_stale config started played.playing.substream played.pcm
  obtain ⟨sent, ran⟩ := (kept.tic g area plays rfl).1 (others_succeed (kept.recording.trans idle))
  refine ⟨_, sent, rfl, ran, ?_⟩
  intro delayed
  have listed : StreamHandle.source 0 ∈ oneStereoSource.sourceOrdered := by decide
  have muted := delayed.first kept g area plays ran listed (show 1 < 2 by decide) rfl
  rw [rate] at muted
  dsimp only at muted
  rw [Nat.one_mul, cell, stale] at muted
  exact absurd muted (by decide)

theorem first_session : ∃ first r, ({} : AudioChip).preparePlayback threeFrames onAir 0 = some first ∧
    runs (ticOfSession 1) 1 onAir first = .ok r ∧
    PlaybackRun.Kept threeFrames onAir (fun k => (ticOfSession 1 k).dma)
      (onAir.startInterrupts first true).2 1 r := by
  have g := threeFrames_geometry
  obtain ⟨first, prepared⟩ : ∃ first, ({} : AudioChip).preparePlayback threeFrames onAir 0 = some first := ⟨_, rfl⟩
  have kept := PlaybackRun.kept_start (m := onAir) g rfl rfl prepared (fun k => (ticOfSession 1 k).dma)
  obtain ⟨succeeds, after⟩ := kept.tic g (by decide) (ticOfSession_plays _ 1 (by decide)) rfl
  obtain ⟨r, ran⟩ := succeeds (others_succeed kept.recording)
  refine ⟨first, r, prepared, ?_, (after r ran).1⟩
  unfold runs
  rw [forUp_succ, forUp_zero, ok_bind]
  exact ran

/-- A second playback after a first one of one TIC: in its first frame it sends what is left of the first. -/
theorem playback_stale : FIFOGeometry threeFrames onAir.frameSize ∧ ∃ first r second r' sent,
    ({} : AudioChip).preparePlayback threeFrames onAir 0 = some first ∧
    runs (ticOfSession 1) 1 onAir first = .ok r ∧
    (r.manager.stopInterrupts r.chip true).2.preparePlayback threeFrames r.manager 0 = some second ∧
    runs (ticOfSession 2) 0 (r.manager.stopInterrupts r.chip true).1 second = .ok r' ∧
    (ticOfSession 2 0).run r' = .ok sent ∧
    ¬ SendsDelayed (ticOfSession 2) threeFrames (r.manager.stopInterrupts r.chip true).1 1 0 r' sent.log := by
  obtain ⟨first, r, prepared, ran, kept⟩ := first_session
  have rate : r.manager.sampleRate = 48000 := congrArg Manager.Config.sampleRate kept.config
  obtain ⟨second, prepared', stale⟩ := second_start kept
  obtain ⟨config, started, idle⟩ := stopped_config kept
  obtain ⟨r', sent, start, ran', stale⟩ := stale_sent config started idle rate prepared' stale
  exact ⟨threeFrames_geometry, first, r, second, r', sent, prepared, ran, prepared', start, ran', stale⟩

end PlaybackTIC

end RavennaLkm
