import RavennaLkm.CaptureStream
import RavennaLkm.FalseAlarms
import RavennaLkm.FormatRoundTrip
import RavennaLkm.StreamOnWire

/-!
Two hosts. One plays: its TICs send the frames of a source. The other one records:
its sink is given the packets, and its TICs hand over the rings to ALSA. The TICs
of both and the arrivals come in any order, as long as the packets come in time.
-/
namespace RavennaLkm
open AudioChip CheckedLoop CellWrites DelayRing Gather GuardedRun PlaybackTIC RTPStreamsManager

namespace RTPStreamsManager

variable {m m' : RTPStreamsManager} {ops : RTPAudioStreamOps}

theorem prepareEach_toRTPStream (l : List StreamHandle) (prepared : prepareEach ops l m = .ok m') (q : StreamHandle) :
    (m'.stream q).toRTPStream = (m.stream q).toRTPStream := by
  induction l generalizing m with
  | nil =>
    cases prepared
    rfl
  | cons h rest ih =>
    obtain ⟨⟨s, mem⟩, run, later⟩ := bind_eq_ok.mp prepared
    rw [ih later, storeStream_stream]
    split
    · rename_i same
      rw [same]
      exact prepareBufferLives_stream run
    · rfl

theorem prepareBufferLivesAll_sources (c : m.Consistent) (prepared : m.prepareBufferLivesAll ops = .ok m') :
    m.SameSources m' := by
  have same := prepareBufferLivesAll_same c prepared
  obtain ⟨pass, run, rest⟩ := bind_eq_ok.mp prepared
  obtain ⟨nic0, run0, run1⟩ := bind_eq_ok.mp rest
  have entered := prepareEach_same _ run
  have active (h : StreamHandle) (listed : h ∈ m.sourceOrdered) : (pass.handlers h).active = true := by
    rw [entered.active, (enterAll _ _).handler]
    exact c.active (.inl listed)
  refine ⟨same.sourceOrdered, fun h => ?_⟩
  have base : (m'.stream h).toRTPStream = (m.stream h).toRTPStream := by
    rw [prepareEach_toRTPStream _ run1, prepareEach_toRTPStream _ run0, stream, (leaveAll ops _ pass active).handler]
    change (pass.stream h).toRTPStream = _
    rw [prepareEach_toRTPStream _ run, stream, (enterAll _ _).handler]
    rfl
  obtain ⟨-, nic, attached, initialized, livesOut, livesIn, convertOut, convertIn⟩ := same.stream h
  exact ⟨congrArg RTPStream.rtpStreamInfo base, nic, congrArg RTPStream.rtpPacketBaseOutgoing base, livesOut,
    convertOut, attached, initialized, livesIn, convertIn⟩

end RTPStreamsManager

theorem PlaybackRun.Kept.sentPackets {sub : PCMSubstream} {m : Manager} {dma : Nat → Nat → UInt8}
    {start : AudioChip} {n : Nat} {r r' : PlaybackRun} {t : PlaybackTIC} (kept : r.Kept sub m dma start n)
    (g : FIFOGeometry sub m.frameSize) (plays : t.Plays m.activePTPNICIdx sub m.frameSize n)
    (done : t.run r = .ok r') {q : StreamHandle} (listed : q ∈ t.streams.sourceOrdered) :
    ∃ sender seqNum, sender.rtpStreamInfo.maxSamplesPerPacket ≠ 0 ∧
      LegFits (min sender.rtpStreamInfo.maxSamplesPerPacket m.frameSize) (t.streams.stream q) ∧
      sentBy r'.log q = legPackets (some (t.streams.stream q)) (t.ops r) r.chip.playbackBuffer
        (outgoingPieces sender (t.ops r) seqNum) := by
  have answers := kept.answers g plays
  have inRing := answers.inRing
  have small := (toNat_ringFrames g.sized).2
  rw [run_eq t (kept.sends plays), plays.buffers] at done
  obtain ⟨prepared, prepares, done⟩ := bind_eq_ok.mp done
  obtain ⟨⟨streams, log⟩, sending, done⟩ := bind_eq_ok.mp done
  obtain ⟨_, -, done⟩ := bind_eq_ok.mp done
  obtain ⟨_, -, last⟩ := bind_eq_ok.mp done
  cases last
  have reached := plays.reached.step (.prepareLives (t.ops r)) prepares
  have same := prepareBufferLivesAll_sources plays.reached.consistent prepares
  have can : prepared.Sendable (t.ops r) :=
    (prepareBufferLivesAll_same plays.reached.consistent prepares).sendable plays.sendable answers.frame
  have isListed : q ∈ prepared.sourceOrdered := by rwa [same.sourceOrdered]
  obtain ⟨_, _, sending', seqNum, frames⟩ := sendOutgoingPackets_ready reached can r.chip.playbackBuffer
    (.inr (by rw [answers.frame]; omega))
  cases sending.symm.trans sending'
  have ready := reached.ready can
  refine ⟨prepared.stream (prepared.sendingLeg q), seqNum (prepared.sendingLeg q), ?_, ?_, ?_⟩
  · exact (ready.accepted _ (ready.sendingLeg_listed isListed)).someSamples
  · have fits := can.fits q isListed
    rw [answers.frame] at fits
    unfold LegFits at fits ⊢
    rwa [(same.stream q).info] at fits
  · rw [frames q isListed, same.legPackets]

/-- A session between two hosts: the playback with all that its TICs find, the source in them, and the sink and
the capture of the other host. The channels of the session have their rings at `playChannel` and
`recordChannel`. -/
structure Transmission where
  play : PCMSubstream
  player : Manager
  prepared : AudioChip
  tics : Nat → PlaybackTIC
  source : StreamHandle
  /-- The time of the first sample. -/
  sac : Nat
  ssrc : UInt32
  codec : InterleaveToMapped
  sink : RTPAudioStream
  rings : RingMemory
  record : PCMSubstream
  mode : UInt32
  frameSize : UInt32
  recorder : AudioChip
  playChannel : Nat → Nat
  recordChannel : Nat → Nat

structure Hosts where
  player : PlaybackRun
  /-- The TICs of the player. -/
  tics : Nat := 0
  wire : List RTPFrame := []
  sink : RTPAudioStream
  /-- The samples that the sink was given. -/
  given : Nat := 0
  rings : RingMemory
  recorder : AudioChip

/-- A TIC of the player, the arrival of the next packet, the other sinks of the recorder, and a TIC of the
recorder. -/
inductive HostsOp where
  | send
  | arrive (ops : RTPAudioStreamOps)
  | otherSinks (rings : RingMemory)
  | tic (ops : RTPAudioStreamOps)

namespace Transmission

variable (t : Transmission)

def start : Hosts where
  player := ⟨(t.player.startInterrupts t.prepared true).1, (t.player.startInterrupts t.prepared true).2, []⟩
  sink := t.sink
  rings := t.rings
  recorder := t.recorder

def step (h : Hosts) : HostsOp → Except Fault Hosts
  | .send => do
    let player ← (t.tics h.tics).run h.player
    .ok { h with
      player := player, tics := h.tics + 1, wire := h.wire ++ arrivedFrames (sentBy player.log t.source) }
  | .arrive ops =>
    match h.wire with
    | [] => .ok h
    | frame :: wire => do
      let done ← processRTPAudioPacket h.sink none ops frame h.rings
      .ok { h with
        wire := wire, sink := done.1, rings := done.2.1, given := h.given + (claimedSamples h.sink frame).toNat }
  | .otherSinks rings => .ok { h with rings := rings }
  | .tic ops => do
    let prepared ← prepareBufferLives h.sink none ops h.rings
    let recorder ← h.recorder.pcmInterruptCapture ops.frameSize prepared.2
    .ok { h with sink := prepared.1, rings := prepared.2, recorder := recorder }

def turn : Nat := ringTurn t.play t.player.frameSize

/-- Length of the capture rings. -/
def length : Nat := (ringBufferFrames t.mode t.record).toNat

def delay : Nat := t.sink.rtpStreamInfo.playOutDelay.toNat

/-- Sample `p` of the session: a frame is sent one turn of the rings after the interrupt that has read it. -/
def stream : AudioStream := fun us p =>
  t.codec.truncated (delayed t.turn
    (fun slot => t.start.player.chip.playbackBuffer (t.playChannel us * ringBufferSize.toNat +
      (slot * t.player.frameSize.toNat + p % t.player.frameSize.toNat)))
    (fun k => t.play.areaSample (t.tics k).dma
      (RingCursor.after t.play.bufferSize t.player.frameSize.toNat 0 k + p % t.player.frameSize.toNat)
      (t.playChannel us))
    (p / t.player.frameSize.toNat))

structure SourceReady (n : Nat) : Prop where
  plays : (t.tics n).Plays t.player.activePTPNICIdx t.play t.player.frameSize n
  clock : ((t.tics n).ptp t.player.activePTPNICIdx).globalSAC.toNat = t.sac + (n + 1) * t.player.frameSize.toNat
  noOverflow : t.sac + t.delay + (n + 1) * t.player.frameSize.toNat < 2 ^ 64
  listed : t.source ∈ (t.tics n).streams.sourceOrdered
  session : Session ((t.tics n).streams.stream t.source) t.sink t.codec
  isSSRC : ((t.tics n).streams.stream t.source).rtpStreamInfo.ssrc = t.ssrc
  routed : ∀ us < t.sink.rtpStreamInfo.nbOfChannels.toNat,
    ((t.tics n).streams.stream t.source).livesOutCircularBuffer us = some (t.playChannel us * ringBufferSize.toNat)

structure Arrives (h : Hosts) (ops : RTPAudioStreamOps) : Prop where
  someFrame : ops.frameSize ≠ 0
  length : ops.liveInJitterBufferLength.toNat = t.length
  behind : ops.globalSAC.toNat < t.sac + h.given + 2 ^ 30
  ahead : t.sac + h.tics * t.player.frameSize.toNat ≤ ops.globalSAC.toNat + 2 ^ 30

/-- As soon as a packet has arrived, the coming frame of the recorder has arrived before each TIC. -/
structure Due (h : Hosts) (ops : RTPAudioStreamOps) : Prop where
  frameSize : ops.frameSize = t.frameSize
  length : ops.liveInJitterBufferLength.toNat = t.length
  arrived : h.given = 0 ∨ ops.globalSAC.toNat + ops.frameSize.toNat ≤ t.sac + t.delay + h.given ∧
    t.sac + t.delay + h.given < ops.globalSAC.toNat + 2 ^ 31

def Allowed (h : Hosts) : HostsOp → Prop
  | .send => t.SourceReady h.tics
  | .arrive ops => t.Arrives h ops
  | .otherSinks rings => ∀ us < t.sink.rtpStreamInfo.nbOfChannels.toNat, ∀ slot < t.length,
      rings (liveInBase t.sink us + slot) = h.rings (liveInBase t.sink us + slot)
  | .tic ops => t.Due h ops

/-- A playback and a capture that are prepared, and a sink that follows the source. -/
structure WellFormed : Prop where
  playback : FIFOGeometry t.play t.player.frameSize
  area : t.player.frameSize.toNat ∣ t.play.bufferSize
  started : t.player.isStarted = true
  prepared : ∃ (chip : AudioChip) (before : Manager) (err : Int32), getDSDMode before.sampleRate = 0 ∧
    chip.preparePlayback t.play before err = some t.prepared
  capture : CaptureGeometry t.record t.mode t.frameSize
  recorder : ∃ first n, CapturedFor t.record t.mode t.frameSize first n t.recorder
  whole : t.frameSize.toNat ∣ t.record.bufferSize
  short : t.player.frameSize.toNat ≤ t.length
  accepted : AcceptedSink t.sink
  follows : Follows t.ssrc t.sink
  distinct : DistinctRings t.sink t.length
  noOverflow : t.sac + t.delay < 2 ^ 64
  playChannel : ∀ us < t.sink.rtpStreamInfo.nbOfChannels.toNat, t.playChannel us < t.play.channels.toNat
  recordChannel : ∀ us < t.sink.rtpStreamInfo.nbOfChannels.toNat, t.recordChannel us < t.record.channels.toNat ∧
    liveInBase t.sink us = t.recordChannel us * ringBufferSize.toNat

structure Kept (h : Hosts) : Prop where
  player : h.player.Kept t.play t.player (fun k => (t.tics k).dma) t.start.player.chip h.tics
  noOverflow : t.sac + t.delay + h.tics * t.player.frameSize.toNat < 2 ^ 64
  wire : OnWire t.sink t.codec t.ssrc t.player.frameSize.toNat t.sac t.stream h.given h.wire
    (h.tics * t.player.frameSize.toNat)
  given : GivenStream t.sink t.ssrc t.length t.sac t.stream h.given h.sink h.rings
  recorder : ∃ first n, CapturedFor t.record t.mode t.frameSize first n h.recorder

variable {t} {h h' : Hosts}

theorem length_bounds (w : t.WellFormed) : 0 < t.length ∧ t.length < 2 ^ 25 :=
  ringBufferFrames_bounds w.capture.sized t.mode

theorem kept_start (w : t.WellFormed) : t.Kept t.start := by
  obtain ⟨chip, before, err, pcm, prepared⟩ := w.prepared
  constructor
  case player => exact PlaybackRun.kept_start w.playback w.started pcm prepared fun k => (t.tics k).dma
  case noOverflow =>
    change t.sac + t.delay + 0 * t.player.frameSize.toNat < 2 ^ 64
    rw [Nat.zero_mul]
    exact w.noOverflow
  case wire =>
    change OnWire t.sink t.codec t.ssrc t.player.frameSize.toNat t.sac t.stream 0 [] (0 * t.player.frameSize.toNat)
    rw [Nat.zero_mul]
    exact .empty 0
  case given => exact ⟨.refl t.sink, w.follows, .inl rfl, fun us _ => RingWindow.keeps_zero _⟩
  case recorder => exact w.recorder

/-- What the rings of the player have at its position is the next frame of the session. -/
theorem Kept.samples (kept : t.Kept h) (w : t.WellFormed) (ready : t.SourceReady h.tics)
    {us i : Nat} (channel : us < t.sink.rtpStreamInfo.nbOfChannels.toNat) (inFrame : i < t.player.frameSize.toNat) :
    sourceSample ((t.tics h.tics).streams.stream t.source) t.codec ((t.tics h.tics).ops h.player)
        h.player.chip.playbackBuffer ((t.tics h.tics).ops h.player).playbackBufferOffset.toNat (us, i) =
      t.stream us (h.tics * t.player.frameSize.toNat + i) := by
  have answers := kept.player.answers w.playback ready.plays
  have inRing := answers.inRing
  have base : ringBase ((t.tics h.tics).streams.stream t.source) us = t.playChannel us * ringBufferSize.toNat := by
    rw [ringBase, ready.routed us channel, Option.getD_some]
  have held := (kept.player.chip.rings _ (w.playChannel us channel) i inFrame).read w.playback.turn_pos
  have place : (h.tics * t.player.frameSize.toNat + i) % t.player.frameSize.toNat = i := by
    rw [Nat.mul_add_mod_self_right, Nat.mod_eq_of_lt inFrame]
  have frame : (h.tics * t.player.frameSize.toNat + i) / t.player.frameSize.toNat = h.tics := by
    rw [Nat.mul_comm, Nat.mul_add_div w.playback.moves, Nat.div_eq_of_lt inFrame, Nat.add_zero]
  unfold stream sourceSample
  dsimp only
  rw [base, answers.length, Nat.mod_eq_of_lt (by omega), answers.position, place, frame]
  exact congrArg t.codec.truncated held

theorem Kept.send (kept : t.Kept h) (w : t.WellFormed) (ready : t.SourceReady h.tics)
    (done : t.step h .send = .ok h') : t.Kept h' := by
  obtain ⟨player, ran, last⟩ := bind_eq_ok.mp done
  cases last
  have answers := kept.player.answers w.playback ready.plays
  have inRing := answers.inRing
  have ringSmall := (toNat_ringFrames w.playback.sized).2
  have moves := w.playback.moves
  have noOverflow := ready.noOverflow
  obtain ⟨sender, seqNum, someSamples, fits, packets⟩ :=
    kept.player.sentPackets w.playback ready.plays ran ready.listed
  have clock : ((t.tics h.tics).ops h.player).globalSAC.toNat = t.sac + (h.tics + 1) * t.player.frameSize.toNat := by
    rw [← ready.clock, ← kept.player.nic]
    rfl
  have rounds := outgoingPieces_rounds ((t.tics h.tics).ops h.player) seqNum someSamples
  rw [sendOffset (answers.frame.symm ▸ answers.clock), answers.frame] at rounds
  have time : (((t.tics h.tics).ops h.player).globalSAC - t.player.frameSize.toUInt64).toNat =
      t.sac + h.tics * t.player.frameSize.toNat := by
    have le : t.player.frameSize.toUInt64 ≤ ((t.tics h.tics).ops h.player).globalSAC := by
      rw [UInt64.le_iff_toNat_le, UInt32.toNat_toUInt64, clock, Nat.succ_mul]
      omega
    rw [UInt64.toNat_sub_of_le _ _ le, UInt32.toNat_toUInt64, clock, Nat.succ_mul]
    omega
  rw [Nat.succ_mul] at noOverflow
  have length := answers.length
  have inside : ((t.tics h.tics).ops h.player).playbackBufferOffset <
      ((t.tics h.tics).ops h.player).liveOutJitterBufferLength := by
    rw [UInt32.lt_iff_toNat_lt]
    omega
  have onWire := rounds.onWire ready.session ready.isSSRC fits (by omega) (by rw [toNat_min]) (Nat.le_refl _) inside
    (by omega) time (by omega)
    fun us channel i inFrame => kept.samples w ready channel inFrame
  rw [← packets, ← Nat.succ_mul] at onWire
  constructor
  case player => exact ((kept.player.tic w.playback w.area ready.plays rfl).2 player ran).1
  case noOverflow => exact ready.noOverflow
  case wire => exact kept.wire.append onWire
  case given => exact kept.given
  case recorder => exact kept.recorder

theorem Kept.arrive (kept : t.Kept h) (w : t.WellFormed) {ops : RTPAudioStreamOps} (arrives : t.Arrives h ops) :
    ∃ h', t.step h (.arrive ops) = .ok h' ∧ t.Kept h' := by
  obtain ⟨positive, small⟩ := length_bounds w
  have noOverflow := kept.noOverflow
  have behind := arrives.behind
  have ahead := arrives.ahead
  have wire := kept.wire
  unfold step
  dsimp only
  split
  · exact ⟨h, rfl, kept⟩
  · rename_i frame rest isWire
    rw [isWire] at wire
    cases wire with
    | packet carries isFrame later =>
      rename_i source sourceOps livesOut piece
      have sent := later.le
      have short := w.short
      obtain ⟨claimed, s', rings', used, done, given⟩ := kept.given.deliver carries isFrame
        ⟨arrives.someFrame, by rw [arrives.length]; omega, arrives.length ▸ w.distinct⟩ arrives.length short
        (by omega) (by omega) (by change t.sac + t.delay + _ < _; omega)
      rw [done, ok_bind, claimed]
      exact ⟨_, rfl, kept.player, kept.noOverflow, later, given, kept.recorder⟩

theorem Kept.otherSinks (kept : t.Kept h) {rings : RingMemory} (allowed : t.Allowed h (.otherSinks rings)) :
    t.Kept { h with rings := rings } := by
  obtain ⟨same, follows, last, window⟩ := kept.given
  refine ⟨kept.player, kept.noOverflow, kept.wire, ⟨same, follows, last, ?_⟩, kept.recorder⟩
  intro us channel
  exact (window us channel).same fun slot inRing => allowed us channel slot inRing

theorem Kept.prepared (kept : t.Kept h) (w : t.WellFormed) {ops : RTPAudioStreamOps} (due : t.Due h ops) :
    ∃ s' rings', prepareBufferLives h.sink none ops h.rings = .ok (s', rings') ∧ (h.given ≠ 0 → rings' = h.rings) ∧
      GivenStream t.sink t.ssrc t.length t.sac t.stream h.given s' rings' := by
  obtain ⟨positive, -⟩ := length_bounds w
  by_cases some : h.given = 0
  · obtain ⟨⟨s', rings'⟩, done⟩ : Succeeds (prepareBufferLives h.sink none ops h.rings) := by
      have someRing : ops.liveInJitterBufferLength ≠ 0 := by
        intro zero
        have length := due.length
        rw [zero, UInt32.toNat_zero] at length
        omega
      have someFrame : ops.frameSize ≠ 0 := by
        intro zero
        have moves := w.capture.moves
        rw [← due.frameSize, zero] at moves
        exact Nat.lt_irrefl 0 moves
      exact prepareBufferLives_succeeds someRing someFrame
    refine ⟨s', rings', done, fun other => absurd some other, ?_⟩
    have info := congrArg RTPStream.rtpStreamInfo (prepareBufferLives_stream done)
    refine ⟨kept.given.same.trans (prepareBufferLives_same done), ?_, .inl some, ?_⟩
    · intro learned
      rw [info] at learned ⊢
      exact kept.given.follows learned
    · rw [some]
      exact fun us _ => RingWindow.keeps_zero _
  · obtain ⟨arrived, near⟩ := due.arrived.resolve_left some
    obtain ⟨s', done, given⟩ := kept.given.prepared w.accepted arrived near some
    exact ⟨s', h.rings, done, fun _ => rfl, given⟩

theorem Kept.tic (kept : t.Kept h) (w : t.WellFormed) {ops : RTPAudioStreamOps} (due : t.Due h ops) :
    Succeeds (t.step h (.tic ops)) ∧ ∀ h', t.step h (.tic ops) = .ok h' → t.Kept h' := by
  obtain ⟨s', rings', done, -, given⟩ := kept.prepared w due
  obtain ⟨first, n, captured⟩ := kept.recorder
  obtain ⟨fn, selected, width⟩ := selectInterleave_some w.capture.format
  have frameSize := due.frameSize
  have step : t.step h (.tic ops) = (h.recorder.pcmInterruptCapture t.frameSize rings' >>= fun recorder =>
      .ok { h with sink := s', rings := rings', recorder := recorder }) := by
    unfold Transmission.step
    dsimp only
    rw [done, ok_bind, frameSize]
  rw [step]
  constructor
  · obtain ⟨recorder, interrupts⟩ := captured.next_succeeds w.capture w.whole rings'
    rw [interrupts, ok_bind]
    exact succeeds_ok _
  · intro h' ran
    obtain ⟨recorder, interrupts, last⟩ := bind_eq_ok.mp ran
    cases last
    obtain ⟨-, after⟩ := captured.interrupt w.capture.sized w.capture.inBuffer w.capture.short w.capture.moves
      selected width rings'
    exact ⟨kept.player, kept.noOverflow, kept.wire, given, first, n + 1, (after recorder interrupts).2.1⟩

theorem Kept.step (kept : t.Kept h) (w : t.WellFormed) (op : HostsOp) (allowed : t.Allowed h op)
    (done : t.step h op = .ok h') : t.Kept h' := by
  cases op with
  | send => exact kept.send w allowed done
  | arrive ops =>
    obtain ⟨next, ran, keptNext⟩ := kept.arrive w allowed
    cases ran.symm.trans done
    exact keptNext
  | otherSinks rings =>
    cases done
    exact kept.otherSinks allowed
  | tic ops => exact (kept.tic w allowed).2 h' done

/-- A codec that is not narrower than the format of both areas. -/
structure SameBytes (t : Transmission) : Prop where
  format : t.record.format = t.play.format
  wide : t.play.format.width / 8 ≤ t.codec.width.toNat

theorem truncated_areaSample (pcm : t.play.format ∈ captureFormats)
    (wide : t.play.format.width / 8 ≤ t.codec.width.toNat) (dma : Nat → UInt8) (o ch : Nat) :
    t.codec.truncated (t.play.areaSample dma o ch) = t.play.areaSample dma o ch := by
  unfold PCMSubstream.areaSample selectDeinterleave getDSDSampleRate
  generalize t.play.format = format at pcm wide
  simp only [captureFormats, List.mem_cons, List.not_mem_nil, or_false] at pcm
  rcases pcm with rfl | rfl | rfl | rfl
  all_goals
    cases codec : t.codec
    all_goals
      rw [codec] at wide
      first
      | rfl
      | exact absurd wide (by decide)

/-- What the capture makes of a sample is what the playback has read, with 0 for a pad byte. -/
theorem SameBytes.heard (same : t.SameBytes) (pcm : t.play.format ∈ captureFormats) (dma : Nat → UInt8) (o ch : Nat)
    {i : Nat} (byte : i < t.play.format.stride) :
    heardByte t.record (t.codec.truncated (t.play.areaSample dma o ch)) i =
      some (t.play.format.restored (fun b => dma (areaByte t.play o ch b)) i) := by
  obtain ⟨fn, selected⟩ := selectDeinterleave_some pcm
  obtain ⟨gn, selected', -⟩ := selectInterleave_some (same.format ▸ pcm)
  rw [truncated_areaSample pcm same.wide, heardByte, selected', Option.bind_some]
  unfold PCMSubstream.areaSample
  rw [selected]
  dsimp only
  rw [store_decode pcm same.format selected selected', gather_singleton, List.getElem?_map, List.getElem?_range byte]
  rfl

/-- What two hosts guarantee wherever they have come to. `recorded`: wherever an interrupt of the recorder reads the
cell of a sample that has arrived and was not overwritten by a later one, it gives the bytes that the player's
interrupt `k` has read one turn of the rings before the sample was sent. -/
structure Transmits (t : Transmission) (h : Hosts) : Prop where
  arrives : ∀ ops, t.Arrives h ops → Succeeds (t.step h (.arrive ops))
  captures : ∀ ops, t.Due h ops → Succeeds (t.step h (.tic ops))
  recorded : ∀ ops h', t.Due h ops → t.step h (.tic ops) = .ok h' →
    ∀ k, ∀ j < t.player.frameSize.toNat, ∀ p, p = (k + t.turn) * t.player.frameSize.toNat + j →
    p < h.given → h.given ≤ p + t.length →
    ∀ o < t.frameSize.toNat, h.recorder.capture.bufferPos.toNat + o = (t.sac + t.delay + p) % t.length →
    ∀ us < t.sink.rtpStreamInfo.nbOfChannels.toNat, ∀ i < t.record.format.stride,
      h'.recorder.dmaCaptured (h.recorder.capture.dmaOffset.toNat + areaByte t.record o (t.recordChannel us) i) =
        some (t.play.format.restored (fun b => (t.tics k).dma
          (areaByte t.play ((k * t.player.frameSize.toNat + j) % t.play.bufferSize) (t.playChannel us) b)) i)

theorem stream_later (w : t.WellFormed) (us k : Nat) {j : Nat} (inFrame : j < t.player.frameSize.toNat) :
    t.stream us ((k + t.turn) * t.player.frameSize.toNat + j) = t.codec.truncated (t.play.areaSample (t.tics k).dma
      ((k * t.player.frameSize.toNat + j) % t.play.bufferSize) (t.playChannel us)) := by
  have place : ((k + t.turn) * t.player.frameSize.toNat + j) % t.player.frameSize.toNat = j := by
    rw [Nat.mul_add_mod_self_right, Nat.mod_eq_of_lt inFrame]
  have frame : ((k + t.turn) * t.player.frameSize.toNat + j) / t.player.frameSize.toNat = k + t.turn := by
    rw [Nat.mul_comm, Nat.mul_add_div w.playback.moves, Nat.div_eq_of_lt inFrame, Nat.add_zero]
  unfold stream
  rw [place, frame, delayed, if_neg (by omega), Nat.add_sub_cancel, area_position w.area,
    ← HeardRun.area_frame w.area inFrame]

theorem Kept.transmits (kept : t.Kept h) (w : t.WellFormed) (same : t.SameBytes) : t.Transmits h := by
  constructor
  case arrives =>
    intro ops arrives
    obtain ⟨next, ran, -⟩ := kept.arrive w arrives
    exact ⟨next, ran⟩
  case captures => exact fun ops due => (kept.tic w due).1
  case recorded =>
    rintro ops h' due done k j inFrame p rfl arrived recent o inCapture cell us channel i byte
    obtain ⟨s', rings', prepares, fed, -⟩ := kept.prepared w due
    obtain ⟨first, n, captured⟩ := kept.recorder
    obtain ⟨fn, selected, width⟩ := selectInterleave_some w.capture.format
    obtain ⟨recordChannel, base⟩ := w.recordChannel us channel
    obtain ⟨prepared, prepares', done⟩ := bind_eq_ok.mp done
    cases prepares.symm.trans prepares'
    obtain ⟨recorder, interrupts, last⟩ := bind_eq_ok.mp done
    cases last
    rw [due.frameSize, fed (by omega)] at interrupts
    have written := CaptureRun.sample_after_interrupt captured w.capture selected width interrupts inCapture
      recordChannel byte
    have held := kept.given.window us channel _ arrived recent
    dsimp only at held
    change h.rings (liveInBase t.sink us + (t.sac + t.delay + _) % t.length) = _ at held
    rw [← cell, base, stream_later w us k inFrame] at held
    rw [Nat.add_assoc] at written
    refine Eq.trans written ?_
    dsimp only
    rw [held, ← same.heard w.playback.format _ _ _ (same.format ▸ byte), heardByte, selected, Option.bind_some]

/-- In every run of both hosts. -/
theorem host_to_host {ops : List HostsOp} (w : t.WellFormed) (same : t.SameBytes)
    (run : Run t.step t.Allowed t.start ops h) : t.Transmits h := by
  apply Kept.transmits ?_ w same
  apply run.invariant t.Kept (kept_start w)
  intro h op h' kept allowed done
  exact kept.step w op allowed done

theorem Kept.drained (kept : t.Kept h) (w : t.WellFormed) {ops : RTPAudioStreamOps} (arrives : t.Arrives h ops) :
    ∃ h', Run t.step t.Allowed h (List.replicate h.wire.length (.arrive ops)) h' ∧ t.Kept h' ∧ h'.tics = h.tics ∧
      h'.given = h.tics * t.player.frameSize.toNat := by
  generalize isWire : h.wire = wire
  induction wire generalizing h with
  | nil =>
    have empty := kept.wire
    rw [isWire] at empty
    exact ⟨h, .nil h, kept, rfl, empty.eq_of_empty⟩
  | cons frame wire ih =>
    obtain ⟨next, done, keptNext⟩ := kept.arrive w arrives
    have ran := done
    unfold Transmission.step at ran
    dsimp only at ran
    rw [isWire] at ran
    obtain ⟨_, -, last⟩ := bind_eq_ok.mp ran
    cases last
    have behind := arrives.behind
    obtain ⟨h', rest, keptLast, tics, given⟩ := ih keptNext
      ⟨arrives.someFrame, arrives.length, by dsimp only; omega, arrives.ahead⟩ rfl
    exact ⟨h', (Run.one (show t.Allowed h (.arrive ops) from arrives) done).append rest, keptLast, tics, given⟩

def stereoLoop : Transmission where
  play := threeFrames
  player := onAir
  prepared := { ({} : AudioChip).readRate onAir with
    playback := preparedStream threeFrames 0, playbackDeinterleaveFn := selectDeinterleave threeFrames }
  tics := ticOfSession 1
  source := .source 0
  sac := 0
  ssrc := 0
  codec := .bigEndianInt24
  sink := (create {} { PlaybackTIC.stereoSource with source := false, playOutDelay := 96 } liveInOps {} fun _ => {}).1
  rings := fun _ => {}
  record := threeFrames
  mode := 0
  frameSize := 64
  recorder := { capture := preparedStream threeFrames 0, captureInterleaveFn := selectInterleave threeFrames }
  playChannel := id
  recordChannel := id

theorem stereoLoop_wellFormed : stereoLoop.WellFormed := by
  have g := threeFrames_geometry
  constructor
  case playback => exact g
  case area => decide
  case started => rfl
  case prepared => exact ⟨{}, onAir, 0, rfl, rfl⟩
  case capture => exact ⟨g.sized, by decide, by decide, by decide, by decide⟩
  case recorder => exact ⟨0, 0, ⟨rfl, rfl, rfl, rfl⟩, rfl, rfl, rfl⟩
  case whole => decide
  case short => decide
  case accepted => exact create_sink_valid (by decide) rfl rfl
  case follows => intro learned; cases learned
  case distinct =>
    have base : ∀ ch < 2, liveInBase stereoLoop.sink ch = ringBufferSize.toNat * ch := by decide
    intro ch chBelow ch' chBelow' i iBelow i' iBelow' same
    rw [base ch chBelow, base ch' chBelow', toNat_ringBufferSize] at same
    change i < 192 at iBelow
    change i' < 192 at iBelow'
    omega
  case noOverflow => decide
  case playChannel => decide
  case recordChannel => decide

theorem stereoLoop_ready {n : Nat} (small : n < 2 ^ 50) : stereoLoop.SourceReady n := by
  have plays := ticOfSession_plays stereoLoop.player.activePTPNICIdx 1 small
  have listed : StreamHandle.source 0 ∈ oneStereoSource.sourceOrdered := by decide
  constructor
  case plays => exact plays
  case clock =>
    change (UInt64.ofNat (64 * (n + 1))).toNat = 0 + (n + 1) * 64
    rw [UInt64.toNat_ofNat']
    omega
  case noOverflow =>
    change 0 + 96 + (n + 1) * 64 < 2 ^ 64
    omega
  case listed => exact listed
  case session =>
    constructor
    case follows => intro learned; cases learned
    constructor
    case accepted => exact (plays.reached.ready plays.sendable).accepted _ listed
    case prepared => exact ⟨rfl, rfl, rfl⟩
    case sinkAccepted => exact stereoLoop_wellFormed.accepted
    case mapped => unfold AllMapped; decide
    all_goals rfl
  case isSSRC => rfl
  case routed =>
    change ∀ us < 2, (oneStereoSource.stream (.source 0)).livesOutCircularBuffer us = some (us * ringBufferSize.toNat)
    decide

def standing : RTPAudioStreamOps := { liveInOps with globalSAC := 0, liveInJitterBufferLength := 192 }

theorem stereoLoop_reaches (n : Nat) (small : n < 2 ^ 20) :
    ∃ ops h, Run stereoLoop.step stereoLoop.Allowed stereoLoop.start ops h ∧ stereoLoop.Kept h ∧ h.tics = n ∧
      h.given = n * 64 := by
  have w := stereoLoop_wellFormed
  induction n with
  | zero => exact ⟨[], stereoLoop.start, .nil _, kept_start w, rfl, rfl⟩
  | succ n ih =>
    obtain ⟨ops, h, run, kept, rfl, given⟩ := ih (by omega)
    have ready := stereoLoop_ready (n := h.tics) (by omega)
    have tic := kept.player.tic w.playback w.area ready.plays rfl
    obtain ⟨player, ran⟩ := tic.1 (others_succeed kept.player.recording)
    obtain ⟨next, done, tics⟩ : ∃ next, stereoLoop.step h .send = .ok next ∧ next.tics = h.tics + 1 := by
      unfold Transmission.step
      dsimp only
      rw [ran, ok_bind]
      exact ⟨_, rfl, rfl⟩
    have keptNext := kept.send w ready done
    have arrives : stereoLoop.Arrives next standing := by
      refine ⟨by decide, by decide, ?_, ?_⟩
      · change 0 < 0 + next.given + 2 ^ 30
        omega
      · rw [tics]
        change 0 + (h.tics + 1) * 64 ≤ 0 + 2 ^ 30
        omega
    obtain ⟨h', drained, keptLast, sameTics, givenAll⟩ := keptNext.drained w arrives
    have allowed : stereoLoop.Allowed h .send := ready
    rw [tics] at sameTics givenAll
    exact ⟨_, h', (run.snoc allowed done).append drained, keptLast, sameTics, givenAll⟩

/-- After four TICs, the first frame of the playback has arrived. -/
theorem host_to_host_stereo : ∃ h, stereoLoop.turn = 3 ∧ h.given = 256 ∧ stereoLoop.Transmits h := by
  obtain ⟨ops, h, run, -, -, given⟩ := stereoLoop_reaches 4 (by decide)
  exact ⟨h, by decide, given, host_to_host stereoLoop_wellFormed ⟨rfl, by decide⟩ run⟩

end Transmission

end RavennaLkm
