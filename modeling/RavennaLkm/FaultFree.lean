import RavennaLkm.FrameVerdict
import RavennaLkm.InterfaceNames
import RavennaLkm.MessageBounds
import RavennaLkm.PacketDispatch
import RavennaLkm.SendSafety
import RavennaLkm.StreamOnWire
import RavennaLkm.StreamsSteps

/-!
What the daemon, the network and the sound card have to keep to for the module
never to fault: no read outside of what was received, no write outside of a
packet, no null pointer, no division by zero and no endless loop, in any step
of any run.
-/
namespace RavennaLkm
open CheckedLoop GuardedRun LittleEndian

structure Listener (s : RTPAudioStream) : Prop where
  words : (convertInterleaveToMapped s.rtpStreamInfo.codec).map (·.width.toNat) =
    some s.rtpStreamInfo.wordLength.toNat
  mapped : AllMapped s

/-- The bytes that the headers announce for the sink were received, and are no more samples than the ring holds. -/
structure RTPFrame.Whole (frame : RTPFrame) (s : RTPAudioStream) (ringLength : UInt32) : Prop where
  extension : rtpIsExtension frame.packetBase.rtpHeader.version = true → sizeofRTPPacketBase + 4 ≤ frame.bytes.length
  audio : sizeofRTPPacketBase + (claimedSkip frame).toNat + (payloadLength frame (claimedSkip frame)).toNat ≤
    frame.bytes.length
  ring : claimedSamples s frame ≤ ringLength

variable {s t : RTPAudioStream} {ops : RTPAudioStreamOps} {frame : RTPFrame}

theorem Listener.same (listener : Listener s) (same : SameStream s t) : Listener t := by
  obtain ⟨_, _, info⟩ := same.info
  constructor
  · rw [info]
    exact listener.words
  · exact same.allMapped.mpr listener.mapped

theorem claimedSamples_le (accepted : AcceptedSink s) (frame : RTPFrame) :
    (claimedSamples s frame).toNat * (s.rtpStreamInfo.nbOfChannels.toNat * s.rtpStreamInfo.wordLength.toNat) ≤
      (payloadLength frame (claimedSkip frame)).toNat := by
  have channels := s.rtpStreamInfo.nbOfChannels.toNat_lt
  have word := s.rtpStreamInfo.wordLength.toNat_lt
  have small : s.rtpStreamInfo.nbOfChannels.toNat * s.rtpStreamInfo.wordLength.toNat < 2 ^ 32 :=
    calc _ ≤ 255 * 255 := Nat.mul_le_mul (by omega) (by omega)
      _ < 2 ^ 32 := by norm_num
  have sample : (getNbOfLivesIn s * s.rtpStreamInfo.wordLength.toUInt32).toNat =
      s.rtpStreamInfo.nbOfChannels.toNat * s.rtpStreamInfo.wordLength.toNat := by
    rw [getNbOfLivesIn, accepted.sink, if_neg Bool.false_ne_true, UInt32.toNat_mul, UInt8.toNat_toUInt32,
      UInt8.toNat_toUInt32, Nat.mod_eq_of_lt small]
  rw [claimedSamples, UInt32.toNat_div, sample]
  exact Nat.div_mul_le_self ..

theorem Listener.audioInside (listener : Listener s) (accepted : AcceptedSink s)
    (whole : frame.Whole s ops.liveInJitterBufferLength) (sac : UInt64) :
    AudioInside s ops frame (sizeofRTPPacketBase + (claimedSkip frame).toNat) sac (claimedSamples s frame) := by
  intro f codec
  have width : f.width.toNat = s.rtpStreamInfo.wordLength.toNat := by simpa [codec] using listener.words
  have row : rowBytes s f = s.rtpStreamInfo.nbOfChannels.toNat * s.rtpStreamInfo.wordLength.toNat := by
    rw [rowBytes, width]
  have counted := claimedSamples_le accepted frame
  have received := whole.audio
  have ring := UInt32.le_iff_toNat_le.mp whole.ring
  have payload := (payloadLength frame (claimedSkip frame)).toNat_lt
  have lives : getNbOfLivesIn s = s.rtpStreamInfo.nbOfChannels.toUInt32 := by
    rw [getNbOfLivesIn, accepted.sink, if_neg Bool.false_ne_true]
  have frontLe : (samplesToEnd ops sac (claimedSamples s frame)).toNat ≤ (claimedSamples s frame).toNat := by
    rw [samplesToEnd, toNat_min]
    exact Nat.min_le_right ..
  have back := UInt32.toNat_sub_of_le _ _ (UInt32.le_iff_toNat_le.mpr frontLe)
  generalize claimedSamples s frame = n at *
  generalize samplesToEnd ops sac n = front at *
  have total : n.toNat = front.toNat + (n - front).toNat := by omega
  rw [total, Nat.add_mul, ← row] at counted
  rw [lives, pieceBytes_toNat s (by rw [← row]; omega), ← row]
  refine ⟨by omega, .inr ⟨?_, by omega⟩⟩
  rw [UInt32.le_iff_toNat_le]
  omega

theorem Listener.packetSafe (listener : Listener s) (accepted : AcceptedSink s) (partner : Option RTPStream)
    (frames : ops.frameSize ≠ 0) (ring : ops.liveInJitterBufferLength ≠ 0)
    (whole : frame.Whole s ops.liveInJitterBufferLength) : PacketSafe s partner ops frame := by
  intro _
  have someWord : s.rtpStreamInfo.wordLength ≠ 0 := by
    intro none
    obtain ⟨f, codec⟩ := Option.isSome_iff_exists.mp accepted.converts
    have width : f.width.toNat = s.rtpStreamInfo.wordLength.toNat := by simpa [codec] using listener.words
    rw [none] at width
    cases f
    all_goals exact absurd width (by decide)
  refine ⟨⟨whole.extension, someWord⟩, .inr ⟨frames, .inr ⟨ring, listener.mapped, ?_⟩⟩⟩
  exact listener.audioInside accepted whole _

namespace RTPStreamsManager

variable {m m' : RTPStreamsManager} {h : StreamHandle} {info : RTPStreamInfo}

def ReceivesWhole (m : RTPStreamsManager) (nicId : UInt8) (packet : List UInt8) (ringLength : UInt32) : Prop :=
  ∀ headers : sizeofRTPPacketBase ≤ packet.length,
    let frame : RTPFrame := ⟨packet, headers⟩
    isFragment frame.packetBase.ipv4Header = false → ∀ h ∈ m.sinkOrdered nicId.toNat,
      packetKey nicId frame.packetBase.toUDPPacketBase = getKey (m.stream h).rtpStreamInfo →
        frame.Whole (m.stream h) ringLength

theorem ReceivesWhole.congr {nicId : UInt8} {packet : List UInt8} {ringLength : UInt32}
    (receives : m.ReceivesWhole nicId packet ringLength) (sinks : m'.sinkOrdered = m.sinkOrdered)
    (same : ∀ h ∈ m.sinkOrdered nicId.toNat, m'.stream h = m.stream h) :
    m'.ReceivesWhole nicId packet ringLength := by
  intro headers frame whole h listed key
  rw [sinks] at listed
  rw [same h listed] at key ⊢
  exact receives headers whole h listed key

def Listening (m : RTPStreamsManager) : Prop := m.EachSink fun _ s => Listener s

theorem Listening.same (listening : m.Listening) (same : m.SameManager m') : m'.Listening := by
  intro nic h listed
  rw [same.sinkOrdered] at listed
  exact (listening nic h listed).same (same.stream h)

theorem Listening.sinksSafe {nicId : UInt8} {packet : List UInt8} (listening : m.Listening) (c : m.Consistent)
    (frames : ops.frameSize ≠ 0) (ring : ops.liveInJitterBufferLength ≠ 0)
    (receives : m.ReceivesWhole nicId packet ops.liveInJitterBufferLength) : m.SinksSafe ops nicId packet := by
  intro headers frame whole h listed key
  exact (listening _ h listed).packetSafe (c.sink _ h listed).2.2.2 _ frames ring (receives headers whole h listed key)

def AddsListener (info : RTPStreamInfo) : Prop :=
  addable info = true → info.source = false →
    (convertInterleaveToMapped info.codec).map (·.width.toNat) = some info.wordLength.toNat ∧
      ∀ us < info.nbOfChannels.toNat, getRouting info us ≠ unusedChannel

theorem createIn_listener (c : m.Consistent) (usable : m.usableHandler info = some h)
    (created : (m.createIn info ops h).2 = true) (sink : info.source = false)
    (words : (convertInterleaveToMapped info.codec).map (·.width.toNat) = some info.wordLength.toNat)
    (used : ∀ us < info.nbOfChannels.toNat, getRouting info us ≠ unusedChannel) :
    Listener ((m.createIn info ops h).1.stream h) := by
  obtain ⟨routed, -⟩ := (createIn_accepts c ops usable).mp created
  rw [createIn_snd] at created
  have made := create_sink sink created
  rw [createIn_stream]
  constructor
  · rw [made.info_eq]
    exact words
  · intro us below
    rw [made.info_eq] at below
    have ring := routed us below
    rw [ChannelRouted, sink, if_neg Bool.false_ne_true, or_iff_right (used us below)] at ring
    rw [made.rings us below, liveInRing, if_neg (used us below)]
    exact ring

theorem Listening.add (listening : m.Listening) (c : m.Consistent) (adds : AddsListener info) :
    (m.addRTPStream info ops).1.Listening := by
  by_cases ok : addable info = true
  · apply EachSink.add listening c info ops
    · intro _ s partner listener
      exact ⟨listener.words, listener.mapped⟩
    · intro h usable created sink
      obtain ⟨words, used⟩ := adds ok sink
      exact createIn_listener c usable created sink words used
  · have refused : m.addRTPStream info ops = (m, none) := if_neg ok
    rw [refused]
    exact listening

theorem Listening.remove (listening : m.Listening) (c : m.Consistent) (ops : RTPAudioStreamOps) (h : StreamHandle) :
    (m.removeRTPStream ops h).1.Listening := by
  apply EachSink.remove listening c ops h
  intro _ s partner listener
  exact ⟨listener.words, listener.mapped⟩

theorem listening_removeAll (c : m.Consistent) (ops : RTPAudioStreamOps) : (m.removeAllRTPStreams ops).Listening := by
  intro nic h listed
  exact absurd (.inr ⟨nic, listed⟩) (removeAllRTPStreams_lists c ops h)

theorem prepareEach_succeeds (divisible : ops.Divisible) (l : List StreamHandle) (m : RTPStreamsManager) :
    Succeeds (prepareEach ops l m) := by
  induction l generalizing m with
  | nil => exact succeeds_ok _
  | cons h rest ih =>
    apply Succeeds.bind (prepareBufferLives_succeeds divisible.ring divisible.frameSize)
    intro done _
    exact ih _

theorem prepareBufferLivesAll_succeeds (divisible : ops.Divisible) (m : RTPStreamsManager) :
    Succeeds (m.prepareBufferLivesAll ops) := by
  apply Succeeds.bind (prepareEach_succeeds divisible _ _)
  intro sources _
  apply Succeeds.bind (prepareEach_succeeds divisible _ _)
  intro sinks _
  exact prepareEach_succeeds divisible _ _

end RTPStreamsManager

namespace Manager
open RTPStreamsManager

variable {m m' : Manager} {msg : MTALSAMsg} {reply : MTALSAReply} {alsa : AlsaBuffers}
  {polled : Nat → Nat → PTPLockStatus}

def SomeFrames (frameSize : UInt32) : Prop := frameSize ≠ 0 ∧ frameSize.toNat < 2 ^ 24

def framesAfter (m : Manager) : Request → UInt32
  | .start | .stop => m.frameSize
  | .rate samplingRate => (m.withRate samplingRate).frameSize
  | .change c => (c.apply m).frameSize

/-- A message of a daemon that keeps to what the module does not check: it sends the data whose size it
announces, at most one name for each NIC, a configuration the clocks can run with, and streams of words of
the length of their codec, with a ring for each channel. -/
structure MessageSound (m : Manager) (msg : MTALSAMsg) (alsa : AlsaBuffers) : Prop where
  inside : m.PayloadInside msg
  names : MTALSAMsgId.ofValue msg.id = some .setInterfaceName → msg.names.length ≤ maxNics ∧
    ∀ name ∈ msg.names, name.length < ifnameSize
  starts : ∀ request ∈ msg.request, ∀ config ∈ m.startsWith request, config.Startable
  frames : ∀ request ∈ msg.request, SomeFrames (m.framesAfter request)
  source : MTALSAMsgId.ofValue msg.id = some .addRTPStream → AddsVoice (m.callbacks alsa) (.ofBytes msg.byte)
  sink : MTALSAMsgId.ofValue msg.id = some .addRTPStream → AddsListener (.ofBytes msg.byte)

/-- A frame that a NIC lets in is as long as its Ethernet header, and as what its headers announce where it
comes to a sink. -/
structure FrameSound (m : Manager) (frame : FrameArrival) : Prop where
  header : ∀ nic < maxNics, (m.ethernetFilter nic).rxPacket frame.bytes frame.ifname = true →
    frame.macHeader = true → sizeofEthernetHeader ≤ frame.bytes.length
  whole : ∀ nic < maxNics, m.Reaches frame nic → (m.ptp nic).heard frame.bytes = none →
    m.streams.ReceivesWhole (UInt8.ofNat nic) frame.bytes frame.alsa.getCaptureBufferSizeInFrames

end Manager

/-- A message, frame or tick of surroundings that keep to their part. -/
def ManagerOp.WellBehaved (m : Manager) : ManagerOp → Prop
  | .message msg alsa _ => m.MessageSound msg alsa
  | .packet alsa bytes ifname macHeader clockTime counterTime =>
    m.FrameSound ⟨bytes, ifname, macHeader, alsa, clockTime, counterTime⟩
  | .tick now => now.alsa.playbackBufferPos < now.alsa.getPlaybackBufferSizeInFrames
  | .startIo .. | .stopIo .. => True

theorem ManagerOp.WellBehaved.startsRunnable {m : Manager} {op : ManagerOp} (well : op.WellBehaved m) :
    op.StartsRunnable m := by
  cases op with
  | message msg alsa polled => exact well.starts
  | packet | tick | startIo | stopIo => trivial

namespace Manager
open RTPStreamsManager

variable {m m' : Manager} {msg : MTALSAMsg} {reply : MTALSAReply} {alsa : AlsaBuffers}
  {polled : Nat → Nat → PTPLockStatus}

structure Sound (m : Manager) : Prop where
  ok : m.Ok
  runnable : m.Runnable
  frames : SomeFrames m.frameSize
  voices : m.streams.Voices
  listening : m.streams.Listening

theorem performs_frameSize {request : Option Request} (performs : Performs m alsa polled request m') :
    m'.frameSize = m.frameSize ∨ ∃ r ∈ request, m'.frameSize = m.framesAfter r := by
  have same {n : Manager} (configs : m'.config = n.config) : m'.frameSize = n.frameSize :=
    congrArg Config.frameSize configs
  rcases request with _ | request
  · exact .inl (Quiet.frameSize performs)
  · cases request with
    | start => exact .inl (same (start_config performs))
    | stop =>
      rw [show m' = m.stop alsa from performs]
      exact .inl (congrArg Config.frameSize (stop_config m alsa))
    | rate samplingRate =>
      obtain ⟨result, done⟩ := performs
      rcases setSamplingRate_config done with kept | changed
      · exact .inl (same kept)
      · exact .inr ⟨_, rfl, same changed⟩
    | change c => exact .inr ⟨_, rfl, same (restarting_config performs)⟩

theorem step_frames {op : ManagerOp} (frames : SomeFrames m.frameSize) (well : op.WellBehaved m)
    (done : op.step m = .ok m') : SomeFrames m'.frameSize := by
  cases op with
  | message msg alsa polled =>
    obtain ⟨⟨m1, reply⟩, handled, last⟩ := map_eq_ok.mp done
    cases last
    rcases performs_frameSize (onNewMessage_performs handled) with kept | ⟨r, asked, changed⟩
    · rw [kept]
      exact frames
    · rw [changed]
      exact well.frames r asked
  | packet alsa bytes ifname macHeader clockTime counterTime =>
    rw [(etherTubeRxPacket_quiet (lift_eq_ok.mp done)).frameSize]
    exact frames
  | tick now =>
    rcases tick_cases done with ⟨-, rfl⟩ | ⟨-, next, ticked⟩
    · exact frames
    · rw [(tClockTimer_quiet ticked).frameSize]
      exact frames
  | startIo alsa isPlayback =>
    cases done
    unfold startIo
    split
    · exact frames
    · split
      · exact frames
      · exact frames
  | stopIo alsa isPlayback =>
    cases done
    have same : (m.stopIo alsa isPlayback).frameSize = m.frameSize :=
      congrArg Config.frameSize (stopIo_config m alsa isPlayback)
    rw [same]
    exact frames

theorem step_sound {op : ManagerOp} (sound : m.Sound) (well : op.WellBehaved m) (done : op.step m = .ok m') :
    m'.Sound := by
  obtain ⟨ok, runnable, frames, voices, listening⟩ := sound
  have streams := step_streams ok done
  constructor
  · exact step_ok ok done
  · exact step_runnable runnable well.startsRunnable done
  · exact step_frames frames well done
  · generalize m'.streams = after at streams
    cases streams with
    | traffic same => exact voices.kept same.sameVoices
    | added msg alsa polled isMessage isAdd =>
      subst isMessage
      exact voices.add ok.streams (well.source isAdd)
    | removed ops h => exact voices.remove ok.streams ops h
    | reset ops => exact voices.removeAll ok.streams ops
  · generalize m'.streams = after at streams
    cases streams with
    | traffic same => exact listening.same same
    | added msg alsa polled isMessage isAdd =>
      subst isMessage
      exact listening.add ok.streams (well.sink isAdd)
    | removed ops h => exact listening.remove ok.streams ops h
    | reset ops => exact listening_removeAll ok.streams ops

theorem Sound.divisible (sound : m.Sound) (alsa : AlsaBuffers) (counterTime : UInt64) :
    (m.callbacks alsa counterTime).Divisible :=
  ⟨sound.frames.1, getCaptureBufferSizeInFrames_ne_zero alsa⟩

theorem startClocks_of_startable (startable : m.config.Startable) : Succeeds m.startClocks := by
  rw [startClocks_succeeds]
  by_cases active : ∃ nic < maxNics, m.isNICActive nic = true
  · obtain ⟨nic, below, active⟩ := active
    exact .inl (startable.sampleRate nic below active)
  · right
    intro nic below
    exact Bool.eq_false_of_not_eq_true fun isActive => active ⟨nic, below, isActive⟩

theorem start_succeeds (startable : m.config.Startable) : Succeeds m.start := by
  apply Succeeds.bind (startClocks_of_startable startable)
  intro m1 _
  exact succeeds_ok _

theorem restarting_succeeds {c : Change} (startable : ∀ config ∈ m.startsWith (.change c), config.Startable) :
    Succeeds (m.restarting alsa c.apply) := by
  apply succeeds_when
  intro started
  apply start_succeeds
  rw [Change.apply_config c (stop_config m alsa)]
  exact startable _ (if_pos started)

theorem setSamplingRate_succeeds {samplingRate : UInt32}
    (startable : ∀ config ∈ m.startsWith (.rate samplingRate), config.Startable) :
    Succeeds (m.setSamplingRate samplingRate polled) := by
  apply succeeds_unless
  intro differs
  apply succeeds_unless
  intro idle
  apply succeeds_when
  intro started
  apply Succeeds.map
  apply startClocks_of_startable
  exact startable _ (if_pos ⟨differs, Bool.eq_false_of_not_eq_true idle, started⟩)

theorem lift_succeeds {α : Type} {x : Except Fault α} (done : Succeeds x) : Succeeds (lift x) := by
  obtain ⟨a, rfl⟩ := done
  exact succeeds_ok a

theorem load_succeeds {n : Nat} (inside : n ≤ msg.payload.length) : Succeeds (msg.load n) := by
  rw [MTALSAMsg.load, if_pos inside]
  exact succeeds_ok _

theorem sized_succeeds {size : Nat} {handle : (Nat → UInt8) → Except ManagerFault (Manager × MTALSAReply)}
    (inside : msg.dataSize.toInt = size → size ≤ msg.payload.length)
    (handles : msg.dataSize.toInt = size → Succeeds (handle msg.byte)) : Succeeds (m.sized msg size handle) := by
  apply succeeds_unless
  intro same
  have isSize := not_not.mp same
  rw [MTALSAMsg.load, if_pos (inside isSize)]
  exact handles isSize

theorem onSet_succeeds {size : Nat} {set : (Nat → UInt8) → Except Fault Manager} {c : Change}
    (inside : msg.dataSize.toInt = size → size ≤ msg.payload.length)
    (startable : ∀ request ∈ msg.ifSize size (some (.change c)), ∀ config ∈ m.startsWith request, config.Startable)
    (sets : set msg.byte = m.restarting alsa c.apply) : Succeeds (m.onSet msg size set) := by
  apply sized_succeeds inside
  intro fits
  have restarts : Succeeds (set msg.byte) := by
    rw [sets]
    exact restarting_succeeds (startable _ (if_pos fits))
  apply Succeeds.bind (lift_succeeds restarts)
  intro done _
  exact succeeds_ok _

theorem onNewMessage_succeeds (well : m.MessageSound msg alsa) : Succeeds (m.onNewMessage msg alsa polled) := by
  obtain ⟨inside, names, startable, -, -, -⟩ := well
  unfold onNewMessage
  unfold PayloadInside at inside
  unfold MTALSAMsg.request at startable
  generalize MTALSAMsgId.ofValue msg.id = id at inside names startable
  rcases id with _ | id
  · exact succeeds_ok _
  · cases id with
    | start =>
      apply Succeeds.bind (lift_succeeds (start_succeeds (startable _ rfl _ rfl)))
      intro done _
      exact succeeds_ok _
    | setSampleRate =>
      apply sized_succeeds (inside 4 rfl)
      intro fits
      apply Succeeds.bind (lift_succeeds (setSamplingRate_succeeds (startable _ (if_pos fits))))
      intro done _
      exact succeeds_ok _
    | setDSDAudioMode =>
      apply sized_succeeds (inside 4 rfl)
      intro fits
      cases mode : dsdSamplingRate (load32 msg.byte 0) with
      | none => exact succeeds_ok _
      | some rate =>
        have asked : msg.ifSize 4 ((dsdSamplingRate (load32 msg.byte 0)).map Request.rate) = some (.rate rate) := by
          rw [mode]
          exact if_pos fits
        apply Succeeds.bind (lift_succeeds (setSamplingRate_succeeds (startable _ asked)))
        intro done _
        exact succeeds_ok _
    | setTICFrameSizeAt1FS | setMaxTICFrameSize => exact onSet_succeeds (inside 8 rfl) startable rfl
    | setNumberOfInputs | setNumberOfOutputs => exact onSet_succeeds (inside 4 rfl) startable rfl
    | setInterfaceName =>
      apply succeeds_unless
      intro small
      obtain ⟨few, fits⟩ := names rfl
      have ended := inside (Int32.not_lt.mp small)
      rw [MTALSAMsg.cString, if_pos ended, ok_bind]
      have named : setInterfaceNames msg msg.names 0 ({ m with isNICActive := fun _ => false }, msg.reply (-404)) = _ :=
        setInterfaceNames_named fits (by omega)
      exact ⟨_, named⟩
    | addRTPStream =>
      apply succeeds_unless
      intro same
      apply Succeeds.bind (load_succeeds (inside (not_not.mp same)))
      intro b _
      exact succeeds_ok _
    | getRTPStreamStatus | removeRTPStream =>
      apply sized_succeeds (inside 8 rfl)
      intro _
      exact succeeds_ok _
    | setPTPConfig =>
      apply sized_succeeds (inside 2 rfl)
      intro _
      exact succeeds_ok _
    | setMasterOutputVolume | setMasterOutputSwitch | setPlayoutDelay | setCaptureDelay =>
      apply sized_succeeds (inside 4 rfl)
      intro _
      exact succeeds_ok _
    | stop | reset | startIo | stopIo | getSampleRate | getAudioMode | getNumberOfInputs | getNumberOfOutputs
    | updateRTPStreamName | getPTPInfo | hello | bye | ping | getMasterOutputVolume | getMasterOutputSwitch
    | getPTPConfig | getPTPStatus =>
      exact succeeds_ok _

theorem timerProcess_succeeds (runnable : m.Runnable) (tick : Tick) (nic : Nat) :
    Succeeds (m.timerProcess tick nic) := by
  apply Succeeds.bind (ClockPTP.timerProcess_succeeds (runnable.clocks nic) _ _ _)
  intro done _
  exact succeeds_ok _

theorem processClocks_succeeds (runnable : m.Runnable) (tick : Tick) : Succeeds (m.processClocks tick) := by
  have selected := (selectPTPNIC_quiet m).runnable runnable
  apply Succeeds.bind (timerProcess_succeeds selected tick 0)
  intro on0 first
  apply Succeeds.bind (timerProcess_succeeds ((timerProcess_quiet first).runnable selected) tick 1)
  intro on1 _
  exact succeeds_ok _

theorem audioFrameTIC_succeeds {tick : Tick} (c : m.streams.Consistent) (voices : m.streams.Voices)
    (frames : SomeFrames m.frameSize)
    (inside : tick.alsa.playbackBufferPos < tick.alsa.getPlaybackBufferSizeInFrames) :
    Succeeds (m.audioFrameTIC tick) := by
  have divisible : (m.callbacks tick.alsa).Divisible := ⟨frames.1, getCaptureBufferSizeInFrames_ne_zero tick.alsa⟩
  apply Succeeds.bind (prepareBufferLivesAll_succeeds divisible _)
  intro streams prepared
  have same := prepareBufferLivesAll_same c prepared
  apply succeeds_when
  intro _
  have speaking := (voices.kept same.sameVoices).speaking (same.consistent c)
  apply Succeeds.bind (sendOutgoingPackets_succeeds speaking frames.2 inside)
  intro sent _
  exact succeeds_ok _

theorem tick_succeeds {now : Tick} (sound : m.Sound)
    (inside : now.alsa.playbackBufferPos < now.alsa.getPlaybackBufferSizeInFrames) : Succeeds (m.tClockTimer now) := by
  rw [tClockTimer_eq]
  apply Succeeds.bind (processClocks_succeeds sound.runnable now)
  intro clocks ran
  have same := processClocks_streams ran
  have framed : Succeeds (clocks.1.audioFrameTIC now) := by
    apply audioFrameTIC_succeeds
    · rw [same]
      exact sound.ok.streams
    · rw [same]
      exact sound.voices
    · rw [(processClocks_quiet ran).frameSize]
      exact sound.frames
    · exact inside
  apply Succeeds.bind framed
  intro after _
  exact succeeds_ok _

theorem processPTP_succeeds (runnable : m.Runnable) (nic : Nat) (packet : List UInt8) (macHeader : Bool)
    (clockTime : UInt64) : Succeeds (m.processPTP nic packet macHeader clockTime) := by
  apply succeeds_when
  intro _
  apply Succeeds.bind (ClockPTP.processPTPPacket_succeeds (runnable.clocks nic) _ _)
  intro done _
  exact succeeds_ok _

theorem streamsDispatch_succeeds {streams : RTPStreamsManager} {ops : RTPAudioStreamOps} {packet : List UInt8}
    {macHeader : Bool} {nicId : UInt8} (c : streams.Consistent) (isActive : UInt8 → Bool)
    (processPTP : UInt8 → List UInt8 → DispatchResult)
    (header : macHeader = true → sizeofEthernetHeader ≤ packet.length)
    (safe : isUDPFrame packet macHeader = true → isActive nicId = true →
      processPTP nicId packet = .packetNotUsed → streams.SinksSafe ops nicId packet) :
    Succeeds (streams.dispatchPacket isActive processPTP ops packet macHeader nicId) := by
  apply succeeds_ite
  · intro udp
    apply succeeds_when
    intro isNic
    rw [Bool.and_eq_true, decide_eq_true_eq] at isNic
    split
    · rename_i unheard
      have handed := safe udp isNic.2 unheard
      apply Succeeds.bind ((processUDPPacket_succeeds_iff c ops isNic.1 packet).mpr handed)
      intro done _
      exact succeeds_ok _
    · exact succeeds_ok _
  · intro _
    apply succeeds_when
    intro framed
    apply Succeeds.map
    rw [frameType, if_pos (header framed)]
    exact succeeds_ok _

theorem processPTP_answer {packet : List UInt8} {macHeader : Bool} {clockTime : UInt64} {nic : Nat}
    {answered : Manager × DispatchResult} (done : m.processPTP nic packet macHeader clockTime = .ok answered) :
    answered.1.streams = m.streams ∧ (isUDPFrame packet macHeader = true → m.isNICActive nic = true →
      answered.2 = .packetNotUsed → (m.ptp nic).heard packet = none) := by
  unfold processPTP at done
  split at done
  · obtain ⟨⟨clock, result⟩, processed, last⟩ := bind_eq_ok.mp done
    cases last
    refine ⟨rfl, fun _ _ unused => ?_⟩
    obtain ⟨unheard, -⟩ | ⟨message, -, ⟨-, used⟩ | ⟨-, used⟩⟩ := ClockPTP.processPTPPacket_result processed
    · exact unheard
    · cases used.symm.trans unused
    · cases used.symm.trans unused
  · rename_i unreached
    cases done
    refine ⟨rfl, fun udp active => absurd ?_ unreached⟩
    rw [udp, active, Bool.and_self]

theorem rxPacket_succeeds {frame : FrameArrival} {nic : Nat} (sound : m.Sound) (isNic : nic < maxNics)
    (header : (m.ethernetFilter nic).rxPacket frame.bytes frame.ifname = true → frame.macHeader = true →
      sizeofEthernetHeader ≤ frame.bytes.length)
    (whole : m.Reaches frame nic → (m.ptp nic).heard frame.bytes = none →
      m.streams.ReceivesWhole (UInt8.ofNat nic) frame.bytes frame.alsa.getCaptureBufferSizeInFrames) :
    Succeeds (m.rxPacket frame nic) := by
  apply succeeds_when
  intro taken
  apply Succeeds.map
  apply Succeeds.bind (processPTP_succeeds sound.runnable nic frame.bytes frame.macHeader frame.clockTime)
  intro answered clock
  obtain ⟨same, unheard⟩ := processPTP_answer clock
  have divisible := sound.divisible frame.alsa frame.counterTime
  rw [same]
  have safe : isUDPFrame frame.bytes frame.macHeader = true → m.isNICActive (UInt8.ofNat nic).toNat = true →
      answered.2 = .packetNotUsed →
      m.streams.SinksSafe (m.callbacks frame.alsa frame.counterTime) (UInt8.ofNat nic) frame.bytes := by
    intro udp active unused
    rw [toNat_nicByte isNic] at active
    exact sound.listening.sinksSafe sound.ok.streams divisible.frameSize divisible.ring
      (whole ⟨taken, udp, active⟩ (unheard udp active unused))
  apply Succeeds.bind (streamsDispatch_succeeds sound.ok.streams _ _ (header taken) safe)
  intro done _
  exact succeeds_ok _

theorem offerPacket_eq (m : Manager) (frame : FrameArrival) (nic : Nat) :
    offerPacket frame.alsa frame.bytes frame.ifname frame.macHeader frame.clockTime frame.counterTime nic m =
      (·.1) <$> m.rxPacket frame nic := by
  unfold offerPacket rxPacket
  split
  · cases m.dispatchPacket _ _ _ _ _
    all_goals rfl
  · rfl

/-- The offer of a frame to one NIC changes nothing that the next NIC depends on. -/
theorem Sound.offered {packet ifname : List UInt8} {macHeader : Bool} {clockTime counterTime : UInt64} {nic : Nat}
    (sound : m.Sound) (done : offerPacket alsa packet ifname macHeader clockTime counterTime nic m = .ok m') :
    m'.Sound := by
  have same := offerPacket_same done
  have quiet : Quiet m m' := by
    unfold offerPacket at done
    split at done
    · obtain ⟨⟨_, _⟩, dispatched, last⟩ := map_eq_ok.mp done
      cases last
      exact dispatchPacket_quiet dispatched
    · cases done
      exact .refl _
  constructor
  · exact quiet.ok sound.ok
  · exact quiet.runnable sound.runnable
  · rw [quiet.frameSize]
    exact sound.frames
  · exact sound.voices.kept same.sameVoices
  · exact sound.listening.same same

theorem etherTubeRxPacket_succeeds {frame : FrameArrival} (sound : m.Sound) (well : m.FrameSound frame) :
    Succeeds (m.etherTubeRxPacket frame.alsa frame.bytes frame.ifname frame.macHeader frame.clockTime
      frame.counterTime) := by
  let held (n : Nat) (between : Manager) : Prop := between.Sound ∧ Ahead m between n
  have offer : ∀ nic < maxNics, ∀ between, held nic between → ∃ after,
      offerPacket frame.alsa frame.bytes frame.ifname frame.macHeader frame.clockTime frame.counterTime nic
        between = .ok after ∧ held (nic + 1) after := by
    intro nic isNic between ⟨sound, ahead⟩
    have header := well.header nic isNic
    rw [← ahead.ethernetFilter] at header
    have whole : between.Reaches frame nic → (between.ptp nic).heard frame.bytes = none →
        between.streams.ReceivesWhole (UInt8.ofNat nic) frame.bytes frame.alsa.getCaptureBufferSizeInFrames := by
      intro reaches unheard
      rw [ahead.reaches] at reaches
      rw [ahead.ptp nic (Nat.le_refl nic)] at unheard
      apply (well.whole nic isNic reaches unheard).congr ahead.sinkOrdered
      rw [toNat_nicByte isNic]
      exact ahead.stream nic (Nat.le_refl nic)
    obtain ⟨⟨after, verdict⟩, received⟩ := rxPacket_succeeds sound isNic header whole
    have offered : offerPacket frame.alsa frame.bytes frame.ifname frame.macHeader frame.clockTime
        frame.counterTime nic between = .ok after := by rw [offerPacket_eq, received, map_ok]
    have further := (rxPacket_verdict sound.ok.streams isNic received).2.2
    exact ⟨after, offered, sound.offered offered, ahead.trans further⟩
  have start : held 0 m := ⟨sound, .refl sound.ok.streams⟩
  obtain ⟨after, offered, -⟩ := forUp_invariant held start offer
  exact ⟨after, offered⟩

theorem step_succeeds {op : ManagerOp} (sound : m.Sound) (well : op.WellBehaved m) : Succeeds (op.step m) := by
  cases op with
  | message msg alsa polled => exact (onNewMessage_succeeds well).map _
  | packet alsa bytes ifname macHeader clockTime counterTime =>
    exact lift_succeeds (etherTubeRxPacket_succeeds sound well)
  | tick now =>
    apply succeeds_when
    intro _
    exact (lift_succeeds (tick_succeeds sound well)).map _
  | startIo alsa isPlayback => exact succeeds_ok _
  | stopIo alsa isPlayback => exact succeeds_ok _

theorem init_sound (macAddress : Nat → MACAddress) (livesIn : RingMemory) (streamAt : UInt64 → StreamHandle) :
    (init macAddress livesIn streamAt).Sound := by
  constructor
  · exact init_ok macAddress livesIn streamAt
  · exact init_runnable macAddress livesIn streamAt
  · change SomeFrames loaded.frameSize
    exact ⟨by decide, by decide⟩
  · exact init_voices macAddress livesIn
  · intro nic h listed
    cases listed

/-- No message, frame or tick faults in surroundings that keep to their part, whatever came before. -/
theorem no_reachable_fault {macAddress : Nat → MACAddress} {livesIn : RingMemory}
    {streamAt : UInt64 → StreamHandle} {ops : List ManagerOp}
    (run : Run ManagerOp.step ManagerOp.WellBehaved (init macAddress livesIn streamAt) ops m) :
    ∀ op : ManagerOp, op.WellBehaved m → Succeeds (op.step m) := by
  have sound : m.Sound := by
    apply run.invariant Sound (init_sound macAddress livesIn streamAt)
    intro before op after sound well next
    exact step_sound sound well next
  intro op well
  exact step_succeeds sound well

theorem startMessage_sound (m : Manager) (alsa : AlsaBuffers) (startable : m.config.Startable)
    (frames : SomeFrames m.frameSize) : m.MessageSound ⟨0, 0, []⟩ alsa := by
  constructor
  · intro size isSize
    cases isSize
  · intro isName
    cases isName
  · intro request asked config starts
    cases asked
    cases starts
    exact startable
  · intro request asked
    cases asked
    exact frames
  · intro isAdd
    cases isAdd
  · intro isAdd
    cases isAdd

theorem loaded_startable : loaded.config.Startable := by
  constructor
  · decide
  · intro nic _ _
    decide
  · intro nic _ _
    decide

theorem loaded_frames : SomeFrames loaded.frameSize := ⟨by decide, by decide⟩

theorem no_reachable_fault_started : ∃ m,
    Run ManagerOp.step ManagerOp.WellBehaved loaded [startMessage, .startIo {} false] m ∧
      ∀ now : Tick, now.alsa = {} → Succeeds ((ManagerOp.tick now).step m) := by
  have started : Run ManagerOp.step ManagerOp.WellBehaved loaded [startMessage] _ :=
    .one (startMessage_sound loaded {} loaded_startable loaded_frames) rfl
  have anytime (m : Manager) : (ManagerOp.startIo {} false).WellBehaved m := trivial
  have recording := started.snoc (anytime _) rfl
  refine ⟨_, recording, ?_⟩
  intro now silent
  apply no_reachable_fault recording
  change now.alsa.playbackBufferPos < now.alsa.getPlaybackBufferSizeInFrames
  rw [silent]
  decide

end Manager

end RavennaLkm
