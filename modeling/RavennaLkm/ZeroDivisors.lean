import RavennaLkm.ClockDivisors
import RavennaLkm.RateChange

/-!
The divisions that follow the messages. A message that starts the clocks decides
what the clocks, the muting and the ring offsets divide by, and no setter looks
at the rate or at the frame size that it stores.
-/
namespace RavennaLkm
open CheckedLoop GuardedRun LittleEndian

section Sending

variable {ops : RTPAudioStreamOps} {skb : Bool} {livesOut : RingMemory}

theorem sendRTPAudioPacket_defined (s : RTPAudioStream) (currentSAC : UInt64) (offset nbOfSamples : UInt32)
    (seqNum : UInt16) :
    Avoids .divideByZero (sendRTPAudioPacket s ops skb livesOut currentSAC offset nbOfSamples seqNum) :=
  sendRTPAudioPacket_avoids (by decide) (by decide) s currentSAC offset nbOfSamples seqNum

theorem sendRound_defined (st : SendState) : Avoids .divideByZero (sendRound ops skb livesOut st) := by
  apply avoids_bind (sendRTPAudioPacket_defined _ _ _ _ _)
  intro sent _
  apply avoids_bind
  · unfold sendPartnerPacket
    split
    · exact avoids_ok _ _
    · apply avoids_bind (sendRTPAudioPacket_defined _ _ _ _ _)
      intro sent _
      exact avoids_ok _ _
  · intro st _
    exact avoids_ok _ _

theorem sendLoop_defined (fuel : Nat) (st : SendState) :
    Avoids .divideByZero (sendLoop ops skb livesOut fuel st) := by
  induction fuel generalizing st with
  | zero =>
    apply avoids_unless
    intro _
    exact avoids_error (by decide)
  | succ fuel ih =>
    apply avoids_unless
    intro _
    apply avoids_bind (sendRound_defined st)
    intro st _
    exact ih st

namespace RTPStreamsManager

theorem sendFrom_defined (m : RTPStreamsManager) (h : StreamHandle) :
    Avoids .divideByZero (m.sendFrom ops skb livesOut h) := by
  apply avoids_bind
  · apply avoids_unless
    intro _
    exact sendLoop_defined _ _
  · intro done _
    dsimp only
    split
    · exact avoids_ok _ _
    · exact avoids_ok _ _

theorem sendEach_defined (l : List StreamHandle) (m : RTPStreamsManager) :
    Avoids .divideByZero (sendEach ops skb livesOut l m) := by
  induction l generalizing m with
  | nil => exact avoids_ok _ _
  | cons h rest ih =>
    apply avoids_bind (sendFrom_defined m h)
    intro first _
    apply avoids_bind (ih first.1)
    intro later _
    exact avoids_ok _ _

theorem sendOutgoingPackets_defined (m : RTPStreamsManager) :
    Avoids .divideByZero (m.sendOutgoingPackets ops skb livesOut) := by
  apply avoids_bind (sendEach_defined _ _)
  intro done _
  exact avoids_ok _ _

end RTPStreamsManager

end Sending

section Muting

variable {ops : RTPAudioStreamOps}

structure RTPAudioStreamOps.Divisible (ops : RTPAudioStreamOps) : Prop where
  frameSize : ops.frameSize ≠ 0
  ring : ops.liveInJitterBufferLength ≠ 0

theorem getLiveInJitterBufferOffset_defined (ring : ops.liveInJitterBufferLength ≠ 0) (currentSAC : UInt64) :
    Avoids .divideByZero (getLiveInJitterBufferOffset ops currentSAC) := by
  apply avoids_bind ((cwLlModulo_succeeds_iff.mpr ring).avoids _)
  intro offset _
  exact avoids_ok _ _

theorem prepareBufferLives_defined (divisible : ops.Divisible) (s : RTPAudioStream) (partner : Option RTPStream)
    (mem : RingMemory) : Avoids .divideByZero (prepareBufferLives s partner ops mem) := by
  apply avoids_unless
  intro _
  apply avoids_when
  intro _
  apply avoids_bind
  · unfold muteFrame
    apply avoids_when
    intro _
    apply avoids_bind (getLiveInJitterBufferOffset_defined divisible.ring _)
    intro offset _
    rw [if_neg divisible.frameSize]
    apply avoids_ite
    · intro _
      exact avoids_ok _ _
    · intro _
      exact avoids_ok _ _
  · intro muted _
    exact avoids_ok _ _

namespace RTPStreamsManager

theorem prepareEach_defined (divisible : ops.Divisible) (l : List StreamHandle) (m : RTPStreamsManager) :
    Avoids .divideByZero (prepareEach ops l m) := by
  induction l generalizing m with
  | nil => exact avoids_ok _ _
  | cons h rest ih =>
    apply avoids_bind (prepareBufferLives_defined divisible _ _ _)
    intro done _
    exact ih _

theorem prepareBufferLivesAll_defined (divisible : ops.Divisible) (m : RTPStreamsManager) :
    Avoids .divideByZero (m.prepareBufferLivesAll ops) := by
  apply avoids_bind (prepareEach_defined divisible _ _)
  intro sources _
  apply avoids_bind (prepareEach_defined divisible _ _)
  intro sinks _
  exact prepareEach_defined divisible _ _

end RTPStreamsManager

end Muting

theorem getCaptureBufferSizeInFrames_ne_zero (alsa : AlsaBuffers) : alsa.getCaptureBufferSizeInFrames ≠ 0 := by
  have ring : ringBufferSize ≠ 0 := by decide
  unfold AlsaBuffers.getCaptureBufferSizeInFrames bufferSizeInFrames
  cases alsa.capture with
  | none => exact ring
  | some runtime =>
    dsimp only
    split
    · rename_i some
      split
      · exact ring
      · have positive : 0 < runtime.periodSize * runtime.periods :=
          Nat.mul_pos (Nat.pos_of_ne_zero some.1) (Nat.pos_of_ne_zero some.2)
        have fits := runtime.fits
        rw [bufferBytesMax_eq] at fits
        intro none
        have value := congrArg UInt32.toNat none
        rw [UInt32.toNat_ofNat_of_lt' (by unfold UInt32.size; omega)] at value
        exact absurd value (Nat.ne_of_gt positive)
    · exact ring

namespace Manager

variable {m m' : Manager} {msg : MTALSAMsg} {alsa : AlsaBuffers} {polled : Nat → Nat → PTPLockStatus}

/-- The frames are not empty, and an active NIC gets a rate that is not 0, with a period that is no
multiple of `2 ^ 32` ps other than 0. -/
structure Config.Startable (config : Config) : Prop where
  frameSize : config.frameSize ≠ 0
  sampleRate : ∀ nic < maxNics, config.isNICActive nic = true → config.sampleRate ≠ 0
  period : ∀ nic < maxNics, config.isNICActive nic = true →
    let period := (config.frameSize.toUInt64.toInt64 * 1000000000000 /
      (ravennaRate config.sampleRate).toUInt64.toInt64).toUInt64
    period.toUInt32 = 0 → period = 0

def startsWith (m : Manager) : Request → Option Config
  | .start => some m.config
  | .stop => none
  | .rate samplingRate =>
    if m.sampleRate ≠ samplingRate ∧ m.ioRunning = false ∧ m.isStarted = true then
      some (m.withRate samplingRate).config
    else none
  | .change c => if m.isStarted then some (c.apply m).config else none

structure Runnable (m : Manager) : Prop where
  clocks : ∀ nic, (m.ptp nic).Runnable
  frameSize : m.isStarted = true → m.frameSize ≠ 0

theorem Quiet.runnable (quiet : Quiet m m') (runnable : m.Runnable) : m'.Runnable where
  clocks nic := (runnable.clocks nic).of_timing (quiet.timing nic)
  frameSize := by
    rw [quiet.isStarted, quiet.frameSize]
    exact runnable.frameSize

theorem startAudioFrameTICTimer_timing {c c' : ClockPTP} {frameSize samplingRate : UInt32}
    (done : c.startAudioFrameTICTimer frameSize samplingRate = .ok c') :
    ∃ period, ClockPTP.basePeriod frameSize samplingRate = .ok period ∧
      c'.timing = ⟨true, frameSize, samplingRate, period⟩ := by
  obtain ⟨period, divided, last⟩ := bind_eq_ok.mp done
  cases last
  exact ⟨period, divided, rfl⟩

theorem ClocksStarted.runnable (started : ClocksStarted m maxNics m') (startable : m.config.Startable)
    (before : ∀ nic, (m.ptp nic).Runnable) (nic : Nat) : (m'.ptp nic).Runnable := by
  by_cases starts : nic < maxNics ∧ m.isNICActive nic = true
  · obtain ⟨below, active⟩ := starts
    obtain ⟨period, divided, timing⟩ := startAudioFrameTICTimer_timing (started.active nic below active)
    have rate : ravennaRate m.sampleRate ≠ 0 := by
      intro none
      exact startable.sampleRate nic below active (ravennaRate_eq_zero.mp none)
    intro _
    rw [timing]
    refine ⟨startable.frameSize, rate, ?_⟩
    have truncated := startable.period nic below active
    unfold ClockPTP.basePeriod divI64 at divided
    split at divided
    · cases divided
    · cases divided
      exact truncated
  · rw [started.idle nic starts]
    exact before nic

theorem start_runnable (startable : m.config.Startable) (before : ∀ nic, (m.ptp nic).Runnable)
    (done : m.start = .ok m') : m'.Runnable := by
  obtain ⟨m1, started, rfl⟩ := start_started done
  constructor
  · exact started.runnable startable before
  · intro _
    have same := congrArg Config.frameSize started.config
    exact fun none => startable.frameSize (same.symm.trans none)

theorem stopClock_runnable {n : Nat} (before : ∀ nic, (m.ptp nic).Runnable) (nic : Nat) :
    ((stopClock n m).ptp nic).Runnable := by
  unfold stopClock
  by_cases here : nic = n
  · subst here
    rw [setPTP_self]
    intro started
    cases started
  · rw [setPTP_of_ne m here]
    exact before nic

theorem stopIo_ptp (m : Manager) (alsa : AlsaBuffers) (isPlayback : Bool) : (m.stopIo alsa isPlayback).ptp = m.ptp := by
  unfold stopIo
  split
  · split
    · rfl
    · rfl
  · split
    · rfl
    · rfl

theorem stop_runnable (alsa : AlsaBuffers) (before : ∀ nic, (m.ptp nic).Runnable) : (m.stop alsa).Runnable := by
  have running : (m.stopRunningIO alsa).ptp = m.ptp := by
    unfold stopRunningIO
    split
    · rw [stopIo_ptp, stopIo_ptp]
    · rfl
  have stopped : ∀ nic,
      ((iterUp stopClock maxNics ((m.stopRunningIO alsa).enableEtherTubes false)).ptp nic).Runnable := by
    apply iterUp_invariant (fun _ (m : Manager) => ∀ nic, (m.ptp nic).Runnable)
    · intro nic
      exact congrFun running nic ▸ before nic
    · intro n _ m before
      exact stopClock_runnable before
  constructor
  · exact stopped
  · intro started
    cases started

theorem Change.apply_ptp (c : Change) (m : Manager) : (c.apply m).ptp = m.ptp := by
  cases c
  all_goals rfl

theorem Change.apply_isStarted (c : Change) (m : Manager) : (c.apply m).isStarted = m.isStarted := by
  cases c
  all_goals rfl

theorem restarting_runnable {c : Change} (runnable : m.Runnable)
    (startable : ∀ config ∈ m.startsWith (.change c), config.Startable)
    (done : m.restarting alsa c.apply = .ok m') : m'.Runnable := by
  have unchanged := Change.apply_isStarted c m
  unfold restarting at done
  split at done
  · rename_i started
    have starts : (c.apply m).config.Startable := startable _ (if_pos started)
    apply start_runnable _ _ done
    · rw [Change.apply_config c (stop_config m alsa)]
      exact starts
    · rw [Change.apply_ptp]
      exact (stop_runnable alsa runnable.clocks).clocks
  · rename_i stopped
    cases done
    constructor
    · rw [Change.apply_ptp]
      exact runnable.clocks
    · rw [unchanged]
      intro started
      exact absurd started stopped

theorem setSamplingRate_runnable {samplingRate : UInt32} {result : Bool} (runnable : m.Runnable)
    (startable : ∀ config ∈ m.startsWith (.rate samplingRate), config.Startable)
    (done : m.setSamplingRate samplingRate polled = .ok (m', result)) : m'.Runnable := by
  rcases setSamplingRate_cases done with ⟨rfl, -⟩ | ⟨differs, idle, ⟨isStarted, started, -⟩ | ⟨stopped, rfl, -⟩⟩
  · exact runnable
  · have starts : (m.withRate samplingRate).config.Startable := startable _ (if_pos ⟨differs, idle, isStarted⟩)
    constructor
    · exact started.runnable starts runnable.clocks
    · intro _
      have same := congrArg Config.frameSize started.config
      exact fun none => starts.frameSize (same.symm.trans none)
  · constructor
    · exact runnable.clocks
    · intro started
      exact absurd started (Bool.eq_false_iff.mp stopped)

theorem performs_runnable {request : Option Request} (runnable : m.Runnable)
    (startable : ∀ r ∈ request, ∀ config ∈ m.startsWith r, config.Startable)
    (performs : Performs m alsa polled request m') : m'.Runnable := by
  rcases request with _ | request
  · exact performs.runnable runnable
  · have starts := startable request rfl
    cases request with
    | start => exact start_runnable (starts _ rfl) runnable.clocks performs
    | stop =>
      rw [show m' = m.stop alsa from performs]
      exact stop_runnable alsa runnable.clocks
    | rate samplingRate =>
      obtain ⟨result, done⟩ := performs
      exact setSamplingRate_runnable runnable starts done
    | change c => exact restarting_runnable runnable starts performs

end Manager

/-- A message that starts the clocks starts them with a configuration in which they can run. -/
def ManagerOp.StartsRunnable (m : Manager) : ManagerOp → Prop
  | .message msg _ _ => ∀ request ∈ msg.request, ∀ config ∈ m.startsWith request, config.Startable
  | .packet .. | .tick _ | .startIo .. | .stopIo .. => True

namespace Manager

variable {m m' : Manager} {msg : MTALSAMsg} {alsa : AlsaBuffers} {polled : Nat → Nat → PTPLockStatus}

theorem startIo_runnable (runnable : m.Runnable) (alsa : AlsaBuffers) (isPlayback : Bool) :
    (m.startIo alsa isPlayback).1.Runnable := by
  unfold startIo
  split
  · exact runnable
  · split
    · exact ⟨runnable.clocks, runnable.frameSize⟩
    · exact ⟨runnable.clocks, runnable.frameSize⟩

theorem stopIo_runnable (runnable : m.Runnable) (alsa : AlsaBuffers) (isPlayback : Bool) :
    (m.stopIo alsa isPlayback).Runnable := by
  unfold stopIo
  split
  · split
    · exact ⟨runnable.clocks, runnable.frameSize⟩
    · exact runnable
  · split
    · exact ⟨runnable.clocks, runnable.frameSize⟩
    · exact runnable

theorem step_runnable {op : ManagerOp} (runnable : m.Runnable) (starts : op.StartsRunnable m)
    (done : op.step m = .ok m') : m'.Runnable := by
  cases op with
  | message msg alsa polled =>
    obtain ⟨⟨m1, reply⟩, handled, last⟩ := map_eq_ok.mp done
    cases last
    exact performs_runnable runnable starts (onNewMessage_performs handled)
  | packet alsa bytes ifname macHeader clockTime counterTime =>
    exact (etherTubeRxPacket_quiet (lift_eq_ok.mp done)).runnable runnable
  | tick now =>
    rcases tick_cases done with ⟨-, rfl⟩ | ⟨-, next, ticked⟩
    · exact runnable
    · exact (tClockTimer_quiet ticked).runnable runnable
  | startIo alsa isPlayback =>
    cases done
    exact startIo_runnable runnable alsa isPlayback
  | stopIo alsa isPlayback =>
    cases done
    exact stopIo_runnable runnable alsa isPlayback

theorem init_runnable (macAddress : Nat → MACAddress) (livesIn : RingMemory) (streamAt : UInt64 → StreamHandle) :
    (init macAddress livesIn streamAt).Runnable := by
  constructor
  · intro nic started
    cases started
  · intro started
    cases started

theorem startClocks_defined (startable : m.config.Startable) : Avoids .divideByZero m.startClocks := by
  have starts : Succeeds m.startClocks := by
    rw [startClocks_succeeds]
    by_cases active : ∃ nic < maxNics, m.isNICActive nic = true
    · obtain ⟨nic, below, active⟩ := active
      exact .inl (startable.sampleRate nic below active)
    · right
      intro nic below
      exact Bool.eq_false_of_not_eq_true fun isActive => active ⟨nic, below, isActive⟩
  obtain ⟨m1, started⟩ := starts
  rw [started]
  exact avoids_ok _ _

theorem start_defined (startable : m.config.Startable) : Avoids .divideByZero m.start := by
  apply avoids_bind (startClocks_defined startable)
  intro m1 _
  exact avoids_ok _ _

theorem restarting_defined {c : Change} (startable : ∀ config ∈ m.startsWith (.change c), config.Startable) :
    Avoids .divideByZero (m.restarting alsa c.apply) := by
  apply avoids_when
  intro started
  apply start_defined
  rw [Change.apply_config c (stop_config m alsa)]
  exact startable _ (if_pos started)

theorem setSamplingRate_defined {samplingRate : UInt32}
    (startable : ∀ config ∈ m.startsWith (.rate samplingRate), config.Startable) :
    Avoids .divideByZero (m.setSamplingRate samplingRate polled) := by
  apply avoids_unless
  intro differs
  apply avoids_unless
  intro idle
  apply avoids_when
  intro started
  apply avoids_map
  apply startClocks_defined
  exact startable _ (if_pos ⟨differs, Bool.eq_false_of_not_eq_true idle, started⟩)

theorem sized_defined {size : Nat} {handle : (Nat → UInt8) → Except ManagerFault (Manager × MTALSAReply)}
    (fits : msg.dataSize.toInt = size → Avoids (.fault .divideByZero) (handle msg.byte)) :
    Avoids (.fault .divideByZero) (m.sized msg size handle) := by
  apply avoids_unless
  intro same
  have handled := fits (not_not.mp same)
  unfold MTALSAMsg.load
  split
  · exact handled
  · exact avoids_error (by simp)

theorem onSet_defined {size : Nat} {set : (Nat → UInt8) → Except Fault Manager} {c : Change}
    (startable : ∀ request ∈ msg.ifSize size (some (.change c)), ∀ config ∈ m.startsWith request, config.Startable)
    (sets : set msg.byte = m.restarting alsa c.apply) :
    Avoids (.fault .divideByZero) (m.onSet msg size set) := by
  apply sized_defined
  intro fits
  have restarts : Avoids .divideByZero (set msg.byte) := by
    rw [sets]
    exact restarting_defined (startable _ (if_pos fits))
  apply avoids_bind (avoids_lift restarts)
  intro done _
  exact avoids_ok _ _

theorem setInterfaceNames_defined (names : List (List UInt8)) (index : Nat) (first : Manager × MTALSAReply) :
    Avoids (.fault .divideByZero) (setInterfaceNames msg names index first) := by
  induction names generalizing index first with
  | nil => exact avoids_ok _ _
  | cons name rest ih =>
    apply avoids_bind
    · rcases setInterfaceName_cases first.1 name index with ⟨-, did⟩ | ⟨-, -, did⟩ | ⟨-, -, did⟩ | ⟨-, did⟩
      · rw [did]
        exact avoids_ok _ _
      · rw [did]
        exact avoids_ok _ _
      · rw [did]
        exact avoids_ok _ _
      · rw [did]
        exact avoids_error (by simp)
    · intro named _
      exact ih (index + 1) _

theorem onNewMessage_defined
    (startable : ∀ request ∈ msg.request, ∀ config ∈ m.startsWith request, config.Startable) :
    Avoids (.fault .divideByZero) (m.onNewMessage msg alsa polled) := by
  unfold onNewMessage
  unfold MTALSAMsg.request at startable
  generalize MTALSAMsgId.ofValue msg.id = id at startable
  rcases id with _ | id
  · exact avoids_ok _ _
  · cases id with
    | start =>
      apply avoids_bind (avoids_lift (start_defined (startable _ rfl _ rfl)))
      intro done _
      exact avoids_ok _ _
    | setSampleRate =>
      apply sized_defined
      intro fits
      apply avoids_bind (avoids_lift (setSamplingRate_defined (startable _ (if_pos fits))))
      intro done _
      exact avoids_ok _ _
    | setDSDAudioMode =>
      apply sized_defined
      intro fits
      cases mode : dsdSamplingRate (load32 msg.byte 0) with
      | none => exact avoids_ok _ _
      | some rate =>
        have asked : msg.ifSize 4 ((dsdSamplingRate (load32 msg.byte 0)).map Request.rate) = some (.rate rate) := by
          rw [mode]
          exact if_pos fits
        apply avoids_bind (avoids_lift (setSamplingRate_defined (startable _ asked)))
        intro done _
        exact avoids_ok _ _
    | setTICFrameSizeAt1FS | setMaxTICFrameSize | setNumberOfInputs | setNumberOfOutputs =>
      exact onSet_defined startable rfl
    | setInterfaceName =>
      apply avoids_unless
      intro _
      apply avoids_bind
      · apply avoids_unless
        intro _
        exact avoids_error (by simp)
      · intro names _
        exact setInterfaceNames_defined _ _ _
    | addRTPStream =>
      apply avoids_unless
      intro _
      apply avoids_bind
      · apply avoids_unless
        intro _
        exact avoids_error (by simp)
      · intro b _
        exact avoids_ok _ _
    | getRTPStreamStatus | removeRTPStream | setPTPConfig | setMasterOutputVolume | setMasterOutputSwitch
    | setPlayoutDelay | setCaptureDelay =>
      apply sized_defined
      intro _
      apply avoids_ok
    | stop | reset | startIo | stopIo | getSampleRate | getAudioMode | getNumberOfInputs | getNumberOfOutputs
    | updateRTPStreamName | getPTPInfo | hello | bye | ping | getMasterOutputVolume | getMasterOutputSwitch
    | getPTPConfig | getPTPStatus =>
      exact avoids_ok _ _

theorem timerProcess_defined (runnable : m.Runnable) (tick : Tick) (nic : Nat) :
    Avoids .divideByZero (m.timerProcess tick nic) := by
  apply avoids_bind ((ClockPTP.timerProcess_succeeds (runnable.clocks nic) _ _ _).avoids _)
  intro done _
  exact avoids_ok _ _

theorem audioFrameTIC_defined (frames : m.frameSize ≠ 0) (tick : Tick) :
    Avoids .divideByZero (m.audioFrameTIC tick) := by
  have divisible : (m.callbacks tick.alsa).Divisible := ⟨frames, getCaptureBufferSizeInFrames_ne_zero tick.alsa⟩
  apply avoids_bind (RTPStreamsManager.prepareBufferLivesAll_defined divisible _)
  intro streams _
  apply avoids_when
  intro _
  apply avoids_bind (RTPStreamsManager.sendOutgoingPackets_defined _)
  intro sent _
  exact avoids_ok _ _

theorem tClockTimer_defined (runnable : m.Runnable) (frames : m.frameSize ≠ 0) (tick : Tick) :
    Avoids .divideByZero (m.tClockTimer tick) := by
  have selected := (selectPTPNIC_quiet m).runnable runnable
  apply avoids_bind (timerProcess_defined selected tick 0)
  intro on0 first
  have quiet0 := timerProcess_quiet first
  apply avoids_bind (timerProcess_defined (quiet0.runnable selected) tick 1)
  intro on1 second
  apply avoids_bind
  · have quiet := quiet0.trans (timerProcess_quiet second)
    have kept : on1.1.frameSize = m.frameSize := quiet.frameSize
    apply audioFrameTIC_defined
    exact fun none => frames (kept.symm.trans none)
  · intro done _
    exact avoids_ok _ _

theorem processPTP_defined (runnable : m.Runnable) (nic : Nat) (packet : List UInt8) (macHeader : Bool)
    (clockTime : UInt64) : Avoids .divideByZero (m.processPTP nic packet macHeader clockTime) := by
  apply avoids_when
  intro _
  apply avoids_bind ((ClockPTP.processPTPPacket_succeeds (runnable.clocks nic) _ _).avoids _)
  intro done _
  exact avoids_ok _ _

def offerPacket (alsa : AlsaBuffers) (packet ifname : List UInt8) (macHeader : Bool)
    (clockTime counterTime : UInt64) (nic : Nat) (self : Manager) : Except Fault Manager :=
  if (self.ethernetFilter nic).rxPacket packet ifname then
    (·.1) <$> self.dispatchPacket (self.callbacks alsa counterTime) packet macHeader nic clockTime
  else .ok self

theorem etherTubeRxPacket_eq (alsa : AlsaBuffers) (packet ifname : List UInt8) (macHeader : Bool)
    (clockTime counterTime : UInt64) : m.etherTubeRxPacket alsa packet ifname macHeader clockTime counterTime =
      forUp (offerPacket alsa packet ifname macHeader clockTime counterTime) maxNics m := rfl

theorem offerPackets_quiet {packet ifname : List UInt8} {macHeader : Bool} {clockTime counterTime : UInt64} {n : Nat}
    (done : forUp (offerPacket alsa packet ifname macHeader clockTime counterTime) n m = .ok m') : Quiet m m' := by
  refine forUp_kept (fun _ => Quiet m) (.refl m) ?_ done
  intro nic before after _ quiet step
  unfold offerPacket at step
  split at step
  · obtain ⟨⟨_, _⟩, dispatched, last⟩ := map_eq_ok.mp step
    cases last
    exact quiet.trans (dispatchPacket_quiet dispatched)
  · cases step
    exact quiet

end Manager

/-- A step divides by zero: a message in the start of a clock, a tick in the timer of a clock or in the
muting, and a frame in the clock of a NIC that it comes to. -/
def ManagerOp.DividesByZero (m : Manager) : ManagerOp → Prop
  | .packet alsa bytes ifname macHeader clockTime counterTime =>
    ∃ nic < maxNics, ∃ met,
      forUp (Manager.offerPacket alsa bytes ifname macHeader clockTime counterTime) nic m = .ok met ∧
        met.processPTP nic bytes macHeader clockTime = .error .divideByZero
  | op => op.step m = .error (.fault .divideByZero)

namespace Manager

variable {m m' : Manager}

theorem step_defined {op : ManagerOp} (runnable : m.Runnable) (starts : op.StartsRunnable m) :
    ¬ op.DividesByZero m := by
  cases op with
  | message msg alsa polled => exact avoids_map _ (onNewMessage_defined starts)
  | packet alsa bytes ifname macHeader clockTime counterTime =>
    rintro ⟨nic, -, met, offered, divides⟩
    exact processPTP_defined ((offerPackets_quiet offered).runnable runnable) nic bytes macHeader clockTime divides
  | tick now =>
    apply avoids_when
    intro started
    exact avoids_map _ (avoids_lift (tClockTimer_defined runnable (runnable.frameSize started) now))
  | startIo alsa isPlayback => exact avoids_ok _ _
  | stopIo alsa isPlayback => exact avoids_ok _ _

theorem tClockTimer_of_empty {nic : Nat} (below : nic < maxNics)
    (empty : (m.ptp nic).timing.started = true ∧ (m.ptp nic).timing.frameSize = 0) (tick : Tick) :
    m.tClockTimer tick = .error .divideByZero := by
  have fails : ∀ (m : Manager) nic,
      (m.ptp nic).timerProcess (tick.clockTime nic) (tick.endTime nic) (tick.counterTime nic) =
        .error .divideByZero → m.timerProcess tick nic = .error .divideByZero := by
    intro m nic failed
    rw [timerProcess, failed]
    rfl
  unfold tClockTimer
  obtain ⟨-, failed⟩ | ⟨some, done⟩ := (m.selectPTPNIC.ptp 0).timerProcess_outcome (tick.clockTime 0)
    (tick.endTime 0) (tick.counterTime 0)
  · dsimp only
    rw [fails m.selectPTPNIC 0 failed]
    rfl
  · have second : nic = 1 := by
      have apart : nic ≠ 0 := by
        intro same
        subst same
        exact some empty
      unfold maxNics at below
      omega
    subst second
    obtain ⟨clock, run⟩ := done
    have first : m.selectPTPNIC.timerProcess tick 0 =
        .ok (m.selectPTPNIC.setPTP 0 clock.1, clock.2.getD (tick.currentRTXClockTime 0)) := by
      rw [timerProcess, run]
      rfl
    obtain ⟨-, failed⟩ | ⟨some, -⟩ := ((m.selectPTPNIC.setPTP 0 clock.1).ptp 1).timerProcess_outcome
      (tick.clockTime 1) (tick.endTime 1) (tick.counterTime 1)
    · dsimp only
      rw [first, ok_bind, fails _ 1 failed]
      rfl
    · exact absurd empty some

/-- Frames that are empty when a clock is started are divided by at every tick before the next message. -/
theorem start_then_tick_divides {nic : Nat} (below : nic < maxNics) (active : m.isNICActive nic = true)
    (empty : m.frameSize = 0) (done : m.start = .ok m') (now : Tick) : (ManagerOp.tick now).DividesByZero m' := by
  obtain ⟨m1, started, rfl⟩ := start_started done
  obtain ⟨period, -, timing⟩ := startAudioFrameTICTimer_timing (started.active nic below active)
  have ticked : tClockTimer { m1.enableEtherTubes true with isStarted := true } now = .error .divideByZero := by
    apply tClockTimer_of_empty below
    change (m1.ptp nic).timing.started = true ∧ (m1.ptp nic).timing.frameSize = 0
    rw [timing]
    exact ⟨rfl, empty⟩
  change (·.1) <$> lift (tClockTimer { m1.enableEtherTubes true with isStarted := true } now) = _
  rw [ticked]
  rfl

/-- While every message that starts the clocks finds a configuration in which they can run, nothing is
divided by zero: not in a step, and not in the offset of a ring. -/
theorem divisors_stay_nonzero {macAddress : Nat → MACAddress} {livesIn : RingMemory}
    {streamAt : UInt64 → StreamHandle} {ops : List ManagerOp}
    (run : Run ManagerOp.step ManagerOp.StartsRunnable (init macAddress livesIn streamAt) ops m) :
    (∀ op : ManagerOp, op.StartsRunnable m → ¬ op.DividesByZero m) ∧
      ∀ alsa counterTime currentSAC,
        getLiveInJitterBufferOffset (m.callbacks alsa counterTime) currentSAC ≠ .error .divideByZero := by
  have runnable : m.Runnable :=
    run.invariant Runnable (init_runnable macAddress livesIn streamAt) fun _ _ _ runnable starts next =>
      step_runnable runnable starts next
  constructor
  · intro op starts
    exact step_defined runnable starts
  · intro alsa counterTime currentSAC
    exact getLiveInJitterBufferOffset_defined (getCaptureBufferSizeInFrames_ne_zero alsa) currentSAC

def startMessage : ManagerOp := .message ⟨0, 0, []⟩ {} fun _ _ => .unlocked

def zeroRateMessage : ManagerOp := .message ⟨5, 4, [0, 0, 0, 0]⟩ {} fun _ _ => .unlocked

theorem divisors_stay_nonzero_started :
    ∃ m, Run ManagerOp.step ManagerOp.StartsRunnable loaded [startMessage] m ∧
      (∀ op : ManagerOp, op.StartsRunnable m → ¬ op.DividesByZero m) ∧
      ∀ alsa counterTime currentSAC,
        getLiveInJitterBufferOffset (m.callbacks alsa counterTime) currentSAC ≠ .error .divideByZero := by
  have startable : loaded.config.Startable := by
    constructor
    · decide
    · intro nic _ _
      decide
    · intro nic _ _
      decide
  have starts : startMessage.StartsRunnable loaded := by
    intro request asked config starts
    cases asked
    cases starts
    exact startable
  have run : Run ManagerOp.step ManagerOp.StartsRunnable loaded [startMessage] _ := .one starts rfl
  exact ⟨_, run, divisors_stay_nonzero run⟩

def onlyMessages (_ : Manager) (op : ManagerOp) : Prop := ∃ msg alsa polled, op = .message msg alsa polled

/-- The rate 0 is stored, although the handler means to refuse it, and the clock of NIC 0 is started with it. -/
theorem zero_rate_divides : ¬ ∀ ops m, Run ManagerOp.step onlyMessages loaded ops m →
    ∀ op, onlyMessages m op → ¬ op.DividesByZero m := by
  intro all
  have stored : Run ManagerOp.step onlyMessages loaded [zeroRateMessage] (loaded.withRate 0) :=
    .one ⟨_, _, _, rfl⟩ rfl
  exact all _ _ stored startMessage ⟨_, _, _, rfl⟩ rfl

end Manager

end RavennaLkm
