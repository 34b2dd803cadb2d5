import RavennaLkm.ClockSpec
import RavennaLkm.Messages
import RavennaLkm.SlotReuse

/-!
What one call can do to the manager. A quiet call leaves the frame size, the
timing of the clocks and the state of the I/O alone; the others start the
clocks, or stop them. The streams stay consistent in both kinds.
-/
namespace RavennaLkm
open CheckedLoop GuardedRun LittleEndian

section Lift

variable {α : Type}

theorem lift_eq_ok {x : Except Fault α} {a : α} : lift x = .ok a ↔ x = .ok a := by
  cases x <;> simp [lift, Except.mapError]

theorem avoids_lift {x : Except Fault α} {f : Fault} (safe : Avoids f x) :
    Avoids (ManagerFault.fault f) (lift x) := by
  cases x with
  | ok a => exact avoids_ok _ a
  | error f' =>
    apply avoids_error
    intro same
    cases same
    exact safe rfl

end Lift

structure Timing where
  started : Bool
  frameSize : UInt32
  samplingRate : UInt32
  ticBasePeriod : UInt64

namespace ClockPTP

variable {c c' : ClockPTP}

def timing (c : ClockPTP) : Timing :=
  ⟨c.audioFrameTICTimerStarted, c.frameSize, c.samplingRate, c.ticBasePeriod⟩

@[simp] theorem withoutElection_timing (c : ClockPTP) : c.withoutElection.timing = c.timing := rfl

@[simp] theorem withoutLock_timing (c : ClockPTP) : c.withoutLock.timing = c.timing := rfl

@[simp] theorem withoutMessages_timing (c : ClockPTP) : c.withoutMessages.timing = c.timing := by
  calc c.withoutMessages.timing = c.withoutElection.withoutLock.timing := by rw [withoutMessages, timing, timing]
    _ = c.timing := by rw [withoutLock_timing, withoutElection_timing]

@[simp] theorem withoutTimer_timing (c : ClockPTP) : c.withoutTimer.timing = c.timing := rfl

theorem processPTPPacket_timing {packet : List UInt8} {clockTime : UInt64} {result : DispatchResult}
    (done : c.processPTPPacket packet clockTime = .ok (c', result)) : c'.timing = c.timing := by
  rcases processPTPPacket_cases done with ⟨-, rfl⟩ | ⟨-, message, -, processed⟩
  · rfl
  · rw [← withoutMessages_timing c', processMessage_withoutMessages processed, withoutMessages_timing]

theorem timerProcess_timing {clockTime endTime counterTime : UInt64} {next : Option UInt64}
    (done : c.timerProcess clockTime endTime counterTime = .ok (c', next)) : c'.timing = c.timing := by
  rcases timerProcess_cases done with ⟨-, rfl⟩ | ⟨-, ticCount, -, -, -, rest⟩
  · rfl
  · rw [← withoutTimer_timing c', rest, withoutTimer_timing]
    split
    · rfl
    · rfl

theorem setPTPConfig_timing (c : ClockPTP) (config : PTPConfig) : (c.setPTPConfig config).timing = c.timing := by
  unfold setPTPConfig
  split
  · rfl
  · rfl

end ClockPTP

namespace RTPStreamsManager

variable {m : RTPStreamsManager}

theorem Consistent.withLivesIn (c : m.Consistent) (livesIn : RingMemory) :
    { m with livesIn := livesIn }.Consistent :=
  ⟨c.handler, c.netfilter, c.source, c.sourceOnce, c.sink, c.sinkOnce⟩

theorem getRTPStreamStatus_consistent (c : m.Consistent) (h : StreamHandle) :
    (m.getRTPStreamStatus h).1.Consistent :=
  call_consistent c (fun renames : (StreamsCall.status h).Renames => renames) rfl

end RTPStreamsManager

namespace Manager

variable {m m' m'' : Manager} {msg : MTALSAMsg} {reply : MTALSAReply} {alsa : AlsaBuffers}
  {polled : Nat → Nat → PTPLockStatus}

structure Quiet (m m' : Manager) : Prop where
  timing : ∀ nic, (m'.ptp nic).timing = (m.ptp nic).timing
  frameSize : m'.frameSize = m.frameSize
  isStarted : m'.isStarted = m.isStarted
  isPlaybackIO : m'.isPlaybackIO = m.isPlaybackIO
  isRecordingIO : m'.isRecordingIO = m.isRecordingIO
  ioRunning : m'.ioRunning = m.ioRunning
  numberOfInputs : m'.numberOfInputs = m.numberOfInputs
  numberOfOutputs : m'.numberOfOutputs = m.numberOfOutputs
  streams : m.streams.Consistent → m'.streams.Consistent

namespace Quiet

theorem refl (m : Manager) : Quiet m m := by
  constructor
  all_goals intros
  all_goals first | rfl | assumption

theorem trans (first : Quiet m m') (then_ : Quiet m' m'') : Quiet m m'' where
  timing nic := (then_.timing nic).trans (first.timing nic)
  frameSize := then_.frameSize.trans first.frameSize
  isStarted := then_.isStarted.trans first.isStarted
  isPlaybackIO := then_.isPlaybackIO.trans first.isPlaybackIO
  isRecordingIO := then_.isRecordingIO.trans first.isRecordingIO
  ioRunning := then_.ioRunning.trans first.ioRunning
  numberOfInputs := then_.numberOfInputs.trans first.numberOfInputs
  numberOfOutputs := then_.numberOfOutputs.trans first.numberOfOutputs
  streams c := then_.streams (first.streams c)

end Quiet

@[simp] theorem setPTP_self (m : Manager) (nic : Nat) (clock : ClockPTP) : (m.setPTP nic clock).ptp nic = clock :=
  Function.update_self ..

theorem setPTP_of_ne (m : Manager) {nic other : Nat} (apart : other ≠ nic) (clock : ClockPTP) :
    (m.setPTP nic clock).ptp other = m.ptp other := Function.update_of_ne apart ..

theorem quiet_setPTP {nic : Nat} {clock : ClockPTP} (same : clock.timing = (m.ptp nic).timing) :
    Quiet m (m.setPTP nic clock) := by
  refine { Quiet.refl m with timing := ?_ }
  intro other
  by_cases here : other = nic
  · subst here
    rw [setPTP_self, same]
  · rw [setPTP_of_ne m here]

theorem quiet_setStreams {streams : RTPStreamsManager} (kept : m.streams.Consistent → streams.Consistent) :
    Quiet m (m.setStreams streams) :=
  { Quiet.refl m with streams := kept }

theorem dispatchPacket_quiet {ops : RTPAudioStreamOps} {packet : List UInt8} {macHeader : Bool} {nic : Nat}
    {clockTime : UInt64} {result : DispatchResult}
    (done : m.dispatchPacket ops packet macHeader nic clockTime = .ok (m', result)) : Quiet m m' := by
  obtain ⟨⟨m1, answer⟩, answered, rest⟩ := bind_eq_ok.mp done
  obtain ⟨⟨streams, used⟩, dispatched, last⟩ := bind_eq_ok.mp rest
  cases last
  have clock : Quiet m m1 := by
    unfold processPTP at answered
    split at answered
    · obtain ⟨⟨c, _⟩, processed, last⟩ := bind_eq_ok.mp answered
      cases last
      exact quiet_setPTP (ClockPTP.processPTPPacket_timing processed)
    · cases answered
      exact .refl m
  apply clock.trans
  apply quiet_setStreams
  intro c
  unfold RTPStreamsManager.dispatchPacket at dispatched
  split at dispatched
  · split at dispatched
    · split at dispatched
      · obtain ⟨_, processed, last⟩ := bind_eq_ok.mp dispatched
        cases last
        exact (RTPStreamsManager.processUDPPacket_same processed).consistent c
      · cases dispatched
        exact c
    · cases dispatched
      exact c
  · split at dispatched
    · obtain ⟨_, -, last⟩ := map_eq_ok.mp dispatched
      cases last
      exact c
    · cases dispatched
      exact c

theorem etherTubeRxPacket_quiet {packet ifname : List UInt8} {macHeader : Bool}
    {clockTime counterTime : UInt64}
    (done : m.etherTubeRxPacket alsa packet ifname macHeader clockTime counterTime = .ok m') : Quiet m m' := by
  refine forUp_kept (fun _ => Quiet m) (.refl m) ?_ done
  intro nic before after _ quiet step
  split at step
  · obtain ⟨⟨_, _⟩, dispatched, last⟩ := map_eq_ok.mp step
    cases last
    exact quiet.trans (dispatchPacket_quiet dispatched)
  · cases step
    exact quiet

theorem selectPTPNIC_quiet (m : Manager) : Quiet m m.selectPTPNIC := { Quiet.refl m with }

theorem timerProcess_quiet {tick : Tick} {nic : Nat} {next : UInt64}
    (done : m.timerProcess tick nic = .ok (m', next)) : Quiet m m' := by
  obtain ⟨⟨c, _⟩, processed, last⟩ := bind_eq_ok.mp done
  cases last
  exact quiet_setPTP (ClockPTP.timerProcess_timing processed)

theorem setNextAbsoluteTime_quiet (m : Manager) (nic : Nat) (next : UInt64) :
    Quiet m (m.setNextAbsoluteTime nic next) := quiet_setPTP rfl

theorem audioFrameTIC_quiet {tick : Tick} (done : m.audioFrameTIC tick = .ok m') : Quiet m m' := by
  obtain ⟨streams, prepared, rest⟩ := bind_eq_ok.mp done
  have kept : m.streams.Consistent → streams.Consistent := fun c =>
    (RTPStreamsManager.prepareBufferLivesAll_same c prepared).consistent c
  split at rest
  · obtain ⟨sent, run, last⟩ := bind_eq_ok.mp rest
    cases last
    apply quiet_setStreams
    intro c
    exact (RTPStreamsManager.sendOutgoingPackets_same (kept c) run).consistent (kept c)
  · cases rest
    exact quiet_setStreams kept

theorem tClockTimer_quiet {tick : Tick} {next : UInt64} (done : m.tClockTimer tick = .ok (m', next)) :
    Quiet m m' := by
  obtain ⟨⟨m0, next0⟩, on0, rest⟩ := bind_eq_ok.mp done
  obtain ⟨⟨m1, next1⟩, on1, rest⟩ := bind_eq_ok.mp rest
  obtain ⟨m2, framed, last⟩ := bind_eq_ok.mp rest
  cases last
  have timers := ((selectPTPNIC_quiet m).trans (timerProcess_quiet on0)).trans (timerProcess_quiet on1)
  exact (timers.trans (setNextAbsoluteTime_quiet ..)).trans (audioFrameTIC_quiet framed)

structure ClocksStarted (m : Manager) (n : Nat) (m' : Manager) : Prop where
  only : m' = { m with ptp := m'.ptp }
  active : ∀ nic < n, m.isNICActive nic = true →
    (m.ptp nic).startAudioFrameTICTimer m.frameSize (ravennaRate m.sampleRate) = .ok (m'.ptp nic)
  idle : ∀ nic, ¬ (nic < n ∧ m.isNICActive nic = true) → m'.ptp nic = m.ptp nic

theorem startClock_started {n : Nat} (sofar : ClocksStarted m n m') (done : startClock n m' = .ok m'') :
    ClocksStarted m (n + 1) m'' := by
  have waiting : m'.ptp n = m.ptp n := sofar.idle n (by omega)
  unfold startClock at done
  rw [sofar.only] at done
  split at done
  · rename_i isActive
    obtain ⟨clock, started, last⟩ := bind_eq_ok.mp done
    cases last
    constructor
    · rfl
    · intro nic below here
      by_cases same : nic = n
      · subst same
        rw [← waiting, started]
        exact congrArg Except.ok (setPTP_self ..).symm
      · exact (sofar.active nic (by omega) here).trans (congrArg Except.ok (setPTP_of_ne _ same ..).symm)
    · intro nic outside
      have apart : nic ≠ n := by
        intro same
        subst same
        exact outside ⟨by omega, isActive⟩
      exact (setPTP_of_ne _ apart ..).trans (sofar.idle nic fun inside => outside ⟨by omega, inside.2⟩)
  · rename_i notActive
    cases done
    constructor
    · rfl
    · intro nic below here
      apply sofar.active nic _ here
      by_contra beyond
      have same : nic = n := by omega
      subst same
      exact notActive here
    · intro nic outside
      exact sofar.idle nic fun inside => outside ⟨by omega, inside.2⟩

theorem startClocks_started (done : m.startClocks = .ok m') : ClocksStarted m maxNics m' := by
  refine forUp_kept (ClocksStarted m) ?_ ?_ done
  · constructor
    · rfl
    · intro nic below
      omega
    · intro nic _
      rfl
  · intro nic before after _ sofar step
    exact startClock_started sofar step

theorem start_started (done : m.start = .ok m') :
    ∃ m1, ClocksStarted m maxNics m1 ∧ m' = { m1.enableEtherTubes true with isStarted := true } := by
  obtain ⟨m1, started, last⟩ := bind_eq_ok.mp done
  cases last
  exact ⟨m1, startClocks_started started, rfl⟩

structure Config where
  isNICActive : Nat → Bool
  sampleRate : UInt32
  ticFrameSizeAt1FS : UInt64
  frameSize : UInt32
  maxFrameSize : UInt32
  numberOfInputs : UInt32
  numberOfOutputs : UInt32

def config (m : Manager) : Config :=
  ⟨m.isNICActive, m.sampleRate, m.ticFrameSizeAt1FS, m.frameSize, m.maxFrameSize, m.numberOfInputs,
    m.numberOfOutputs⟩

theorem ClocksStarted.config {n : Nat} (started : ClocksStarted m n m') : m'.config = m.config := by
  rw [started.only]
  rfl

theorem start_config (done : m.start = .ok m') : m'.config = m.config := by
  obtain ⟨m1, started, rfl⟩ := start_started done
  exact started.config

theorem stopIo_config (m : Manager) (alsa : AlsaBuffers) (isPlayback : Bool) :
    (m.stopIo alsa isPlayback).config = m.config := by
  unfold stopIo
  split
  · split
    · rfl
    · rfl
  · split
    · rfl
    · rfl

theorem stopRunningIO_config (m : Manager) (alsa : AlsaBuffers) :
    (m.stopRunningIO alsa).config = m.config := by
  unfold stopRunningIO
  split
  · rw [stopIo_config, stopIo_config]
  · rfl

theorem stop_config (m : Manager) (alsa : AlsaBuffers) : (m.stop alsa).config = m.config := by
  rw [← stopRunningIO_config m alsa]
  rfl

theorem stopIo_streams (m : Manager) (alsa : AlsaBuffers) (isPlayback : Bool) (c : m.streams.Consistent) :
    (m.stopIo alsa isPlayback).streams.Consistent := by
  unfold stopIo
  split
  · split
    · exact c
    · exact c
  · split
    · exact c.withLivesIn _
    · exact c

end Manager

inductive Change where
  | ticFrameSizeAt1FS (ticFrameSize : UInt64)
  | maxTICFrameSize (maxFrameSize : UInt64)
  | numberOfInputs (numberOfChannels : UInt32)
  | numberOfOutputs (numberOfChannels : UInt32)

def Change.apply : Change → Manager → Manager
  | .ticFrameSizeAt1FS v, m => { m with ticFrameSizeAt1FS := v }.updateFrameSize
  | .maxTICFrameSize v, m => { m with maxFrameSize := v.toUInt32 }.updateFrameSize
  | .numberOfInputs n, m => { m with numberOfInputs := n }
  | .numberOfOutputs n, m => { m with numberOfOutputs := n }

inductive Request where
  | start | stop
  | rate (samplingRate : UInt32)
  | change (c : Change)

namespace MTALSAMsg

def ifSize {α : Type} (msg : MTALSAMsg) (size : Nat) (a : Option α) : Option α :=
  if msg.dataSize.toInt = size then a else none

def request (msg : MTALSAMsg) : Option Request :=
  match MTALSAMsgId.ofValue msg.id with
  | some .start => some .start
  | some .stop => some .stop
  | some .setSampleRate => msg.ifSize 4 (some (.rate (load32 msg.byte 0)))
  | some .setDSDAudioMode => msg.ifSize 4 ((Manager.dsdSamplingRate (load32 msg.byte 0)).map .rate)
  | some .setTICFrameSizeAt1FS => msg.ifSize 8 (some (.change (.ticFrameSizeAt1FS (load64 msg.byte 0))))
  | some .setMaxTICFrameSize => msg.ifSize 8 (some (.change (.maxTICFrameSize (load64 msg.byte 0))))
  | some .setNumberOfInputs => msg.ifSize 4 (some (.change (.numberOfInputs (load32 msg.byte 0))))
  | some .setNumberOfOutputs => msg.ifSize 4 (some (.change (.numberOfOutputs (load32 msg.byte 0))))
  | _ => none

end MTALSAMsg

namespace Manager

variable {m m' m'' : Manager} {msg : MTALSAMsg} {reply : MTALSAReply} {alsa : AlsaBuffers}
  {polled : Nat → Nat → PTPLockStatus}

def Performs (m : Manager) (alsa : AlsaBuffers) (polled : Nat → Nat → PTPLockStatus) :
    Option Request → Manager → Prop
  | none, m' => Quiet m m'
  | some .start, m' => m.start = .ok m'
  | some .stop, m' => m' = m.stop alsa
  | some (.rate samplingRate), m' => ∃ done, m.setSamplingRate samplingRate polled = .ok (m', done)
  | some (.change c), m' => m.restarting alsa c.apply = .ok m'

theorem sized_eq_ok {size : Nat} {handle : (Nat → UInt8) → Except ManagerFault (Manager × MTALSAReply)} :
    m.sized msg size handle = .ok (m', reply) ↔
      msg.dataSize.toInt ≠ size ∧ m' = m ∧ reply = msg.reply (-315) ∨
      msg.dataSize.toInt = size ∧ size ≤ msg.payload.length ∧ handle msg.byte = .ok (m', reply) := by
  unfold sized
  split
  · rename_i differs
    simp [differs, eq_comm]
  · rename_i fits
    rw [not_not] at fits
    unfold MTALSAMsg.load
    split
    · rename_i inside
      simp [fits, inside]
    · rename_i outside
      simp [fits, outside]

theorem quiet_sized {size : Nat} {handle : (Nat → UInt8) → Except ManagerFault (Manager × MTALSAReply)}
    (quiet : ∀ m' reply, handle msg.byte = .ok (m', reply) → Quiet m m')
    (done : m.sized msg size handle = .ok (m', reply)) : Quiet m m' := by
  rcases sized_eq_ok.mp done with ⟨-, rfl, -⟩ | ⟨-, -, handled⟩
  · exact .refl _
  · exact quiet m' reply handled

theorem performs_ifSize {size : Nat} {handle : (Nat → UInt8) → Except ManagerFault (Manager × MTALSAReply)}
    {request : Option Request}
    (performs : ∀ m' reply, handle msg.byte = .ok (m', reply) → Performs m alsa polled request m')
    (done : m.sized msg size handle = .ok (m', reply)) :
    Performs m alsa polled (msg.ifSize size request) m' := by
  unfold MTALSAMsg.ifSize
  rcases sized_eq_ok.mp done with ⟨differs, rfl, -⟩ | ⟨fits, -, handled⟩
  · rw [if_neg differs]
    exact .refl _
  · rw [if_pos fits]
    exact performs m' reply handled

theorem onSet_performs {size : Nat} {set : (Nat → UInt8) → Except Fault Manager} {c : Change}
    (sets : set msg.byte = m.restarting alsa c.apply) (done : m.onSet msg size set = .ok (m', reply)) :
    Performs m alsa polled (msg.ifSize size (some (.change c))) m' := by
  refine performs_ifSize ?_ done
  intro m' reply handled
  obtain ⟨m1, lifted, last⟩ := bind_eq_ok.mp handled
  cases last
  exact sets.symm.trans (lift_eq_ok.mp lifted)

def unnamed (m : Manager) (name : List UInt8) (index : Nat) : Manager :=
  { m.setEtherTube index (m.ethernetFilter index).stop with
    interfaceName := name.take (maxInterfaceName - 1) }

def named (m : Manager) (name : List UInt8) (index : Nat) : Manager :=
  { m.setEtherTube index { m.ethernetFilter index with ifnameUsed := name, started := true } with
    interfaceName := name
    isNICActive := Function.update m.isNICActive index true }

theorem setInterfaceName_cases (m : Manager) (name : List UInt8) (index : Nat) :
    maxNics < index ∧ m.setInterfaceName name index = .ok (m, false) ∨
    index < maxNics ∧ maxInterfaceName ≤ name.length ∧
      m.setInterfaceName name index = .ok (m.unnamed name index, false) ∨
    index < maxNics ∧ name.length < ifnameSize ∧
      m.setInterfaceName name index = .ok (m.named name index, true) ∨
    (index = maxNics ∨ index < maxNics ∧ ifnameSize ≤ name.length ∧ name.length < maxInterfaceName) ∧
      m.setInterfaceName name index = .error .interfaceOverrun := by
  by_cases beyond : index > maxNics
  · exact .inl ⟨beyond, if_pos beyond⟩
  · by_cases last : index = maxNics
    · right; right; right
      constructor
      · exact .inl last
      · rw [setInterfaceName, if_neg beyond, if_pos last]
    · have below : index < maxNics := by omega
      rw [setInterfaceName, if_neg beyond, if_neg last]
      by_cases whole : name.take (maxInterfaceName - 1) = name
      · have short : name.length < maxInterfaceName := by
          have bound := List.length_take_le (maxInterfaceName - 1) name
          rw [whole] at bound
          unfold maxInterfaceName at bound ⊢
          omega
        simp only [whole, ne_eq, not_true_eq_false, if_false]
        unfold EtherTube.start
        by_cases fits : name.length < ifnameSize
        · right; right; left
          simp only [if_pos fits, ok_bind]
          refine ⟨below, fits, ?_⟩
          unfold named setEtherTube EtherTube.stop
          simp
        · right; right; right
          simp only [if_neg fits, error_bind]
          exact ⟨.inr ⟨below, by omega, short⟩, trivial⟩
      · right; left
        simp only [ne_eq, whole, not_false_eq_true, if_true]
        refine ⟨below, ?_, rfl⟩
        by_contra short
        apply whole
        apply List.take_of_length_le
        unfold maxInterfaceName at short ⊢
        omega

theorem setInterfaceName_quiet {name : List UInt8} {index : Nat} {result : Bool}
    (done : m.setInterfaceName name index = .ok (m', result)) : Quiet m m' := by
  rcases setInterfaceName_cases m name index with ⟨-, did⟩ | ⟨-, -, did⟩ | ⟨-, -, did⟩ | ⟨-, did⟩
  · cases did.symm.trans done
    exact .refl _
  · cases did.symm.trans done
    exact { Quiet.refl m with }
  · cases did.symm.trans done
    exact { Quiet.refl m with }
  · cases did.symm.trans done

theorem setInterfaceNames_quiet {names : List (List UInt8)} {index : Nat} {first : MTALSAReply}
    (done : setInterfaceNames msg names index (m, first) = .ok (m', reply)) : Quiet m m' := by
  induction names generalizing m index first with
  | nil =>
    cases done
    exact .refl _
  | cons name rest ih =>
    obtain ⟨⟨m1, result⟩, named, others⟩ := bind_eq_ok.mp done
    exact (setInterfaceName_quiet named).trans (ih others)

theorem onSetInterfaceName_quiet (done : m.onSetInterfaceName msg = .ok (m', reply)) : Quiet m m' := by
  unfold onSetInterfaceName at done
  split at done
  · cases done
    exact .refl _
  · obtain ⟨names, -, rest⟩ := bind_eq_ok.mp done
    have inactive : Quiet m { m with isNICActive := fun _ => false } := { Quiet.refl m with }
    exact inactive.trans (setInterfaceNames_quiet rest)

theorem onAddRTPStream_quiet (done : m.onAddRTPStream msg alsa = .ok (m', reply)) : Quiet m m' := by
  unfold onAddRTPStream at done
  split at done
  · cases done
    exact .refl _
  · obtain ⟨b, -, last⟩ := bind_eq_ok.mp done
    cases last
    apply quiet_setStreams
    intro c
    exact RTPStreamsManager.addRTPStream_consistent c ..

theorem onNewMessage_performs (done : m.onNewMessage msg alsa polled = .ok (m', reply)) :
    Performs m alsa polled msg.request m' := by
  unfold onNewMessage at done
  unfold MTALSAMsg.request
  generalize MTALSAMsgId.ofValue msg.id = id at done
  rcases id with _ | id
  · cases done
    exact .refl _
  · cases id with
    | start =>
      obtain ⟨m1, lifted, last⟩ := bind_eq_ok.mp done
      cases last
      exact lift_eq_ok.mp lifted
    | stop =>
      cases done
      rfl
    | reset =>
      cases done
      apply quiet_setStreams
      intro c
      exact RTPStreamsManager.call_consistent c
        (fun renames : (StreamsCall.manage (.removeAll (m.callbacks alsa))).Renames => renames) rfl
    | setSampleRate =>
      refine performs_ifSize ?_ done
      intro m' reply handled
      obtain ⟨⟨m1, result⟩, lifted, last⟩ := bind_eq_ok.mp handled
      cases last
      exact ⟨result, lift_eq_ok.mp lifted⟩
    | setDSDAudioMode =>
      refine performs_ifSize ?_ done
      intro m' reply handled
      cases mode : dsdSamplingRate (load32 msg.byte 0) with
      | none =>
        rw [mode] at handled
        cases handled
        exact .refl _
      | some rate =>
        rw [mode] at handled
        obtain ⟨⟨m1, result⟩, lifted, last⟩ := bind_eq_ok.mp handled
        cases last
        exact ⟨result, lift_eq_ok.mp lifted⟩
    | setTICFrameSizeAt1FS => exact onSet_performs rfl done
    | setMaxTICFrameSize => exact onSet_performs rfl done
    | setNumberOfInputs => exact onSet_performs rfl done
    | setNumberOfOutputs => exact onSet_performs rfl done
    | setInterfaceName => exact onSetInterfaceName_quiet done
    | addRTPStream => exact onAddRTPStream_quiet done
    | removeRTPStream =>
      refine quiet_sized ?_ done
      intro m' reply handled
      cases handled
      apply quiet_setStreams
      intro c
      exact RTPStreamsManager.removeRTPStream_consistent c ..
    | getRTPStreamStatus =>
      refine quiet_sized ?_ done
      intro m' reply handled
      cases handled
      apply quiet_setStreams
      intro c
      exact RTPStreamsManager.getRTPStreamStatus_consistent c _
    | setPTPConfig =>
      refine quiet_sized ?_ done
      intro m' reply handled
      cases handled
      exact { Quiet.refl m with timing := fun nic => ClockPTP.setPTPConfig_timing .. }
    | getPTPStatus =>
      cases done
      exact quiet_setPTP rfl
    | setMasterOutputVolume | setMasterOutputSwitch | setPlayoutDelay | setCaptureDelay =>
      refine quiet_sized ?_ done
      intro m' reply handled
      cases handled
      exact { Quiet.refl m with }
    | startIo | stopIo | getSampleRate | getAudioMode | getNumberOfInputs | getNumberOfOutputs
    | updateRTPStreamName | getPTPInfo | hello | bye | ping | getMasterOutputVolume | getMasterOutputSwitch
    | getPTPConfig =>
      cases done
      exact .refl _

structure Ok (m : Manager) : Prop where
  streams : m.streams.Consistent
  ioRunning : m.ioRunning = (m.isPlaybackIO || m.isRecordingIO)

theorem Quiet.ok (quiet : Quiet m m') (ok : m.Ok) : m'.Ok where
  streams := quiet.streams ok.streams
  ioRunning := by rw [quiet.ioRunning, quiet.isPlaybackIO, quiet.isRecordingIO, ok.ioRunning]

theorem ClocksStarted.ok {n : Nat} (started : ClocksStarted m n m') (ok : m.Ok) : m'.Ok := by
  rw [started.only]
  exact ⟨ok.streams, ok.ioRunning⟩

theorem start_ok (ok : m.Ok) (done : m.start = .ok m') : m'.Ok := by
  obtain ⟨m1, started, rfl⟩ := start_started done
  exact ⟨(started.ok ok).streams, (started.ok ok).ioRunning⟩

theorem stopIo_ok (ok : m.Ok) (alsa : AlsaBuffers) (isPlayback : Bool) : (m.stopIo alsa isPlayback).Ok := by
  refine ⟨stopIo_streams m alsa isPlayback ok.streams, ?_⟩
  unfold stopIo
  split
  · split
    · rfl
    · exact ok.ioRunning
  · split
    · exact (Bool.or_false _).symm
    · exact ok.ioRunning

theorem stop_ok (ok : m.Ok) (alsa : AlsaBuffers) : (m.stop alsa).Ok := by
  have running : (m.stopRunningIO alsa).Ok := by
    unfold stopRunningIO
    split
    · exact stopIo_ok (stopIo_ok ok alsa false) alsa true
    · exact ok
  exact ⟨running.streams, running.ioRunning⟩

theorem Change.apply_ok (c : Change) (ok : m.Ok) : (c.apply m).Ok := by
  cases c
  all_goals exact ⟨ok.streams, ok.ioRunning⟩

theorem Change.apply_config (c : Change) (same : m.config = m'.config) :
    (c.apply m).config = (c.apply m').config := by
  simp only [config, Config.mk.injEq] at same
  obtain ⟨active, rate, tic, frame, maxFrame, inputs, outputs⟩ := same
  cases c
  all_goals simp only [Change.apply, updateFrameSize, config, active, rate, tic, frame, maxFrame, inputs, outputs]

theorem restarting_config {c : Change} (done : m.restarting alsa c.apply = .ok m') :
    m'.config = (c.apply m).config := by
  unfold restarting at done
  split at done
  · exact (start_config done).trans (Change.apply_config c (stop_config m alsa))
  · cases done
    rfl

theorem restarting_ok {c : Change} (ok : m.Ok) (done : m.restarting alsa c.apply = .ok m') : m'.Ok := by
  unfold restarting at done
  split at done
  · exact start_ok (Change.apply_ok c (stop_ok ok alsa)) done
  · cases done
    exact Change.apply_ok c ok

theorem setSamplingRate_cases {samplingRate : UInt32} {result : Bool}
    (done : m.setSamplingRate samplingRate polled = .ok (m', result)) :
    m' = m ∧ (result = true ∧ m.sampleRate = samplingRate ∨
      result = false ∧ m.sampleRate ≠ samplingRate ∧ m.ioRunning = true) ∨
    m.sampleRate ≠ samplingRate ∧ m.ioRunning = false ∧
      (m.isStarted = true ∧ ClocksStarted (m.withRate samplingRate) maxNics m' ∧
          result = waitForLock polled lockPolls ∨
        m.isStarted = false ∧ m' = m.withRate samplingRate ∧ result = true) := by
  unfold setSamplingRate at done
  split at done
  · rename_i same
    cases done
    exact .inl ⟨rfl, .inl ⟨rfl, same⟩⟩
  · rename_i differs
    split at done
    · rename_i running
      cases done
      exact .inl ⟨rfl, .inr ⟨rfl, differs, running⟩⟩
    · rename_i idle
      refine .inr ⟨differs, Bool.eq_false_of_not_eq_true idle, ?_⟩
      split at done
      · rename_i isStarted
        obtain ⟨m1, started, last⟩ := map_eq_ok.mp done
        cases last
        exact .inl ⟨isStarted, startClocks_started started, rfl⟩
      · rename_i stopped
        cases done
        exact .inr ⟨Bool.eq_false_of_not_eq_true stopped, rfl, rfl⟩

theorem setSamplingRate_ok {samplingRate : UInt32} {result : Bool} (ok : m.Ok)
    (done : m.setSamplingRate samplingRate polled = .ok (m', result)) : m'.Ok := by
  have changed : (m.withRate samplingRate).Ok := ⟨ok.streams, ok.ioRunning⟩
  rcases setSamplingRate_cases done with ⟨rfl, -⟩ | ⟨-, -, ⟨-, started, -⟩ | ⟨-, rfl, -⟩⟩
  · exact ok
  · exact started.ok changed
  · exact changed

theorem setSamplingRate_config {samplingRate : UInt32} {result : Bool}
    (done : m.setSamplingRate samplingRate polled = .ok (m', result)) :
    m'.config = m.config ∨ m'.config = (m.withRate samplingRate).config := by
  rcases setSamplingRate_cases done with ⟨rfl, -⟩ | ⟨-, -, ⟨-, started, -⟩ | ⟨-, rfl, -⟩⟩
  · exact .inl rfl
  · exact .inr started.config
  · exact .inr rfl

theorem performs_ok {request : Option Request} (ok : m.Ok) (performs : Performs m alsa polled request m') :
    m'.Ok := by
  rcases request with _ | request
  · exact performs.ok ok
  · cases request with
    | start => exact start_ok ok performs
    | stop =>
      rw [show m' = m.stop alsa from performs]
      exact stop_ok ok alsa
    | rate samplingRate =>
      obtain ⟨result, done⟩ := performs
      exact setSamplingRate_ok ok done
    | change c => exact restarting_ok ok performs

theorem startIo_ok (ok : m.Ok) (alsa : AlsaBuffers) (isPlayback : Bool) : (m.startIo alsa isPlayback).1.Ok := by
  unfold startIo
  split
  · exact ok
  · split
    · exact ⟨ok.streams, rfl⟩
    · exact ⟨ok.streams.withLivesIn _, (Bool.or_true _).symm⟩

theorem tick_cases {now : Tick} (done : ManagerOp.step m (.tick now) = .ok m') :
    m.isStarted = false ∧ m' = m ∨ m.isStarted = true ∧ ∃ next, m.tClockTimer now = .ok (m', next) := by
  change (if m.isStarted then (·.1) <$> lift (m.tClockTimer now) else .ok m) = Except.ok m' at done
  split at done
  · rename_i isStarted
    obtain ⟨⟨m1, next⟩, ticked, last⟩ := map_eq_ok.mp done
    cases last
    exact .inr ⟨isStarted, next, lift_eq_ok.mp ticked⟩
  · rename_i stopped
    cases done
    exact .inl ⟨Bool.eq_false_of_not_eq_true stopped, rfl⟩

theorem step_ok {op : ManagerOp} (ok : m.Ok) (done : op.step m = .ok m') : m'.Ok := by
  cases op with
  | message msg alsa polled =>
    obtain ⟨⟨m1, reply⟩, handled, last⟩ := map_eq_ok.mp done
    cases last
    exact performs_ok ok (onNewMessage_performs handled)
  | packet alsa bytes ifname macHeader clockTime counterTime =>
    exact (etherTubeRxPacket_quiet (lift_eq_ok.mp done)).ok ok
  | tick now =>
    rcases tick_cases done with ⟨-, rfl⟩ | ⟨-, next, ticked⟩
    · exact ok
    · exact (tClockTimer_quiet ticked).ok ok
  | startIo alsa isPlayback =>
    cases done
    exact startIo_ok ok alsa isPlayback
  | stopIo alsa isPlayback =>
    cases done
    exact stopIo_ok ok alsa isPlayback

theorem init_ok (macAddress : Nat → MACAddress) (livesIn : RingMemory) (streamAt : UInt64 → StreamHandle) :
    (init macAddress livesIn streamAt).Ok :=
  ⟨RTPStreamsManager.init_consistent macAddress livesIn, rfl⟩

theorem run_ok {macAddress : Nat → MACAddress} {livesIn : RingMemory} {streamAt : UInt64 → StreamHandle}
    {allowed : Manager → ManagerOp → Prop} {ops : List ManagerOp}
    (run : Run ManagerOp.step allowed (init macAddress livesIn streamAt) ops m) : m.Ok :=
  run.invariant Ok (init_ok macAddress livesIn streamAt) fun _ _ _ ok _ next => step_ok ok next

/-- The manager of a module that was just loaded. -/
def loaded : Manager := init (fun _ => {}) (fun _ => {}) fun _ => .source 0

end Manager

end RavennaLkm
