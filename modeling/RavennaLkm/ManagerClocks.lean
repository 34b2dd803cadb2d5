import RavennaLkm.ChannelIsolation
import RavennaLkm.Lib.Simulation
import RavennaLkm.ZeroDivisors

/-!
The clock of one NIC in the manager. Whatever the manager does is a run of that clock
alone: a frame is one call at most, and only when the NIC's own filter lets it through.
-/
namespace RavennaLkm
open CheckedLoop GuardedRun LittleEndian

inductive ClockCall where
  | event (event : ClockEvent)
  /-- `GetPTPStatus`, which resets the jitter. -/
  | getPTPStatus

def ClockCall.step (self : ClockPTP) : ClockCall → Except Fault ClockPTP
  | .event call => call.step self
  | .getPTPStatus => .ok { self with maxClkJitter := 0 }

/-- What an operation of the manager asks of the clock of a NIC, and in which state of the clock. -/
inductive ManagerOp.Asks (m : Manager) (nic : Nat) : ManagerOp → ClockPTP → ClockCall → Prop where
  | packet {alsa bytes ifname macHeader clockTime counterTime} (below : nic < maxNics)
      (accepted : (m.ethernetFilter nic).rxPacket bytes ifname = true) (active : m.isNICActive nic = true)
      (isUDP : isUDPFrame bytes macHeader = true) :
      Asks m nic (.packet alsa bytes ifname macHeader clockTime counterTime) (m.ptp nic)
        (.event (.packet bytes clockTime))
  | tick {now} (c : ClockPTP) (started : m.isStarted = true) :
      Asks m nic (.tick now) c (.event (.tick (now.clockTime nic) (now.endTime nic) (now.counterTime nic)))
  | wakeUp {now} (c : ClockPTP) (next : UInt64) (started : m.isStarted = true)
      (other : nic ≠ m.selectPTPNIC.activePTPNICIdx) :
      Asks m nic (.tick now) c (.event (.setNextAbsoluteTime next))
  | start {msg alsa polled request config} (c : ClockPTP) (asked : msg.request = some request)
      (starts : m.startsWith request = some config) (active : config.isNICActive nic = true) :
      Asks m nic (.message msg alsa polled) c (.event (.start config.frameSize (ravennaRate config.sampleRate)))
  | stop {msg alsa polled request} (c : ClockPTP) (asked : msg.request = some request) :
      Asks m nic (.message msg alsa polled) c (.event .stop)
  | config {msg alsa polled} (c : ClockPTP) (wanted : PTPConfig)
      (isId : MTALSAMsgId.ofValue msg.id = some .setPTPConfig) :
      Asks m nic (.message msg alsa polled) c (.event (.config wanted))
  | status {msg alsa polled} (c : ClockPTP) (isId : MTALSAMsgId.ofValue msg.id = some .getPTPStatus)
      (selected : nic = m.activePTPNICIdx) : Asks m nic (.message msg alsa polled) c .getPTPStatus

namespace Manager

variable {m m' : Manager} {msg : MTALSAMsg} {reply : MTALSAReply} {alsa : AlsaBuffers}
  {polled : Nat → Nat → PTPLockStatus} {nic : Nat} {asks : ClockPTP → ClockCall → Prop}

theorem ClocksStarted.clock {n : Nat} (started : ClocksStarted m n m')
    (starts : ∀ c, m.isNICActive nic = true → asks c (.event (.start m.frameSize (ravennaRate m.sampleRate)))) :
    Leads ClockCall.step asks (m.ptp nic) (m'.ptp nic) := by
  by_cases here : nic < n ∧ m.isNICActive nic = true
  · exact .one (starts _ here.2) (started.active nic here.1 here.2)
  · rw [started.idle nic here]
    exact .refl _

theorem start_clock (starts : ∀ c, m.isNICActive nic = true →
      asks c (.event (.start m.frameSize (ravennaRate m.sampleRate))))
    (done : m.start = .ok m') : Leads ClockCall.step asks (m.ptp nic) (m'.ptp nic) := by
  obtain ⟨m1, started, rfl⟩ := start_started done
  exact started.clock starts

theorem stopRunningIO_ptp (m : Manager) (alsa : AlsaBuffers) : (m.stopRunningIO alsa).ptp = m.ptp := by
  unfold stopRunningIO
  split
  · rw [stopIo_ptp, stopIo_ptp]
  · rfl

theorem stop_clock (m : Manager) (alsa : AlsaBuffers) (stops : ∀ c, asks c (.event .stop)) :
    Leads ClockCall.step asks (m.ptp nic) ((m.stop alsa).ptp nic) := by
  have stopped : Leads ClockCall.step asks (m.ptp nic)
      ((iterUp stopClock maxNics ((m.stopRunningIO alsa).enableEtherTubes false)).ptp nic) := by
    apply iterUp_invariant (fun _ (between : Manager) => Leads ClockCall.step asks (m.ptp nic) (between.ptp nic))
    · have same : ((m.stopRunningIO alsa).enableEtherTubes false).ptp = m.ptp := stopRunningIO_ptp m alsa
      rw [same]
      exact .refl _
    · intro n _ between sofar
      unfold stopClock
      by_cases here : nic = n
      · subst here
        rw [setPTP_self]
        exact sofar.trans (.one (stops _) rfl)
      · rw [setPTP_of_ne _ here]
        exact sofar
  exact stopped

theorem restarting_clock {c : Change} (stops : ∀ clock, asks clock (.event .stop))
    (starts : ∀ clock, ∀ config ∈ m.startsWith (.change c), config.isNICActive nic = true →
      asks clock (.event (.start config.frameSize (ravennaRate config.sampleRate))))
    (done : m.restarting alsa c.apply = .ok m') : Leads ClockCall.step asks (m.ptp nic) (m'.ptp nic) := by
  unfold restarting at done
  split at done
  · rename_i isStarted
    apply (stop_clock m alsa stops).trans
    have same : (c.apply (m.stop alsa)).ptp = (m.stop alsa).ptp := Change.apply_ptp c _
    rw [← same]
    apply start_clock _ done
    intro clock active
    have config : (c.apply (m.stop alsa)).config = (c.apply m).config := Change.apply_config c (stop_config m alsa)
    have asked := starts clock _ (if_pos isStarted)
    rw [← config] at asked
    exact asked active
  · cases done
    rw [Change.apply_ptp]
    exact .refl _

theorem setSamplingRate_clock {samplingRate : UInt32} {result : Bool}
    (starts : ∀ clock, ∀ config ∈ m.startsWith (.rate samplingRate), config.isNICActive nic = true →
      asks clock (.event (.start config.frameSize (ravennaRate config.sampleRate))))
    (done : m.setSamplingRate samplingRate polled = .ok (m', result)) :
    Leads ClockCall.step asks (m.ptp nic) (m'.ptp nic) := by
  rcases setSamplingRate_cases done with ⟨rfl, -⟩ | ⟨differs, idle, ⟨isStarted, started, -⟩ | ⟨-, rfl, -⟩⟩
  · exact .refl _
  · exact started.clock fun clock active => starts clock _ (if_pos ⟨differs, idle, isStarted⟩) active
  · exact .refl _

theorem asked_clock {request : Request} (asked : msg.request = some request)
    (performs : Performs m alsa polled (some request) m') :
    Leads ClockCall.step ((ManagerOp.message msg alsa polled).Asks m nic) (m.ptp nic) (m'.ptp nic) := by
  have stops (c : ClockPTP) : (ManagerOp.message msg alsa polled).Asks m nic c (.event .stop) := .stop c asked
  cases request with
  | start => exact start_clock (fun c active => .start c asked rfl active) performs
  | stop =>
    rw [show m' = m.stop alsa from performs]
    exact stop_clock m alsa stops
  | rate samplingRate =>
    obtain ⟨result, done⟩ := performs
    exact setSamplingRate_clock (fun c config starts active => .start c asked starts active) done
  | change change => exact restarting_clock stops (fun c config starts active => .start c asked starts active) performs

theorem setInterfaceNames_ptp {names : List (List UInt8)} {index : Nat} {first : MTALSAReply}
    (done : setInterfaceNames msg names index (m, first) = .ok (m', reply)) : m'.ptp = m.ptp := by
  induction names generalizing m index first with
  | nil =>
    cases done
    rfl
  | cons name rest ih =>
    obtain ⟨⟨m1, result⟩, named, others⟩ := bind_eq_ok.mp done
    have here : m1.ptp = m.ptp := by
      rcases setInterfaceName_cases m name index with ⟨-, did⟩ | ⟨-, -, did⟩ | ⟨-, -, did⟩ | ⟨-, did⟩
      all_goals cases did.symm.trans named
      all_goals rfl
    exact (ih others).trans here

theorem sized_ptp {size : Nat} {handle : (Nat → UInt8) → Except ManagerFault (Manager × MTALSAReply)}
    (same : ∀ m' reply, msg.dataSize.toInt = size → handle msg.byte = .ok (m', reply) → m'.ptp = m.ptp)
    (done : m.sized msg size handle = .ok (m', reply)) : m'.ptp = m.ptp := by
  rcases sized_eq_ok.mp done with ⟨-, rfl, -⟩ | ⟨fits, -, handled⟩
  · rfl
  · exact same m' reply fits handled

/-- Without a request only the configuration and the status of PTP reach the clock. -/
theorem unasked_clock (unasked : msg.request = none) (done : m.onNewMessage msg alsa polled = .ok (m', reply)) :
    Leads ClockCall.step ((ManagerOp.message msg alsa polled).Asks m nic) (m.ptp nic) (m'.ptp nic) := by
  have kept (same : m'.ptp = m.ptp) :
      Leads ClockCall.step ((ManagerOp.message msg alsa polled).Asks m nic) (m.ptp nic) (m'.ptp nic) := by
    rw [same]
    exact .refl _
  unfold onNewMessage at done
  unfold MTALSAMsg.request MTALSAMsg.ifSize at unasked
  generalize isId : MTALSAMsgId.ofValue msg.id = id at done unasked
  rcases id with _ | id
  · cases done
    exact .refl _
  · cases id with
    | start | stop => cases unasked
    | setSampleRate | setTICFrameSizeAt1FS | setMaxTICFrameSize | setNumberOfInputs | setNumberOfOutputs =>
      apply kept
      apply sized_ptp _ done
      intro m' reply fits _
      simp [fits] at unasked
    | setDSDAudioMode =>
      apply kept
      apply sized_ptp _ done
      intro m' reply fits handled
      cases mode : dsdSamplingRate (load32 msg.byte 0) with
      | none =>
        rw [mode] at handled
        cases handled
        rfl
      | some rate => simp [fits, mode] at unasked
    | setInterfaceName =>
      apply kept
      simp only [onSetInterfaceName] at done
      split at done
      · cases done
        rfl
      · obtain ⟨names, -, rest⟩ := bind_eq_ok.mp done
        have same := setInterfaceNames_ptp rest
        exact same
    | addRTPStream =>
      apply kept
      simp only [onAddRTPStream] at done
      split at done
      · cases done
        rfl
      · obtain ⟨b, -, last⟩ := bind_eq_ok.mp done
        cases last
        rfl
    | setPTPConfig =>
      rcases sized_eq_ok.mp done with ⟨-, rfl, -⟩ | ⟨-, -, handled⟩
      · exact .refl _
      · cases handled
        exact .one (.config _ _ isId) rfl
    | getPTPStatus =>
      have read : m' = m.setPTP m.activePTPNICIdx { m.ptpSelected with maxClkJitter := 0 } :=
        (congrArg Prod.fst (Except.ok.inj done)).symm
      rw [read]
      by_cases selected : nic = m.activePTPNICIdx
      · rw [← selected, setPTP_self]
        exact .one (.status _ isId selected) (by rw [selected]; rfl)
      · rw [setPTP_of_ne m selected]
        exact .refl _
    | removeRTPStream | getRTPStreamStatus | setMasterOutputVolume | setMasterOutputSwitch | setPlayoutDelay
    | setCaptureDelay =>
      apply kept
      apply sized_ptp _ done
      intro m' reply _ handled
      cases handled
      rfl
    | reset | startIo | stopIo | getSampleRate | getAudioMode | getNumberOfInputs | getNumberOfOutputs
    | updateRTPStreamName | getPTPInfo | hello | bye | ping | getMasterOutputVolume | getMasterOutputSwitch
    | getPTPConfig =>
      cases done
      exact .refl _

theorem onNewMessage_clock (done : m.onNewMessage msg alsa polled = .ok (m', reply)) (nic : Nat) :
    Leads ClockCall.step ((ManagerOp.message msg alsa polled).Asks m nic) (m.ptp nic) (m'.ptp nic) := by
  have performs := onNewMessage_performs done
  cases asked : msg.request with
  | some request =>
    rw [asked] at performs
    exact asked_clock asked performs
  | none => exact unasked_clock asked done

theorem dispatchPacket_clock {ops : RTPAudioStreamOps} {packet : List UInt8} {macHeader : Bool} {clockTime : UInt64}
    {result : DispatchResult} {at_ : Nat}
    (done : m.dispatchPacket ops packet macHeader at_ clockTime = .ok (m', result)) :
    m'.ethernetFilter = m.ethernetFilter ∧ m'.isNICActive = m.isNICActive ∧
      (∀ other ≠ at_, m'.ptp other = m.ptp other) ∧
      (m'.ptp at_ = m.ptp at_ ∨ isUDPFrame packet macHeader = true ∧ m.isNICActive at_ = true ∧
        ClockCall.step (m.ptp at_) (.event (.packet packet clockTime)) = .ok (m'.ptp at_)) := by
  obtain ⟨⟨m1, answer⟩, answered, rest⟩ := bind_eq_ok.mp done
  obtain ⟨⟨streams, verdict⟩, -, last⟩ := bind_eq_ok.mp rest
  cases last
  unfold processPTP at answered
  split at answered
  · rename_i heard
    obtain ⟨⟨clock, used⟩, processed, last⟩ := bind_eq_ok.mp answered
    cases last
    rw [Bool.and_eq_true] at heard
    refine ⟨rfl, rfl, fun other apart => setPTP_of_ne m apart clock, .inr ⟨heard.1, heard.2, ?_⟩⟩
    change (·.1) <$> (m.ptp at_).processPTPPacket packet clockTime = .ok ((m.setPTP at_ clock).ptp at_)
    rw [setPTP_self, processed, map_ok]
  · cases answered
    exact ⟨rfl, rfl, fun _ _ => rfl, .inl rfl⟩

theorem etherTubeRxPacket_clock {packet ifname : List UInt8} {macHeader : Bool} {clockTime counterTime : UInt64}
    (done : m.etherTubeRxPacket alsa packet ifname macHeader clockTime counterTime = .ok m') (nic : Nat) :
    Leads ClockCall.step ((ManagerOp.packet alsa packet ifname macHeader clockTime counterTime).Asks m nic)
      (m.ptp nic) (m'.ptp nic) := by
  let offered (n : Nat) (between : Manager) : Prop :=
    between.ethernetFilter = m.ethernetFilter ∧ between.isNICActive = m.isNICActive ∧
      (n ≤ nic → between.ptp nic = m.ptp nic) ∧
      Leads ClockCall.step ((ManagerOp.packet alsa packet ifname macHeader clockTime counterTime).Asks m nic)
        (m.ptp nic) (between.ptp nic)
  have all : offered maxNics m' := by
    apply forUp_kept offered ⟨rfl, rfl, fun _ => rfl, .refl _⟩ _ done
    intro n between after below ⟨filters, active, untouched, sofar⟩ offer
    split at offer
    · rename_i accepted
      obtain ⟨⟨m1, result⟩, dispatched, last⟩ := map_eq_ok.mp offer
      cases last
      obtain ⟨filters', active', others, here⟩ := dispatchPacket_clock dispatched
      refine ⟨filters'.trans filters, active'.trans active, ?_, ?_⟩
      · intro later
        exact (others nic (by omega)).trans (untouched (by omega))
      · by_cases same : nic = n
        · subst same
          rcases here with idle | ⟨isUDP, isActive, heard⟩
          · rw [idle]
            exact sofar
          · rw [untouched (Nat.le_refl _)] at heard
            rw [filters] at accepted
            rw [active] at isActive
            exact .one (.packet below accepted isActive isUDP) heard
        · rw [others nic same]
          exact sofar
    · cases offer
      exact ⟨filters, active, fun later => untouched (by omega), sofar⟩
  exact all.2.2.2

theorem audioFrameTIC_ptp {now : Tick} (done : m.audioFrameTIC now = .ok m') : m'.ptp = m.ptp := by
  obtain ⟨streams, -, rest⟩ := bind_eq_ok.mp done
  split at rest
  · obtain ⟨sent, -, last⟩ := bind_eq_ok.mp rest
    cases last
    rfl
  · cases rest
    rfl

theorem timerProcess_ptp {now : Tick} {at_ : Nat} {next : UInt64} (done : m.timerProcess now at_ = .ok (m', next)) :
    (∀ other ≠ at_, m'.ptp other = m.ptp other) ∧ ∃ woken,
      (m.ptp at_).timerProcess (now.clockTime at_) (now.endTime at_) (now.counterTime at_) =
        .ok (m'.ptp at_, woken) ∧ next = woken.getD (now.currentRTXClockTime at_) := by
  obtain ⟨⟨clock, woken⟩, processed, last⟩ := bind_eq_ok.mp done
  cases last
  refine ⟨fun other apart => setPTP_of_ne m apart clock, woken, ?_, rfl⟩
  rw [setPTP_self]
  exact processed

theorem setNextAbsoluteTime_clock {next : UInt64} {at_ : Nat} (m : Manager)
    (wakes : nic = at_ → ∀ c, asks c (.event (.setNextAbsoluteTime next))) :
    Leads ClockCall.step asks (m.ptp nic) ((m.setNextAbsoluteTime at_ next).ptp nic) := by
  unfold setNextAbsoluteTime
  by_cases here : nic = at_
  · subst here
    rw [setPTP_self]
    exact .one (wakes rfl _) rfl
  · rw [setPTP_of_ne m here]
    exact .refl _

theorem processClocks_clock {now : Tick} {next : UInt64} (started : m.isStarted = true)
    (done : m.processClocks now = .ok (m', next)) (nic : Nat) :
    Leads ClockCall.step ((ManagerOp.tick now).Asks m nic) (m.ptp nic) (m'.ptp nic) := by
  obtain ⟨⟨m0, next0⟩, on0, rest⟩ := bind_eq_ok.mp done
  obtain ⟨⟨m1, next1⟩, on1, last⟩ := bind_eq_ok.mp rest
  cases last
  obtain ⟨others0, woken0, clock0, -⟩ := timerProcess_ptp on0
  obtain ⟨others1, woken1, clock1, -⟩ := timerProcess_ptp on1
  have ticks (c : ClockPTP) : (ManagerOp.tick now).Asks m nic c
      (.event (.tick (now.clockTime nic) (now.endTime nic) (now.counterTime nic))) := .tick c started
  have ticked : Leads ClockCall.step ((ManagerOp.tick now).Asks m nic) (m.ptp nic) (m1.ptp nic) := by
    by_cases first : nic = 0
    · subst first
      rw [others1 0 (by decide)]
      exact .one (ticks _) (map_eq_ok.mpr ⟨_, clock0, rfl⟩)
    · by_cases second : nic = 1
      · subst second
        rw [others0 1 (by decide)] at clock1
        exact .one (ticks _) (map_eq_ok.mpr ⟨_, clock1, rfl⟩)
      · rw [others1 nic second, others0 nic first]
        exact .refl _
  apply ticked.trans
  apply setNextAbsoluteTime_clock
  intro here c
  apply ManagerOp.Asks.wakeUp c _ started
  intro selected
  split at here
  · omega
  · omega

theorem tick_clock {now : Tick} (done : ManagerOp.step m (.tick now) = .ok m') (nic : Nat) :
    Leads ClockCall.step ((ManagerOp.tick now).Asks m nic) (m.ptp nic) (m'.ptp nic) := by
  rcases tick_cases done with ⟨-, rfl⟩ | ⟨started, next, ticked⟩
  · exact .refl _
  · rw [tClockTimer_eq] at ticked
    obtain ⟨⟨clocks, next⟩, processed, rest⟩ := bind_eq_ok.mp ticked
    obtain ⟨framed, ran, last⟩ := bind_eq_ok.mp rest
    cases last
    rw [audioFrameTIC_ptp ran]
    exact processClocks_clock started processed nic

theorem startIo_ptp (m : Manager) (alsa : AlsaBuffers) (isPlayback : Bool) :
    (m.startIo alsa isPlayback).1.ptp = m.ptp := by
  unfold startIo
  split
  · rfl
  · split
    · rfl
    · rfl

/-- Seen from the clock of a NIC, a step of the manager is a run of that clock. -/
theorem step_clock {op : ManagerOp} (done : op.step m = .ok m') (nic : Nat) :
    Leads ClockCall.step (op.Asks m nic) (m.ptp nic) (m'.ptp nic) := by
  cases op with
  | message msg alsa polled =>
    obtain ⟨⟨m1, reply⟩, handled, last⟩ := map_eq_ok.mp done
    cases last
    exact onNewMessage_clock handled nic
  | packet alsa bytes ifname macHeader clockTime counterTime => exact etherTubeRxPacket_clock (lift_eq_ok.mp done) nic
  | tick now => exact tick_clock done nic
  | startIo alsa isPlayback =>
    cases done
    rw [startIo_ptp]
    exact .refl _
  | stopIo alsa isPlayback =>
    cases done
    rw [stopIo_ptp]
    exact .refl _

end Manager
end RavennaLkm
