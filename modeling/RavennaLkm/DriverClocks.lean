import RavennaLkm.DriverSafety
import RavennaLkm.ManagerClocks
import RavennaLkm.PeriodBound

/-!
The clocks in the driver. The clock of a NIC goes through a run of its own, so that it
keeps its pace whatever ALSA, the other NIC and the streams do.
-/
namespace RavennaLkm
open CheckedLoop GuardedRun

namespace ClockPTP

variable {c c' : ClockPTP} {call : ClockCall}

def IdleUnlocked (c : ClockPTP) : Prop := c.audioFrameTICTimerStarted = false → c.ptpLockCounter ≠ 0

theorem IdleUnlocked.started (idle : c.IdleUnlocked) (locked : c.getLockStatus = .locked) :
    c.audioFrameTICTimerStarted = true := by
  by_contra stopped
  have counting := idle (Bool.eq_false_of_not_eq_true stopped)
  simp [getLockStatus, counting] at locked

theorem IdleUnlocked.step (idle : c.IdleUnlocked) (done : ClockCall.step c call = .ok c') : c'.IdleUnlocked := by
  cases call with
  | getPTPStatus =>
    cases done
    exact idle
  | event event =>
    cases event with
    | packet bytes clockTime =>
      obtain ⟨⟨clock, result⟩, processed, last⟩ := map_eq_ok.mp done
      cases last
      have started := congrArg Timing.started (processPTPPacket_timing processed)
      rcases processPTPPacket_cases processed with ⟨-, rfl⟩ | ⟨listens, -⟩
      · exact idle
      · intro stopped
        have running := (Bool.and_eq_true _ _).mp listens
        exact absurd (started.symm.trans stopped) (by simp [timing, running.2])
    | tick clockTime endTime counterTime =>
      obtain ⟨⟨clock, next⟩, processed, last⟩ := map_eq_ok.mp done
      cases last
      rcases timerProcess_cases processed with ⟨-, rfl⟩ | ⟨started, -⟩
      · exact idle
      · have same := congrArg Timing.started (timerProcess_timing processed)
        intro stopped
        exact absurd (same.symm.trans stopped) (by simp [timing, started])
    | setNextAbsoluteTime next =>
      cases done
      exact idle
    | start frameSize samplingRate =>
      obtain ⟨period, -, last⟩ := bind_eq_ok.mp done
      cases last
      intro stopped
      cases stopped
    | stop =>
      cases done
      intro _
      change ptpLockHysteresis ≠ 0
      decide
    | config wanted =>
      cases done
      rw [setPTPConfig]
      split
      · exact idle
      · exact idle

end ClockPTP

namespace Driver

variable {d d' : Driver} {op : DriverOp} {nic : Nat} {c : ClockPTP} {call : ClockCall}

/-- A step of the driver calls the clock of a NIC. -/
def Causes (d : Driver) (nic : Nat) (op : DriverOp) (c : ClockPTP) (call : ClockCall) : Prop :=
  ∃ made ∈ d.managerCalls op, made.Asks d.manager nic c call

theorem step_clock (done : d.step op = .ok d') (nic : Nat) :
    Leads ClockCall.step (d.Causes nic op) (d.manager.ptp nic) (d'.manager.ptp nic) := by
  let made (m : Manager) (call : ManagerOp) : Prop := m = d.manager ∧ call ∈ d.managerCalls op
  have run : Run ManagerOp.step made d.manager (d.managerCalls op) d'.manager :=
    step_calls done fun call member => ⟨rfl, member⟩
  have clock : Simulates ManagerOp.step made (fun m => m.ptp nic) ClockCall.step fun m call => call.Asks m nic :=
    fun _ _ _ _ next => Manager.step_clock next nic
  apply (clock.run run).mono
  intro c call ⟨_, asked, _, m, _, _, ⟨here, member⟩, asks⟩
  subst here
  exact ⟨asked, member, asks⟩

/-- The Syncs of a NIC's master agree with the clock when it is about to lock, and what starts the clock has a
rate and a frame of samples that is shorter than the clock can count. -/
def InTime (d : Driver) : DriverOp → Prop
  | .message msg _ => ∀ request ∈ msg.request, ∀ config ∈ d.manager.startsWith request, ∀ nic < maxNics,
    config.isNICActive nic = true →
      config.sampleRate ≠ 0 ∧ config.frameSize ≠ 0 ∧ config.frameSize.toNat < 2 ^ 23
  | .packet bytes ifname _ clockTime _ => ∀ nic < maxNics,
    (d.manager.ethernetFilter nic).rxPacket bytes ifname = true → (d.manager.ptp nic).Steady (.packet bytes clockTime)
  | _ => True

theorem start_steady {msg : MTALSAMsg} {polled : Nat → Nat → PTPLockStatus} {request : Request}
    {config : Manager.Config} (inTime : d.InTime (.message msg polled)) (below : nic < maxNics)
    (asked : msg.request = some request) (starts : d.manager.startsWith request = some config)
    (active : config.isNICActive nic = true) (c : ClockPTP) :
    c.Steady (.start config.frameSize (ravennaRate config.sampleRate)) := by
  obtain ⟨rate, frame, short⟩ := inTime request asked config starts nic below active
  have someRate : ravennaRate config.sampleRate ≠ 0 := fun none => rate (ravennaRate_eq_zero.mp none)
  refine ⟨UInt32.pos_iff_ne_zero.mpr frame, UInt32.pos_iff_ne_zero.mpr someRate, ?_⟩
  omega

theorem Causes.steady {event : ClockEvent} (caused : d.Causes nic op c (.event event)) (below : nic < maxNics)
    (inTime : d.InTime op) : c.Steady event := by
  obtain ⟨made, member, asked⟩ := caused
  cases op with
  | message msg polled =>
    cases List.mem_singleton.mp member
    cases asked with
    | start c asked starts active => exact start_steady inTime below asked starts active c
    | stop c asked => trivial
    | config c wanted isId => trivial
  | packet bytes ifname macHeader clockTime counterTime =>
    cases List.mem_singleton.mp member
    cases asked with
    | packet below accepted active isUDP => exact inTime nic below accepted
  | tick now dma =>
    cases List.mem_singleton.mp member
    cases asked with
    | tick c started => trivial
    | wakeUp c next started other => trivial
  | pcmOpen | pcmHwParams | pcmHwParamsDone | pcmHwFree | pcmPrepare | pcmPrepareDone | pcmTrigger | drop | pcmClose =>
    obtain ⟨alsa, isPlayback, rfl | rfl⟩ := alsaCalls_io rfl made member
    · cases asked
    · cases asked

theorem periodKept_call (kept : c.PeriodKept) (steady : ∀ event, call = .event event → c.Steady event)
    {c' : ClockPTP} (done : ClockCall.step c call = .ok c') : c'.PeriodKept := by
  cases call with
  | event event => exact kept.step (steady event rfl) done
  | getPTPStatus =>
    cases done
    exact kept.congr rfl rfl (.inl rfl)

theorem clock_simulates (allowed : Driver → DriverOp → Prop) (nic : Nat) :
    Simulates step allowed (fun d => d.manager.ptp nic) ClockCall.step fun d op => d.Causes nic op :=
  fun _ _ _ _ next => step_clock next nic

/-- The clock of a NIC goes through a run of its own, whose calls are caused by steps of the driver for that
NIC; so it is only locked while it runs, and in time its period stays near the base. -/
theorem clocks_paced {macAddress : Nat → MACAddress} {livesIn : RingMemory} {streamAt : UInt64 → StreamHandle}
    {ops : List DriverOp} (below : nic < maxNics)
    (run : Run step (fun _ _ => True) (loaded macAddress livesIn streamAt) ops d) :
    Leads ClockCall.step
        (CausedIn step (fun _ _ => True) (fun d op => d.Causes nic op) (loaded macAddress livesIn streamAt) ops)
        ClockPTP.initPTP (d.manager.ptp nic) ∧
      ((d.manager.ptp nic).getLockStatus = .locked → (d.manager.ptp nic).audioFrameTICTimerStarted = true) ∧
      (Run step InTime (loaded macAddress livesIn streamAt) ops d →
        (d.manager.ptp nic).PeriodNear ∧ (d.manager.ptp nic).IGRBounded) := by
  have leads : Leads ClockCall.step _ ClockPTP.initPTP (d.manager.ptp nic) := (clock_simulates _ nic).run run
  refine ⟨leads, ?_, ?_⟩
  · have idle : (d.manager.ptp nic).IdleUnlocked := by
      apply leads.invariant ClockPTP.IdleUnlocked
      · intro _
        decide
      · intro c call c' idle _ next
        exact idle.step next
    exact idle.started
  · intro timely
    have paced : Leads ClockCall.step _ ClockPTP.initPTP (d.manager.ptp nic) := (clock_simulates _ nic).run timely
    have kept : (d.manager.ptp nic).PeriodKept := by
      apply paced.invariant ClockPTP.PeriodKept (.of_base (by decide) (by decide) rfl rfl)
      intro c call c' kept ⟨_, op, _, before, _, _, inTime, caused⟩ next
      apply periodKept_call kept _ next
      intro event isEvent
      subst isEvent
      exact caused.steady below inTime
    exact ⟨kept.near, kept.igrBounded⟩

/-- A clock that runs. -/
theorem clocks_paced_started : ∃ ops d, Run step InTime justLoaded ops d ∧
    (d.manager.ptp 0).audioFrameTICTimerStarted = true ∧ (d.manager.ptp 0).PeriodNear := by
  have inTime : justLoaded.InTime startAll := by
    intro request asked config starts nic _ _
    cases asked
    cases starts
    decide
  have started : Run step InTime justLoaded [startAll] _ := .one inTime rfl
  have anyway := started.mono fun _ _ _ => trivial
  exact ⟨_, _, started, rfl, ((clocks_paced (by decide) anyway).2.2 started).1⟩

end Driver

end RavennaLkm
