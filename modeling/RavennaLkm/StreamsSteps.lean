import RavennaLkm.ChannelIsolation
import RavennaLkm.ZeroDivisors

/-!
How the streams after a step of the manager come from the streams before it:
they are the same but for traffic and for silence, or one was added, or one
was removed, or all were.
-/
namespace RavennaLkm
open CheckedLoop GuardedRun

namespace Manager
open RTPStreamsManager

variable {m m' m'' : Manager} {msg : MTALSAMsg} {reply : MTALSAReply} {alsa : AlsaBuffers}
  {polled : Nat → Nat → PTPLockStatus}

def SameStreams (m m' : Manager) : Prop := ∃ livesIn, m'.streams = { m.streams with livesIn := livesIn }

theorem SameStreams.of_eq (same : m'.streams = m.streams) : SameStreams m m' := ⟨m.streams.livesIn, same⟩

theorem SameStreams.trans (first : SameStreams m m') (later : SameStreams m' m'') : SameStreams m m'' := by
  obtain ⟨_, isFirst⟩ := first
  obtain ⟨livesIn, isLater⟩ := later
  rw [isFirst] at isLater
  exact ⟨livesIn, isLater⟩

theorem SameStreams.same (same : SameStreams m m') : m.streams.SameManager m'.streams := by
  obtain ⟨livesIn, isSame⟩ := same
  rw [isSame]
  constructor
  case stream => exact fun h => .refl _
  all_goals intros
  all_goals rfl

theorem startIo_sameStreams (m : Manager) (alsa : AlsaBuffers) (isPlayback : Bool) :
    SameStreams m (m.startIo alsa isPlayback).1 := by
  unfold startIo
  split
  · exact .of_eq rfl
  · split
    · exact .of_eq rfl
    · exact ⟨_, rfl⟩

theorem stopIo_sameStreams (m : Manager) (alsa : AlsaBuffers) (isPlayback : Bool) :
    SameStreams m (m.stopIo alsa isPlayback) := by
  unfold stopIo
  split
  · split
    · exact .of_eq rfl
    · exact .of_eq rfl
  · split
    · exact ⟨_, rfl⟩
    · exact .of_eq rfl

theorem start_sameStreams (done : m.start = .ok m') : SameStreams m m' := by
  obtain ⟨m1, started, rfl⟩ := start_started done
  rw [started.only]
  exact .of_eq rfl

theorem stop_sameStreams (m : Manager) (alsa : AlsaBuffers) : SameStreams m (m.stop alsa) := by
  have running : SameStreams m (m.stopRunningIO alsa) := by
    unfold stopRunningIO
    split
    · exact (stopIo_sameStreams m alsa false).trans (stopIo_sameStreams _ alsa true)
    · exact .of_eq rfl
  exact running.trans (.of_eq rfl)

theorem restarting_sameStreams {c : Change} (done : m.restarting alsa c.apply = .ok m') : SameStreams m m' := by
  have change (before : Manager) : SameStreams before (c.apply before) := by
    cases c
    all_goals exact .of_eq rfl
  unfold restarting at done
  split at done
  · exact ((stop_sameStreams m alsa).trans (change _)).trans (start_sameStreams done)
  · cases done
    exact change m

theorem setSamplingRate_sameStreams {samplingRate : UInt32} {result : Bool}
    (done : m.setSamplingRate samplingRate polled = .ok (m', result)) : SameStreams m m' := by
  rcases setSamplingRate_cases done with ⟨rfl, -⟩ | ⟨-, -, ⟨-, started, -⟩ | ⟨-, rfl, -⟩⟩
  · exact .of_eq rfl
  · rw [started.only]
    exact .of_eq rfl
  · exact .of_eq rfl

theorem sized_sameStreams {size : Nat} {handle : (Nat → UInt8) → Except ManagerFault (Manager × MTALSAReply)}
    (same : ∀ m' reply, handle msg.byte = .ok (m', reply) → SameStreams m m')
    (done : m.sized msg size handle = .ok (m', reply)) : SameStreams m m' := by
  rcases sized_eq_ok.mp done with ⟨-, rfl, -⟩ | ⟨-, -, handled⟩
  · exact .of_eq rfl
  · exact same m' reply handled

theorem onSet_sameStreams {size : Nat} {set : (Nat → UInt8) → Except Fault Manager} {c : Change}
    (sets : set msg.byte = m.restarting alsa c.apply) (done : m.onSet msg size set = .ok (m', reply)) :
    SameStreams m m' := by
  apply sized_sameStreams _ done
  intro m' reply handled
  obtain ⟨m1, lifted, last⟩ := bind_eq_ok.mp handled
  cases last
  exact restarting_sameStreams (sets.symm.trans (lift_eq_ok.mp lifted))

end Manager

theorem RTPStreamsManager.getRTPStreamStatus_sameManager (m : RTPStreamsManager) (h : StreamHandle) :
    m.SameManager (m.getRTPStreamStatus h).1 := by
  have asSink (between : RTPStreamsManager) : between.SameManager (between.sinkStatus h).1 :=
    (statusIn_same between h _).trans (statusIn_same _ h _)
  have asSource := statusIn_same m h m.sourceOrdered
  unfold getRTPStreamStatus
  dsimp only
  split
  · exact asSource
  · exact asSource.trans (asSink _)

inductive ManagerOp.StreamsAfter (m : Manager) (op : ManagerOp) : RTPStreamsManager → Prop
  | traffic {streams} (same : m.streams.SameManager streams) : StreamsAfter m op streams
  | added (msg alsa polled) (isMessage : op = .message msg alsa polled)
      (isAdd : MTALSAMsgId.ofValue msg.id = some .addRTPStream) :
      StreamsAfter m op (m.streams.addRTPStream (.ofBytes msg.byte) (m.callbacks alsa)).1
  | removed (ops h) : StreamsAfter m op (m.streams.removeRTPStream ops h).1
  | reset (ops) : StreamsAfter m op (m.streams.removeAllRTPStreams ops)

namespace Manager
open RTPStreamsManager

variable {m m' : Manager} {msg : MTALSAMsg} {reply : MTALSAReply} {alsa : AlsaBuffers}
  {polled : Nat → Nat → PTPLockStatus}

theorem SameStreams.after {op : ManagerOp} (same : SameStreams m m') : op.StreamsAfter m m'.streams :=
  .traffic same.same

theorem onNewMessage_streams (done : m.onNewMessage msg alsa polled = .ok (m', reply)) :
    (ManagerOp.message msg alsa polled).StreamsAfter m m'.streams := by
  have kept {op : ManagerOp} : op.StreamsAfter m m.streams := .traffic (.refl m.streams)
  unfold onNewMessage at done
  generalize isId : MTALSAMsgId.ofValue msg.id = id at done
  rcases id with _ | id
  · cases done
    exact kept
  · cases id with
    | start =>
      obtain ⟨m1, lifted, last⟩ := bind_eq_ok.mp done
      cases last
      exact (start_sameStreams (lift_eq_ok.mp lifted)).after
    | stop =>
      cases done
      exact (stop_sameStreams m alsa).after
    | reset =>
      have same : m' = m.setStreams (m.streams.removeAllRTPStreams (m.callbacks alsa)) :=
        (congrArg Prod.fst (Except.ok.inj done)).symm
      have stored (streams) : (m.setStreams streams).streams = streams := rfl
      rw [same, stored]
      exact .reset _
    | setSampleRate =>
      apply SameStreams.after
      apply sized_sameStreams _ done
      intro m' reply handled
      obtain ⟨⟨m1, result⟩, lifted, last⟩ := bind_eq_ok.mp handled
      cases last
      exact setSamplingRate_sameStreams (lift_eq_ok.mp lifted)
    | setDSDAudioMode =>
      apply SameStreams.after
      apply sized_sameStreams _ done
      intro m' reply handled
      split at handled
      · cases handled
        exact .of_eq rfl
      · obtain ⟨⟨m1, result⟩, lifted, last⟩ := bind_eq_ok.mp handled
        cases last
        exact setSamplingRate_sameStreams (lift_eq_ok.mp lifted)
    | setTICFrameSizeAt1FS => exact (onSet_sameStreams (c := .ticFrameSizeAt1FS _) rfl done).after
    | setMaxTICFrameSize => exact (onSet_sameStreams (c := .maxTICFrameSize _) rfl done).after
    | setNumberOfInputs => exact (onSet_sameStreams (c := .numberOfInputs _) rfl done).after
    | setNumberOfOutputs => exact (onSet_sameStreams (c := .numberOfOutputs _) rfl done).after
    | setInterfaceName =>
      apply SameStreams.after
      simp only [onSetInterfaceName] at done
      split at done
      · cases done
        exact .of_eq rfl
      · obtain ⟨names, -, rest⟩ := bind_eq_ok.mp done
        have inactive : SameStreams m { m with isNICActive := fun _ => false } := .of_eq rfl
        exact inactive.trans (.of_eq (setInterfaceNames_streams rest))
    | addRTPStream =>
      simp only [onAddRTPStream] at done
      split at done
      · cases done
        exact kept
      · obtain ⟨b, read, last⟩ := bind_eq_ok.mp done
        cases last
        unfold MTALSAMsg.load at read
        split at read
        · cases read
          exact .added msg alsa polled rfl isId
        · cases read
    | removeRTPStream =>
      rcases sized_eq_ok.mp done with ⟨-, rfl, -⟩ | ⟨-, -, handled⟩
      · exact kept
      · cases handled
        exact .removed _ _
    | getRTPStreamStatus =>
      rcases sized_eq_ok.mp done with ⟨-, rfl, -⟩ | ⟨-, -, handled⟩
      · exact kept
      · cases handled
        exact .traffic (getRTPStreamStatus_sameManager _ _)
    | setPTPConfig | setMasterOutputVolume | setMasterOutputSwitch | setPlayoutDelay | setCaptureDelay =>
      apply SameStreams.after
      apply sized_sameStreams _ done
      intro m' reply handled
      cases handled
      exact .of_eq rfl
    | getPTPStatus =>
      cases done
      exact (SameStreams.of_eq rfl).after
    | startIo | stopIo | getSampleRate | getAudioMode | getNumberOfInputs | getNumberOfOutputs
    | updateRTPStreamName | getPTPInfo | hello | bye | ping | getMasterOutputVolume | getMasterOutputSwitch
    | getPTPConfig =>
      cases done
      exact kept

theorem audioFrameTIC_same {tick : Tick} (c : m.streams.Consistent) (done : m.audioFrameTIC tick = .ok m') :
    m.streams.SameManager m'.streams := by
  obtain ⟨streams, prepared, rest⟩ := bind_eq_ok.mp done
  have first := prepareBufferLivesAll_same c prepared
  split at rest
  · obtain ⟨sent, run, last⟩ := bind_eq_ok.mp rest
    cases last
    exact first.trans (sendOutgoingPackets_same (first.consistent c) run)
  · cases rest
    exact first

theorem dispatchPacket_same {ops : RTPAudioStreamOps} {packet : List UInt8} {macHeader : Bool} {nic : Nat}
    {clockTime : UInt64} {result : DispatchResult}
    (done : m.dispatchPacket ops packet macHeader nic clockTime = .ok (m', result)) :
    m.streams.SameManager m'.streams := by
  obtain ⟨⟨m1, answer⟩, answered, rest⟩ := bind_eq_ok.mp done
  obtain ⟨⟨streams, used⟩, dispatched, last⟩ := bind_eq_ok.mp rest
  cases last
  have clock : m1.streams = m.streams := by
    unfold processPTP at answered
    split at answered
    · obtain ⟨_, -, last⟩ := bind_eq_ok.mp answered
      cases last
      rfl
    · cases answered
      rfl
  rw [clock] at dispatched
  unfold RTPStreamsManager.dispatchPacket at dispatched
  split at dispatched
  · split at dispatched
    · split at dispatched
      · obtain ⟨_, processed, last⟩ := bind_eq_ok.mp dispatched
        cases last
        exact processUDPPacket_same processed
      · cases dispatched
        exact .refl _
    · cases dispatched
      exact .refl _
  · split at dispatched
    · obtain ⟨_, -, last⟩ := map_eq_ok.mp dispatched
      cases last
      exact .refl _
    · cases dispatched
      exact .refl _

theorem offerPacket_same {packet ifname : List UInt8} {macHeader : Bool} {clockTime counterTime : UInt64} {nic : Nat}
    (done : offerPacket alsa packet ifname macHeader clockTime counterTime nic m = .ok m') :
    m.streams.SameManager m'.streams := by
  unfold offerPacket at done
  split at done
  · obtain ⟨⟨_, _⟩, dispatched, last⟩ := map_eq_ok.mp done
    cases last
    exact dispatchPacket_same dispatched
  · cases done
    exact .refl _

/-- Whatever the step, the streams come from those before it in one of the four ways. -/
theorem step_streams {op : ManagerOp} (ok : m.Ok) (done : op.step m = .ok m') : op.StreamsAfter m m'.streams := by
  cases op with
  | message msg alsa polled =>
    obtain ⟨⟨m1, reply⟩, handled, last⟩ := map_eq_ok.mp done
    cases last
    exact onNewMessage_streams handled
  | packet alsa bytes ifname macHeader clockTime counterTime =>
    apply ManagerOp.StreamsAfter.traffic
    apply forUp_kept (fun _ after => m.streams.SameManager after.streams) (.refl _) _ (lift_eq_ok.mp done)
    intro nic before after _ same step
    exact same.trans (offerPacket_same step)
  | tick now =>
    rcases tick_cases done with ⟨-, rfl⟩ | ⟨-, next, ticked⟩
    · exact .traffic (.refl _)
    · rw [tClockTimer_eq] at ticked
      obtain ⟨⟨m1, wakeUp⟩, clocks, rest⟩ := bind_eq_ok.mp ticked
      obtain ⟨framed, tic, last⟩ := bind_eq_ok.mp rest
      cases last
      have same := processClocks_streams clocks
      have consistent := ok.streams
      rw [← same] at consistent
      have framedStreams := audioFrameTIC_same consistent tic
      rw [same] at framedStreams
      exact .traffic framedStreams
  | startIo alsa isPlayback =>
    cases done
    exact (startIo_sameStreams m alsa isPlayback).after
  | stopIo alsa isPlayback =>
    cases done
    exact (stopIo_sameStreams m alsa isPlayback).after

end Manager

end RavennaLkm
