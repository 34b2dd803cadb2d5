import RavennaLkm.AlikeSinks
import RavennaLkm.StatusEvents

/-!
The two flags of a sink that lacks audio. The flag of the sink and its partner
together is right after every run. The flag of the sink alone is never raised:
the decision goes into an inner variable, and the status is made from the outer
one of the same name.
-/
namespace RavennaLkm
open CheckedLoop StickyFlag

/-- What one tick finds: whether it clears the flags first, whether the sink lacks audio, and
whether its partner, if any, does too. -/
structure TickView where
  clears : Bool
  own : Bool
  all : Bool
  deriving DecidableEq, Repr

namespace SinkOp

variable {s t u : RTPAudioStream} {partner : Option RTPStream} {ops : RTPAudioStreamOps} {frame : RTPFrame}
  {mem mem' : RingMemory} {used : Bool} {op : SinkOp} {run : List SinkOp}

def view (s : RTPAudioStream) : SinkOp → List TickView
  | tick partner ops _ => [{
      clears := s.streamStatusResetCounter ≠ s.streamStatusLastResetCounter
      own := isLivesInMustBeMuted s.toRTPStream ops
      all := livesInMuted s partner ops }]
  | packet _ _ _ _ | read => []

def views : RTPAudioStream → List SinkOp → List TickView
  | _, [] => []
  | s, op :: rest => op.view s ++ match op.step s with
    | .ok t => views t rest
    | .error _ => []

/-- The sink itself lacked audio at a tick since the flags were last cleared. -/
def LackedAudio (s : RTPAudioStream) (run : List SinkOp) : Prop :=
  Since (·.clears = true) (·.own = true) (views s run)

def AllLackedAudio (s : RTPAudioStream) (run : List SinkOp) : Prop :=
  Since (·.clears = true) (·.all = true) (views s run)

/-- What the status is to say after a run. -/
structure TellsMuted (s : RTPAudioStream) (run : List SinkOp) (status : RTPStreamStatus) : Prop where
  muted : status.sinkMuted = true ↔ LackedAudio s run
  allMuted : status.sinkAllMuted = true ↔ AllLackedAudio s run

theorem views_concat (ran : run.foldlM step s = .ok t) : views s (run ++ [op]) = views s run ++ op.view t := by
  induction run generalizing s with
  | nil =>
    cases ran
    rw [List.nil_append, views, views, List.nil_append]
    cases op.step t with
    | ok after => simp [views]
    | error fault => simp
  | cons first rest ih =>
    rw [List.foldlM_cons] at ran
    obtain ⟨u, done, others⟩ := bind_eq_ok.mp ran
    rw [List.cons_append]
    unfold views
    rw [done]
    simp [ih others]

theorem checkRTPHeader_status (s : RTPAudioStream) (h : RTPHeader) :
    (checkRTPHeader s h).1.streamStatus = s.streamStatus := by
  obtain ⟨-, did⟩ | ⟨-, -, did⟩ | ⟨-, -, -, did⟩ | ⟨-, -, -, -, _, did⟩ | ⟨-, -, -, -, did⟩ :=
    StatusEvent.checkRTPHeader_cases s h
  all_goals rw [did]

theorem updateSinkAheadTime_status {sac : UInt64} (done : updateSinkAheadTime s ops sac = .ok t) :
    t.streamStatus = s.streamStatus := by
  obtain ⟨inFrame, -, rest⟩ := bind_eq_ok.mp done
  simp only at rest
  split_ifs at rest
  all_goals
    cases rest
    rfl

theorem processRTPAudioPacket_status (done : processRTPAudioPacket s partner ops frame mem = .ok (t, mem', used)) :
    t.streamStatus = s.streamStatus := by
  have checked := checkRTPHeader_status s frame.packetBase.rtpHeader
  unfold processRTPAudioPacket at done
  simp only at done
  split at done
  · obtain ⟨skip, -, rest⟩ := bind_eq_ok.mp done
    obtain ⟨n, -, rest⟩ := bind_eq_ok.mp rest
    split at rest
    · cases rest
      exact checked
    · obtain ⟨⟨t', mem''⟩, received, last⟩ := bind_eq_ok.mp rest
      cases last
      obtain ⟨copied, -, rest⟩ := bind_eq_ok.mp received
      obtain ⟨ahead, updated, last⟩ := bind_eq_ok.mp rest
      cases last
      exact (updateSinkAheadTime_status updated).trans checked
  · cases done
    exact checked

theorem muteFrame_status (done : muteFrame s ops mem = .ok (t, mem')) :
    t.streamStatus = s.streamStatus ∧ t.streamStatusResetCounter = s.streamStatusResetCounter ∧
      t.streamStatusLastResetCounter = s.streamStatusLastResetCounter := by
  unfold muteFrame at done
  split at done
  · obtain ⟨offset, -, rest⟩ := bind_eq_ok.mp done
    split_ifs at rest
    · cases rest
      exact ⟨rfl, rfl, rfl⟩
    · cases rest
      exact ⟨rfl, rfl, rfl⟩
  · cases done
    exact ⟨rfl, rfl, rfl⟩

theorem prepareBufferLives_status (sink : s.rtpStreamInfo.source = false)
    (done : prepareBufferLives s partner ops mem = .ok (t, mem')) :
    let old := if s.streamStatusResetCounter ≠ s.streamStatusLastResetCounter then {} else s.streamStatus
    t.streamStatus.sinkMuted = old.sinkMuted ∧
      t.streamStatus.sinkAllMuted = (old.sinkAllMuted || livesInMuted s partner ops) := by
  rw [prepareBufferLives_eq, sink, if_neg Bool.false_ne_true] at done
  dsimp only
  split at done
  · obtain ⟨⟨u, mem''⟩, muted, last⟩ := bind_eq_ok.mp done
    cases last
    obtain ⟨status, resets, lastReset⟩ := muteFrame_status muted
    simp [updateStreamStatus, status, resets, lastReset]
  · cases done
    simp [updateStreamStatus]

theorem step_status (sink : s.rtpStreamInfo.source = false) (done : op.step s = .ok t)
    (down : s.streamStatus.sinkMuted = false) (tells : s.streamStatus.sinkAllMuted = true ↔ AllLackedAudio u run)
    (ran : run.foldlM step u = .ok s) :
    t.streamStatus.sinkMuted = false ∧
      (t.streamStatus.sinkAllMuted = true ↔ AllLackedAudio u (run ++ [op])) := by
  unfold AllLackedAudio at tells ⊢
  rw [views_concat ran]
  cases op with
  | packet partner ops frame mem =>
    obtain ⟨⟨t', mem', used⟩, processed, last⟩ := map_eq_ok.mp done
    cases last
    rw [processRTPAudioPacket_status processed, view, List.append_nil]
    exact ⟨down, tells⟩
  | tick partner ops mem =>
    obtain ⟨⟨t', mem'⟩, prepared, last⟩ := map_eq_ok.mp done
    cases last
    obtain ⟨muted, allMuted⟩ := prepareBufferLives_status sink prepared
    rw [view, since_concat, ← tells, muted, allMuted]
    by_cases unread : s.streamStatusResetCounter = s.streamStatusLastResetCounter
    · simp [unread, down, or_comm]
    · simp [unread]
  | read =>
    cases done
    have kept : (getRTPStreamStatus s).1.streamStatus = s.streamStatus := by
      unfold getRTPStreamStatus
      split
      all_goals rfl
    rw [kept, view, List.append_nil]
    exact ⟨down, tells⟩

open RTPStreamsManager (oneLiveInOps)

theorem run_status (sink : s.rtpStreamInfo.source = false) (clear : s.streamStatus = {})
    (ran : run.foldlM step s = .ok t) :
    t.rtpStreamInfo.source = false ∧ t.streamStatus.sinkMuted = false ∧
      (t.streamStatus.sinkAllMuted = true ↔ AllLackedAudio s run) := by
  induction run using List.reverseRecOn generalizing t with
  | nil =>
    cases ran
    simp [clear, sink, AllLackedAudio, views, not_since_nil]
  | append_singleton before op ih =>
    rw [List.foldlM_append] at ran
    obtain ⟨u, first, final⟩ := bind_eq_ok.mp ran
    obtain ⟨t', done, same⟩ := bind_eq_ok.mp final
    cases same
    obtain ⟨stillSink, down, tells⟩ := ih first
    exact ⟨step_sink stillSink done, step_status stillSink done down tells first⟩

/-- The status is right as long as the sink itself has not lacked audio since the flags were
last cleared. -/
theorem tells_muted_iff (sink : s.rtpStreamInfo.source = false) (clear : s.streamStatus = {})
    (ran : run.foldlM step s = .ok t) : TellsMuted s run t.streamStatus ↔ ¬ LackedAudio s run := by
  obtain ⟨-, down, tells⟩ := run_status sink clear ran
  constructor
  · intro right lacked
    have up := right.muted.mpr lacked
    rw [down] at up
    cases up
  · intro fed
    constructor
    · simp [down, fed]
    · exact tells

/-- A tick at which both legs of a pair lack audio, a reading, and two ticks after the first packet. -/
def fedAfterReading : List SinkOp :=
  [.tick (some {}) oneLiveInOps fun _ => {}, .read, .packet (some {}) oneLiveInOps (monoFrame 1 4800) fun _ => {},
    .tick (some {}) oneLiveInOps fun _ => {}, .tick (some {}) oneLiveInOps fun _ => {}]

theorem tells_muted_iff_fed : ∃ t, fedAfterReading.foldlM step newMonoSink = .ok t ∧
    TellsMuted newMonoSink fedAfterReading t.streamStatus := by
  have computed : (fun t => t.streamStatus.sinkAllMuted) <$> fedAfterReading.foldlM step newMonoSink = .ok false := by
    decide +kernel
  obtain ⟨t, ran, -⟩ := map_eq_ok.mp computed
  refine ⟨t, ran, (tells_muted_iff rfl rfl ran).mpr ?_⟩
  have seen : views newMonoSink fedAfterReading =
      [⟨false, true, true⟩] ++ [⟨true, false, false⟩] ++ [⟨false, false, false⟩] := by decide +kernel
  rw [LackedAudio, seen, since_concat, since_concat]
  simp

/-- The leg of a pair that receives nothing, while the other one has the audio. -/
theorem muted_leg_not_told : ¬ ∀ (s : RTPAudioStream) (run : List SinkOp) (t : RTPAudioStream),
    s.rtpStreamInfo.source = false → s.streamStatus = {} → run.foldlM step s = .ok t →
    TellsMuted s run t.streamStatus := by
  intro all
  let ops : RTPAudioStreamOps := { globalSAC := 4800, frameSize := 48, liveInJitterBufferLength := 4800 }
  let partner : RTPStream := { lastAudioSampleReceivedSAC := 4896 }
  let ticks : List SinkOp := [.tick (some partner) ops fun _ => {}]
  have fed : livesInMuted {} (some partner) ops = false := by decide
  obtain ⟨t, ran⟩ : Succeeds (ticks.foldlM step {}) := by
    change Succeeds (((·.1) <$> prepareBufferLives {} (some partner) ops fun _ => {}) >>= fun t => .ok t)
    rw [prepareBufferLives_eq, if_neg Bool.false_ne_true, fed, if_neg Bool.false_ne_true]
    exact succeeds_ok _
  have lacked : LackedAudio {} ticks := by
    refine ⟨[], { clears := false, own := true, all := false }, [], ?_, rfl, by simp⟩
    decide
  have up := (all {} ticks t rfl rfl ran).muted.mpr lacked
  rw [(run_status rfl rfl ran).2.1] at up
  cases up

end SinkOp

end RavennaLkm
