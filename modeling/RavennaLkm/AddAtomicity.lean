import RavennaLkm.ManagerInvariant

/-!
What a rejected `add_RTP_stream_` leaves behind. The slot is acquired before
`Create` and the list-full test, and no later exit gives it back.
-/
namespace RavennaLkm
open CheckedLoop GuardedRun

namespace RTPStreamsManager

variable {m : RTPStreamsManager} {h : StreamHandle}

structure Untouched (m m' : RTPStreamsManager) : Prop where
  free : ∀ h, (m'.handlers h).isFree = (m.handlers h).isFree
  sourceOrdered : m'.sourceOrdered = m.sourceOrdered
  sinkOrdered : m'.sinkOrdered = m.sinkOrdered
  attached : ∀ h, m'.attached h = m.attached h

def FailureAtomic (m : RTPStreamsManager) (info : RTPStreamInfo) (ops : RTPAudioStreamOps) : Prop :=
  (m.addRTPStream info ops).2 = none → Untouched m (m.addRTPStream info ops).1

/-- The acquired slot is free no more, whatever happened to the stream. -/
theorem createIn_notFree (m : RTPStreamsManager) (info : RTPStreamInfo) (ops : RTPAudioStreamOps)
    (h : StreamHandle) : ((m.createIn info ops h).1.handlers h).isFree = false := by
  rw [createIn_handlers, if_pos rfl]
  rfl

theorem attachedStream_notFree (m : RTPStreamsManager) (info : RTPStreamInfo) (ops : RTPAudioStreamOps)
    (h : StreamHandle) : (((m.createIn info ops h).1.attachedStream h).handlers h).isFree = false := by
  obtain ⟨active, readers⟩ := ((m.createIn info ops h).1.attachedStream_lists h).2.2 h
  rw [RTPAudioStreamHandler.isFree, active, readers, createIn_handlers, if_pos rfl]
  rfl

theorem usableHandler_isFree {info : RTPStreamInfo} (usable : m.usableHandler info = some h) :
    (m.handlers h).isFree = true := by
  obtain ⟨-, inactive, noReader, -⟩ := usableHandler_free usable
  simp [RTPAudioStreamHandler.isFree, inactive, noReader]

/-- A rejected add is without effect unless it had got as far as a slot. -/
theorem add_failure_atomic_iff (reached : m.Reachable) (info : RTPStreamInfo)
    (ops : RTPAudioStreamOps) :
    FailureAtomic m info ops ↔
      ¬ (addable info = true ∧ (m.usableHandler info).isSome = true ∧
        (¬ CreateAccepts ops info ∨ m.listFull info = true)) := by
  have c := reached.consistent
  unfold FailureAtomic
  rcases m.addRTPStream_cases info ops with ⟨same, early⟩ | ⟨h, ok, usable, ends⟩
  · rw [same]
    refine iff_of_true (fun _ => ⟨fun _ => rfl, rfl, rfl, fun _ => rfl⟩) ?_
    rintro ⟨ok, usable, -⟩
    rcases early with bad | none
    · rw [bad] at ok
      cases ok
    · rw [none] at usable
      cases usable
  have accepts := createIn_accepts c ops usable
  have full := listFull_createIn m info ops h
  have free := usableHandler_isFree usable
  rcases ends with ⟨rejected, same⟩ | ⟨created, ⟨isFull, same⟩ | ⟨notFull, same⟩⟩
  · rw [same]
    apply iff_of_false
    · intro atomic
      have kept := (atomic rfl).free h
      rw [createIn_notFree, free] at kept
      cases kept
    · refine not_not_intro ⟨ok, by rw [usable]; rfl, .inl ?_⟩
      rw [← accepts, rejected]
      decide
  · rw [same]
    apply iff_of_false
    · intro atomic
      have kept := (atomic rfl).free h
      rw [attachedStream_notFree, free] at kept
      cases kept
    · exact not_not_intro ⟨ok, by rw [usable]; rfl, .inr (full ▸ isFull)⟩
  · rw [same]
    refine iff_of_true (fun failed => by cases failed) ?_
    rintro ⟨-, -, bad⟩
    rcases bad with notAccepted | isFull
    · exact notAccepted (accepts.mp created)
    · rw [← full, notFull] at isFull
      cases isFull

def l32Sink : RTPStreamInfo where
  sizeofStreamInfo := sizeofRTPStreamInfo
  cName := [83]
  rtcpSrcIP := 0xC0A80001
  destIP := 0xEF010001
  destPort := 5004
  samplingRate := 48000
  codec := .l32
  wordLength := 4
  nbOfChannels := 1

def freshManager : RTPStreamsManager := init (fun _ => {}) fun _ => {}

theorem freshManager_reachable : freshManager.Reachable := ⟨_, _, [], .nil _⟩

def oneRingOps : RTPAudioStreamOps where
  liveInJitterBuffer := fun ch => if ch = 0 then some 0 else none
  liveInJitterBufferLength := ringBufferSize

theorem add_failure_atomic_iff_fresh :
    FailureAtomic freshManager l32Sink oneRingOps ↔
      ¬ (addable l32Sink = true ∧ (freshManager.usableHandler l32Sink).isSome = true ∧
        (¬ CreateAccepts oneRingOps l32Sink ∨ freshManager.listFull l32Sink = true)) :=
  add_failure_atomic_iff freshManager_reachable l32Sink oneRingOps

theorem rejected_l32_keeps_slot :
    (freshManager.addRTPStream l32Sink oneRingOps).2 = none ∧
      ((freshManager.addRTPStream l32Sink oneRingOps).1.handlers (.sink 0)).isFree = false ∧
      ¬ FailureAtomic freshManager l32Sink oneRingOps := by
  have failed : (freshManager.addRTPStream l32Sink oneRingOps).2 = none := rfl
  have acquired :
      ((freshManager.addRTPStream l32Sink oneRingOps).1.handlers (.sink 0)).isFree = false := rfl
  refine ⟨failed, acquired, fun atomic => ?_⟩
  have kept := (atomic failed).free (.sink 0)
  rw [acquired] at kept
  cases kept

end RTPStreamsManager

end RavennaLkm
