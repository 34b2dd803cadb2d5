import RavennaLkm.ManagerSpec
import RavennaLkm.Netlink

/-!
Which messages of the daemon are read beyond their end. The code compares the
size of the data with what the handler expects, and never with the bytes that
were received.
-/
namespace RavennaLkm
open CheckedLoop LittleEndian

def MTALSAMsgId.dataSize : MTALSAMsgId → Option Nat
  | .getRTPStreamStatus | .removeRTPStream | .setTICFrameSizeAt1FS | .setMaxTICFrameSize => some 8
  | .setSampleRate | .setDSDAudioMode | .setNumberOfInputs | .setNumberOfOutputs | .setMasterOutputVolume
  | .setMasterOutputSwitch | .setPlayoutDelay | .setCaptureDelay => some 4
  | .setPTPConfig => some 2
  | _ => none

namespace Manager

variable {self : Manager} {msg : MTALSAMsg} {alsa : AlsaBuffers} {polled : Nat → Nat → PTPLockStatus}

/-- Data that its handler accepts came with as many bytes as it reads; a list of interface names ends in them. -/
def PayloadInside (self : Manager) (msg : MTALSAMsg) : Prop :=
  match MTALSAMsgId.ofValue msg.id with
  | some .setInterfaceName => msg.dataSize ≤ 32 → 0 ∈ msg.payload
  | some .addRTPStream =>
    msg.dataSize.toInt = sizeofRTPStreamInfo.toNat →
      self.streams.addReads (.ofBytes msg.byte) ≤ msg.payload.length
  | some id => ∀ size ∈ id.dataSize, msg.dataSize.toInt = size → size ≤ msg.payload.length
  | none => True

/-- The message has its id and error code, and, if that is read, the size of the data and the pointer to it. -/
def MessageInside (self : Manager) (bytes : List UInt8) : Prop :=
  let msg := MTALSAMsg.ofBytes bytes
  msgErrCodeEnd ≤ bytes.length ∧
    (MTALSAMsgId.ofValue msg.id ≠ some .hello → MTALSAMsgId.ofValue msg.id ≠ some .bye →
      msgDataSizeEnd ≤ bytes.length ∧ (msg.dataSize ≠ 0 → msgEnd ≤ bytes.length) ∧ self.PayloadInside msg)

theorem lift_inside {α : Type} (x : Except Fault α) : Avoids ManagerFault.outsideMessage (lift x) := by
  cases x with
  | ok a => exact avoids_ok _ a
  | error fault => exact avoids_error (by simp)

theorem load_inside_iff (n : Nat) : Avoids .outsideMessage (msg.load n) ↔ n ≤ msg.payload.length := by
  unfold MTALSAMsg.load
  rw [avoids_guard_iff]
  simp

theorem sized_inside_iff {size : Nat} {handle : (Nat → UInt8) → Except ManagerFault (Manager × MTALSAReply)}
    (inside : ∀ b, Avoids .outsideMessage (handle b)) :
    Avoids .outsideMessage (self.sized msg size handle) ↔
      (msg.dataSize.toInt = size → size ≤ msg.payload.length) := by
  unfold sized
  by_cases differs : msg.dataSize.toInt ≠ size
  · rw [if_pos differs]
    simp [differs]
  · rw [if_neg differs, avoids_bind_iff inside, load_inside_iff]
    simp [not_not.mp differs]

theorem setInterfaceNames_inside (names : List (List UInt8)) (index : Nat) (first : Manager × MTALSAReply) :
    Avoids .outsideMessage (setInterfaceNames msg names index first) := by
  induction names generalizing index first with
  | nil => exact avoids_ok _ _
  | cons name rest ih =>
    unfold setInterfaceNames
    apply avoids_bind
    · rcases setInterfaceName_cases first.1 name index with ⟨-, did⟩ | ⟨-, -, did⟩ | ⟨-, -, did⟩ | ⟨-, did⟩
      · rw [did]
        exact avoids_ok _ _
      · rw [did]
        exact avoids_ok _ _
      · rw [did]
        exact avoids_ok _ _
      · rw [did]
        exact avoids_error (by simp)
    · exact fun named _ => ih (index + 1) _

theorem onSetInterfaceName_inside_iff :
    Avoids .outsideMessage (self.onSetInterfaceName msg) ↔ (msg.dataSize ≤ 32 → 0 ∈ msg.payload) := by
  unfold onSetInterfaceName
  by_cases long : msg.dataSize > 32
  · rw [if_pos long]
    simp [Int32.not_le.mpr long]
  · rw [if_neg long, avoids_bind_iff fun _ => setInterfaceNames_inside _ 0 _, MTALSAMsg.cString, avoids_guard_iff]
    simp [Int32.not_lt.mp long]

theorem onAddRTPStream_inside_iff :
    Avoids .outsideMessage (self.onAddRTPStream msg alsa) ↔
      (msg.dataSize.toInt = sizeofRTPStreamInfo.toNat →
        self.streams.addReads (.ofBytes msg.byte) ≤ msg.payload.length) := by
  unfold onAddRTPStream
  by_cases differs : msg.dataSize.toInt ≠ sizeofRTPStreamInfo.toNat
  · rw [if_pos differs]
    simp [differs]
  · rw [if_neg differs, avoids_bind_iff fun _ => avoids_ok _ _, load_inside_iff]
    simp [not_not.mp differs]

theorem onSet_inside_iff {size : Nat} {set : (Nat → UInt8) → Except Fault Manager} :
    Avoids .outsideMessage (self.onSet msg size set) ↔
      (msg.dataSize.toInt = size → size ≤ msg.payload.length) := by
  apply sized_inside_iff
  intro b
  exact avoids_bind (lift_inside _) fun _ _ => avoids_ok _ _

theorem onNewMessage_inside_iff :
    Avoids .outsideMessage (self.onNewMessage msg alsa polled) ↔ self.PayloadInside msg := by
  unfold onNewMessage PayloadInside
  generalize MTALSAMsgId.ofValue msg.id = id
  rcases id with _ | id
  · simp
  · cases id with
    | setInterfaceName => exact onSetInterfaceName_inside_iff
    | addRTPStream => exact onAddRTPStream_inside_iff
    | start =>
      simp only [MTALSAMsgId.dataSize, Option.mem_def, reduceCtorEq, false_implies, implies_true, iff_true]
      exact avoids_bind (lift_inside _) fun _ _ => avoids_ok _ _
    | setTICFrameSizeAt1FS | setMaxTICFrameSize | setNumberOfInputs | setNumberOfOutputs =>
      simp only [MTALSAMsgId.dataSize, Option.mem_def, Option.some.injEq, forall_eq']
      exact onSet_inside_iff
    | setSampleRate =>
      simp only [MTALSAMsgId.dataSize, Option.mem_def, Option.some.injEq, forall_eq']
      apply sized_inside_iff
      intro b
      exact avoids_bind (lift_inside _) fun _ _ => avoids_ok _ _
    | setDSDAudioMode =>
      simp only [MTALSAMsgId.dataSize, Option.mem_def, Option.some.injEq, forall_eq']
      apply sized_inside_iff
      intro b
      cases dsdSamplingRate (load32 b 0) with
      | none => exact avoids_ok _ _
      | some rate => exact avoids_bind (lift_inside _) fun _ _ => avoids_ok _ _
    | getRTPStreamStatus | removeRTPStream | setPTPConfig | setMasterOutputVolume | setMasterOutputSwitch
    | setPlayoutDelay | setCaptureDelay =>
      simp only [MTALSAMsgId.dataSize, Option.mem_def, Option.some.injEq, forall_eq']
      apply sized_inside_iff
      intro b
      exact avoids_ok _ _
    | stop | reset | startIo | stopIo | getSampleRate | getAudioMode | getNumberOfInputs | getNumberOfOutputs
    | updateRTPStreamName | getPTPInfo | hello | bye | ping | getMasterOutputVolume | getMasterOutputSwitch
    | getPTPConfig | getPTPStatus =>
      simp [MTALSAMsgId.dataSize]

/-- Exactly the messages that are long enough for what is read of them are not read beyond their end. -/
theorem message_read_inside_iff (self : Manager) (bytes : List UInt8) (alsa : AlsaBuffers)
    (polled : Nat → Nat → PTPLockStatus) :
    recvMsgFromUserLand self bytes alsa polled ≠ .error .outsideMessage ↔ self.MessageInside bytes := by
  change Avoids .outsideMessage (recvMsgFromUserLand self bytes alsa polled) ↔ _
  unfold recvMsgFromUserLand MessageInside
  dsimp only
  by_cases short : bytes.length < msgErrCodeEnd
  · rw [if_pos short]
    simp [Avoids, Nat.not_le.mpr short]
  · rw [if_neg short]
    simp only [Nat.not_lt.mp short, true_and]
    split
    · rename_i isHello
      simp [isHello]
    · rename_i isBye
      simp [isBye]
    · rename_i notHello notBye
      refine Iff.trans ?_ ⟨fun inside _ _ => inside, fun inside => inside notHello notBye⟩
      by_cases noSize : bytes.length < msgDataSizeEnd
      · rw [if_pos noSize]
        simp [Avoids, Nat.not_le.mpr noSize]
      · rw [if_neg noSize]
        simp only [Nat.not_lt.mp noSize, true_and]
        by_cases noPointer : (MTALSAMsg.ofBytes bytes).dataSize ≠ 0 ∧ bytes.length < msgEnd
        · rw [if_pos noPointer]
          simp [Avoids, noPointer.1, Nat.not_le.mpr noPointer.2]
        · rw [if_neg noPointer, avoids_bind_iff fun _ => avoids_ok _ _, onNewMessage_inside_iff]
          have pointer : (MTALSAMsg.ofBytes bytes).dataSize ≠ 0 → msgEnd ≤ bytes.length := by
            intro some
            by_contra less
            exact noPointer ⟨some, Nat.not_le.mp less⟩
          exact (and_iff_right pointer).symm

/-- The names of the interfaces are read at an address that the sender has chosen, as there are no data. -/
theorem names_without_data_read : ¬ ∀ (self : Manager) (bytes : List UInt8) (alsa : AlsaBuffers)
    (polled : Nat → Nat → PTPLockStatus), recvMsgFromUserLand self bytes alsa polled ≠ .error .outsideMessage := by
  intro all
  exact all loaded (List.replicate 16 0 ++ [15] ++ List.replicate 23 0) {} (fun _ _ => .unlocked) rfl

end Manager

end RavennaLkm
