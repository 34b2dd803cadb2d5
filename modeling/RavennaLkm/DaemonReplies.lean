import RavennaLkm.Netlink
import RavennaLkm.Lib.SignedWords

/-!
What a reply of the daemon leaves in the buffer of a caller, and what the two
master controls of manager.c find there. The buffer has the size that the caller
says; the reply says its own.
-/
namespace RavennaLkm
open CheckedLoop SignedWords

def ePIPE : Int32 := 32
def eINVAL : Int32 := 22

/-- A request without data that is answered into `value`; `daemon` is the reply to it, when one comes
in time. -/
def getMasterValue (id : MTALSAMsgId) (daemon : MTALSAMsgId → Option DaemonReply) (direction : Int32)
    (value : Option (List UInt8)) : Except Fault (Int32 × Option (List UInt8)) :=
  match value with
  | some buffer =>
    if direction = 0 then
      match daemon id with
      | none => .ok (-ePIPE, some buffer)
      | some msg => do
        let answer ← receiveReply { dataSize := 4, data := some buffer } msg
        .ok (answer.errCode, answer.data)
    else .ok (-eINVAL, some buffer)
  | none => .ok (-eINVAL, none)

def getMasterVolumeValue := getMasterValue .getMasterOutputVolume
def getMasterSwitchValue := getMasterValue .getMasterOutputSwitch

/-- The bytes that a reply brings. -/
def DaemonReply.payload (msg : DaemonReply) : List UInt8 := (List.range msg.dataSize.toInt.toNat).map msg.data

/-- The data pointer and the data size of a caller. -/
structure ReplyBuffer where
  bytes : List UInt8
  capacity : Int32
  sized : capacity.toInt = bytes.length

namespace ReplyBuffer

def answer (buffer : ReplyBuffer) (id : UInt32) (errCode : Int32) : Answer where
  id := id
  errCode := errCode
  dataSize := buffer.capacity
  data := some buffer.bytes

structure Served (buffer : ReplyBuffer) (msg : DaemonReply) (answer : Answer) : Prop where
  copied : msg.errCode = 0 → msg.payload.length ≤ buffer.bytes.length →
    answer.errCode = 0 ∧ answer.data = some (msg.payload ++ buffer.bytes.drop msg.payload.length)
  tooLong : msg.errCode = 0 → buffer.bytes.length < msg.payload.length →
    answer.errCode = -302 ∧ answer.data = some buffer.bytes

/-- No reply writes past the buffer, and a successful one is served, also to the master controls. -/
structure Serves (buffer : ReplyBuffer) (msg : DaemonReply) : Prop where
  served : ∀ id errCode, ∃ answer, receiveReply (buffer.answer id errCode) msg = .ok answer ∧ buffer.Served msg answer
  master : buffer.bytes.length = 4 → msg.dataSize = 4 → msg.errCode = 0 →
    getMasterVolumeValue (fun _ => some msg) 0 (some buffer.bytes) = .ok (0, some msg.payload) ∧
    getMasterSwitchValue (fun _ => some msg) 0 (some buffer.bytes) = .ok (0, some msg.payload)

end ReplyBuffer

theorem DaemonReply.length_payload (msg : DaemonReply) : msg.payload.length = msg.dataSize.toInt.toNat := by
  simp [DaemonReply.payload]

/-- Only a reply with an error is copied; its size is compared to itself. -/
theorem receiveReply_error (buffer : ReplyBuffer) (id : UInt32) (errCode : Int32) {msg : DaemonReply}
    (failed : msg.errCode < 0) :
    Succeeds (receiveReply (buffer.answer id errCode) msg) ↔
      0 ≤ msg.dataSize.toInt ∧ msg.dataSize.toInt ≤ buffer.bytes.length := by
  have sized := buffer.sized
  have small := buffer.capacity.toInt_lt
  have low := msg.dataSize.le_toInt
  have high := msg.dataSize.toInt_lt
  have signed := toNat_toUInt64 msg.dataSize.toInt64
  have below := msg.dataSize.toInt64.toUInt64.toNat_lt
  rw [Int32.toInt_toInt64, Int.bmod_def] at signed
  unfold receiveReply ReplyBuffer.answer
  by_cases empty : msg.dataSize = 0
  · simp [empty]
  · simp only [empty, failed, ne_eq, not_false_eq_true, and_self, if_true, Int32.le_refl, ge_iff_le]
    split
    · simp only [succeeds_ok, true_iff]
      omega
    · simp only [not_succeeds_error, false_iff]
      omega

theorem receiveReply_done (buffer : ReplyBuffer) (msg : DaemonReply) (id : UInt32) (errCode : Int32)
    (done : ¬ msg.errCode < 0) :
    receiveReply (buffer.answer id errCode) msg =
      .ok { id := msg.id, errCode := msg.errCode, dataSize := msg.dataSize, data := some buffer.bytes } := by
  unfold receiveReply ReplyBuffer.answer
  simp [done]

namespace ReplyBuffer

variable {buffer : ReplyBuffer} {msg : DaemonReply}

/-- A buffer that nothing is written to serves a successful reply only by what it held before. -/
theorem served_unwritten_iff {answer : Answer} (code : answer.errCode = msg.errCode)
    (unwritten : answer.data = some buffer.bytes) :
    buffer.Served msg answer ↔ (msg.errCode = 0 → msg.payload <+: buffer.bytes) := by
  constructor
  · intro served done
    by_cases fits : msg.payload.length ≤ buffer.bytes.length
    · have copied := (served.copied done fits).2
      rw [unwritten, Option.some.injEq] at copied
      exact ⟨_, copied.symm⟩
    · have refused := (served.tooLong done (by omega)).1
      rw [code, done] at refused
      cases refused
  · intro held
    constructor
    · intro done _
      obtain ⟨rest, whole⟩ := held done
      rw [code, unwritten, done]
      simp [← whole]
    · intro done longer
      have := (held done).length_le
      omega

theorem getMasterValue_done (buffer : ReplyBuffer) (msg : DaemonReply) (id : MTALSAMsgId)
    (four : buffer.bytes.length = 4) (done : msg.errCode = 0) :
    getMasterValue id (fun _ => some msg) 0 (some buffer.bytes) = .ok (0, some buffer.bytes) := by
  have capacity : buffer.capacity = 4 := by
    apply Int32.toInt_inj.mp
    rw [buffer.sized, four]
    rfl
  have unwritten := receiveReply_done buffer msg 0 0 (by simp [done])
  unfold answer at unwritten
  rw [capacity] at unwritten
  simp [getMasterValue, unwritten, done]

theorem serves_iff (buffer : ReplyBuffer) (msg : DaemonReply) :
    buffer.Serves msg ↔
      (msg.errCode < 0 → 0 ≤ msg.dataSize.toInt ∧ msg.dataSize.toInt ≤ buffer.bytes.length) ∧
      (msg.errCode = 0 → msg.payload <+: buffer.bytes) := by
  by_cases failed : msg.errCode < 0
  · have notDone : msg.errCode ≠ 0 := by
      intro done
      rw [done] at failed
      exact absurd failed (by decide)
    simp only [failed, notDone, forall_true_left, false_implies, and_true]
    constructor
    · intro serves
      obtain ⟨answer, written, -⟩ := serves.served 0 0
      exact (receiveReply_error buffer 0 0 failed).mp ⟨answer, written⟩
    · intro inside
      constructor
      · intro id errCode
        obtain ⟨answer, written⟩ := (receiveReply_error buffer id errCode failed).mpr inside
        exact ⟨answer, written, ⟨fun done => absurd done notDone, fun done => absurd done notDone⟩⟩
      · intro _ _ done
        exact absurd done notDone
  · simp only [failed, false_implies, true_and]
    constructor
    · intro serves
      obtain ⟨answer, written, served⟩ := serves.served 0 0
      rw [receiveReply_done buffer msg 0 0 failed] at written
      cases written
      exact (served_unwritten_iff rfl rfl).mp served
    · intro held
      constructor
      · intro id errCode
        exact ⟨_, receiveReply_done buffer msg id errCode failed, (served_unwritten_iff rfl rfl).mpr held⟩
      · intro four word done
        have same : msg.payload = buffer.bytes := by
          apply (held done).eq_of_length
          rw [msg.length_payload, word, four]
          rfl
        rw [same]
        exact ⟨getMasterValue_done buffer msg .getMasterOutputVolume four done,
          getMasterValue_done buffer msg .getMasterOutputSwitch four done⟩

/-- The daemon answers 7 and reports no error; the caller keeps its 0. -/
theorem volume_not_served : ¬ ∀ buffer msg, Serves buffer msg := by
  intro all
  let buffer : ReplyBuffer := ⟨[0, 0, 0, 0], 4, rfl⟩
  let seven : DaemonReply := { dataSize := 4, data := fun k => if k = 0 then 7 else 0 }
  have wanted := ((all buffer seven).master rfl rfl rfl).1
  have found := getMasterValue_done buffer seven .getMasterOutputVolume rfl rfl
  have same := found.symm.trans wanted
  rw [Except.ok.injEq, Prod.mk.injEq, Option.some.injEq] at same
  exact absurd same.2 (by decide)

end ReplyBuffer

end RavennaLkm
