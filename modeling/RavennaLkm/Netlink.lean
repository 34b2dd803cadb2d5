import RavennaLkm.Messages

/-!
module_netlink.c: the messages of the daemon to the driver, and the requests of
the driver to the daemon, each of which waits for one reply. The daemon and the
scheduler decide when a reply comes and when a waiting call goes on; the kernel
keeps one flag and one answer pointer for all calls.
-/
namespace RavennaLkm
open CheckedLoop LittleEndian

/-- Where the fields of a received message are: after the header of 16 bytes there are the id, the
error code, the size of the data, and at 32 the data pointer of the sender. -/
def msgErrCodeEnd : Nat := 24
def msgDataSizeEnd : Nat := 28
def msgEnd : Nat := 40

inductive ReceivedMessage where
  | control (id : MTALSAMsgId) (pid : UInt32)
  | handled (self : Manager) (reply : MTALSAReply)

/-- The message as `OnNewMessage` finds it. Its data pointer leads behind the message, or, when there is
no data, to where the sender says, which is not part of the message. -/
def MTALSAMsg.ofBytes (bytes : List UInt8) : MTALSAMsg :=
  let b := fun k => bytes.getD k 0
  let dataSize := (load32 b 24).toInt32
  { id := load32 b 16, dataSize := dataSize, payload := (bytes.drop msgEnd).take dataSize.toInt.toNat }

/-- The bytes are those that were received, whatever the length in their header says. -/
def recvMsgFromUserLand (self : Manager) (bytes : List UInt8) (alsa : AlsaBuffers)
    (polled : Nat → Nat → PTPLockStatus) : Except ManagerFault ReceivedMessage :=
  let msg := MTALSAMsg.ofBytes bytes
  let pid := load32 (fun k => bytes.getD k 0) 12
  if bytes.length < msgErrCodeEnd then .error .outsideMessage
  else match MTALSAMsgId.ofValue msg.id with
    | some .hello => .ok (.control .hello pid)
    | some .bye => .ok (.control .bye pid)
    | _ =>
      if bytes.length < msgDataSizeEnd then .error .outsideMessage
      -- the data pointer is written before it is used
      else if msg.dataSize ≠ 0 ∧ bytes.length < msgEnd then .error .outsideMessage
      else do
        let handled ← self.onNewMessage msg alsa polled
        .ok (.handled handled.1 handled.2)

structure Answer where
  id : UInt32 := 0
  errCode : Int32 := 0
  dataSize : Int32 := 0
  data : Option (List UInt8) := none

/-- A reply, with what its data pointer leads to. -/
structure DaemonReply where
  id : UInt32 := 0
  errCode : Int32 := 0
  dataSize : Int32 := 0
  data : Nat → UInt8 := fun _ => 0

def receiveReply (answer : Answer) (msg : DaemonReply) : Except Fault Answer :=
  -- the size goes over first, so that the sizes compared are both that of the reply
  let answer := { answer with id := msg.id, errCode := msg.errCode, dataSize := msg.dataSize }
  if msg.dataSize ≠ 0 ∧ msg.errCode < 0 then
    if answer.dataSize ≥ msg.dataSize then
      match answer.data with
      | some buffer =>
        let size := msg.dataSize.toInt64.toUInt64.toNat
        if size ≤ buffer.length then
          .ok { answer with data := some ((List.range size).map msg.data ++ buffer.drop size) }
        else .error .writePast
      | none => .ok { answer with errCode := -303 }
    else .ok { answer with errCode := -302 }
  else .ok answer

/-- How far a call of `send_msg_to_user_land` is: before the unicast, in the wait, out of it with the
flag seen or not, or back with 0 or an error. -/
inductive CallPhase where
  | unused | posting | waiting
  | waking (responded : Bool)
  | returned (success : Bool)
  deriving DecidableEq, Repr

/-- The two variables that all calls share, the calls in the order in which they were made, and what
the daemon has received and replied to. -/
structure NetlinkCalls where
  haveResponse : Bool := false
  responseFromUserLand : Option Nat := none
  calls : Nat := 0
  phase : Nat → CallPhase := fun _ => .unused
  answer : Nat → Answer := fun _ => {}
  delivered : Nat → Bool := fun _ => false
  replied : Nat → Bool := fun _ => false
  /-- The calls whose answer was written to after they had returned. -/
  writtenDead : List Nat := []

namespace NetlinkCalls

def setPhase (self : NetlinkCalls) (call : Nat) (phase : CallPhase) : NetlinkCalls :=
  { self with phase := Function.update self.phase call phase }

def enter (self : NetlinkCalls) (answer : Option Answer) : NetlinkCalls :=
  { self.setPhase self.calls .posting with
    calls := self.calls + 1
    responseFromUserLand := answer.map fun _ => self.calls
    answer := Function.update self.answer self.calls (answer.getD {}) }

def post (self : NetlinkCalls) (call : Nat) (sent : Bool) : NetlinkCalls :=
  if self.phase call = .posting then
    if sent then
      { self.setPhase call .waiting with delivered := Function.update self.delivered call true }
    else self.setPhase call (.returned false)
  else self

def writeAnswer (self : NetlinkCalls) (msg : DaemonReply) : Except Fault NetlinkCalls :=
  match self.responseFromUserLand with
  | none => .ok self
  | some target => do
    let answer ← receiveReply (self.answer target) msg
    .ok { self with
      answer := Function.update self.answer target answer
      writtenDead :=
        match self.phase target with
        | .returned _ => target :: self.writtenDead
        | _ => self.writtenDead }

/-- The daemon replies once to a request that it has. -/
def reply (self : NetlinkCalls) (call : Nat) (msg : DaemonReply) : Except Fault NetlinkCalls :=
  if self.delivered call ∧ ¬ self.replied call then do
    let self ← self.writeAnswer msg
    .ok { self with haveResponse := true, replied := Function.update self.replied call true }
  else .ok self

def wake (self : NetlinkCalls) (call : Nat) : NetlinkCalls :=
  if self.phase call = .waiting then self.setPhase call (.waking self.haveResponse) else self

def finish (self : NetlinkCalls) (call : Nat) : NetlinkCalls :=
  match self.phase call with
  | .waking responded => { self.setPhase call (.returned responded) with haveResponse := false }
  | _ => self

end NetlinkCalls

inductive NetlinkOp where
  | enter (answer : Option Answer)
  | post (call : Nat) (sent : Bool)
  | reply (call : Nat) (msg : DaemonReply)
  | wake (call : Nat)
  | finish (call : Nat)

def NetlinkOp.step (s : NetlinkCalls) : NetlinkOp → Except Fault NetlinkCalls
  | enter answer => .ok (s.enter answer)
  | post call sent => .ok (s.post call sent)
  | reply call msg => s.reply call msg
  | wake call => .ok (s.wake call)
  | finish call => .ok (s.finish call)

end RavennaLkm
