import Mathlib.Algebra.Group.Nat.Defs
import RavennaLkm.IPC
import RavennaLkm.Lib.GuardedRun

/-!
MTAL_IPC_SendIOCTL and the server at the other end of the two FIFOs, step by step.
What was sent, served and returned is recorded next to the state of the two.
-/
namespace RavennaLkm.IPC
open CheckedLoop GuardedRun

structure Message where
  base : MsgBlockBase
  payload : List UInt8
  deriving DecidableEq, Repr

namespace Message

def bytes (m : Message) : List UInt8 := m.base.bytes ++ m.payload

/-- The size is that of the header and of a payload that the message block has room for. -/
structure WellFormed (m : Message) : Prop where
  size : m.base.msgSize = UInt32.ofNat (sizeofMsgBlockBase + m.payload.length)
  fits : m.payload.length ≤ maxControllerBufferSize

variable {m : Message}

theorem WellFormed.toNat_msgSize (well : m.WellFormed) :
    m.base.msgSize.toNat = sizeofMsgBlockBase + m.payload.length := by
  have fits := well.fits
  rw [well.size]
  unfold sizeofMsgBlockBase
  unfold maxControllerBufferSize at fits
  apply UInt32.toNat_ofNat_of_lt'
  unfold UInt32.size
  omega

theorem WellFormed.announced (well : m.WellFormed) : announced m.base = m.payload.length := by
  unfold IPC.announced
  rw [well.toNat_msgSize, Nat.add_sub_cancel_left]

theorem WellFormed.toNat_handedSize (well : m.WellFormed) : (handedSize m.base).toNat = m.payload.length := by
  rw [(handedSize_eq_iff m.base).mpr, well.announced]
  rw [well.toNat_msgSize]
  exact Nat.le_add_right ..

end Message

structure IOCTL where
  msgId : UInt32
  input : List UInt8
  out : Option UInt32
  deriving DecidableEq, Repr

def IOCTL.request (call : IOCTL) (seqId : UInt32) : Message where
  base := ⟨UInt32.ofNat (sizeofMsgBlockBase + call.input.length), seqId, call.msgId, 0⟩
  payload := call.input

def IOCTL.TooLarge (call : IOCTL) : Prop :=
  call.input.length > maxControllerBufferSize ∨ ∃ size ∈ call.out, size.toNat > maxControllerBufferSize

instance (call : IOCTL) : Decidable call.TooLarge := inferInstanceAs (Decidable (_ ∨ _))

structure Sent where
  call : IOCTL
  request : Message

structure Served where
  request : Message
  called : CallbackResult

def Served.answer (a : Served) : Message where
  base := {
    a.request.base with
    msgSize := UInt32.ofNat (sizeofMsgBlockBase + a.called.out.length)
    result := a.called.result }
  payload := a.called.out

structure Returned where
  call : IOCTL
  request : Option Nat
  error : MTALIPCError
  msgErr : Int32
  out : List UInt8
  deriving DecidableEq, Repr

structure Connection where
  seqId : UInt32
  requests : List UInt8 := []
  answers : List UInt8 := []
  calling : Option (IOCTL × ClientPhase) := none
  answering : Option (List UInt8) := none
  calls : Nat := 0
  sent : List Sent := []
  served : List Served := []
  returned : List Returned := []

inductive IPCOp where
  /-- `MTAL_IPC_SendIOCTL` up to `send_buffer_to_fifo`. -/
  | send (call : IOCTL) (written : Bool)
  /-- A round of the server up to its `send_buffer_to_fifo`. -/
  | serve (turn : ServerTurn)
  | reply (written : Bool)
  /-- A round of `read_answer_from_fifo`. -/
  | await (turn : ClientTurn)

inductive IPCFault where
  | notNow
  | overrun
  deriving DecidableEq, Repr

namespace Connection

def sendIOCTL (s : Connection) (call : IOCTL) (written : Bool) : Except IPCFault Connection :=
  if s.calling.isSome then .error .notNow
  else if call.TooLarge then .ok { s with returned := s.returned ++ [⟨call, none, .invalidBufferSize, 0, []⟩] }
  else
    let seqId := s.seqId + 1
    let request := call.request seqId
    if written then
      .ok {
        s with
        seqId
        requests := s.requests ++ request.bytes
        calling := some (call, .selecting)
        calls := s.calls + 1
        sent := s.sent ++ [⟨call, request⟩] }
    else .ok { s with seqId, calls := s.calls + 1, returned := s.returned ++ [⟨call, none, .fail, 0, []⟩] }

def servedIn (turn : ServerTurn) (received : Received) : Option Served :=
  match received with
  | .message base payload => some ⟨⟨base, payload⟩, turn.callback base.msgId payload (handedSize base)⟩
  | .nothing | .failed | .short _ | .payloadFailed _ | .truncated _ _ => none

def serve (s : Connection) (turn : ServerTurn) : Except IPCFault Connection :=
  if s.answering.isSome then .error .notNow
  else
    let done := serverRound turn s.requests
    match done.1.2 with
    | .goesOn | .returns _ =>
      .ok {
        s with
        requests := done.2
        answering := done.1.1.answer
        served := s.served ++ (servedIn turn (receive turn.first turn.second s.requests).1).toList }
    | .overrun => .error .overrun

def reply (s : Connection) (written : Bool) : Except IPCFault Connection :=
  match s.answering with
  | none => .error .notNow
  | some bytes =>
    .ok { s with answering := none, answers := if written then s.answers ++ bytes else s.answers }

def await (s : Connection) (turn : ClientTurn) : Except IPCFault Connection :=
  match s.calling with
  | none => .error .notNow
  | some (call, phase) =>
    let done := readAnswerTurn s.seqId call.out phase turn s.answers
    match done.1.2 with
    | .goesOn next => .ok { s with answers := done.2, calling := some (call, next) }
    | .returns error msgErr out =>
      .ok {
        s with
        answers := done.2
        calling := none
        returned := s.returned ++ [⟨call, some (s.sent.length - 1), error, msgErr, out⟩] }
    | .overrun => .error .overrun

def step (s : Connection) : IPCOp → Except IPCFault Connection
  | .send call written => s.sendIOCTL call written
  | .serve turn => s.serve turn
  | .reply written => s.reply written
  | .await turn => s.await turn

end Connection

def ReadEvent.Gives (size : Nat) : ReadEvent → Prop
  | .delivers count => size ≤ count
  | .interrupted | .failed => False

instance (size : Nat) : ∀ event : ReadEvent, Decidable (event.Gives size)
  | .delivers count => inferInstanceAs (Decidable (size ≤ count))
  | .interrupted | .failed => isFalse not_false

/-- A message is written at once: a read that is not interrupted gets the header, and the next one the payload. -/
def Atomic (first second : ReadEvent) : Prop :=
  (first = .interrupted ∨ first.Gives sizeofMsgBlockBase) ∧ second.Gives maxControllerBufferSize

instance (first second : ReadEvent) : Decidable (Atomic first second) := inferInstanceAs (Decidable (_ ∧ _))

def queued (messages : List Message) : List UInt8 := messages.flatMap Message.bytes

@[simp] theorem queued_nil : queued [] = [] := rfl

@[simp] theorem queued_cons (m : Message) (rest : List Message) :
    queued (m :: rest) = m.bytes ++ queued rest := rfl

theorem queued_concat (messages : List Message) (m : Message) :
    queued (messages ++ [m]) = queued messages ++ m.bytes := by
  unfold queued
  rw [List.flatMap_append, List.flatMap_singleton]

variable {first second : ReadEvent} {m : Message} {messages : List Message}

theorem receive_interrupted (second : ReadEvent) (fifo : List UInt8) :
    receive .interrupted second fifo = (.nothing, fifo) := rfl

theorem receive_nil (gives : first.Gives sizeofMsgBlockBase) : receive first second [] = (.nothing, []) := by
  cases first with
  | interrupted => exact gives.elim
  | failed => exact gives.elim
  | delivers count =>
    unfold receive
    dsimp only
    rw [List.take_nil, List.drop_nil]
    rfl

/-- A well-formed message at the front of the FIFO is received in full, and nothing behind it. -/
theorem receive_message (gives : first.Gives sizeofMsgBlockBase)
    (second_gives : second.Gives maxControllerBufferSize) (well : m.WellFormed) (rest : List UInt8) :
    receive first second (m.bytes ++ rest) = (.message m.base m.payload, rest) := by
  have front : (m.bytes ++ rest).take sizeofMsgBlockBase = m.base.bytes := by
    unfold Message.bytes
    rw [List.append_assoc]
    exact List.take_left' rfl
  have back : (m.bytes ++ rest).drop sizeofMsgBlockBase = m.payload ++ rest := by
    unfold Message.bytes
    rw [List.append_assoc]
    exact List.drop_left' rfl
  have found : arrival first second (m.bytes ++ rest) = some ⟨m.base, second.available (m.payload ++ rest)⟩ := by
    cases first with
    | interrupted => exact gives.elim
    | failed => exact gives.elim
    | delivers count =>
      have length : sizeofMsgBlockBase ≤ (m.bytes ++ rest).length := by
        unfold Message.bytes
        rw [List.length_append, List.length_append, MsgBlockBase.length_bytes]
        omega
      change sizeofMsgBlockBase ≤ count at gives
      unfold arrival
      dsimp only
      rw [if_neg (by omega), front, back, MsgBlockBase.ofBytes_bytes]
  have fits := well.fits
  have enough : m.payload.length ≤ second.available (m.payload ++ rest) := by
    cases second with
    | interrupted => exact second_gives.elim
    | failed => exact second_gives.elim
    | delivers count =>
      change maxControllerBufferSize ≤ count at second_gives
      unfold ReadEvent.available
      dsimp only
      rw [List.length_append]
      omega
  rcases receive_of_arrival found with ⟨_, received⟩ | ⟨few, _⟩
  · rw [received, well.announced, ← List.drop_drop, back, List.take_left, List.drop_left]
  · rw [well.announced] at few
    dsimp only at few
    omega

/-- Where the FIFO holds well-formed messages, a round finds nothing or the first of them. -/
theorem receive_queued (atomic : Atomic first second) (well : ∀ m ∈ messages, m.WellFormed) :
    receive first second (queued messages) = (.nothing, queued messages) ∨
      ∃ m rest, messages = m :: rest ∧ first.Gives sizeofMsgBlockBase ∧
        receive first second (queued messages) = (.message m.base m.payload, queued rest) := by
  rcases atomic with ⟨rfl | gives, second_gives⟩
  · exact .inl (receive_interrupted ..)
  · cases messages with
    | nil => exact .inl (receive_nil gives)
    | cons m rest => exact .inr ⟨m, rest, rfl, gives, receive_message gives second_gives (well m (by simp)) _⟩

theorem IOCTL.request_wellFormed {call : IOCTL} (small : ¬ call.TooLarge) (seqId : UInt32) :
    (call.request seqId).WellFormed where
  size := rfl
  fits := Nat.le_of_not_lt fun large => small (.inl large)

theorem Served.answer_wellFormed (a : Served) : a.answer.WellFormed := ⟨rfl, a.called.fits⟩

namespace Connection

/-- `a` is what the server made of the request of the call that returned `r`. -/
def Serves (s : Connection) (r : Returned) (a : Served) : Prop :=
  ∃ n sent, r.request = some n ∧ s.sent[n]? = some sent ∧ s.served[n]? = some a ∧ sent.call = r.call ∧
    a.request.base.msgId = r.call.msgId ∧ a.request.payload = r.call.input

/-- A call that succeeded returned what the callback produced for its own request, and it failed only where it
could not be written or for its own answer. -/
structure Accounted (s : Connection) (r : Returned) : Prop where
  success : r.error = .success →
    ∃ a, s.Serves r a ∧ r.msgErr = a.called.result ∧ r.out = if r.call.out.isSome then a.called.out else []
  mismatch : r.error = .invalidBufferSize →
    r.call.TooLarge ∨ ∃ a size, s.Serves r a ∧ r.call.out = some size ∧ a.called.out.length ≠ size.toNat
  fail : r.error = .fail → r.request = none

structure Ordered (s : Connection) : Prop where
  requested : ∀ r ∈ s.sent, ¬ r.call.TooLarge ∧ r.request = r.call.request r.request.base.msgSeqId
  age : ∀ r ∈ s.sent, (s.seqId - r.request.base.msgSeqId).toNat < s.calls
  distinct : s.sent.Pairwise fun a b => a.request.base.msgSeqId ≠ b.request.base.msgSeqId
  taken : ∃ waiting, s.sent.map Sent.request = s.served.map Served.request ++ waiting ∧ s.requests = queued waiting
  queue : ∃ answers, answers ⊆ s.served ∧ s.answers = queued (answers.map Served.answer)
  answering : ∀ bytes, s.answering = some bytes → ∃ a ∈ s.served, bytes = a.answer.bytes
  calling : ∀ call phase, s.calling = some (call, phase) →
    ∃ r, s.sent.getLast? = some r ∧ r.call = call ∧ r.request.base.msgSeqId = s.seqId
  returned : ∀ r ∈ s.returned, s.Accounted r

variable {s t : Connection}

theorem init_ordered (seqId : UInt32) : Ordered { seqId } where
  requested := by simp
  age := by simp
  distinct := .nil
  taken := ⟨[], rfl, rfl⟩
  queue := ⟨[], by simp, rfl⟩
  answering := by simp
  calling := by simp
  returned := by simp

theorem getElem?_of_prefix {α : Type} {l l' : List α} (longer : l <+: l') {n : Nat} {a : α}
    (at_n : l[n]? = some a) : l'[n]? = some a := by
  obtain ⟨more, rfl⟩ := longer
  obtain ⟨below, _⟩ := List.getElem?_eq_some_iff.mp at_n
  rw [List.getElem?_append_left below]
  exact at_n

theorem Accounted.mono {r : Returned} (accounted : s.Accounted r) (sent : s.sent <+: t.sent)
    (served : s.served <+: t.served) : t.Accounted r := by
  have kept (a) (serves : s.Serves r a) : t.Serves r a := by
    obtain ⟨n, request, place, isSent, isServed, same⟩ := serves
    exact ⟨n, request, place, getElem?_of_prefix sent isSent, getElem?_of_prefix served isServed, same⟩
  constructor
  · intro isSuccess
    obtain ⟨a, serves, same⟩ := accounted.success isSuccess
    exact ⟨a, kept a serves, same⟩
  · intro isMismatch
    rcases accounted.mismatch isMismatch with large | ⟨a, size, serves, same⟩
    · exact .inl large
    · exact .inr ⟨a, size, kept a serves, same⟩
  · exact accounted.fail

theorem Ordered.sent_wellFormed (ordered : s.Ordered) : ∀ m ∈ s.sent.map Sent.request, m.WellFormed := by
  intro m isSent
  obtain ⟨r, mem, rfl⟩ := List.mem_map.mp isSent
  obtain ⟨small, same⟩ := ordered.requested r mem
  rw [same]
  exact IOCTL.request_wellFormed small _

theorem Ordered.waiting_wellFormed (ordered : s.Ordered) :
    ∃ waiting, (∀ m ∈ waiting, m.WellFormed) ∧ s.sent.map Sent.request = s.served.map Served.request ++ waiting ∧
      s.requests = queued waiting := by
  obtain ⟨waiting, order, isQueued⟩ := ordered.taken
  refine ⟨waiting, ?_, order, isQueued⟩
  intro m mem
  apply ordered.sent_wellFormed
  rw [order]
  exact List.mem_append_right _ mem

/-- The sequence ids are different, so that the answer with the id of the call is its own. -/
theorem Ordered.serves_own (ordered : s.Ordered) {call : IOCTL} {phase : ClientPhase}
    (calling : s.calling = some (call, phase)) {a : Served} (isServed : a ∈ s.served)
    (own : a.request.base.msgSeqId = s.seqId) {r : Returned} (isCall : r.call = call)
    (place : r.request = some (s.sent.length - 1)) : s.Serves r a := by
  obtain ⟨last, isLast, lastCall, lastId⟩ := ordered.calling call phase calling
  obtain ⟨n, at_n⟩ := List.getElem?_of_mem isServed
  obtain ⟨waiting, order, _⟩ := ordered.taken
  have sent_n : (s.sent.map Sent.request)[n]? = some a.request := by
    rw [order]
    apply getElem?_of_prefix (List.prefix_append ..)
    rw [List.getElem?_map, at_n]
    rfl
  rw [List.getElem?_map, Option.map_eq_some_iff] at sent_n
  obtain ⟨request, sent_n, same⟩ := sent_n
  rw [List.getLast?_eq_getElem?] at isLast
  have isSame : n = s.sent.length - 1 := by
    obtain ⟨n_lt, n_eq⟩ := List.getElem?_eq_some_iff.mp sent_n
    obtain ⟨last_lt, last_eq⟩ := List.getElem?_eq_some_iff.mp isLast
    by_contra other
    have different := List.pairwise_iff_getElem.mp ordered.distinct n (s.sent.length - 1) n_lt last_lt (by omega)
    rw [n_eq, last_eq, same, own, lastId] at different
    exact different rfl
  rw [← isSame, sent_n] at isLast
  cases isLast
  have requested := (ordered.requested last (List.mem_of_getElem? sent_n)).2
  refine ⟨n, last, isSame ▸ place, sent_n, at_n, lastCall.trans isCall.symm, ?_, ?_⟩
  all_goals
    rw [← same, requested, isCall, ← lastCall]
    rfl

theorem Ordered.kept (ordered : s.Ordered) (sent : s.sent <+: t.sent) (served : s.served <+: t.served) :
    ∀ r ∈ s.returned, t.Accounted r := by
  intro r mem
  exact (ordered.returned r mem).mono sent served

theorem Ordered.age_succ (ordered : s.Ordered) (fewer : s.calls < 2 ^ 32) {r : Sent} (mem : r ∈ s.sent) :
    (s.seqId + 1 - r.request.base.msgSeqId).toNat = (s.seqId - r.request.base.msgSeqId).toNat + 1 := by
  have age := ordered.age r mem
  have later : s.seqId + 1 - r.request.base.msgSeqId = s.seqId - r.request.base.msgSeqId + 1 := by grind
  rw [later, UInt32.toNat_add, UInt32.toNat_one, Nat.mod_eq_of_lt]
  omega

theorem sendIOCTL_ordered (ordered : s.Ordered) {call : IOCTL} {written : Bool} (fewer : s.calls + 1 < 2 ^ 32)
    (done : s.sendIOCTL call written = .ok t) : t.Ordered := by
  have older (r) (mem : r ∈ s.sent) := ordered.age_succ (by omega) mem
  have aged (r) (mem : r ∈ s.sent) : (s.seqId + 1 - r.request.base.msgSeqId).toNat < s.calls + 1 := by
    rw [older r mem]
    exact Nat.succ_lt_succ (ordered.age r mem)
  unfold sendIOCTL at done
  split at done
  · cases done
  · rename_i free
    split at done
    · rename_i large
      cases done
      refine { ordered with returned := ?_ }
      simp only [List.forall_mem_append, List.forall_mem_singleton]
      exact ⟨ordered.kept List.prefix_rfl List.prefix_rfl,
        fun no => (nomatch no), fun _ => .inl large, fun no => (nomatch no)⟩
    · rename_i small
      dsimp only at done
      split at done
      · cases done
        obtain ⟨waiting, order, isQueued⟩ := ordered.taken
        constructor
        case requested =>
          simp only [List.forall_mem_append, List.forall_mem_singleton]
          exact ⟨ordered.requested, small, rfl⟩
        case age =>
          simp only [List.forall_mem_append, List.forall_mem_singleton]
          refine ⟨aged, ?_⟩
          rw [IOCTL.request, UInt32.sub_self]
          exact Nat.succ_pos _
        case distinct =>
          simp only [List.pairwise_append, List.pairwise_singleton, List.mem_singleton, forall_eq, true_and]
          refine ⟨ordered.distinct, ?_⟩
          intro r mem same
          have later := older r mem
          rw [same, IOCTL.request, UInt32.sub_self] at later
          cases later
        case taken =>
          refine ⟨waiting ++ [call.request (s.seqId + 1)], ?_, ?_⟩
          · rw [List.map_append, order, List.append_assoc]
            rfl
          · rw [isQueued, queued_concat]
        case queue => exact ordered.queue
        case answering => exact ordered.answering
        case calling =>
          intro now phase isNow
          cases isNow
          exact ⟨_, List.getLast?_concat, rfl, rfl⟩
        case returned => exact ordered.kept (List.prefix_append ..) List.prefix_rfl
      · cases done
        constructor
        case requested => exact ordered.requested
        case age => exact aged
        case distinct => exact ordered.distinct
        case taken => exact ordered.taken
        case queue => exact ordered.queue
        case answering => exact ordered.answering
        case calling =>
          intro now phase isNow
          rw [isNow] at free
          exact absurd rfl free
        case returned =>
          simp only [List.forall_mem_append, List.forall_mem_singleton]
          exact ⟨ordered.kept List.prefix_rfl List.prefix_rfl,
            fun no => (nomatch no), fun no => (nomatch no), fun _ => rfl⟩

theorem serve_ordered (ordered : s.Ordered) {turn : ServerTurn} (atomic : Atomic turn.first turn.second)
    (done : s.serve turn = .ok t) : t.Ordered := by
  obtain ⟨waiting, well, order, isQueued⟩ := ordered.waiting_wellFormed
  unfold serve serverRound at done
  dsimp only at done
  split at done
  · cases done
  · rw [isQueued] at done
    rcases receive_queued atomic well with received | ⟨m, rest, isFirst, _, received⟩
    · rw [received, ← isQueued] at done
      cases done
      rw [servedIn, Option.toList_none, List.append_nil]
      exact { ordered with
        answering := fun _ no => (nomatch no)
        returned := ordered.kept List.prefix_rfl List.prefix_rfl }
    · have fits := (well m (by simp [isFirst])).fits
      rw [received, processReceived_message fits] at done
      cases done
      constructor
      case requested => exact ordered.requested
      case age => exact ordered.age
      case distinct => exact ordered.distinct
      case taken =>
        refine ⟨rest, ?_, rfl⟩
        rw [order, isFirst]
        simp [servedIn]
      case queue =>
        obtain ⟨answers, served, isAnswers⟩ := ordered.queue
        exact ⟨answers, List.subset_append_of_subset_left _ served, isAnswers⟩
      case answering =>
        intro bytes isBytes
        cases isBytes
        exact ⟨_, List.mem_append_right _ (List.mem_singleton_self _), rfl⟩
      case calling => exact ordered.calling
      case returned => exact ordered.kept List.prefix_rfl (List.prefix_append ..)

theorem reply_ordered (ordered : s.Ordered) {written : Bool} (done : s.reply written = .ok t) : t.Ordered := by
  unfold reply at done
  split at done
  · cases done
  · rename_i bytes pending
    cases done
    obtain ⟨a, served, isAnswer⟩ := ordered.answering bytes pending
    obtain ⟨answers, subset, isQueued⟩ := ordered.queue
    refine { ordered with
      answering := fun _ no => (nomatch no)
      queue := ?_
      returned := ordered.kept List.prefix_rfl List.prefix_rfl }
    cases written with
    | false => exact ⟨answers, subset, isQueued⟩
    | true =>
      refine ⟨answers ++ [a], by simp [subset, served], ?_⟩
      rw [List.map_append, List.map_singleton, queued_concat, ← isQueued, ← isAnswer]
      rfl

/-- An answer to an earlier request is passed over; its own ends the call. -/
theorem acceptAnswer_answer (seqId : UInt32) (out : Option UInt32) (a : Served) :
    acceptAnswer seqId out a.answer.base a.answer.payload =
      if a.request.base.msgSeqId ≠ seqId then .goesOn .reading
      else match out with
        | none => .returns .success a.called.result []
        | some size =>
          if a.called.out.length ≠ size.toNat then .returns .invalidBufferSize 0 []
          else .returns .success a.called.result a.called.out := by
  have well := a.answer_wellFormed
  unfold acceptAnswer
  change (if a.request.base.msgSeqId ≠ seqId then _ else _) = _
  split
  · rfl
  · cases out with
    | none => rfl
    | some size =>
      have length : (handedSize a.answer.base).toNat = a.called.out.length := well.toNat_handedSize
      have same : handedSize a.answer.base = size ↔ a.called.out.length = size.toNat := by
        rw [← UInt32.toNat_inj, length]
      dsimp only
      by_cases fits : a.called.out.length = size.toNat
      · rw [if_neg (not_not.mpr (same.mpr fits)), if_neg (not_not.mpr fits), ← fits]
        change ClientEnd.returns .success a.called.result (a.called.out.take a.called.out.length) = _
        rw [List.take_length]
      · rw [if_pos (mt same.mp fits), if_pos fits]

theorem Ordered.goesOn (ordered : s.Ordered) {call : IOCTL} {phase next : ClientPhase}
    (calling : s.calling = some (call, phase)) {answers : List Served} (subset : answers ⊆ s.served) :
    { s with
      answers := queued (answers.map Served.answer)
      calling := some (call, next) : Connection }.Ordered := by
  refine { ordered with
    queue := ⟨answers, subset, rfl⟩
    calling := ?_
    returned := ordered.kept List.prefix_rfl List.prefix_rfl }
  intro now phase isNow
  cases isNow
  exact ordered.calling _ _ calling

theorem Ordered.returns (ordered : s.Ordered) {r : Returned} {answers : List Served} (subset : answers ⊆ s.served)
    (accounted : s.Accounted r) :
    { s with
      answers := queued (answers.map Served.answer)
      calling := none
      returned := s.returned ++ [r] : Connection }.Ordered := by
  refine { ordered with
    queue := ⟨answers, subset, rfl⟩
    calling := fun _ _ no => (nomatch no)
    returned := ?_ }
  simp only [List.forall_mem_append, List.forall_mem_singleton]
  exact ⟨ordered.kept List.prefix_rfl List.prefix_rfl, accounted.mono List.prefix_rfl List.prefix_rfl⟩

theorem accounted_timeout {r : Returned} (timeout : r.error = .timeout) : s.Accounted r := by
  constructor
  all_goals
    rw [timeout]
    intro no
    cases no

/-- A round of the client finds nothing, and goes on or is over its time, or it takes an answer. -/
theorem readAnswerTurn_cases (seqId : UInt32) (out : Option UInt32) (phase : ClientPhase) {turn : ClientTurn}
    (atomic : Atomic turn.first turn.second) (answers : List Served) :
    let done := readAnswerTurn seqId out phase turn (queued (answers.map Served.answer))
    done.2 = queued (answers.map Served.answer) ∧
        ((∃ next, done.1.2 = .goesOn next) ∨ done.1.2 = .returns .timeout 0 []) ∨
      ∃ a rest, answers = a :: rest ∧ done.2 = queued (rest.map Served.answer) ∧
        done.1.2 = acceptAnswer seqId out a.answer.base a.answer.payload := by
  have late : (∃ next, elapsed turn = .goesOn next) ∨ elapsed turn = .returns .timeout 0 [] := by
    unfold elapsed
    split
    · exact .inr rfl
    · exact .inl ⟨_, rfl⟩
  unfold readAnswerTurn
  cases phase with
  | selecting =>
    refine .inl ⟨rfl, ?_⟩
    dsimp only
    split
    · exact .inl ⟨_, rfl⟩
    · exact late
  | reading =>
    have well : ∀ m ∈ answers.map Served.answer, m.WellFormed := by
      simp only [List.forall_mem_map]
      exact fun a _ => a.answer_wellFormed
    dsimp only
    rcases receive_queued atomic well with received | ⟨m, rest, isFirst, _, received⟩
    · rw [received]
      exact .inl ⟨rfl, late⟩
    · rw [received]
      obtain ⟨a, others, isAnswers, rfl, rfl⟩ := List.map_eq_cons_iff.mp isFirst
      exact .inr ⟨a, others, isAnswers, rfl, readReceived_message a.answer_wellFormed.fits⟩

theorem await_ordered (ordered : s.Ordered) {turn : ClientTurn} (atomic : Atomic turn.first turn.second)
    (done : s.await turn = .ok t) : t.Ordered := by
  obtain ⟨answers, subset, isQueued⟩ := ordered.queue
  unfold await at done
  dsimp only at done
  split at done
  · cases done
  · rename_i call phase calling
    rw [isQueued] at done
    rcases readAnswerTurn_cases s.seqId call.out phase atomic answers with
      ⟨same, ⟨next, goesOn⟩ | late⟩ | ⟨a, rest, isFirst, taken, accepted⟩
    · rw [goesOn, same] at done
      cases done
      exact ordered.goesOn calling subset
    · rw [late, same] at done
      cases done
      exact ordered.returns subset (accounted_timeout rfl)
    · rw [isFirst] at subset
      obtain ⟨isServed, subset⟩ := List.cons_subset.mp subset
      rw [accepted, taken, acceptAnswer_answer] at done
      by_cases own : a.request.base.msgSeqId = s.seqId
      · have serves {r : Returned} := ordered.serves_own (r := r) calling isServed own
        rw [if_neg (not_not.mpr own)] at done
        cases isOut : call.out with
        | none =>
          rw [isOut] at done
          cases done
          apply ordered.returns subset
          constructor
          · intro _
            exact ⟨a, serves rfl rfl, rfl, by simp [isOut]⟩
          · exact fun no => (nomatch no)
          · exact fun no => (nomatch no)
        | some size =>
          rw [isOut] at done
          dsimp only at done
          by_cases fits : a.called.out.length = size.toNat
          · rw [if_neg (not_not.mpr fits)] at done
            cases done
            apply ordered.returns subset
            constructor
            · intro _
              exact ⟨a, serves rfl rfl, rfl, by simp [isOut]⟩
            · exact fun no => (nomatch no)
            · exact fun no => (nomatch no)
          · rw [if_pos fits] at done
            cases done
            apply ordered.returns subset
            constructor
            · exact fun no => (nomatch no)
            · intro _
              exact .inr ⟨a, size, serves rfl rfl, isOut, fits⟩
            · exact fun no => (nomatch no)
      · rw [if_pos own] at done
        cases done
        exact ordered.goesOn calling subset

/-- Fewer than 2^32 requests, and messages that are written at once; the rest is free. -/
def Allowed (s : Connection) : IPCOp → Prop
  | .send _ _ => s.calls + 1 < 2 ^ 32
  | .serve turn => Atomic turn.first turn.second
  | .reply _ => True
  | .await turn => Atomic turn.first turn.second

instance (s : Connection) : ∀ op, Decidable (s.Allowed op)
  | .send _ _ => inferInstanceAs (Decidable (s.calls + 1 < 2 ^ 32))
  | .serve turn => inferInstanceAs (Decidable (Atomic turn.first turn.second))
  | .reply _ => isTrue trivial
  | .await turn => inferInstanceAs (Decidable (Atomic turn.first turn.second))

theorem step_ordered (ordered : s.Ordered) {op : IPCOp} (allowed : s.Allowed op) (done : s.step op = .ok t) :
    t.Ordered := by
  cases op with
  | send call written => exact sendIOCTL_ordered ordered allowed done
  | serve turn => exact serve_ordered ordered allowed done
  | reply written => exact reply_ordered ordered done
  | await turn => exact await_ordered ordered allowed done

theorem step_defined (ordered : s.Ordered) {op : IPCOp} (allowed : s.Allowed op) : Avoids .overrun (s.step op) := by
  cases op with
  | send call written =>
    unfold step sendIOCTL
    dsimp only
    apply avoids_ite
    · exact fun _ => avoids_error (by decide)
    · intro _
      apply avoids_ite
      · exact fun _ => avoids_ok _ _
      · exact fun _ => avoids_ite (fun _ => avoids_ok _ _) (fun _ => avoids_ok _ _)
  | serve turn =>
    obtain ⟨waiting, well, _, isQueued⟩ := ordered.waiting_wellFormed
    unfold step serve serverRound
    dsimp only
    apply avoids_ite
    · exact fun _ => avoids_error (by decide)
    · intro _
      rw [isQueued]
      rcases receive_queued allowed well with received | ⟨m, rest, isFirst, _, received⟩
      · rw [received]
        exact avoids_ok _ _
      · rw [received, processReceived_message (well m (by simp [isFirst])).fits]
        exact avoids_ok _ _
  | reply written =>
    unfold step reply
    cases s.answering with
    | none => exact avoids_error (by decide)
    | some bytes => exact avoids_ok _ _
  | await turn =>
    obtain ⟨answers, _, isQueued⟩ := ordered.queue
    unfold step await
    dsimp only
    cases s.calling with
    | none => exact avoids_error (by decide)
    | some now =>
      obtain ⟨call, phase⟩ := now
      dsimp only
      rw [isQueued]
      rcases readAnswerTurn_cases s.seqId call.out phase allowed answers with
        ⟨_, ⟨next, did⟩ | did⟩ | ⟨a, rest, _, _, did⟩
      · rw [did]
        exact avoids_ok _ _
      · rw [did]
        exact avoids_ok _ _
      · rw [did, acceptAnswer_answer]
        split
        · exact avoids_ok _ _
        · exact avoids_ok _ _
        · rename_i overrun
          split at overrun
          · cases overrun
          · split at overrun
            · cases overrun
            · split at overrun
              · cases overrun
              · cases overrun

/-- Every call that has returned is accounted for; what waits in the answer FIFO are answers to requests that were
served, and a call takes one that is not its own out of it and goes on. No step leaves the message blocks. -/
structure Paired (s : Connection) : Prop where
  returned : ∀ r ∈ s.returned, s.Accounted r
  queue : ∃ answers, answers ⊆ s.served ∧ s.answers = queued (answers.map Served.answer)
  discards : ∀ (a : Served) rest call turn, s.answers = a.answer.bytes ++ rest →
    s.calling = some (call, .reading) → a.request.base.msgSeqId ≠ s.seqId →
    turn.first.Gives sizeofMsgBlockBase → turn.second.Gives maxControllerBufferSize →
    s.await turn = .ok { s with answers := rest }
  defined : ∀ op, s.Allowed op → s.step op ≠ .error .overrun

theorem await_discards {a : Served} {rest : List UInt8} {call : IOCTL} {turn : ClientTurn}
    (isFirst : s.answers = a.answer.bytes ++ rest) (calling : s.calling = some (call, .reading))
    (stale : a.request.base.msgSeqId ≠ s.seqId) (first : turn.first.Gives sizeofMsgBlockBase)
    (second : turn.second.Gives maxControllerBufferSize) : s.await turn = .ok { s with answers := rest } := by
  have turned : readAnswerTurn s.seqId call.out .reading turn s.answers =
      ((a.answer.payload.length, .goesOn .reading), rest) := by
    unfold readAnswerTurn
    dsimp only
    rw [isFirst, receive_message first second a.answer_wellFormed,
      readReceived_message a.answer_wellFormed.fits, acceptAnswer_answer, if_pos stale]
    rfl
  unfold await
  rw [calling]
  dsimp only
  rw [turned]

theorem every_run_is_paired {seqId : UInt32} {ops : List IPCOp} (run : Run step Allowed { seqId } ops s) :
    s.Paired := by
  have ordered : s.Ordered := run.invariant Ordered (init_ordered seqId) fun _ _ _ ordered allowed done =>
    step_ordered ordered allowed done
  constructor
  · exact ordered.returned
  · exact ordered.queue
  · intro a rest call turn isFirst calling stale first second
    exact await_discards isFirst calling stale first second
  · intro op allowed
    exact step_defined ordered allowed

def namingCallback : UInt32 → List UInt8 → UInt32 → CallbackResult :=
  fun msgId _ _ => ⟨msgId.toInt32, [msgId.toUInt8], Nat.le_of_ble_eq_true rfl⟩

/-- The first call is over before the server takes its request; the second finds the answer to it first. -/
def lateAnswer : List IPCOp :=
  let whole := ReadEvent.delivers 4096
  let round := ServerTurn.mk whole whole namingCallback
  [.send ⟨7, [], some 1⟩ true, .await ⟨false, .interrupted, whole, true⟩, .serve round, .reply true,
    .send ⟨8, [1, 2], some 1⟩ true, .serve round, .reply true,
    .await ⟨true, .interrupted, whole, false⟩, .await ⟨true, whole, whole, true⟩,
    .await ⟨true, whole, whole, true⟩]

theorem every_run_is_paired_late : ∃ s, Run step Allowed { seqId := 0 } lateAnswer s ∧
    s.returned = [⟨⟨7, [], some 1⟩, some 0, .timeout, 0, []⟩, ⟨⟨8, [1, 2], some 1⟩, some 1, .success, 8, [8]⟩] ∧
    s.Paired := by
  obtain ⟨s, run, seen⟩ := exists_run IPCFault.notNow step Allowed { seqId := 0 } lateAnswer Connection.returned
    [⟨⟨7, [], some 1⟩, some 0, .timeout, 0, []⟩, ⟨⟨8, [1, 2], some 1⟩, some 1, .success, 8, [8]⟩] (by decide)
  exact ⟨s, run, seen, every_run_is_paired run⟩

end Connection

end RavennaLkm.IPC
