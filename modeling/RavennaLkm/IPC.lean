import RavennaLkm.Lib.LittleEndian

/-!
MTAL_IPC.c: requests and answers in two FIFOs, each message a header with a size
and what the size says. What a `read` delivers is up to the kernel: at most what
it was asked for, and what is in the FIFO at the time.
-/
namespace RavennaLkm.IPC
open LittleEndian

def maxControllerBufferSize : Nat := 2048
def sizeofMsgBlockBase : Nat := 16

structure MsgBlockBase where
  msgSize : UInt32
  msgSeqId : UInt32
  msgId : UInt32
  result : Int32
  deriving DecidableEq, Repr

namespace MsgBlockBase

def bytes (base : MsgBlockBase) : List UInt8 :=
  store32 base.msgSize ++ store32 base.msgSeqId ++ store32 base.msgId ++ store32 base.result.toUInt32

def ofBytes (l : List UInt8) : MsgBlockBase :=
  let b := fun k => l.getD k 0
  ⟨load32 b 0, load32 b 4, load32 b 8, (load32 b 12).toInt32⟩

@[simp] theorem length_bytes (base : MsgBlockBase) : base.bytes.length = sizeofMsgBlockBase := rfl

theorem ofBytes_bytes (base : MsgBlockBase) : ofBytes base.bytes = base := by
  have written : Holds (fun k => base.bytes.getD k 0) 0 base.bytes := by
    apply holds_of_getElem
    intro k below
    rw [Nat.zero_add, List.getD_eq_getElem?_getD, List.getElem?_eq_getElem below, Option.getD_some]
  unfold bytes at written
  simp only [holds_append, holds_store32, List.length_append, length_store32, Nat.reduceAdd] at written
  obtain ⟨⟨⟨size, seqId⟩, msgId⟩, result⟩ := written
  unfold ofBytes bytes
  dsimp only
  rw [size, seqId, msgId, result]
  rfl

end MsgBlockBase

/-- How a `read` ends: -1 with EINTR or EAGAIN, -1 with another error, or with at most so many bytes. -/
inductive ReadEvent where
  | interrupted
  | failed
  | delivers (count : Nat)
  deriving DecidableEq, Repr

/-- What the two reads of a message find: nothing before the header, a first read that fails, one byte
or another piece of a header, a second read that fails, and a message with less than all of its payload
or all of it. -/
inductive Received where
  | nothing
  | failed
  | short (bytes : List UInt8)
  | payloadFailed (base : MsgBlockBase)
  | truncated (base : MsgBlockBase) (payload : List UInt8)
  | message (base : MsgBlockBase) (payload : List UInt8)
  deriving DecidableEq, Repr

def announced (base : MsgBlockBase) : Nat := base.msgSize.toNat - sizeofMsgBlockBase

/-- The second `read`, into `pui8Buffer`; the number of its bytes is not limited to the buffer. -/
def receivePayload (base : MsgBlockBase) (second : ReadEvent) (fifo : List UInt8) : Received × List UInt8 :=
  if base.msgSize.toNat > sizeofMsgBlockBase then
    match second with
    | .interrupted | .failed => (.payloadFailed base, fifo)
    | .delivers count =>
      let got := min (announced base) count
      (if (fifo.take got).length < announced base then .truncated base (fifo.take got)
        else .message base (fifo.take got), fifo.drop got)
  else (.message base [], fifo)

def receive (first second : ReadEvent) (fifo : List UInt8) : Received × List UInt8 :=
  match first with
  | .interrupted => (.nothing, fifo)
  | .failed => (.failed, fifo)
  | .delivers count =>
    let header := fifo.take (min sizeofMsgBlockBase count)
    let rest := fifo.drop (min sizeofMsgBlockBase count)
    if header.length = 0 then (.nothing, rest)
    else if header.length < sizeofMsgBlockBase then (.short header, rest)
    else receivePayload (.ofBytes header) second rest

def Received.stored : Received → Nat
  | .truncated _ payload | .message _ payload => payload.length
  | .nothing | .failed | .short _ | .payloadFailed _ => 0

structure CallbackResult where
  result : Int32
  out : List UInt8
  fits : out.length ≤ maxControllerBufferSize

/-- One round of the loop: its two reads, and the callback as it is then. -/
structure ServerTurn where
  first : ReadEvent
  second : ReadEvent
  callback : (msgId : UInt32) → (payload : List UInt8) → (size : UInt32) → CallbackResult

/-- What a round does: the payload bytes in the message block, the size that the callback is handed, and the
answer. -/
structure TurnReport where
  stored : Nat
  handed : Option UInt32 := none
  answer : Option (List UInt8) := none
  deriving DecidableEq, Repr

inductive TurnEnd where
  | goesOn
  | returns (code : Int32)
  | overrun
  deriving DecidableEq, Repr

/-- `ui32MsgSize - sizeof(MTAL_IPC_MsgBlockBase)`, as the parameter of the callback. -/
def handedSize (base : MsgBlockBase) : UInt32 := base.msgSize - UInt32.ofNat sizeofMsgBlockBase

def answerTo (base : MsgBlockBase) (called : CallbackResult) : List UInt8 :=
  { base with
    msgSize := UInt32.ofNat (sizeofMsgBlockBase + called.out.length)
    result := called.result : MsgBlockBase }.bytes ++ called.out

def processReceived (turn : ServerTurn) (received : Received) : TurnReport × TurnEnd :=
  if received.stored > maxControllerBufferSize then ({ stored := received.stored }, .overrun)
  else match received with
    | .nothing => ({ stored := 0 }, .returns 0)
    | .failed | .payloadFailed _ => ({ stored := 0 }, .returns (-1))
    -- a single byte is the end message
    | .short bytes => ({ stored := 0 }, .returns (if bytes.length = 1 then 1 else -1))
    | .truncated _ payload => ({ stored := payload.length }, .returns (-1))
    | .message base payload =>
      let called := turn.callback base.msgId payload (handedSize base)
      ({ stored := payload.length, handed := some (handedSize base), answer := some (answerTo base called) },
        .goesOn)

def serverRound (turn : ServerTurn) (fifo : List UInt8) : (TurnReport × TurnEnd) × List UInt8 :=
  let received := receive turn.first turn.second fifo
  (processReceived turn received.1, received.2)

def processMessageFromFIFO : List ServerTurn → List UInt8 → List TurnReport
  | [], _ => []
  | turn :: turns, fifo =>
    let done := serverRound turn fifo
    done.1.1 :: match done.1.2 with
      | .goesOn => processMessageFromFIFO turns done.2
      | .returns _ | .overrun => []

inductive MTALIPCError where
  | success | fail | invalidBufferSize | timeout
  deriving DecidableEq, Repr

/-- What a round of the two loops finds: whether `select` says that there is something to read, the two reads, and
whether the time is over where it is looked at. -/
structure ClientTurn where
  ready : Bool
  first : ReadEvent
  second : ReadEvent
  overdue : Bool

inductive ClientPhase where
  | selecting | reading
  deriving DecidableEq, Repr

/-- How the client goes on: in a loop, with a result and what it has copied to the buffer of the caller, or not. -/
inductive ClientEnd where
  | goesOn (phase : ClientPhase)
  | returns (error : MTALIPCError) (msgErr : Int32) (out : List UInt8)
  | overrun
  deriving DecidableEq, Repr

def elapsed (turn : ClientTurn) : ClientEnd := if turn.overdue then .returns .timeout 0 [] else .goesOn .selecting

/-- An answer that is there in full; `out` is `*pui32OutBufferSize`, if there is a buffer for the answer. -/
def acceptAnswer (seqId : UInt32) (out : Option UInt32) (base : MsgBlockBase) (payload : List UInt8) : ClientEnd :=
  if base.msgSeqId ≠ seqId then .goesOn .reading
  else match out with
    | none => .returns .success base.result []
    | some size =>
      if handedSize base ≠ size then .returns .invalidBufferSize 0 []
      else .returns .success base.result (payload.take size.toNat)

def readReceived (seqId : UInt32) (out : Option UInt32) (turn : ClientTurn) (received : Received) : ClientEnd :=
  if received.stored > maxControllerBufferSize then .overrun
  else match received with
    | .nothing => elapsed turn
    | .failed | .payloadFailed _ | .short _ | .truncated _ _ => .returns .fail 0 []
    | .message base payload => acceptAnswer seqId out base payload

def readAnswerTurn (seqId : UInt32) (out : Option UInt32) (phase : ClientPhase) (turn : ClientTurn)
    (fifo : List UInt8) : (Nat × ClientEnd) × List UInt8 :=
  match phase with
  | .selecting => ((0, if turn.ready then .goesOn .reading else elapsed turn), fifo)
  | .reading =>
    let received := receive turn.first turn.second fifo
    ((received.1.stored, readReceived seqId out turn received.1), received.2)

def readAnswerFromFIFO (seqId : UInt32) (out : Option UInt32) :
    ClientPhase → List ClientTurn → List UInt8 → List (Nat × ClientEnd)
  | _, [], _ => []
  | phase, turn :: turns, fifo =>
    let done := readAnswerTurn seqId out phase turn fifo
    done.1 :: match done.1.2 with
      | .goesOn next => readAnswerFromFIFO seqId out next turns done.2
      | .returns _ _ _ | .overrun => []

def ReadEvent.available (event : ReadEvent) (fifo : List UInt8) : Nat :=
  match event with
  | .interrupted | .failed => 0
  | .delivers count => min count fifo.length

/-- A header that was read in full, with the number of bytes that the second read can have. -/
structure Arrival where
  base : MsgBlockBase
  available : Nat
  deriving DecidableEq, Repr

def arrival (first second : ReadEvent) (fifo : List UInt8) : Option Arrival :=
  match first with
  | .interrupted | .failed => none
  | .delivers count =>
    if min count fifo.length < sizeofMsgBlockBase then none
    else
      some {
        base := .ofBytes (fifo.take sizeofMsgBlockBase)
        available := second.available (fifo.drop sizeofMsgBlockBase) }

def Arrival.FitsBlock (a : Arrival) : Prop :=
  a.base.msgSize.toNat ≤ sizeofMsgBlockBase + maxControllerBufferSize ∨ a.available ≤ maxControllerBufferSize

def Arrival.Fits (a : Arrival) : Prop := sizeofMsgBlockBase ≤ a.base.msgSize.toNat ∧ a.FitsBlock

variable {first second : ReadEvent} {fifo : List UInt8} {a : Arrival}

theorem receive_of_no_arrival (noHeader : arrival first second fifo = none) :
    (receive first second fifo).1 = .nothing ∨ (receive first second fifo).1 = .failed ∨
      ∃ bytes, (receive first second fifo).1 = .short bytes := by
  cases first with
  | interrupted => exact .inl rfl
  | failed => exact .inr (.inl rfl)
  | delivers count =>
    unfold arrival at noHeader
    dsimp only at noHeader
    split at noHeader
    · rename_i few
      have less : (fifo.take (min sizeofMsgBlockBase count)).length < sizeofMsgBlockBase := by
        rw [List.length_take]
        omega
      unfold receive
      dsimp only
      by_cases empty : (fifo.take (min sizeofMsgBlockBase count)).length = 0
      · rw [if_pos empty]
        exact .inl rfl
      · rw [if_neg empty, if_pos less]
        exact .inr (.inr ⟨_, rfl⟩)
    · cases noHeader

theorem receivePayload_cases (base : MsgBlockBase) (second : ReadEvent) (fifo : List UInt8) :
    (announced base ≤ second.available fifo ∧ receivePayload base second fifo =
        (.message base (fifo.take (announced base)), fifo.drop (announced base))) ∨
      second.available fifo < announced base ∧
        (second.available fifo = 0 ∧ (receivePayload base second fifo).1 = .payloadFailed base ∨
        ∃ payload, payload.length = second.available fifo ∧
          (receivePayload base second fifo).1 = .truncated base payload) := by
  unfold receivePayload
  by_cases some : base.msgSize.toNat > sizeofMsgBlockBase
  · rw [if_pos some]
    have someAnnounced : 0 < announced base := by
      unfold announced
      omega
    cases second with
    | interrupted => exact .inr ⟨someAnnounced, .inl ⟨rfl, rfl⟩⟩
    | failed => exact .inr ⟨someAnnounced, .inl ⟨rfl, rfl⟩⟩
    | delivers count =>
      dsimp only [ReadEvent.available]
      have length : (fifo.take (min (announced base) count)).length =
          min (min (announced base) count) fifo.length := List.length_take
      by_cases few : (fifo.take (min (announced base) count)).length < announced base
      · rw [if_pos few]
        right
        constructor
        · omega
        · refine .inr ⟨_, ?_, rfl⟩
          omega
      · have all : min (announced base) count = announced base := by omega
        rw [if_neg few, all]
        left
        constructor
        · omega
        · rfl
  · have none : announced base = 0 := by
      unfold announced
      omega
    rw [if_neg some, none]
    exact .inl ⟨Nat.zero_le _, rfl⟩

/-- A message is there in full, or a part of its payload is, or none that can be read. -/
theorem receive_of_arrival (found : arrival first second fifo = some a) :
    (announced a.base ≤ a.available ∧ receive first second fifo =
        (.message a.base ((fifo.drop sizeofMsgBlockBase).take (announced a.base)),
          fifo.drop (sizeofMsgBlockBase + announced a.base))) ∨
      a.available < announced a.base ∧
        (a.available = 0 ∧ (receive first second fifo).1 = .payloadFailed a.base ∨
        ∃ payload, payload.length = a.available ∧ (receive first second fifo).1 = .truncated a.base payload) := by
  cases first with
  | interrupted => cases found
  | failed => cases found
  | delivers count =>
    unfold arrival at found
    dsimp only at found
    split at found
    · cases found
    · rename_i whole
      cases found
      have header : min sizeofMsgBlockBase count = sizeofMsgBlockBase := by omega
      have length : (fifo.take sizeofMsgBlockBase).length = sizeofMsgBlockBase := by
        rw [List.length_take]
        omega
      have received : receive (.delivers count) second fifo =
          receivePayload (.ofBytes (fifo.take sizeofMsgBlockBase)) second (fifo.drop sizeofMsgBlockBase) := by
        unfold receive
        dsimp only
        rw [header, length, if_neg (by decide), if_neg (Nat.lt_irrefl _)]
      rw [received, ← List.drop_drop]
      exact receivePayload_cases _ second (fifo.drop sizeofMsgBlockBase)

/-- The payload is inside the message block, the callback is handed its size, and the answer is not larger. -/
structure TurnReport.Safe (report : TurnReport) : Prop where
  stored : report.stored ≤ maxControllerBufferSize
  handed : ∀ size, report.handed = some size → size.toNat = report.stored
  answer : ∀ bytes, report.answer = some bytes → bytes.length ≤ sizeofMsgBlockBase + maxControllerBufferSize

theorem length_answerTo (base : MsgBlockBase) (called : CallbackResult) :
    (answerTo base called).length ≤ sizeofMsgBlockBase + maxControllerBufferSize := by
  have fits := called.fits
  unfold answerTo
  rw [List.length_append, MsgBlockBase.length_bytes]
  omega

theorem available_le (found : arrival first second fifo = some a) :
    a.available ≤ (fifo.drop sizeofMsgBlockBase).length := by
  unfold arrival at found
  split at found
  · cases found
  · cases found
  · split at found
    · cases found
    · cases found
      unfold ReadEvent.available
      split
      · exact Nat.zero_le _
      · exact Nat.zero_le _
      · exact Nat.min_le_right _ _

theorem handedSize_eq_iff (base : MsgBlockBase) :
    (handedSize base).toNat = announced base ↔ sizeofMsgBlockBase ≤ base.msgSize.toNat := by
  have bound := base.msgSize.toNat_lt
  have header : (UInt32.ofNat sizeofMsgBlockBase).toNat = 16 := rfl
  unfold handedSize announced sizeofMsgBlockBase
  unfold sizeofMsgBlockBase at header
  rw [UInt32.toNat_sub, header]
  omega

theorem processReceived_overrun {turn : ServerTurn} {received : Received}
    (large : ¬ received.stored ≤ maxControllerBufferSize) :
    processReceived turn received = ({ stored := received.stored }, .overrun) := if_pos (Nat.not_le.mp large)

theorem processReceived_message {turn : ServerTurn} {base : MsgBlockBase} {payload : List UInt8}
    (fits : payload.length ≤ maxControllerBufferSize) :
    processReceived turn (.message base payload) =
      ({ stored := payload.length, handed := some (handedSize base),
         answer := some (answerTo base (turn.callback base.msgId payload (handedSize base))) }, .goesOn) :=
  if_neg (Nat.not_lt.mpr fits)

theorem processReceived_truncated {turn : ServerTurn} {base : MsgBlockBase} {payload : List UInt8}
    (fits : payload.length ≤ maxControllerBufferSize) :
    processReceived turn (.truncated base payload) = ({ stored := payload.length }, .returns (-1)) :=
  if_neg (Nat.not_lt.mpr fits)

theorem serverRound_safe_iff (turn : ServerTurn) (fifo : List UInt8) :
    (serverRound turn fifo).1.1.Safe ↔ ∀ a, arrival turn.first turn.second fifo = some a → a.Fits := by
  have idle : TurnReport.Safe { stored := 0 } := ⟨Nat.zero_le _, by simp, by simp⟩
  unfold serverRound
  dsimp only
  cases found : arrival turn.first turn.second fifo with
  | none =>
    simp only [reduceCtorEq, false_implies, implies_true, iff_true]
    rcases receive_of_no_arrival found with did | did | ⟨bytes, did⟩
    all_goals
      rw [did]
      exact idle
  | some a =>
    have inside := available_le found
    simp only [Option.some.injEq, forall_eq']
    unfold Arrival.Fits Arrival.FitsBlock
    rcases receive_of_arrival found with ⟨enough, did⟩ | ⟨few, ⟨none, did⟩ | ⟨payload, length, did⟩⟩
    · have stored : ((fifo.drop sizeofMsgBlockBase).take (announced a.base)).length = announced a.base :=
        List.length_take_of_le (by omega)
      rw [did]
      generalize (fifo.drop sizeofMsgBlockBase).take (announced a.base) = payload at stored
      by_cases fits : payload.length ≤ maxControllerBufferSize
      · rw [processReceived_message fits, ← handedSize_eq_iff]
        constructor
        · intro safe
          have handed := safe.handed _ rfl
          rw [stored] at handed fits
          unfold announced at fits
          exact ⟨handed, by omega⟩
        · intro ⟨handed, _⟩
          constructor
          · exact fits
          · intro size isSize
            cases isSize
            exact handed.trans stored.symm
          · intro bytes isAnswer
            cases isAnswer
            exact length_answerTo ..
      · have large : ¬ (Received.message a.base payload).stored ≤ maxControllerBufferSize := fits
        rw [processReceived_overrun large]
        constructor
        · intro safe
          exact absurd safe.stored fits
        · intro ⟨_, inBlock⟩
          rw [stored] at fits
          unfold announced at fits enough
          omega
    · rw [did]
      unfold announced at few
      exact iff_of_true idle ⟨by omega, .inr (by omega)⟩
    · rw [did]
      unfold announced at few
      by_cases fits : payload.length ≤ maxControllerBufferSize
      · rw [processReceived_truncated fits]
        exact iff_of_true ⟨fits, by simp, by simp⟩ ⟨by omega, .inr (by omega)⟩
      · have large : ¬ (Received.truncated a.base payload).stored ≤ maxControllerBufferSize := fits
        rw [processReceived_overrun large]
        constructor
        · intro safe
          exact absurd safe.stored fits
        · intro ⟨_, inBlock⟩
          omega

/-- What a round of the client leaves: the payload is inside the message block, and a caller that gives a buffer
gets as many bytes as were read. -/
structure ClientSafe (out : Option UInt32) (done : Nat × ClientEnd) : Prop where
  stored : done.1 ≤ maxControllerBufferSize
  handed : ∀ msgErr bytes size, done.2 = .returns .success msgErr bytes → out = some size →
    size.toNat = done.1 ∧ bytes.length = done.1

theorem readReceived_overrun {seqId : UInt32} {out : Option UInt32} {turn : ClientTurn} {received : Received}
    (large : ¬ received.stored ≤ maxControllerBufferSize) : readReceived seqId out turn received = .overrun :=
  if_pos (Nat.not_le.mp large)

theorem readReceived_message {seqId : UInt32} {out : Option UInt32} {turn : ClientTurn} {base : MsgBlockBase}
    {payload : List UInt8} (fits : payload.length ≤ maxControllerBufferSize) :
    readReceived seqId out turn (.message base payload) = acceptAnswer seqId out base payload :=
  if_neg (Nat.not_lt.mpr fits)

theorem clientSafe_of_no_success {out : Option UInt32} {done : Nat × ClientEnd}
    (stored : done.1 ≤ maxControllerBufferSize) (other : ∀ msgErr bytes, done.2 ≠ .returns .success msgErr bytes) :
    ClientSafe out done := by
  constructor
  · exact stored
  · intro msgErr bytes size isSuccess
    exact absurd isSuccess (other msgErr bytes)

theorem elapsed_no_success (turn : ClientTurn) (msgErr : Int32) (bytes : List UInt8) :
    elapsed turn ≠ .returns .success msgErr bytes := by
  unfold elapsed
  split
  all_goals simp

theorem acceptAnswer_safe {seqId : UInt32} {out : Option UInt32} {base : MsgBlockBase} {payload : List UInt8}
    (capacity : ∀ size, out = some size → size.toNat ≤ maxControllerBufferSize)
    (fits : payload.length ≤ maxControllerBufferSize) (length : payload.length = announced base) :
    ClientSafe out (payload.length, acceptAnswer seqId out base payload) := by
  constructor
  · exact fits
  · intro msgErr bytes size isSuccess isSize
    have room := capacity size isSize
    unfold acceptAnswer at isSuccess
    rw [isSize] at isSuccess
    dsimp only at isSuccess
    split at isSuccess
    · cases isSuccess
    · split at isSuccess
      · cases isSuccess
      · rename_i same
        cases isSuccess
        have value : (handedSize base).toNat = size.toNat := congrArg UInt32.toNat (not_not.mp same)
        have whole : sizeofMsgBlockBase ≤ base.msgSize.toNat := by
          by_contra less
          have bound := base.msgSize.toNat_lt
          unfold handedSize at value
          rw [UInt32.toNat_sub] at value
          change (2 ^ 32 - 16 + base.msgSize.toNat) % 2 ^ 32 = size.toNat at value
          change size.toNat ≤ 2048 at room
          change ¬ 16 ≤ base.msgSize.toNat at less
          omega
        have isAnnounced := (handedSize_eq_iff base).mpr whole
        constructor
        · omega
        · rw [List.length_take]
          omega

theorem readAnswerTurn_safe_iff {seqId : UInt32} {out : Option UInt32} {phase : ClientPhase} {turn : ClientTurn}
    {fifo : List UInt8} (capacity : ∀ size, out = some size → size.toNat ≤ maxControllerBufferSize) :
    ClientSafe out (readAnswerTurn seqId out phase turn fifo).1 ↔
      (phase = .reading → ∀ a, arrival turn.first turn.second fifo = some a → a.FitsBlock) := by
  cases phase with
  | selecting =>
    simp only [reduceCtorEq, false_implies, iff_true]
    apply clientSafe_of_no_success (Nat.zero_le _)
    intro msgErr bytes
    unfold readAnswerTurn
    dsimp only
    split
    · simp
    · exact elapsed_no_success turn msgErr bytes
  | reading =>
    rw [forall_prop_of_true rfl]
    unfold readAnswerTurn
    dsimp only
    cases found : arrival turn.first turn.second fifo with
    | none =>
      simp only [reduceCtorEq, false_implies, implies_true, iff_true]
      rcases receive_of_no_arrival found with did | did | ⟨bytes, did⟩
      all_goals
        rw [did]
        apply clientSafe_of_no_success (Nat.zero_le _)
        intro msgErr bytes
      · exact elapsed_no_success turn msgErr bytes
      · exact fun same => nomatch same
      · exact fun same => nomatch same
    | some a =>
      have inside := available_le found
      simp only [Option.some.injEq, forall_eq']
      unfold Arrival.FitsBlock
      rcases receive_of_arrival found with ⟨enough, did⟩ | ⟨few, ⟨none, did⟩ | ⟨payload, length, did⟩⟩
      · have stored : ((fifo.drop sizeofMsgBlockBase).take (announced a.base)).length = announced a.base :=
          List.length_take_of_le (by omega)
        rw [did]
        generalize (fifo.drop sizeofMsgBlockBase).take (announced a.base) = payload at stored
        by_cases fits : payload.length ≤ maxControllerBufferSize
        · rw [readReceived_message fits]
          apply iff_of_true (acceptAnswer_safe capacity fits stored)
          rw [stored] at fits
          unfold announced at fits
          omega
        · have large : ¬ (Received.message a.base payload).stored ≤ maxControllerBufferSize := fits
          rw [readReceived_overrun large]
          constructor
          · intro safe
            exact absurd safe.stored fits
          · intro inBlock
            rw [stored] at fits
            unfold announced at fits enough
            omega
      · rw [did]
        refine iff_of_true (clientSafe_of_no_success (Nat.zero_le _) ?_) (.inr (by omega))
        exact fun _ _ same => nomatch same
      · rw [did]
        by_cases fits : payload.length ≤ maxControllerBufferSize
        · have failed : readReceived seqId out turn (.truncated a.base payload) = .returns .fail 0 [] :=
            if_neg (Nat.not_lt.mpr fits)
          rw [failed]
          refine iff_of_true (clientSafe_of_no_success fits ?_) (.inr (by omega))
          exact fun _ _ same => nomatch same
        · have large : ¬ (Received.truncated a.base payload).stored ≤ maxControllerBufferSize := fits
          rw [readReceived_overrun large]
          constructor
          · intro safe
            exact absurd safe.stored fits
          · intro inBlock
            unfold announced at few
            omega

/-- The rounds of `process_message_from_fifo`, with what is still to come from the FIFO at each. -/
def serverRounds : List ServerTurn → List UInt8 → List (ServerTurn × List UInt8)
  | [], _ => []
  | turn :: turns, fifo =>
    let done := serverRound turn fifo
    (turn, fifo) :: match done.1.2 with
      | .goesOn => serverRounds turns done.2
      | .returns _ | .overrun => []

def clientRounds (seqId : UInt32) (out : Option UInt32) :
    ClientPhase → List ClientTurn → List UInt8 → List (ClientPhase × ClientTurn × List UInt8)
  | _, [], _ => []
  | phase, turn :: turns, fifo =>
    let done := readAnswerTurn seqId out phase turn fifo
    (phase, turn, fifo) :: match done.1.2 with
      | .goesOn next => clientRounds seqId out next turns done.2
      | .returns _ _ _ | .overrun => []

theorem processMessageFromFIFO_eq (turns : List ServerTurn) (fifo : List UInt8) :
    processMessageFromFIFO turns fifo = (serverRounds turns fifo).map fun r => (serverRound r.1 r.2).1.1 := by
  induction turns generalizing fifo with
  | nil => rfl
  | cons turn turns ih =>
    unfold processMessageFromFIFO serverRounds
    dsimp only
    rw [List.map_cons]
    congr 1
    cases (serverRound turn fifo).1.2 with
    | goesOn => exact ih _
    | returns code => rfl
    | overrun => rfl

theorem readAnswerFromFIFO_eq (seqId : UInt32) (out : Option UInt32) (phase : ClientPhase)
    (turns : List ClientTurn) (fifo : List UInt8) : readAnswerFromFIFO seqId out phase turns fifo =
      (clientRounds seqId out phase turns fifo).map fun r => (readAnswerTurn seqId out r.1 r.2.1 r.2.2).1 := by
  induction turns generalizing phase fifo with
  | nil => rfl
  | cons turn turns ih =>
    unfold readAnswerFromFIFO clientRounds
    dsimp only
    rw [List.map_cons]
    congr 1
    cases (readAnswerTurn seqId out phase turn fifo).1.2 with
    | goesOn next => exact ih ..
    | returns error msgErr bytes => rfl
    | overrun => rfl

/-- Both peers, on any bytes that come in any pieces. -/
structure ParsingSafe (turns : List ServerTurn) (requests : List UInt8) (seqId : UInt32) (out : Option UInt32)
    (clientTurns : List ClientTurn) (answers : List UInt8) : Prop where
  server : ∀ report ∈ processMessageFromFIFO turns requests, report.Safe
  client : ∀ done ∈ readAnswerFromFIFO seqId out .selecting clientTurns answers, ClientSafe out done

/-- Every request that is read has a size of at least that of its header, and of no message there are more bytes
than the message block has room for. -/
structure MessagesFit (turns : List ServerTurn) (requests : List UInt8) (seqId : UInt32) (out : Option UInt32)
    (clientTurns : List ClientTurn) (answers : List UInt8) : Prop where
  server : ∀ r ∈ serverRounds turns requests, ∀ a, arrival r.1.first r.1.second r.2 = some a → a.Fits
  client : ∀ r ∈ clientRounds seqId out .selecting clientTurns answers, r.1 = .reading →
    ∀ a, arrival r.2.1.first r.2.1.second r.2.2 = some a → a.FitsBlock

/-- `MTAL_IPC_SendIOCTL` refuses a buffer for the answer that is larger than the message block. -/
theorem parsing_safe_iff {turns : List ServerTurn} {requests : List UInt8} {seqId : UInt32} {out : Option UInt32}
    {clientTurns : List ClientTurn} {answers : List UInt8}
    (capacity : ∀ size, out = some size → size.toNat ≤ maxControllerBufferSize) :
    ParsingSafe turns requests seqId out clientTurns answers ↔
      MessagesFit turns requests seqId out clientTurns answers := by
  have server : (∀ report ∈ processMessageFromFIFO turns requests, report.Safe) ↔
      ∀ r ∈ serverRounds turns requests, ∀ a, arrival r.1.first r.1.second r.2 = some a → a.Fits := by
    rw [processMessageFromFIFO_eq, List.forall_mem_map]
    apply forall₂_congr
    intro r _
    exact serverRound_safe_iff r.1 r.2
  have client : (∀ done ∈ readAnswerFromFIFO seqId out .selecting clientTurns answers, ClientSafe out done) ↔
      ∀ r ∈ clientRounds seqId out .selecting clientTurns answers, r.1 = .reading →
        ∀ a, arrival r.2.1.first r.2.1.second r.2.2 = some a → a.FitsBlock := by
    rw [readAnswerFromFIFO_eq, List.forall_mem_map]
    apply forall₂_congr
    intro r _
    exact readAnswerTurn_safe_iff capacity
  constructor
  · intro safe
    exact ⟨server.mp safe.server, client.mp safe.client⟩
  · intro fit
    exact ⟨server.mpr fit.server, client.mpr fit.client⟩

def silentCallback : UInt32 → List UInt8 → UInt32 → CallbackResult := fun _ _ _ => ⟨0, [], Nat.zero_le _⟩

def wholeRead : ServerTurn := ⟨.delivers 4096, .delivers 4096, silentCallback⟩

/-- Two requests without a payload, and a client that waits for an answer of four bytes. -/
theorem parsing_safe_iff_idle :
    let requests := MsgBlockBase.bytes ⟨16, 1, 7, 0⟩ ++ MsgBlockBase.bytes ⟨16, 2, 7, 0⟩
    ParsingSafe [wholeRead, wholeRead] requests 1 (some 4) [] [] ↔
      MessagesFit [wholeRead, wholeRead] requests 1 (some 4) [] [] := by
  have capacity : ∀ size, some (4 : UInt32) = some size → size.toNat ≤ maxControllerBufferSize := by
    intro size isSize
    cases isSize
    decide
  exact parsing_safe_iff capacity

/-- A request whose size is 0: the callback is to look at 2^32 - 16 bytes, of which none was read. -/
theorem undersized_request_unsafe : ¬ ∀ turns requests seqId out clientTurns answers,
    (∀ size, out = some size → size.toNat ≤ maxControllerBufferSize) →
    ParsingSafe turns requests seqId out clientTurns answers := by
  intro all
  have safe := (all [wholeRead] (List.replicate 16 0) 1 none [] [] (by simp)).server
  let report : TurnReport :=
    { stored := 0, handed := some 0xFFFFFFF0, answer := some (MsgBlockBase.bytes ⟨16, 0, 0, 0⟩) }
  have handed := (safe report (by decide)).handed _ rfl
  exact absurd handed (by decide)

end RavennaLkm.IPC
