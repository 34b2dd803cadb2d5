import RavennaLkm.Lib.Ledger
import RavennaLkm.Packetisation

/-!
The socket buffer of an outgoing packet, through the three layers that handle it:
SendRTPAudioPacket, the packet functions of EtherTubeNetfilter.c and the wrappers
of c_wrapper_lib.c. The ledger notes when a buffer is allocated and when it is
given away, to `dev_queue_xmit` or to `dev_kfree_skb`.
-/
namespace RavennaLkm
open CheckedLoop Ledger

structure KernelAnswers where
  devAllocSkb : Bool
  skbPut : Bool
  devGetByName : Bool
  devQueueXmit : Int32

structure SkbPool where
  next : Nat := 0
  log : List (Entry Nat) := []

def cwGetNewSkb (k : KernelAnswers) (pool : SkbPool) : Option Nat × SkbPool :=
  if k.devAllocSkb then (some pool.next, ⟨pool.next + 1, pool.log ++ [.obtained pool.next]⟩)
  else (none, pool)

def cwFreeSkb (skb : Nat) (pool : SkbPool) : SkbPool := { pool with log := pool.log ++ [.released skb] }

def devQueueXmit (k : KernelAnswers) (skb : Nat) (pool : SkbPool) : Int32 × SkbPool :=
  (k.devQueueXmit, { pool with log := pool.log ++ [.released skb] })

def cwSocketTxPacket (k : KernelAnswers) (skb : Nat) (dataLen : UInt32) (pool : SkbPool) : Int32 × SkbPool :=
  if !k.devGetByName then (-11, cwFreeSkb skb pool)
  else if dataLen = 0 then (-10, pool)
  else
    let (xmitRetCode, pool) := devQueueXmit k skb pool
    if xmitRetCode < 0 then (xmitRetCode, cwFreeSkb skb pool) else (xmitRetCode, pool)

def acquireTransmitPacket (k : KernelAnswers) (pool : SkbPool) : Option (Nat × UInt32) × SkbPool :=
  match cwGetNewSkb k pool with
  | (none, pool) => (none, pool)
  | (some skb, pool) =>
    if k.skbPut then (some (skb, UInt32.ofNat ethernetStandardFrameSize), pool)
    else (none, cwFreeSkb skb pool)

def transmitAcquiredPacket (k : KernelAnswers) (skb : Nat) (packetSize : UInt32) (pool : SkbPool) :
    Int32 × SkbPool :=
  cwSocketTxPacket k skb packetSize pool

def buildRTPAudioPacket (self : RTPAudioStream) (ops : RTPAudioStreamOps) (livesOut : RingMemory)
    (p : Piece) : Except Fault (RTPAudioStream × TransmittedPacket) := do
  let packet ← convertPieces self ops livesOut p.offset p.n
    (writeBytes (fun _ => none) 0 self.rtpPacketBaseOutgoing.bytes)
  let timestamp := (p.sac + self.rtpStreamInfo.rtpTimestampOffset.toUInt64).toUInt32
  let header := packetHeader self (packetSize self p.n) timestamp p.seqNum
  .ok (recordSent self p.sac p.n,
    ⟨self.ethNetfilter.nicId, packetSize self p.n, writeBytes packet 0 header.bytes⟩)

/-- `SendRTPAudioPacket` with its buffer; `IsLinkUp` always holds. -/
def SkbPool.sendRTPAudioPacket (pool : SkbPool) (k : KernelAnswers) (self : RTPAudioStream)
    (ops : RTPAudioStreamOps) (livesOut : RingMemory) (p : Piece) :
    Except Fault (RTPAudioStream × Option TransmittedPacket × SkbPool) :=
  let minPacketSize := packetSize self p.n
  match acquireTransmitPacket k pool with
  | (none, pool) => .ok (self, none, pool)
  | (some (skb, size), pool) =>
    if size < minPacketSize then .ok (self, none, (transmitAcquiredPacket k skb 0 pool).2)
    else do
      let (stream, packet) ← buildRTPAudioPacket self ops livesOut p
      .ok (stream, some packet, (transmitAcquiredPacket k skb packet.size pool).2)

section

variable {k : KernelAnswers} {self : RTPAudioStream} {ops : RTPAudioStreamOps} {livesOut : RingMemory}
  {p : Piece} {pool : SkbPool}

theorem acquireTransmitPacket_none (noSkb : k.devAllocSkb = false) :
    acquireTransmitPacket k pool = (none, pool) := by
  simp [acquireTransmitPacket, cwGetNewSkb, noSkb]

theorem acquireTransmitPacket_noRoom (skb : k.devAllocSkb = true) (noRoom : k.skbPut = false) :
    acquireTransmitPacket k pool =
      (none, ⟨pool.next + 1, pool.log ++ [.obtained pool.next, .released pool.next]⟩) := by
  simp [acquireTransmitPacket, cwGetNewSkb, cwFreeSkb, skb, noRoom]

theorem acquireTransmitPacket_some (skb : k.devAllocSkb = true) (room : k.skbPut = true) :
    acquireTransmitPacket k pool = (some (pool.next, UInt32.ofNat ethernetStandardFrameSize),
      ⟨pool.next + 1, pool.log ++ [.obtained pool.next]⟩) := by
  simp [acquireTransmitPacket, cwGetNewSkb, skb, room]

def handedOver (k : KernelAnswers) (skb : Nat) (dataLen : UInt32) : List (Entry Nat) :=
  if !k.devGetByName then [.released skb]
  else if dataLen = 0 then []
  else if k.devQueueXmit < 0 then [.released skb, .released skb]
  else [.released skb]

theorem transmitAcquiredPacket_pool (skb : Nat) (dataLen : UInt32) :
    (transmitAcquiredPacket k skb dataLen pool).2 =
      { pool with log := pool.log ++ handedOver k skb dataLen } := by
  unfold transmitAcquiredPacket cwSocketTxPacket handedOver devQueueXmit cwFreeSkb
  split
  · rfl
  · split
    · rw [List.append_nil]
    · dsimp only
      split
      · rw [List.append_assoc]
        rfl
      · rfl

/-- Without the buffers this is the sender that only looks whether one can be had. -/
theorem SkbPool.send_eq (pool : SkbPool) (k : KernelAnswers) (self : RTPAudioStream)
    (ops : RTPAudioStreamOps) (livesOut : RingMemory) (p : Piece) :
    (fun r => (r.1, r.2.1)) <$> pool.sendRTPAudioPacket k self ops livesOut p =
      RavennaLkm.sendRTPAudioPacket self ops (k.devAllocSkb && k.skbPut) livesOut p.sac p.offset p.n p.seqNum := by
  rw [sendRTPAudioPacket_eq]
  unfold SkbPool.sendRTPAudioPacket
  cases skb : k.devAllocSkb with
  | false =>
    rw [acquireTransmitPacket_none skb]
    rfl
  | true =>
    cases room : k.skbPut with
    | false =>
      rw [acquireTransmitPacket_noRoom skb room]
      rfl
    | true =>
      rw [acquireTransmitPacket_some skb room]
      dsimp only
      by_cases large : UInt32.ofNat ethernetStandardFrameSize < packetSize self p.n
      · rw [if_pos large, if_pos (by simpa using large)]
        rfl
      · rw [if_neg large, if_neg (by simpa using large)]
        unfold buildRTPAudioPacket
        cases convertPieces self ops livesOut p.offset p.n _ with
        | error fault => rfl
        | ok packet => rfl

def packetEntries (k : KernelAnswers) (size : UInt32) (skb : Nat) : List (Entry Nat) :=
  if !k.devAllocSkb then []
  else if !k.skbPut then [.obtained skb, .released skb]
  else .obtained skb :: handedOver k skb (if UInt32.ofNat ethernetStandardFrameSize < size then 0 else size)

/-- A call that returns has entered what its size and the answers of the kernel say. -/
theorem SkbPool.send_log {s' : RTPAudioStream} {out : Option TransmittedPacket} {pool' : SkbPool}
    (done : pool.sendRTPAudioPacket k self ops livesOut p = .ok (s', out, pool')) :
    pool'.log = pool.log ++ packetEntries k (packetSize self p.n) pool.next := by
  unfold SkbPool.sendRTPAudioPacket at done
  unfold packetEntries
  cases skb : k.devAllocSkb with
  | false =>
    rw [acquireTransmitPacket_none skb] at done
    cases done
    exact (List.append_nil _).symm
  | true =>
    cases room : k.skbPut with
    | false =>
      rw [acquireTransmitPacket_noRoom skb room] at done
      cases done
      rfl
    | true =>
      rw [acquireTransmitPacket_some skb room] at done
      dsimp only at done
      split at done
      · rename_i large
        cases done
        rw [transmitAcquiredPacket_pool, if_pos large, List.append_assoc]
        rfl
      · rename_i small
        obtain ⟨⟨stream, packet⟩, built, last⟩ := bind_eq_ok.mp done
        obtain ⟨bytes, -, isPacket⟩ := bind_eq_ok.mp built
        cases isPacket
        cases last
        rw [transmitAcquiredPacket_pool, if_neg small, List.append_assoc]
        rfl

end

/-- Each buffer obtained between the two states was given away exactly once between them. -/
def SettledSince (pool pool' : SkbPool) : Prop := ∃ entries, pool'.log = pool.log ++ entries ∧ Settled entries

/-- The cases in which a packet that was acquired is handed over, to a device that takes it. -/
def Sendable (k : KernelAnswers) (size : UInt32) : Prop :=
  size ≠ 0 ∧ size ≤ UInt32.ofNat ethernetStandardFrameSize ∧ 0 ≤ k.devQueueXmit

theorem packetEntries_settled_iff (k : KernelAnswers) (size : UInt32) (skb : Nat) :
    Settled (packetEntries k size skb) ↔
      (k.devAllocSkb = true → k.skbPut = true → k.devGetByName = true → Sendable k size) := by
  unfold packetEntries handedOver Sendable
  cases k.devAllocSkb with
  | false => exact iff_of_true settled_nil fun no => nomatch no
  | true =>
    cases k.skbPut with
    | false => exact iff_of_true (settled_once skb) fun _ no => nomatch no
    | true =>
      cases k.devGetByName with
      | false => exact iff_of_true (settled_once skb) fun _ _ no => nomatch no
      | true =>
        simp only [Bool.not_true, Bool.false_eq_true, if_false, forall_const]
        by_cases large : UInt32.ofNat ethernetStandardFrameSize < size
        · rw [if_pos large, if_pos rfl]
          exact iff_of_false (not_settled_kept skb) fun sendable => absurd large (UInt32.not_lt.mpr sendable.2.1)
        · rw [if_neg large]
          by_cases empty : size = 0
          · rw [if_pos empty]
            exact iff_of_false (not_settled_kept skb) fun sendable => sendable.1 empty
          · rw [if_neg empty]
            by_cases refused : k.devQueueXmit < 0
            · rw [if_pos refused]
              exact iff_of_false (not_settled_twice skb) fun sendable => Int32.not_lt.mpr sendable.2.2 refused
            · rw [if_neg refused]
              exact iff_of_true (settled_once skb) ⟨empty, UInt32.not_lt.mp large, Int32.not_lt.mp refused⟩

section

variable {k : KernelAnswers} {self s' : RTPAudioStream} {ops : RTPAudioStreamOps} {livesOut : RingMemory}
  {p : Piece} {pool pool' : SkbPool} {out : Option TransmittedPacket}

theorem SkbPool.settled_iff_entries
    (done : pool.sendRTPAudioPacket k self ops livesOut p = .ok (s', out, pool')) :
    SettledSince pool pool' ↔ Settled (packetEntries k (packetSize self p.n) pool.next) := by
  have log := SkbPool.send_log done
  constructor
  · rintro ⟨entries, isLog, settled⟩
    rw [log] at isLog
    rwa [List.append_cancel_left isLog]
  · intro settled
    exact ⟨_, log, settled⟩

/-- The buffer of a packet is given away exactly once if and only if no buffer was to be had, there
is no device, or the packet has a size that fits and the device takes it. -/
theorem skb_settled_iff
    (done : pool.sendRTPAudioPacket k self ops livesOut p = .ok (s', out, pool')) :
    SettledSince pool pool' ↔
      (k.devAllocSkb = true → k.skbPut = true → k.devGetByName = true → Sendable k (packetSize self p.n)) :=
  (SkbPool.settled_iff_entries done).trans (packetEntries_settled_iff k _ _)

theorem SkbPool.send_same (done : pool.sendRTPAudioPacket k self ops livesOut p = .ok (s', out, pool')) :
    SameSource self s' := by
  have sent := SkbPool.send_eq pool k self ops livesOut p
  rw [done] at sent
  exact SameSource.of_send sent.symm

def SkbPool.sendPieces (ops : RTPAudioStreamOps) (livesOut : RingMemory) (calls : List (Piece × KernelAnswers))
    (start : RTPAudioStream × SkbPool) : Except Fault (RTPAudioStream × SkbPool) :=
  calls.foldlM (fun st call => do
    let (stream, _, pool) ← st.2.sendRTPAudioPacket call.2 st.1 ops livesOut call.1
    .ok (stream, pool)) start

/-- Over a whole frame too, as long as each packet meets the condition. -/
theorem SkbPool.sendPieces_settled {calls : List (Piece × KernelAnswers)}
    (meets : ∀ call ∈ calls, call.2.devAllocSkb = true → call.2.skbPut = true → call.2.devGetByName = true →
      Sendable call.2 (packetSize self call.1.n))
    (done : SkbPool.sendPieces ops livesOut calls (self, pool) = .ok (s', pool')) : SettledSince pool pool' := by
  induction calls generalizing self pool with
  | nil =>
    cases done
    exact ⟨[], (List.append_nil _).symm, settled_nil⟩
  | cons call rest ih =>
    unfold SkbPool.sendPieces at done
    rw [List.foldlM_cons] at done
    obtain ⟨⟨stream, pool1⟩, first, later⟩ := bind_eq_ok.mp done
    obtain ⟨⟨stream, sent, pool1⟩, isFirst, isNext⟩ := bind_eq_ok.mp first
    cases isNext
    have same : ∀ n, packetSize stream n = packetSize self n := by
      intro n
      rw [packetSize, packetSize, getNbOfLivesOut, getNbOfLivesOut, (SkbPool.send_same isFirst).info]
    have here := (packetEntries_settled_iff _ _ pool.next).mpr (meets call (List.mem_cons_self ..))
    have meetsRest : ∀ call' ∈ rest, call'.2.devAllocSkb = true → call'.2.skbPut = true →
        call'.2.devGetByName = true → Sendable call'.2 (packetSize stream call'.1.n) := by
      intro call' isLater
      rw [same]
      exact meets call' (List.mem_cons_of_mem _ isLater)
    obtain ⟨entries, log, settled⟩ := ih meetsRest later
    rw [SkbPool.send_log isFirst, List.append_assoc] at log
    exact ⟨_, log, here.append settled⟩

end

def stereoPiece : Piece := ⟨4752, 0, 48, 0⟩

theorem stereo_sends (k : KernelAnswers) :
    Succeeds (({} : SkbPool).sendRTPAudioPacket k (announcedStream .l24 3 2 48) liveOutOps (fun _ => {})
      stereoPiece) := by
  have ready : ReadyLeg 48 (announcedStream .l24 3 2 48) := ⟨create_source (by decide) rfl rfl, by decide⟩
  have inside : stereoPiece.offset < liveOutOps.liveOutJitterBufferLength := by decide
  have sends := ready.sends (p := stereoPiece) ⟨liveOutOps, k.devAllocSkb && k.skbPut, fun _ => {}⟩ (.inl inside)
  dsimp only at sends
  rw [← SkbPool.send_eq {} k] at sends
  obtain ⟨_, mapped⟩ := sends
  obtain ⟨done, sent, -⟩ := map_eq_ok.mp mapped
  exact ⟨done, sent⟩

theorem skb_settled_iff_stereo :
    ∃ s' out pool', ({} : SkbPool).sendRTPAudioPacket ⟨true, true, true, 0⟩ (announcedStream .l24 3 2 48)
        liveOutOps (fun _ => {}) stereoPiece = .ok (s', out, pool') ∧
      (SettledSince {} pool' ↔ (true = true → true = true → true = true →
        Sendable ⟨true, true, true, 0⟩ (packetSize (announcedStream .l24 3 2 48) stereoPiece.n))) := by
  obtain ⟨⟨s', out, pool'⟩, done⟩ := stereo_sends ⟨true, true, true, 0⟩
  exact ⟨s', out, pool', done, skb_settled_iff done⟩

/-- A packet that the device refuses is freed again after `dev_queue_xmit` took it; a packet that is
too large for the buffer is cancelled, and its buffer stays behind. -/
theorem skb_not_settled :
    (∃ s' out pool', ({} : SkbPool).sendRTPAudioPacket ⟨true, true, true, -100⟩ (announcedStream .l24 3 2 48)
        liveOutOps (fun _ => {}) stereoPiece = .ok (s', out, pool') ∧ ¬ SettledSince {} pool') ∧
      ∃ s' out pool', ({} : SkbPool).sendRTPAudioPacket ⟨true, true, true, 0⟩ (announcedStream .l24 3 2 48)
        liveOutOps (fun _ => {}) { stereoPiece with n := 1000 } = .ok (s', out, pool') ∧
          ¬ SettledSince {} pool' := by
  constructor
  · obtain ⟨⟨s', out, pool'⟩, done⟩ := stereo_sends ⟨true, true, true, -100⟩
    refine ⟨s', out, pool', done, ?_⟩
    rw [SkbPool.settled_iff_entries done]
    decide
  · have done : ({} : SkbPool).sendRTPAudioPacket ⟨true, true, true, 0⟩ (announcedStream .l24 3 2 48)
        liveOutOps (fun _ => {}) { stereoPiece with n := 1000 } =
          .ok (announcedStream .l24 3 2 48, none, ⟨1, [.obtained 0]⟩) := rfl
    refine ⟨_, _, _, done, ?_⟩
    rw [SkbPool.settled_iff_entries done]
    decide

end RavennaLkm
