import RavennaLkm.Election
import RavennaLkm.Lib.SignedWords
import RavennaLkm.PacketDispatch

/-!
The time in a message of the master, from its bytes on the wire to `T1`: 48 bits
of seconds, 32 of nanoseconds and a signed correction in 2 ^ -16 ns. A one-step
Sync and a Follow_Up are read alike.
-/
namespace RavennaLkm
open LittleEndian SignedWords

def networkOrder48 (b : Nat → UInt8) (pos : Nat) : Nat :=
  networkOrder16 b pos * 2 ^ 32 + networkOrder32 b (pos + 2)

def networkOrder64 (b : Nat → UInt8) (pos : Nat) : Nat :=
  networkOrder32 b pos * 2 ^ 32 + networkOrder32 b (pos + 4)

theorem toNat_load64 (b : Nat → UInt8) (pos : Nat) :
    (load64 b pos).toNat = (load32 b (pos + 4)).toNat * 2 ^ 32 + (load32 b pos).toNat := by
  have low := (load32 b pos).toNat_lt
  have high := (load32 b (pos + 4)).toNat_lt
  unfold load64
  rw [UInt64.toNat_or, UInt64.toNat_shiftLeft, UInt32.toNat_toUInt64, UInt32.toNat_toUInt64, Nat.or_comm]
  change (load32 b (pos + 4)).toNat <<< 32 % 2 ^ 64 ||| _ = _
  rw [Nat.shiftLeft_eq, Nat.mod_eq_of_lt (by omega), BitFields.or_fields _ _ low]

theorem toNat_swap64_load (b : Nat → UInt8) (pos : Nat) :
    (mtalSwap64 (load64 b pos)).toNat = networkOrder64 b pos := by
  have low := (load32 b pos).toNat_lt
  have high := (load32 b (pos + 4)).toNat_lt
  have whole := toNat_load64 b pos
  have lowWord : (load64 b pos).toUInt32 = load32 b pos := by
    apply UInt32.toNat_inj.mp
    rw [UInt64.toNat_toUInt32, whole]
    omega
  have highWord : (load64 b pos >>> 32).toUInt32 = load32 b (pos + 4) := by
    apply UInt32.toNat_inj.mp
    rw [UInt64.toNat_toUInt32, UInt64.toNat_shiftRight, whole]
    change _ >>> 32 % 2 ^ 32 = _
    rw [Nat.shiftRight_eq_div_pow]
    omega
  have swappedLow := (mtalSwap32 (load32 b pos)).toNat_lt
  have swappedHigh := (mtalSwap32 (load32 b (pos + 4))).toNat_lt
  unfold mtalSwap64 networkOrder64
  rw [lowWord, highWord, UInt64.toNat_or, UInt64.toNat_shiftLeft, UInt32.toNat_toUInt64, UInt32.toNat_toUInt64,
    ← toNat_swap32_load, ← toNat_swap32_load]
  change (mtalSwap32 (load32 b pos)).toNat <<< 32 % 2 ^ 64 ||| _ = _
  rw [Nat.shiftLeft_eq, Nat.mod_eq_of_lt (by omega), BitFields.or_fields _ _ swappedHigh]

theorem toNat_foldl_shift (bytes : List UInt8) {x : UInt64} (small : (x.toNat + 1) * 256 ^ bytes.length ≤ 2 ^ 64) :
    (bytes.foldl (fun (ui64 : UInt64) byte => ui64 <<< 8 + byte.toUInt64) x).toNat =
      bytes.foldl (fun n byte => n * 256 + byte.toNat) x.toNat := by
  induction bytes generalizing x with
  | nil => rfl
  | cons byte rest ih =>
    have bound := byte.toNat_lt
    have one : 1 ≤ 256 ^ rest.length := Nat.one_le_pow _ _ (by decide)
    rw [List.length_cons, Nat.pow_succ', ← Nat.mul_assoc] at small
    have room : (x.toNat + 1) * 256 ≤ 2 ^ 64 := Nat.le_trans (Nat.le_mul_of_pos_right _ one) small
    have shifted : (x <<< 8 + byte.toUInt64).toNat = x.toNat * 256 + byte.toNat := by
      rw [UInt64.toNat_add, UInt64.toNat_shiftLeft, UInt8.toNat_toUInt64]
      change (x.toNat <<< 8 % 2 ^ 64 + _) % 2 ^ 64 = _
      rw [Nat.shiftLeft_eq]
      omega
    rw [List.foldl_cons, List.foldl_cons, ← shifted]
    apply ih
    rw [shifted]
    exact Nat.le_trans (Nat.mul_le_mul_right _ (by omega)) small

theorem toNat_getSeconds (b : Nat → UInt8) (pos : Nat) :
    (getSeconds (.ofBytes b pos)).toNat = networkOrder48 b pos := by
  have fourth : pos + 2 + 2 = pos + 4 := rfl
  have small : (UInt64.toNat 0 + 1) * 256 ^ (MACAddress.ofBytes b pos).bytes.length ≤ 2 ^ 64 :=
    show (0 + 1) * 256 ^ 6 ≤ 2 ^ 64 by decide
  unfold getSeconds
  rw [toNat_foldl_shift _ small]
  unfold networkOrder48 networkOrder32 networkOrder16
  rw [fourth]
  simp only [MACAddress.bytes, MACAddress.ofBytes, List.foldl_cons, List.foldl_nil, UInt64.toNat_zero, Nat.add_assoc,
    Nat.reduceAdd]
  omega

/-- When a message was sent, in ns, from the fields of its bytes: the seconds, the nanoseconds and the whole part
of the correction, the last two signed. -/
def sentTime (b : Nat → UInt8) : Int :=
  networkOrder48 b 76 * 1000000000 + (networkOrder32 b 82 : Int).bmod (2 ^ 32) +
    (networkOrder64 b 50 : Int).bmod (2 ^ 64) / 2 ^ 16

theorem originTime_exact {b : Nat → UInt8} (low : 0 ≤ sentTime b) (high : sentTime b < 2 ^ 64) :
    ((originTime (.ofBytes b) (.ofBytes b)).toNat : Int) = sentTime b / 100000 := by
  have seconds := toNat_getSeconds b 76
  have correction : (mtalSwap64 (load64 b 50)).toInt64.toInt = (networkOrder64 b 50 : Int).bmod (2 ^ 64) := by
    rw [toInt_toInt64, toNat_swap64_load]
  have nanoseconds : (mtalSwap32 (load32 b 82)).toInt32.toInt64.toInt =
      (networkOrder32 b 82 : Int).bmod (2 ^ 32) := by
    rw [Int32.toInt_toInt64, ← toNat_swap32_load]
    exact BitVec.toInt_eq_toNat_bmod _
  unfold sentTime at low high ⊢
  rw [← seconds, ← nanoseconds, ← correction, ← toInt_shiftRight_16] at low high ⊢
  change (((getSeconds (.ofBytes b 76) * (1000000000 : UInt64) + (mtalSwap32 (load32 b 82)).toInt32.toInt64.toUInt64 +
    ((mtalSwap64 (load64 b 50)).toInt64 >>> 16).toUInt64) / (100000 : UInt64)).toNat : Int) = _
  rw [UInt64.toNat_div, Int.natCast_ediv, toNat_add_toUInt64_emod, toNat_add_toUInt64_emod, UInt64.toNat_mul]
  have billion : UInt64.toNat 1000000000 = 1000000000 := rfl
  rw [billion]
  change _ / 100000 = _
  congr 1
  generalize (getSeconds (.ofBytes b 76)).toNat = whole at *
  omega

def PTPMessage.origin : PTPMessage → Option V2TimeRepresentation
  | .sync _ origin | .followUp _ origin => some origin
  | .announce _ _ | .other _ => none

namespace ClockPTP

theorem fields_of_packet {packet : List UInt8} {message : PTPMessage}
    (isPTP : PTPMessage.ofPacket packet = some message) :
    message.header = .ofBytes (byteAt packet) ∧
      ∀ origin, message.origin = some origin → origin = .ofBytes (byteAt packet) := by
  unfold PTPMessage.ofPacket at isPTP
  simp only at isPTP
  split at isPTP
  · cases isPTP
  split at isPTP
  · cases isPTP
  split at isPTP
  · cases isPTP
  split at isPTP
  · split at isPTP
    · cases isPTP
    · cases isPTP
      exact ⟨rfl, fun _ same => (Option.some.inj same).symm⟩
  · split at isPTP
    · cases isPTP
    · cases isPTP
      exact ⟨rfl, fun _ same => (Option.some.inj same).symm⟩
  · split at isPTP
    · cases isPTP
    · cases isPTP
      exact ⟨rfl, nofun⟩
  · cases isPTP
    exact ⟨rfl, nofun⟩

structure TakesSync (c : ClockPTP) (packet : List UInt8) (h : V2MsgHeader) (origin : V2TimeRepresentation) :
    Prop where
  listens : c.listens = true
  isSync : PTPMessage.ofPacket packet = some (.sync h origin)
  master : h.clockIdentity = c.ptpMasterClockIdentity
  contiguous : c.deltaSeq h ≤ ptpLockHysteresis
  oneStep : isPTPTwoStep h.flags = false

structure TakesFollowUp (c : ClockPTP) (packet : List UInt8) (h : V2MsgHeader) (origin : V2TimeRepresentation) :
    Prop where
  listens : c.listens = true
  isFollowUp : PTPMessage.ofPacket packet = some (.followUp h origin)
  master : h.clockIdentity = c.ptpMasterClockIdentity
  matches_ : mtalSwap16 h.sequenceId = c.lastSyncSequenceId

/-- A Sync or a Follow_Up with these bytes hands `t1` to `processT1`. -/
structure HandsT1 (packet : List UInt8) (t1 : UInt64) : Prop where
  sync : ∀ (c : ClockPTP) clockTime h origin, c.TakesSync packet h origin →
    c.processPTPPacket packet clockTime =
      (fun timed => ({ timed with lastSyncSequenceId := mtalSwap16 h.sequenceId }, .ptpPacketUsed)) <$>
        (c.recordT2 (clockTime / nsToRefUnit)).processT1 t1
  followUp : ∀ (c : ClockPTP) clockTime h origin, c.TakesFollowUp packet h origin →
    c.processPTPPacket packet clockTime =
      (fun timed => ({ timed with lastFollowUp := mtalSwap16 h.sequenceId }, .ptpPacketUsed)) <$> c.processT1 t1

theorem handsT1_originTime (packet : List UInt8) :
    HandsT1 packet (originTime (.ofBytes (byteAt packet)) (.ofBytes (byteAt packet))) := by
  constructor
  · intro c clockTime h origin takes
    obtain ⟨header, time⟩ := fields_of_packet takes.isSync
    obtain rfl : h = _ := header
    obtain rfl := time _ rfl
    have near : ¬ c.deltaSeq (.ofBytes (byteAt packet)) > ptpLockHysteresis :=
      UInt16.not_lt.mpr takes.contiguous
    unfold processPTPPacket
    rw [takes.listens, takes.isSync]
    change (if _ then _ else (·, DispatchResult.ptpPacketUsed) <$> c.processSync _ _ clockTime) = _
    rw [if_neg (not_not_intro takes.master), processSync, timeSync, if_neg near, if_neg (by simp [takes.oneStep])]
    cases (c.recordT2 (clockTime / nsToRefUnit)).processT1 _ with
    | error fault => rfl
    | ok timed => rfl
  · intro c clockTime h origin takes
    obtain ⟨header, time⟩ := fields_of_packet takes.isFollowUp
    obtain rfl : h = _ := header
    obtain rfl := time _ rfl
    unfold processPTPPacket
    rw [takes.listens, takes.isFollowUp]
    change (if _ then _ else (·, DispatchResult.ptpPacketUsed) <$> c.processFollowUp _ _) = _
    rw [if_neg (not_not_intro takes.master), processFollowUp, timeFollowUp, if_pos takes.matches_]
    cases c.processT1 _ with
    | error fault => rfl
    | ok timed => rfl

/-- Both messages hand the time in their bytes to `processT1`, in units of 100 µs rounded down. -/
theorem timestamp_decoded {packet : List UInt8} (low : 0 ≤ sentTime (byteAt packet))
    (high : sentTime (byteAt packet) < 2 ^ 64) :
    ∃ t1 : UInt64, (t1.toNat : Int) = sentTime (byteAt packet) / 100000 ∧ HandsT1 packet t1 :=
  ⟨_, originTime_exact low high, handsT1_originTime packet⟩

def correctedSync : List UInt8 :=
  UDPPacketBase.bytes { udpHeader := { destPort := mtalSwap16 320 } } ++ [0, 2, 0, 0, 0, 0, 0, 0] ++
    [255, 255, 255, 255, 255, 254, 128, 0] ++ List.replicate 4 0 ++ [7, 0, 0, 0, 0, 0, 0, 0, 0, 0] ++
    [0, 1, 0, 0] ++ [0, 0, 0, 0, 0, 1, 0, 0, 0, 0]

theorem timestamp_decoded_negative : sentTime (byteAt correctedSync) = 999999998 ∧
    withMaster.TakesSync correctedSync (.ofBytes (byteAt correctedSync)) (.ofBytes (byteAt correctedSync)) ∧
    ∃ t1 : UInt64, (t1.toNat : Int) = sentTime (byteAt correctedSync) / 100000 ∧ HandsT1 correctedSync t1 :=
  ⟨by decide, ⟨by decide, by decide, by decide, by decide, by decide⟩, timestamp_decoded (by decide) (by decide)⟩

end ClockPTP

end RavennaLkm
