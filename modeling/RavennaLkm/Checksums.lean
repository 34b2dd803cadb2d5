import RavennaLkm.Lib.OnesComplement
import RavennaLkm.Transmit

/-!
The checksums of the IP and UDP headers: the complement of the one's-complement
sum of the big-endian words, so that a header with its checksum stored sums to
65535 and the receiver computes 0. Nothing keeps a UDP checksum away from 0,
which a receiver takes for no checksum.
-/
namespace RavennaLkm
open OnesComplement LittleEndian BitFields

def wordsOf : List UInt8 → List Nat
  | b0 :: b1 :: rest => (b0.toNat * 256 + b1.toNat) :: wordsOf rest
  | [b0] => [b0.toNat * 256]
  | [] => []

theorem wordsOf_le (bytes : List UInt8) : ∀ w ∈ wordsOf bytes, w ≤ 65535 := by
  fun_induction wordsOf bytes with
  | case1 b0 b1 rest ih =>
    intro w isIn
    have bound0 := b0.toNat_lt
    have bound1 := b1.toNat_lt
    rcases List.mem_cons.mp isIn with rfl | isIn
    · omega
    · exact ih w isIn
  | case2 b0 =>
    intro w isIn
    have bound0 := b0.toNat_lt
    rw [List.mem_singleton.mp isIn]
    omega
  | case3 =>
    intro w isIn
    cases isIn

theorem sum_wordsOf_le (bytes : List UInt8) : (wordsOf bytes).sum ≤ (bytes.length + 1) / 2 * 65535 := by
  fun_induction wordsOf bytes with
  | case1 b0 b1 rest ih =>
    have bound0 := b0.toNat_lt
    have bound1 := b1.toNat_lt
    simp only [List.sum_cons, List.length_cons]
    omega
  | case2 b0 =>
    have bound0 := b0.toNat_lt
    simp only [List.sum_cons, List.sum_nil, List.length_cons, List.length_nil]
    omega
  | case3 => simp

theorem wordsOf_append {front : List UInt8} (back : List UInt8) (even : front.length % 2 = 0) :
    wordsOf (front ++ back) = wordsOf front ++ wordsOf back := by
  fun_induction wordsOf front with
  | case1 b0 b1 rest ih =>
    rw [List.length_cons, List.length_cons] at even
    change _ :: wordsOf (rest ++ back) = _
    rw [ih (by omega)]
    rfl
  | case2 b0 => cases even
  | case3 => rfl

theorem wordsOf_store16 (x : UInt16) : wordsOf (store16 x) = [(mtalSwap16 x).toNat] := by
  have bound := x.toNat_lt
  simp only [store16, wordsOf, UInt8.toNat_ofNat', toNat_mtalSwap16]
  congr 1
  omega

theorem store32_eq (x : UInt32) : store32 x = store16 (addressWords x).1 ++ store16 (addressWords x).2 := by
  have byte0 : x.toNat % 256 = x.toNat % 65536 % 256 := by omega
  have byte1 : x.toNat / 256 % 256 = x.toNat % 65536 / 256 % 256 := by omega
  have byte2 : x.toNat / 65536 % 256 = x.toNat / 65536 % 65536 % 256 := by omega
  have byte3 : x.toNat / 16777216 % 256 = x.toNat / 65536 % 65536 / 256 % 256 := by omega
  have low : (addressWords x).1.toNat = x.toNat % 65536 := UInt32.toNat_toUInt16 x
  have high : (addressWords x).2.toNat = x.toNat / 65536 % 65536 := by
    change (x >>> 16).toUInt16.toNat = _
    rw [UInt32.toNat_toUInt16, UInt32.toNat_shiftRight]
    exact congrArg (· % 65536) (Nat.shiftRight_eq_div_pow ..)
  unfold store32 store16
  simp only [low, high, List.cons_append, List.nil_append, List.cons.injEq, and_true, ← UInt8.toNat_inj,
    UInt8.toNat_ofNat']
  exact ⟨byte0, byte1, byte2, byte3⟩

theorem wordsOf_store32 (x : UInt32) : wordsOf (store32 x) =
    [(mtalSwap16 (addressWords x).1).toNat, (mtalSwap16 (addressWords x).2).toNat] := by
  rw [store32_eq, wordsOf_append _ (by simp), wordsOf_store16, wordsOf_store16]
  rfl

theorem toNat_shifted (b0 : UInt8) : (b0.toUInt32 <<< 8).toNat = b0.toNat * 2 ^ 8 := by
  have bound := b0.toNat_lt
  rw [UInt32.toNat_shiftLeft, UInt8.toNat_toUInt32]
  change b0.toNat <<< 8 % 2 ^ 32 = _
  rw [Nat.shiftLeft_eq, Nat.mod_eq_of_lt (by omega)]

theorem toNat_word (b0 b1 : UInt8) : (b0.toUInt32 <<< 8 ||| b1.toUInt32).toNat = b0.toNat * 2 ^ 8 + b1.toNat := by
  rw [UInt32.toNat_or, toNat_shifted, UInt8.toNat_toUInt32, or_fields _ 8 b1.toNat_lt]

theorem toNat_accumulated {acc word : UInt32} {w : Nat} (value : word.toNat = w) (room : acc.toNat + w < 2 ^ 32) :
    (acc + word).toNat = acc.toNat + w := by
  rw [UInt32.toNat_add, value, Nat.mod_eq_of_lt room]

theorem toNat_checksumWords {acc : UInt32} {bytes : List UInt8}
    (room : acc.toNat + (wordsOf bytes).sum < 2 ^ 32) :
    (checksumWords acc bytes).toNat = acc.toNat + (wordsOf bytes).sum := by
  fun_induction checksumWords acc bytes with
  | case1 acc b0 b1 rest ih =>
    rw [wordsOf, List.sum_cons, ← Nat.add_assoc] at room ⊢
    have accumulated : (acc + (b0.toUInt32 <<< 8 ||| b1.toUInt32)).toNat =
        acc.toNat + (b0.toNat * 256 + b1.toNat) :=
      toNat_accumulated (toNat_word b0 b1) (Nat.lt_of_le_of_lt (Nat.le_add_right ..) room)
    rw [← accumulated] at room ⊢
    exact ih room
  | case2 acc b0 =>
    rw [wordsOf, List.sum_singleton] at room ⊢
    exact toNat_accumulated (toNat_shifted b0) room
  | case3 acc => rfl

theorem toNat_checksumWords_zero {bytes : List UInt8} (short : bytes.length ≤ 65535) :
    (checksumWords 0 bytes).toNat = (wordsOf bytes).sum := by
  have bound := sum_wordsOf_le bytes
  rw [toNat_checksumWords]
  · exact Nat.zero_add _
  · change 0 + _ < _
    omega

theorem toNat_foldCarry (acc : UInt32) : (foldCarry acc).toNat = fold 65535 acc.toNat := by
  have bound := acc.toNat_lt
  unfold foldCarry fold
  rw [UInt32.toNat_add, UInt32.toNat_shiftRight, UInt32.toNat_and]
  change (acc.toNat >>> 16 + (acc.toNat &&& 2 ^ 16 - 1)) % 2 ^ 32 = _
  rw [and_low, Nat.shiftRight_eq_div_pow]
  omega

theorem no_carry_iff (acc : UInt32) : acc &&& 0xffff0000 = 0 ↔ acc.toNat < 65536 := by
  have bound := acc.toNat_lt
  rw [← UInt32.toNat_inj, UInt32.toNat_and]
  change acc.toNat &&& (2 ^ 16 - 1) <<< 16 = 0 ↔ _
  rw [and_field]
  omega

def closeChecksum (acc : UInt32) : UInt16 :=
  let acc := foldCarry acc
  let acc := if acc &&& 0xffff0000 ≠ 0 then foldCarry acc else acc
  ~~~ acc.toUInt16

def IsChecksum (c : UInt16) (total : Nat) : Prop := Represents 65535 (65535 - c.toNat) total

theorem closeChecksum_isChecksum (acc : UInt32) : IsChecksum (closeChecksum acc) acc.toNat := by
  have bound := acc.toNat_lt
  have first := toNat_foldCarry acc
  have complemented : ∀ x : UInt32, x.toNat < 65536 → 65535 - (~~~ x.toUInt16).toNat = x.toNat := by
    intro x small
    rw [UInt16.toNat_not, UInt32.toNat_toUInt16]
    change 65535 - (65536 - 1 - x.toNat % 65536) = _
    omega
  unfold IsChecksum closeChecksum
  apply Represents.of_fold
  rw [← first]
  dsimp only
  split
  · rename_i carries
    have second := toNat_foldCarry (foldCarry acc)
    have small : (foldCarry (foldCarry acc)).toNat < 65536 := by
      rw [second, first]
      unfold fold
      omega
    rw [complemented _ small]
    apply Represents.of_fold
    rw [← second]
    exact represents_self (by omega)
  · rename_i none
    have small := (no_carry_iff _).mp (not_not.mp none)
    rw [complemented _ small]
    exact represents_self (by omega)

namespace IsChecksum

variable {c c' : UInt16} {total : Nat}

theorem toNat_eq {words : List Nat} (bounded : ∀ w ∈ words, w ≤ 65535) (checksum : IsChecksum c words.sum) :
    c.toNat = 65535 - sum 65535 words := by
  have bound := c.toNat_lt
  have same := Represents.eq_sum bounded checksum
  omega

theorem recomputed (checksum : IsChecksum c total) (again : IsChecksum c' (total + c.toNat)) : c' = 0 := by
  have bound := c.toNat_lt
  have bound' := c'.toNat_lt
  have whole := Represents.complement checksum (by decide)
  rw [Nat.sub_sub_self (by omega)] at whole
  have same := Represents.unique again whole
  apply UInt16.toNat_inj.mp
  change c'.toNat = 0
  omega

theorem eq_zero_iff (checksum : IsChecksum c total) (positive : 0 < total) : c = 0 ↔ total % 65535 = 0 := by
  have bound := c.toNat_lt
  rw [← Represents.eq_top_iff checksum positive, ← UInt16.toNat_inj]
  change c.toNat = 0 ↔ _
  omega

end IsChecksum

theorem mtalComputeChecksum_isChecksum {bytes : List UInt8} (short : bytes.length ≤ 65535) :
    IsChecksum (mtalComputeChecksum bytes) (wordsOf bytes).sum := by
  have closed := closeChecksum_isChecksum (checksumWords 0 bytes)
  rwa [toNat_checksumWords_zero short] at closed

def pseudoHeader (ip : IPV4Header) (len : Nat) : List UInt8 :=
  store32 ip.srcIP ++ store32 ip.destIP ++ [0, ipProtoUDP, UInt8.ofNat (len / 256), UInt8.ofNat len]

def coveredWords (ip : IPV4Header) (datagram : List UInt8) : List Nat :=
  wordsOf (pseudoHeader ip datagram.length ++ datagram)

theorem wordsOf_pseudoHeader (ip : IPV4Header) {len : Nat} (short : len ≤ 65535) :
    wordsOf (pseudoHeader ip len) =
      [(mtalSwap16 (addressWords ip.srcIP).1).toNat, (mtalSwap16 (addressWords ip.srcIP).2).toNat,
        (mtalSwap16 (addressWords ip.destIP).1).toNat, (mtalSwap16 (addressWords ip.destIP).2).toNat,
        ipProtoUDP.toNat, len] := by
  unfold pseudoHeader
  rw [wordsOf_append _ (by simp), wordsOf_append _ (by simp), wordsOf_store32, wordsOf_store32]
  have length : len / 256 % 256 * 256 + len % 256 = len := by omega
  simp [wordsOf, ipProtoUDP, length]

theorem sum_coveredWords (ip : IPV4Header) (datagram : List UInt8) : (coveredWords ip datagram).sum =
    (wordsOf (pseudoHeader ip datagram.length)).sum + (wordsOf datagram).sum := by
  unfold coveredWords
  rw [wordsOf_append _ (by simp [pseudoHeader]), List.sum_append]

def udpChecksum (ip : IPV4Header) (datagram : List UInt8) : UInt16 :=
  mtalComputeUDPChecksum datagram (addressWords ip.srcIP) (addressWords ip.destIP)

theorem toNat_addPseudoHeader (acc : UInt32) (ip : IPV4Header) {len : Nat} (short : len ≤ 65535)
    (room : acc.toNat < 2 ^ 31 + 2 ^ 30) :
    (addPseudoHeader acc (addressWords ip.srcIP) (addressWords ip.destIP) (UInt16.ofNat len)).toNat =
      (wordsOf (pseudoHeader ip len)).sum + acc.toNat := by
  rw [wordsOf_pseudoHeader ip short]
  unfold addPseudoHeader
  have src1 := (mtalSwap16 (addressWords ip.srcIP).1).toNat_lt
  have src2 := (mtalSwap16 (addressWords ip.srcIP).2).toNat_lt
  have dest1 := (mtalSwap16 (addressWords ip.destIP).1).toNat_lt
  have dest2 := (mtalSwap16 (addressWords ip.destIP).2).toNat_lt
  have protocol : ipProtoUDP.toNat = 17 := rfl
  simp only [UInt32.toNat_add, UInt16.toNat_toUInt32, UInt8.toNat_toUInt32, UInt16.toNat_ofNat', protocol,
    List.sum_cons, List.sum_nil]
  omega

theorem udpChecksum_isChecksum (ip : IPV4Header) {datagram : List UInt8} (short : datagram.length ≤ 65535) :
    IsChecksum (udpChecksum ip datagram) (coveredWords ip datagram).sum := by
  have bound := sum_wordsOf_le datagram
  have words := toNat_checksumWords_zero short
  have closed := closeChecksum_isChecksum (addPseudoHeader (checksumWords 0 datagram) (addressWords ip.srcIP)
    (addressWords ip.destIP) (UInt16.ofNat datagram.length))
  rwa [toNat_addPseudoHeader _ _ short (by omega), words, ← sum_coveredWords] at closed

theorem sum_wordsOf_field {front : List UInt8} (back : List UInt8) (even : front.length % 2 = 0) (x : UInt16) :
    (wordsOf (front ++ store16 x ++ back)).sum =
      (wordsOf (front ++ store16 0 ++ back)).sum + (mtalSwap16 x).toNat := by
  have parts : ∀ y : UInt16, (wordsOf (front ++ store16 y ++ back)).sum =
      (wordsOf front).sum + (mtalSwap16 y).toNat + (wordsOf back).sum := by
    intro y
    rw [wordsOf_append _ (by simp [even]), wordsOf_append _ even, wordsOf_store16, List.sum_append,
      List.sum_append, List.sum_singleton]
  have cleared : (mtalSwap16 0).toNat = 0 := rfl
  rw [parts x, parts 0, cleared]
  omega

namespace IPV4Header

def withChecksum (h : IPV4Header) : IPV4Header :=
  let h := { h with checksum := 0 }
  { h with checksum := mtalSwap16 (mtalComputeChecksum h.bytes) }

@[simp] theorem length_bytes (h : IPV4Header) : h.bytes.length = sizeofIPV4Header := by
  simp [bytes, sizeofIPV4Header]

theorem sum_words (h : IPV4Header) (c : UInt16) : (wordsOf { h with checksum := c }.bytes).sum =
    (wordsOf { h with checksum := 0 }.bytes).sum + (mtalSwap16 c).toNat := by
  unfold bytes
  rw [List.append_assoc, List.append_assoc _ (store32 h.srcIP)]
  exact sum_wordsOf_field _ (by simp) c

theorem checksum_verifies (h : IPV4Header) : mtalComputeChecksum h.withChecksum.bytes = 0 := by
  have short : ∀ h : IPV4Header, h.bytes.length ≤ 65535 := by
    intro h
    rw [length_bytes]
    decide
  have checksum := mtalComputeChecksum_isChecksum (short { h with checksum := 0 })
  have again := mtalComputeChecksum_isChecksum (short h.withChecksum)
  have total := sum_words h (mtalSwap16 (mtalComputeChecksum { h with checksum := 0 }.bytes))
  rw [mtalSwap16_swap16] at total
  exact checksum.recomputed (total ▸ again)

end IPV4Header

theorem packetHeader_checksum (s : RTPAudioStream) (packetSize timestamp : UInt32) (seqNum : UInt16) :
    mtalComputeChecksum (packetHeader s packetSize timestamp seqNum).ipv4Header.bytes = 0 :=
  IPV4Header.checksum_verifies
    { s.rtpPacketBaseOutgoing.ipv4Header with
      len := mtalSwap16 (packetSize.toUInt16 - UInt16.ofNat sizeofEthernetHeader) }

namespace UDPHeader

def datagram (h : UDPHeader) (payload : List UInt8) : List UInt8 := h.bytes ++ payload

def withChecksum (h : UDPHeader) (ip : IPV4Header) (payload : List UInt8) : UDPHeader :=
  let h := { h with checkSum := 0 }
  { h with checkSum := mtalSwap16 (udpChecksum ip (h.datagram payload)) }

@[simp] theorem length_datagram (h : UDPHeader) (payload : List UInt8) :
    (h.datagram payload).length = sizeofUDPHeader + payload.length := by
  simp only [datagram, bytes, sizeofUDPHeader, List.length_append, length_store16]

/-- The words under the checksum of `h`, which is over the field cleared. -/
def total (h : UDPHeader) (ip : IPV4Header) (payload : List UInt8) : Nat :=
  (coveredWords ip ({ h with checkSum := 0 }.datagram payload)).sum

theorem sum_covered (h : UDPHeader) (ip : IPV4Header) (payload : List UInt8) (c : UInt16) :
    (coveredWords ip ({ h with checkSum := c }.datagram payload)).sum =
      h.total ip payload + (mtalSwap16 c).toNat := by
  have even : (store16 h.srcPort ++ store16 h.destPort ++ store16 h.len).length % 2 = 0 := by simp
  have field := sum_wordsOf_field payload even c
  unfold total
  rw [sum_coveredWords, sum_coveredWords, length_datagram, length_datagram, Nat.add_assoc]
  exact congrArg _ field

theorem total_pos (h : UDPHeader) (ip : IPV4Header) {payload : List UInt8}
    (fits : sizeofUDPHeader + payload.length ≤ 65535) : 0 < h.total ip payload := by
  have protocol : 0 < ipProtoUDP.toNat := by decide
  unfold total
  rw [sum_coveredWords, length_datagram, wordsOf_pseudoHeader ip fits]
  simp only [List.sum_cons]
  omega

theorem stored_isChecksum (h : UDPHeader) (ip : IPV4Header) {payload : List UInt8}
    (fits : sizeofUDPHeader + payload.length ≤ 65535) :
    IsChecksum (mtalSwap16 (h.withChecksum ip payload).checkSum) (h.total ip payload) := by
  have short : ({ h with checkSum := 0 }.datagram payload).length ≤ 65535 := by rwa [length_datagram]
  have checksum := udpChecksum_isChecksum ip short
  change IsChecksum (mtalSwap16 (mtalSwap16 _)) _
  rwa [mtalSwap16_swap16]

theorem checksum_verifies (h : UDPHeader) (ip : IPV4Header) {payload : List UInt8}
    (fits : sizeofUDPHeader + payload.length ≤ 65535) :
    udpChecksum ip ((h.withChecksum ip payload).datagram payload) = 0 := by
  have checksum := h.stored_isChecksum ip fits
  have short : ((h.withChecksum ip payload).datagram payload).length ≤ 65535 := by rwa [length_datagram]
  have again := udpChecksum_isChecksum ip short
  have total := h.sum_covered ip payload (h.withChecksum ip payload).checkSum
  exact checksum.recomputed (total ▸ again)

theorem stored_eq_zero_iff (h : UDPHeader) (ip : IPV4Header) {payload : List UInt8}
    (fits : sizeofUDPHeader + payload.length ≤ 65535) :
    (h.withChecksum ip payload).checkSum = 0 ↔ h.total ip payload % 65535 = 0 := by
  rw [← (h.stored_isChecksum ip fits).eq_zero_iff (h.total_pos ip fits)]
  constructor
  · intro none
    rw [none]
    rfl
  · intro none
    rw [← mtalSwap16_swap16 (h.withChecksum ip payload).checkSum, none]
    rfl

end UDPHeader

/-- What the two checksum functions and the headers that carry their results are taken to do. -/
structure ChecksumLaw (bytes : List UInt8) (ip : IPV4Header) (udp : UDPHeader) (payload : List UInt8) : Prop where
  complement : (mtalComputeChecksum bytes).toNat = 65535 - sum 65535 (wordsOf bytes)
  header : mtalComputeChecksum ip.withChecksum.bytes = 0
  datagram : udpChecksum ip ((udp.withChecksum ip payload).datagram payload) = 0
  present : (udp.withChecksum ip payload).checkSum ≠ 0

/-- Only a datagram whose words sum to a multiple of 65535 breaks it, sent as one without a checksum. -/
theorem checksumLaw_iff {bytes : List UInt8} (short : bytes.length ≤ 65535) (ip : IPV4Header) (udp : UDPHeader)
    {payload : List UInt8} (fits : sizeofUDPHeader + payload.length ≤ 65535) :
    ChecksumLaw bytes ip udp payload ↔ udp.total ip payload % 65535 ≠ 0 := by
  have zero := udp.stored_eq_zero_iff ip fits
  constructor
  · intro law multiple
    exact law.present (zero.mpr multiple)
  · intro other
    exact {
      complement := (mtalComputeChecksum_isChecksum short).toNat_eq (wordsOf_le bytes)
      header := ip.checksum_verifies
      datagram := udp.checksum_verifies ip fits
      present := mt zero.mp other }

def reportIP : IPV4Header :=
  { versionHeaderLen := 0x45, len := 0x3C00, ttl := 15, protocol := ipProtoUDP, srcIP := 0x0100A8C0,
    destIP := 0x155301EF }

def reportUDP : UDPHeader := { srcPort := 0x8D13, destPort := 0x8D13, len := 0x2800 }

def reportPayload (ssrc : List UInt8) : List UInt8 :=
  [0x81, 201, 0, 7] ++ ssrc ++ ssrc ++ List.replicate 20 0

theorem checksumLaw_report :
    ChecksumLaw [1, 2, 3] reportIP reportUDP (reportPayload [0, 1, 0xA9, 0xF9]) :=
  (checksumLaw_iff (by decide) reportIP reportUDP (by decide)).mpr (by decide)

theorem report_without_checksum :
    ¬ ChecksumLaw [1, 2, 3] reportIP reportUDP (reportPayload [0, 1, 0xA9, 0xF8]) := by
  intro law
  exact law.present (by decide)

end RavennaLkm
