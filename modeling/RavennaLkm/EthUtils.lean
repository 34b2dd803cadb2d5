import Mathlib.Tactic.IntervalCases
import RavennaLkm.Lib.BitFields
import RavennaLkm.Lib.LittleEndian

/-!
MTAL_EthUtils.h and MTAL_EthUtils.c: the packed headers of a frame, their bytes
on a little-endian machine, the byte swaps and the IP checksum. Header fields
hold the raw memory value; the code swaps where it reads or writes them.
-/
namespace RavennaLkm
open BitFields LittleEndian

def ethernetStandardFrameSize : Nat := 1514
def sizeofEthernetHeader : Nat := 14
def sizeofIPV4Header : Nat := 20
def sizeofUDPHeader : Nat := 8
def sizeofRTPHeader : Nat := 12
def sizeofUDPPacketBase : Nat := 42
def sizeofRTPPacketBase : Nat := 54
def rtpMaxPayloadSize : UInt32 := 1460

def mtalEthProtoIPV4 : UInt16 := 0x0800
def ipProtoUDP : UInt8 := 17

def mtalSwap16 (x : UInt16) : UInt16 :=
  ((x >>> 8) &&& (0x00ff : UInt16)) ||| ((x <<< 8) &&& (0xff00 : UInt16))

def mtalSwap32 (x : UInt32) : UInt32 :=
  ((x >>> 24) &&& (0x000000ff : UInt32)) ||| ((x >>> 8) &&& (0x0000ff00 : UInt32)) |||
    ((x <<< 8) &&& (0x00ff0000 : UInt32)) ||| ((x <<< 24) &&& (0xff000000 : UInt32))

def mtalSwap64 (x : UInt64) : UInt64 :=
  (mtalSwap32 x.toUInt32).toUInt64 <<< 32 ||| (mtalSwap32 (x >>> 32).toUInt32).toUInt64

@[simp] theorem mtalSwap16_swap16 (x : UInt16) : mtalSwap16 (mtalSwap16 x) = x := by
  apply UInt16.toBitVec_inj.mp
  apply BitVec.eq_of_getLsbD_eq
  intro i below
  simp only [mtalSwap16, UInt16.toBitVec_or, UInt16.toBitVec_and, UInt16.toBitVec_shiftLeft,
    UInt16.toBitVec_shiftRight]
  interval_cases i <;> simp

@[simp] theorem mtalSwap32_swap32 (x : UInt32) : mtalSwap32 (mtalSwap32 x) = x := by
  apply UInt32.toBitVec_inj.mp
  apply BitVec.eq_of_getLsbD_eq
  intro i below
  simp only [mtalSwap32, UInt32.toBitVec_or, UInt32.toBitVec_and, UInt32.toBitVec_shiftLeft,
    UInt32.toBitVec_shiftRight]
  interval_cases i <;> simp

theorem toNat_mtalSwap16 (x : UInt16) : (mtalSwap16 x).toNat = x.toNat % 2 ^ 8 * 2 ^ 8 + x.toNat / 2 ^ 8 := by
  have bound := x.toNat_lt
  have low : x.toNat >>> 8 &&& 255 = x.toNat / 2 ^ 8 := by
    rw [Nat.shiftRight_eq_div_pow]
    exact (and_low _ 8).trans (Nat.mod_eq_of_lt (by omega))
  have high : x.toNat <<< 8 % 2 ^ 16 &&& 65280 = x.toNat % 2 ^ 8 * 2 ^ 8 := by
    rw [Nat.shiftLeft_eq]
    refine (and_field _ 8 8).trans ?_
    omega
  unfold mtalSwap16
  simp only [UInt16.toNat_or, UInt16.toNat_and, UInt16.toNat_shiftLeft, UInt16.toNat_shiftRight]
  change x.toNat >>> 8 &&& 255 ||| x.toNat <<< 8 % 2 ^ 16 &&& 65280 = _
  rw [low, high, Nat.or_comm, or_fields _ _ (by omega)]

theorem toNat_mtalSwap32 (x : UInt32) : (mtalSwap32 x).toNat =
    x.toNat % 2 ^ 8 * 2 ^ 24 + (x.toNat / 2 ^ 8 % 2 ^ 8 * 2 ^ 16 +
      (x.toNat / 2 ^ 16 % 2 ^ 8 * 2 ^ 8 + x.toNat / 2 ^ 24)) := by
  have bound := x.toNat_lt
  have byte3 : x.toNat >>> 24 &&& 255 = x.toNat / 2 ^ 24 := by
    rw [Nat.shiftRight_eq_div_pow]
    exact (and_low _ 8).trans (Nat.mod_eq_of_lt (by omega))
  have byte2 : x.toNat >>> 8 &&& 0xff00 = x.toNat / 2 ^ 16 % 2 ^ 8 * 2 ^ 8 := by
    rw [Nat.shiftRight_eq_div_pow]
    refine (and_field _ 8 8).trans ?_
    omega
  have byte1 : x.toNat <<< 8 % 2 ^ 32 &&& 0xff0000 = x.toNat / 2 ^ 8 % 2 ^ 8 * 2 ^ 16 := by
    rw [Nat.shiftLeft_eq]
    refine (and_field _ 8 16).trans ?_
    omega
  have byte0 : x.toNat <<< 24 % 2 ^ 32 &&& 0xff000000 = x.toNat % 2 ^ 8 * 2 ^ 24 := by
    rw [Nat.shiftLeft_eq]
    refine (and_field _ 8 24).trans ?_
    omega
  unfold mtalSwap32
  simp only [UInt32.toNat_or, UInt32.toNat_and, UInt32.toNat_shiftLeft, UInt32.toNat_shiftRight]
  change x.toNat >>> 24 &&& 255 ||| x.toNat >>> 8 &&& 0xff00 ||| x.toNat <<< 8 % 2 ^ 32 &&& 0xff0000 |||
    x.toNat <<< 24 % 2 ^ 32 &&& 0xff000000 = _
  rw [byte3, byte2, byte1, byte0, Nat.or_comm, Nat.or_comm _ (x.toNat / 2 ^ 8 % 2 ^ 8 * 2 ^ 16),
    Nat.or_comm (x.toNat / 2 ^ 24), or_fields _ 8 (by omega), or_fields _ 16 (by omega), or_fields _ 24 (by omega)]

def mtalIsIPMulticast (ip : UInt32) : Bool := 0xE0000000 ≤ ip && ip ≤ 0xEFFFFFFF

structure MACAddress where
  byte0 : UInt8 := 0
  byte1 : UInt8 := 0
  byte2 : UInt8 := 0
  byte3 : UInt8 := 0
  byte4 : UInt8 := 0
  byte5 : UInt8 := 0
  deriving DecidableEq, Repr

structure EthernetHeader where
  dest : MACAddress := {}
  src : MACAddress := {}
  usType : UInt16 := 0
  deriving DecidableEq, Repr

structure IPV4Header where
  versionHeaderLen : UInt8 := 0
  tos : UInt8 := 0
  len : UInt16 := 0
  id : UInt16 := 0
  offset : UInt16 := 0
  ttl : UInt8 := 0
  protocol : UInt8 := 0
  checksum : UInt16 := 0
  srcIP : UInt32 := 0
  destIP : UInt32 := 0
  deriving DecidableEq, Repr

structure UDPHeader where
  srcPort : UInt16 := 0
  destPort : UInt16 := 0
  len : UInt16 := 0
  checkSum : UInt16 := 0
  deriving DecidableEq, Repr

structure RTPHeader where
  version : UInt8 := 0
  payloadType : UInt8 := 0
  seqNum : UInt16 := 0
  timestamp : UInt32 := 0
  ssrc : UInt32 := 0
  deriving DecidableEq, Repr

structure UDPPacketBase where
  ethernetHeader : EthernetHeader := {}
  ipv4Header : IPV4Header := {}
  udpHeader : UDPHeader := {}
  deriving DecidableEq, Repr

structure RTPPacketBase extends UDPPacketBase where
  rtpHeader : RTPHeader := {}
  deriving DecidableEq, Repr

def rtpGetVersion (byte : UInt8) : UInt8 := (byte >>> 6) &&& 3
def rtpIsPadding (byte : UInt8) : Bool := byte &&& 0x20 ≠ 0
def rtpIsExtension (byte : UInt8) : Bool := byte &&& 0x10 ≠ 0
def rtpGetCC (byte : UInt8) : UInt8 := byte &&& 0xF

namespace MACAddress

def bytes (a : MACAddress) : List UInt8 := [a.byte0, a.byte1, a.byte2, a.byte3, a.byte4, a.byte5]

def ofBytes (b : Nat → UInt8) (pos : Nat) : MACAddress :=
  ⟨b pos, b (pos + 1), b (pos + 2), b (pos + 3), b (pos + 4), b (pos + 5)⟩

end MACAddress

namespace IPV4Header

def bytes (h : IPV4Header) : List UInt8 :=
  [h.versionHeaderLen, h.tos] ++ store16 h.len ++ store16 h.id ++ store16 h.offset ++
    [h.ttl, h.protocol] ++ store16 h.checksum ++ store32 h.srcIP ++ store32 h.destIP

end IPV4Header

namespace UDPHeader

def bytes (h : UDPHeader) : List UInt8 :=
  store16 h.srcPort ++ store16 h.destPort ++ store16 h.len ++ store16 h.checkSum

end UDPHeader

namespace UDPPacketBase

def ofBytes (b : Nat → UInt8) : UDPPacketBase where
  ethernetHeader := ⟨.ofBytes b 0, .ofBytes b 6, load16 b 12⟩
  ipv4Header :=
    { versionHeaderLen := b 14, tos := b 15, len := load16 b 16, id := load16 b 18,
      offset := load16 b 20, ttl := b 22, protocol := b 23, checksum := load16 b 24,
      srcIP := load32 b 26, destIP := load32 b 30 }
  udpHeader := ⟨load16 b 34, load16 b 36, load16 b 38, load16 b 40⟩

def bytes (p : UDPPacketBase) : List UInt8 :=
  p.ethernetHeader.dest.bytes ++ p.ethernetHeader.src.bytes ++ store16 p.ethernetHeader.usType ++
    p.ipv4Header.bytes ++ store16 p.udpHeader.srcPort ++ store16 p.udpHeader.destPort ++
    store16 p.udpHeader.len ++ store16 p.udpHeader.checkSum

end UDPPacketBase

namespace RTPPacketBase

def ofBytes (b : Nat → UInt8) : RTPPacketBase where
  toUDPPacketBase := .ofBytes b
  rtpHeader := ⟨b 42, b 43, load16 b 44, load32 b 46, load32 b 50⟩

def bytes (p : RTPPacketBase) : List UInt8 :=
  p.toUDPPacketBase.bytes ++ [p.rtpHeader.version, p.rtpHeader.payloadType] ++
    store16 p.rtpHeader.seqNum ++ store32 p.rtpHeader.timestamp ++ store32 p.rtpHeader.ssrc

@[simp] theorem length_bytes (p : RTPPacketBase) : p.bytes.length = sizeofRTPPacketBase := by
  simp [bytes, UDPPacketBase.bytes, IPV4Header.bytes, MACAddress.bytes, sizeofRTPPacketBase]

/-- The headers written in front of a packet are the headers read from it. -/
theorem ofBytes_of_holds {p : RTPPacketBase} {b : Nat → UInt8} (written : Holds b 0 p.bytes) :
    ofBytes b = p := by
  obtain ⟨⟨⟨dest, src, usType⟩, ip, udp⟩, rtp⟩ := p
  simp only [bytes, UDPPacketBase.bytes, IPV4Header.bytes, MACAddress.bytes, holds_append,
    holds_cons, List.length_append, List.length_cons, List.length_nil, length_store16,
    length_store32, Nat.reduceAdd, and_assoc, holds_store16, holds_store32] at written
  simp only [ofBytes, UDPPacketBase.ofBytes, MACAddress.ofBytes, Nat.reduceAdd, written]

end RTPPacketBase

/-- EtherTubeInterfaces.h: what became of a received frame. -/
inductive DispatchResult where
  | packetError | packetNotUsed | rtpPacketUsed | ptpPacketUsed | rtpMIDIPacketUsed
  deriving DecidableEq, Repr

def checksumWords : UInt32 → List UInt8 → UInt32
  | acc, b0 :: b1 :: rest => checksumWords (acc + (b0.toUInt32 <<< 8 ||| b1.toUInt32)) rest
  | acc, [b0] => acc + b0.toUInt32 <<< 8
  | acc, [] => acc

def foldCarry (acc : UInt32) : UInt32 := (acc >>> 16) + (acc &&& 0x0000ffff)

def mtalComputeChecksum (bytes : List UInt8) : UInt16 :=
  let acc := foldCarry (checksumWords 0 bytes)
  let acc := if acc &&& 0xffff0000 ≠ 0 then foldCarry acc else acc
  ~~~ acc.toUInt16

/-- The UDP pseudo header: both addresses as the two halves in memory, the protocol and the length. -/
def addPseudoHeader (acc : UInt32) (srcIP destIP : UInt16 × UInt16) (usDataLen : UInt16) : UInt32 :=
  let acc := acc + (mtalSwap16 srcIP.1).toUInt32 + (mtalSwap16 srcIP.2).toUInt32
  let acc := acc + (mtalSwap16 destIP.1).toUInt32 + (mtalSwap16 destIP.2).toUInt32
  acc + (ipProtoUDP.toUInt32 + usDataLen.toUInt32)

def mtalComputeUDPChecksum (bytes : List UInt8) (srcIP destIP : UInt16 × UInt16) : UInt16 :=
  let acc := addPseudoHeader (checksumWords 0 bytes) srcIP destIP (UInt16.ofNat bytes.length)
  let acc := foldCarry acc
  let acc := if acc &&& 0xffff0000 ≠ 0 then foldCarry acc else acc
  ~~~ acc.toUInt16

def addressWords (ip : UInt32) : UInt16 × UInt16 := (ip.toUInt16, (ip >>> 16).toUInt16)

end RavennaLkm
