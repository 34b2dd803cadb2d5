import Mathlib.Data.List.Induction
import RavennaLkm.ManagerInvariant

/-!
DispatchPacket of manager.c: what a received frame meets on its way to the
sinks, and which frames are handled without touching memory that is not theirs.
The frame is the bytes that were received; PTP answers first.
-/
namespace RavennaLkm
open CheckedLoop LittleEndian

def frameType (packet : List UInt8) : Except Fault UInt16 :=
  if sizeofEthernetHeader ≤ packet.length then .ok (load16 (fun k => packet.getD k 0) 12)
  else .error .readPast

/-- A frame that can be for us. -/
def isUDPFrame (packet : List UInt8) (macHeader : Bool) : Bool :=
  let base := UDPPacketBase.ofBytes fun k => packet.getD k 0
  !(packet.length < sizeofUDPPacketBase ||
    (macHeader && base.ethernetHeader.usType ≠ mtalSwap16 mtalEthProtoIPV4) ||
    base.ipv4Header.protocol ≠ ipProtoUDP)

theorem isUDPFrame_long {packet : List UInt8} {macHeader : Bool}
    (udp : isUDPFrame packet macHeader = true) : sizeofUDPPacketBase ≤ packet.length := by
  simp only [isUDPFrame, Bool.not_eq_true', Bool.or_eq_false_iff, decide_eq_false_iff_not] at udp
  exact Nat.not_lt.mp udp.1.1

namespace RTPStreamsManager

/-- `isActive` is `m_Is_NIC_Active`, `processPTP` the answer of the NIC's PTP clock. -/
def dispatchPacket (self : RTPStreamsManager) (isActive : UInt8 → Bool)
    (processPTP : UInt8 → List UInt8 → DispatchResult) (ops : RTPAudioStreamOps)
    (packet : List UInt8) (macHeader : Bool) (nicId : UInt8) :
    Except Fault (RTPStreamsManager × DispatchResult) :=
  if isUDPFrame packet macHeader then
    if nicId.toNat < maxNics && isActive nicId then
      match processPTP nicId packet with
      | .packetNotUsed => do
        let done ← self.processUDPPacket ops nicId packet
        .ok (done.1, if done.2 then .rtpPacketUsed else .packetNotUsed)
      | result => .ok (self, result)
    else .ok (self, .packetNotUsed)
  else
    -- is it a MAC control frame? Only a message depends on the answer
    if macHeader then (fun _ => (self, .packetNotUsed)) <$> frameType packet
    else .ok (self, .packetNotUsed)

variable {m m' : RTPStreamsManager} {h p : StreamHandle} {ops : RTPAudioStreamOps}

theorem storeStream_stream (m : RTPStreamsManager) (h : StreamHandle) (s : RTPAudioStream)
    (mem : RingMemory) (p : StreamHandle) :
    (m.storeStream h s mem).stream p = if p = h then s else m.stream p := by
  rw [stream, storeStream_handlers]
  split <;> rfl

theorem processOne_other {frame : RTPFrame} {done : RTPStreamsManager × Bool}
    (processed : m.processOne ops frame h = .ok done) (other : p ≠ h) :
    done.1.stream p = m.stream p := by
  obtain ⟨_, -, last⟩ := bind_eq_ok.mp processed
  cases last
  rw [storeStream_stream, if_neg other]

theorem processOne_partnerOf {frame : RTPFrame} {done : RTPStreamsManager × Bool}
    (processed : m.processOne ops frame h = .ok done) (notPartner : m.attached p ≠ some h) :
    done.1.partnerOf p = m.partnerOf p := by
  have kept : done.1.attached p = m.attached p := ((processOne_same processed).stream p).attached
  rw [partnerOf, kept, partnerOf]
  cases isPartner : m.attached p with
  | none => rfl
  | some q =>
    have other : q ≠ h := fun same => notPartner (by rw [isPartner, same])
    rw [Option.map_some, processOne_other processed other, Option.map_some]

theorem processOne_succeeds_iff {frame : RTPFrame} (accepted : AcceptedSink (m.stream h)) :
    Succeeds (m.processOne ops frame h) ↔ PacketSafe (m.stream h) (m.partnerOf h) ops frame := by
  rw [← accepted.process_succeeds_iff _ _ _ m.livesIn, processOne, succeeds_bind]
  exact ⟨fun ⟨done, run, _⟩ => ⟨done, run⟩, fun ⟨done, run⟩ => ⟨done, run, succeeds_ok _⟩⟩

/-- Sinks that are not attached among themselves are processed as if each was alone. -/
theorem processEach_succeeds_iff (frame : RTPFrame) (key : UInt64) (l : List StreamHandle)
    (once : l.Nodup) (accepted : ∀ h ∈ l, AcceptedSink (m.stream h))
    (apart : ∀ h ∈ l, ∀ p ∈ l, m.attached p ≠ some h) :
    Succeeds (processEach ops frame key l m) ↔
      ∀ h ∈ l, key = getKey (m.stream h).rtpStreamInfo →
        PacketSafe (m.stream h) (m.partnerOf h) ops frame := by
  induction l generalizing m with
  | nil => exact iff_of_true (succeeds_ok _) (by simp)
  | cons h rest ih =>
    obtain ⟨fresh, once⟩ := List.nodup_cons.mp once
    have isFirst := List.mem_cons_self (a := h) (l := rest)
    rw [processEach, List.forall_mem_cons]
    by_cases matches_ : key = getKey (m.stream h).rtpStreamInfo
    · rw [if_pos matches_, forall_prop_of_true matches_, ← processOne_succeeds_iff (accepted h isFirst),
        succeeds_bind]
      have later : ∀ done, m.processOne ops frame h = .ok done →
          (Succeeds (processEach ops frame key rest done.1) ↔
            ∀ p ∈ rest, key = getKey (m.stream p).rtpStreamInfo →
              PacketSafe (m.stream p) (m.partnerOf p) ops frame) := by
        intro done run
        have others : ∀ p ∈ rest, done.1.stream p = m.stream p := by
          intro p isRest
          exact processOne_other run (by rintro rfl; exact fresh isRest)
        have rest_ := ih (m := done.1) once
          (fun p isRest => by
            rw [others p isRest]
            exact accepted p (List.mem_cons_of_mem _ isRest))
          (fun p isRest q isRest' => by
            rw [attached, others q isRest']
            exact apart p (List.mem_cons_of_mem _ isRest) q (List.mem_cons_of_mem _ isRest'))
        rw [rest_]
        apply forall₂_congr
        intro p isRest
        rw [others p isRest, processOne_partnerOf run
          (apart h isFirst p (List.mem_cons_of_mem _ isRest))]
      constructor
      · rintro ⟨done, run, after⟩
        obtain ⟨_, rest_, -⟩ := succeeds_bind.mp after
        exact ⟨⟨done, run⟩, (later done run).mp ⟨_, rest_⟩⟩
      · rintro ⟨⟨done, run⟩, safe⟩
        obtain ⟨_, rest_⟩ := (later done run).mpr safe
        exact ⟨done, run, succeeds_bind.mpr ⟨_, rest_, succeeds_ok _⟩⟩
    · rw [if_neg matches_, and_iff_right fun isKey => absurd isKey matches_]
      exact ih once (fun p isRest => accepted p (List.mem_cons_of_mem _ isRest)) fun p isRest q isRest' =>
        apart p (List.mem_cons_of_mem _ isRest) q (List.mem_cons_of_mem _ isRest')

/-- Every sink of the NIC that has the frame's key can take it. -/
def SinksSafe (m : RTPStreamsManager) (ops : RTPAudioStreamOps) (nicId : UInt8)
    (packet : List UInt8) : Prop :=
  ∀ headers : sizeofRTPPacketBase ≤ packet.length,
    let frame : RTPFrame := ⟨packet, headers⟩
    isFragment frame.packetBase.ipv4Header = false → ∀ h ∈ m.sinkOrdered nicId.toNat,
      packetKey nicId frame.packetBase.toUDPPacketBase = getKey (m.stream h).rtpStreamInfo →
        PacketSafe (m.stream h) (m.partnerOf h) ops frame

theorem processUDPPacket_succeeds_iff (c : m.Consistent) (ops : RTPAudioStreamOps) {nicId : UInt8}
    (isNic : nicId.toNat < maxNics) (packet : List UInt8) :
    Succeeds (m.processUDPPacket ops nicId packet) ↔ m.SinksSafe ops nicId packet := by
  rw [processUDPPacket, if_neg (Nat.not_le.mpr isNic), SinksSafe]
  by_cases headers : sizeofRTPPacketBase ≤ packet.length
  · rw [dif_pos headers, forall_prop_of_true headers]
    simp only
    by_cases fragment : isFragment (RTPFrame.mk packet headers).packetBase.ipv4Header = true
    · rw [if_pos fragment]
      exact iff_of_true (succeeds_ok _) (by simp [fragment])
    · rw [if_neg fragment, forall_prop_of_true (by simpa using fragment)]
      apply processEach_succeeds_iff _ _ _ (c.sinkOnce _)
      · intro h listed
        exact (c.sink _ h listed).2.2.2
      · intro h listed p listed' isPartner
        obtain ⟨slot, onNic, -⟩ := c.sink _ h listed
        obtain ⟨slot', onNic', -⟩ := c.sink _ p listed'
        have pair := (c.handler p).partner h isPartner
        obtain ⟨i, -, rfl⟩ := List.mem_map.mp slot
        obtain ⟨j, -, rfl⟩ := List.mem_map.mp slot'
        exact pair (onNic'.trans onNic.symm)
  · rw [dif_neg headers]
    exact iff_of_true (succeeds_ok _) fun received => absurd received headers

/-- A frame is handled inside its bytes and inside the rings exactly when it is long enough for
the type the code looks at, and every sink it reaches can take it. -/
theorem dispatch_safe_iff (reached : m.Reachable) (isActive : UInt8 → Bool)
    (processPTP : UInt8 → List UInt8 → DispatchResult) (ops : RTPAudioStreamOps)
    (packet : List UInt8) (macHeader : Bool) (nicId : UInt8) :
    Succeeds (m.dispatchPacket isActive processPTP ops packet macHeader nicId) ↔
      (macHeader = true → sizeofEthernetHeader ≤ packet.length) ∧
        (isUDPFrame packet macHeader = true → nicId.toNat < maxNics → isActive nicId = true →
          processPTP nicId packet = .packetNotUsed → m.SinksSafe ops nicId packet) := by
  rw [dispatchPacket]
  by_cases udp : isUDPFrame packet macHeader = true
  · have long : sizeofEthernetHeader ≤ packet.length := (by decide : 14 ≤ 42).trans (isUDPFrame_long udp)
    rw [if_pos udp, and_iff_right fun _ => long, forall_prop_of_true udp]
    by_cases isNic : nicId.toNat < maxNics
    · rw [forall_prop_of_true isNic]
      cases active : isActive nicId with
      | false =>
        rw [if_neg (by simp)]
        exact iff_of_true (succeeds_ok _) (by simp)
      | true =>
        rw [if_pos (by simp [isNic]), forall_prop_of_true rfl]
        have udpSafe := processUDPPacket_succeeds_iff reached.consistent ops isNic packet
        cases processPTP nicId packet with
        | packetNotUsed =>
          rw [forall_prop_of_true rfl, ← udpSafe, succeeds_bind]
          exact ⟨fun ⟨done, run, _⟩ => ⟨done, run⟩, fun ⟨done, run⟩ => ⟨done, run, succeeds_ok _⟩⟩
        | _ => exact iff_of_true (succeeds_ok _) (by simp)
    · rw [if_neg (by simp [isNic])]
      exact iff_of_true (succeeds_ok _) (by simp [isNic])
  · rw [if_neg udp, and_iff_left fun isUDP => absurd isUDP udp]
    cases macHeader with
    | false => exact iff_of_true (succeeds_ok _) (by simp)
    | true =>
      rw [if_pos rfl, forall_prop_of_true rfl, frameType]
      by_cases long : sizeofEthernetHeader ≤ packet.length
      · rw [if_pos long]
        exact iff_of_true (succeeds_ok _) long
      · rw [if_neg long]
        exact iff_of_false (not_succeeds_error _) long

def monoSink (port : UInt32) : RTPStreamInfo where
  sizeofStreamInfo := sizeofRTPStreamInfo
  ifPortId := port
  cName := [83]
  playOutDelay := 64
  frameSize := 48
  rtcpSrcIP := 0xC0A80001
  destIP := 0xEF010001
  destPort := 5004
  payloadType := 98
  samplingRate := 48000
  codec := .l24
  wordLength := 3
  nbOfChannels := 1
  id := 7

def oneLiveInOps : RTPAudioStreamOps where
  globalSAC := 4800
  frameSize := 48
  liveInJitterBuffer := fun ch => if ch = 0 then some 0 else none
  liveInJitterBufferLength := ringBufferSize

def withSinks (ports : List UInt32) : RTPStreamsManager :=
  ports.foldl (fun m port => (m.addRTPStream (monoSink port) oneLiveInOps).1)
    (init (fun _ => {}) fun _ => {})

theorem withSinks_reachable (ports : List UInt32) : (withSinks ports).Reachable := by
  induction ports using List.reverseRec with
  | nil => exact init_reachable (fun _ => {}) fun _ => {}
  | append_singleton ports port ih =>
    refine ih.step (.add (monoSink port) oneLiveInOps) ?_
    simp only [withSinks, List.foldl_append]
    rfl

def announcedFrame (samples seqNum timestamp : Nat) (audio : List UInt8) : List UInt8 :=
  RTPPacketBase.bytes {
    ethernetHeader := { usType := mtalSwap16 mtalEthProtoIPV4 }
    ipv4Header := { versionHeaderLen := 0x45, protocol := ipProtoUDP, destIP := mtalSwap32 0xEF010001 }
    udpHeader := { destPort := mtalSwap16 5004, len := mtalSwap16 (UInt16.ofNat (20 + 3 * samples)) }
    rtpHeader := {
      version := 0x80, payloadType := 98, seqNum := mtalSwap16 (UInt16.ofNat seqNum)
      timestamp := mtalSwap32 (UInt32.ofNat timestamp) } } ++ audio

def noPTP (_ : UInt8) (_ : List UInt8) : DispatchResult := .packetNotUsed

theorem dispatch_safe_iff_mono :
    Succeeds ((withSinks [0]).dispatchPacket (fun _ => true) noPTP oneLiveInOps
        (announcedFrame 1 0 4800 [1, 2, 3]) true 0) ↔
      (true = true → sizeofEthernetHeader ≤ (announcedFrame 1 0 4800 [1, 2, 3]).length) ∧
        (isUDPFrame (announcedFrame 1 0 4800 [1, 2, 3]) true = true → (0 : UInt8).toNat < maxNics →
          true = true → noPTP 0 (announcedFrame 1 0 4800 [1, 2, 3]) = .packetNotUsed →
            (withSinks [0]).SinksSafe oneLiveInOps 0 (announcedFrame 1 0 4800 [1, 2, 3])) :=
  dispatch_safe_iff (withSinks_reachable [0]) (fun _ => true) noPTP oneLiveInOps _ true 0

/-- The three bytes of a sample that only the UDP length claims are read behind the frame. -/
theorem announcedFrame_unsafe :
    (withSinks [0]).Reachable ∧
      ¬ Succeeds ((withSinks [0]).dispatchPacket (fun _ => true) noPTP oneLiveInOps
        (announcedFrame 1 0 4800 []) true 0) := by
  refine ⟨withSinks_reachable [0], ?_⟩
  have fault : (withSinks [0]).dispatchPacket (fun _ => true) noPTP oneLiveInOps
      (announcedFrame 1 0 4800 []) true 0 = .error .readPast := rfl
  rw [fault]
  exact not_succeeds_error _

end RTPStreamsManager

end RavennaLkm
