import RavennaLkm.Election
import RavennaLkm.ManagerSpec
import RavennaLkm.StatusEvents

/-!
nf_rx_packet: what the netfilter hook is told about a received frame. A frame is
dropped when one NIC reports it as used audio. Sinks report the audio that they
use; a clock reports the times of another clock than its master in the same way.
-/
namespace RavennaLkm
open CheckedLoop GuardedRun

/-- The `switch` of `rx_packet`; 0 is `NF_DROP`. -/
def DispatchResult.verdict : DispatchResult → Int32
  | .rtpPacketUsed => 0
  | .ptpPacketUsed | .packetNotUsed | .rtpMIDIPacketUsed | .packetError => 1

structure FrameArrival where
  bytes : List UInt8
  ifname : List UInt8
  macHeader : Bool
  alsa : AlsaBuffers := {}
  clockTime : UInt64 := 0
  counterTime : UInt64 := 0

namespace Manager

def rxPacket (self : Manager) (frame : FrameArrival) (nic : Nat) : Except Fault (Manager × Int32) :=
  if (self.ethernetFilter nic).rxPacket frame.bytes frame.ifname then
    (fun done => (done.1, done.2.verdict)) <$>
      self.dispatchPacket (self.callbacks frame.alsa frame.counterTime) frame.bytes frame.macHeader nic
        frame.clockTime
  else .ok (self, 1)

def nfRxPacket (self : Manager) (frame : FrameArrival) : Except Fault (Manager × Int32) :=
  forUp (fun nic found => (fun done => (done.1, found.2 &&& done.2)) <$> found.1.rxPacket frame nic)
    maxNics (self, 1)

end Manager

def usesPacket (s : RTPAudioStream) (frame : RTPFrame) : Bool :=
  (checkRTPHeader s frame.packetBase.rtpHeader).2 && claimedSamples s frame != 0

theorem processRTPAudioPacket_used {s t : RTPAudioStream} {partner : Option RTPStream} {ops : RTPAudioStreamOps}
    {frame : RTPFrame} {mem mem' : RingMemory} {used : Bool}
    (done : processRTPAudioPacket s partner ops frame mem = .ok (t, mem', used)) : used = usesPacket s frame := by
  have samples := (checkRTPHeader_same s frame.packetBase.rtpHeader).claimedSamples frame
  unfold usesPacket
  unfold processRTPAudioPacket at done
  simp only at done
  split at done
  · rename_i accepted
    obtain ⟨skip, skipped, rest⟩ := bind_eq_ok.mp done
    obtain ⟨n, counted, rest⟩ := bind_eq_ok.mp rest
    have number := StatusEvent.nbOfSamplesInPacket_claimed skipped counted
    rw [(checkSeqNum_same _ _).claimedSamples, samples] at number
    rw [accepted, Bool.true_and, ← number]
    split at rest
    · rename_i none
      cases rest
      simp [none]
    · rename_i some
      obtain ⟨received, -, last⟩ := bind_eq_ok.mp rest
      cases last
      simp [some]
  · rename_i refused
    cases done
    simp [refused]

namespace RTPStreamsManager

variable {m m' : RTPStreamsManager} {h p : StreamHandle} {ops : RTPAudioStreamOps} {nicId : UInt8}
  {packet : List UInt8} {used : Bool}

theorem processOne_used {frame : RTPFrame} (done : m.processOne ops frame h = .ok (m', used)) :
    used = usesPacket (m.stream h) frame := by
  obtain ⟨⟨s, mem, result⟩, processed, last⟩ := bind_eq_ok.mp done
  cases last
  exact processRTPAudioPacket_used processed

theorem processEach_other {frame : RTPFrame} {key : UInt64} {l : List StreamHandle}
    (done : processEach ops frame key l m = .ok (m', used)) (other : p ∉ l) : m'.stream p = m.stream p := by
  induction l generalizing m used with
  | nil =>
    cases done
    rfl
  | cons h rest ih =>
    rw [List.mem_cons, not_or] at other
    rw [processEach] at done
    split at done
    · obtain ⟨first, processed, run⟩ := bind_eq_ok.mp done
      obtain ⟨later, others, last⟩ := bind_eq_ok.mp run
      cases last
      exact (ih others other.2).trans (processOne_other processed other.1)
    · exact ih done other.2

theorem processEach_used {frame : RTPFrame} {key : UInt64} {l : List StreamHandle} (once : l.Nodup)
    (done : processEach ops frame key l m = .ok (m', used)) :
    used = true ↔
      ∃ h ∈ l, key = getKey (m.stream h).rtpStreamInfo ∧ usesPacket (m.stream h) frame = true := by
  induction l generalizing m used with
  | nil =>
    cases done
    simp
  | cons h rest ih =>
    obtain ⟨fresh, once⟩ := List.nodup_cons.mp once
    rw [processEach] at done
    simp only [List.mem_cons, exists_eq_or_imp]
    split at done
    · rename_i isKey
      obtain ⟨⟨m₁, first⟩, processed, run⟩ := bind_eq_ok.mp done
      obtain ⟨⟨m₂, later⟩, others, last⟩ := bind_eq_ok.mp run
      cases last
      have kept : ∀ p ∈ rest, m₁.stream p = m.stream p := by
        intro p isRest
        apply processOne_other processed
        intro same
        rw [same] at isRest
        exact fresh isRest
      have rest_ := ih once others
      rw [Bool.or_eq_true, processOne_used processed, rest_]
      apply or_congr
      · simp [isKey]
      · apply exists_congr
        intro p
        apply and_congr_right
        intro isRest
        rw [kept p isRest]
    · rename_i otherKey
      simp [ih once done, otherKey]

def ConsumedBy (m : RTPStreamsManager) (nicId : UInt8) (packet : List UInt8) (h : StreamHandle) : Prop :=
  h ∈ m.sinkOrdered nicId.toNat ∧ ∃ headers : sizeofRTPPacketBase ≤ packet.length,
    let frame : RTPFrame := ⟨packet, headers⟩
    isFragment frame.packetBase.ipv4Header = false ∧
      packetKey nicId frame.packetBase.toUDPPacketBase = getKey (m.stream h).rtpStreamInfo ∧
      usesPacket (m.stream h) frame = true

theorem ConsumedBy.congr (sinks : m'.sinkOrdered = m.sinkOrdered)
    (streams : ∀ h ∈ m.sinkOrdered nicId.toNat, m'.stream h = m.stream h) :
    m'.ConsumedBy nicId packet h ↔ m.ConsumedBy nicId packet h := by
  unfold ConsumedBy
  rw [sinks]
  apply and_congr_right
  intro listed
  rw [streams h listed]

theorem processUDPPacket_used (c : m.Consistent) (isNic : nicId.toNat < maxNics)
    (done : m.processUDPPacket ops nicId packet = .ok (m', used)) :
    used = true ↔ ∃ h, m.ConsumedBy nicId packet h := by
  unfold processUDPPacket at done
  rw [if_neg (Nat.not_le.mpr isNic)] at done
  unfold ConsumedBy
  by_cases headers : sizeofRTPPacketBase ≤ packet.length
  · rw [dif_pos headers] at done
    dsimp only at done
    split at done
    · rename_i fragment
      cases done
      simp [fragment]
    · rename_i whole
      simp [processEach_used (c.sinkOnce _) done, headers, whole]
  · rw [dif_neg headers] at done
    cases done
    simp [headers]

theorem processUDPPacket_other (c : m.Consistent) (done : m.processUDPPacket ops nicId packet = .ok (m', used))
    {nic : Nat} (other : nic ≠ nicId.toNat) (listed : h ∈ m.sinkOrdered nic) : m'.stream h = m.stream h := by
  unfold processUDPPacket at done
  split at done
  · cases done
    rfl
  · split at done
    · dsimp only at done
      split at done
      · cases done
        rfl
      · apply processEach_other done
        intro here
        exact other ((c.sink nic h listed).2.1.symm.trans (c.sink _ h here).2.1)
    · cases done
      rfl

end RTPStreamsManager

namespace ClockPTP

variable {c c' : ClockPTP} {message : PTPMessage} {packet : List UInt8} {clockTime : UInt64}
  {result : DispatchResult}

def heard (c : ClockPTP) (packet : List UInt8) : Option PTPMessage :=
  if c.listens then PTPMessage.ofPacket packet else none

def IsForeign (c : ClockPTP) (message : PTPMessage) : Prop :=
  message.IsTiming ∧ message.header.clockIdentity ≠ c.ptpMasterClockIdentity

theorem processMessage_result (done : c.processMessage message clockTime = .ok (c', result)) :
    c.IsForeign message ∧ result = .rtpPacketUsed ∨ ¬ c.IsForeign message ∧ result = .ptpPacketUsed := by
  unfold IsForeign
  cases message with
  | announce h body =>
    cases done
    exact .inr ⟨fun foreign => foreign.1, rfl⟩
  | sync h origin =>
    rw [processMessage] at done
    split at done
    · rename_i other
      cases done
      exact .inl ⟨⟨trivial, other⟩, rfl⟩
    · rename_i isMaster
      obtain ⟨_, processed, pair⟩ := map_eq_ok.mp done
      cases pair
      exact .inr ⟨fun foreign => isMaster foreign.2, rfl⟩
  | followUp h origin =>
    rw [processMessage] at done
    split at done
    · rename_i other
      cases done
      exact .inl ⟨⟨trivial, other⟩, rfl⟩
    · rename_i isMaster
      obtain ⟨_, processed, pair⟩ := map_eq_ok.mp done
      cases pair
      exact .inr ⟨fun foreign => isMaster foreign.2, rfl⟩
  | other h =>
    cases done
    exact .inr ⟨fun foreign => foreign.1, rfl⟩

theorem processPTPPacket_result (done : c.processPTPPacket packet clockTime = .ok (c', result)) :
    c.heard packet = none ∧ result = .packetNotUsed ∨
      ∃ message, c.heard packet = some message ∧
        (c.IsForeign message ∧ result = .rtpPacketUsed ∨ ¬ c.IsForeign message ∧ result = .ptpPacketUsed) := by
  unfold processPTPPacket at done
  unfold heard
  cases listens : c.listens with
  | false =>
    rw [listens] at done
    cases done
    exact .inl ⟨rfl, rfl⟩
  | true =>
    rw [listens] at done
    cases found : PTPMessage.ofPacket packet with
    | none =>
      rw [found] at done
      cases done
      exact .inl ⟨rfl, rfl⟩
    | some message =>
      rw [found] at done
      exact .inr ⟨message, rfl, processMessage_result done⟩

end ClockPTP

namespace Manager

variable {m m' m₁ : Manager} {frame : FrameArrival} {nic n : Nat} {verdict : Int32}

theorem toNat_nicByte (isNic : nic < maxNics) : (UInt8.ofNat nic).toNat = nic := by
  unfold maxNics at isNic
  rw [UInt8.toNat_ofNat']
  omega

/-- The frame gets as far as the clock and the sinks of the NIC. -/
def Reaches (m : Manager) (frame : FrameArrival) (nic : Nat) : Prop :=
  (m.ethernetFilter nic).rxPacket frame.bytes frame.ifname = true ∧
    isUDPFrame frame.bytes frame.macHeader = true ∧ m.isNICActive nic = true

def ForeignTime (m : Manager) (frame : FrameArrival) (nic : Nat) : Prop :=
  m.Reaches frame nic ∧
    ∃ message, (m.ptp nic).heard frame.bytes = some message ∧ (m.ptp nic).IsForeign message

def UsedAsAudio (m : Manager) (frame : FrameArrival) (nic : Nat) : Prop :=
  m.Reaches frame nic ∧ (m.ptp nic).heard frame.bytes = none ∧
    ∃ h, m.streams.ConsumedBy (UInt8.ofNat nic) frame.bytes h

structure Ahead (m m' : Manager) (n : Nat) : Prop where
  ethernetFilter : m'.ethernetFilter = m.ethernetFilter
  isNICActive : m'.isNICActive = m.isNICActive
  ptp : ∀ nic ≥ n, m'.ptp nic = m.ptp nic
  sinkOrdered : m'.streams.sinkOrdered = m.streams.sinkOrdered
  stream : ∀ nic ≥ n, ∀ h ∈ m.streams.sinkOrdered nic, m'.streams.stream h = m.streams.stream h
  consistent : m'.streams.Consistent

namespace Ahead

variable (ahead : Ahead m m' nic)

include ahead

theorem reaches : m'.Reaches frame nic ↔ m.Reaches frame nic := by
  unfold Reaches
  rw [ahead.ethernetFilter, ahead.isNICActive]

theorem foreignTime : m'.ForeignTime frame nic ↔ m.ForeignTime frame nic := by
  unfold ForeignTime
  rw [ahead.reaches, ahead.ptp nic (Nat.le_refl nic)]

theorem usedAsAudio (isNic : nic < maxNics) : m'.UsedAsAudio frame nic ↔ m.UsedAsAudio frame nic := by
  have byte := toNat_nicByte isNic
  unfold UsedAsAudio
  rw [ahead.reaches, ahead.ptp nic (Nat.le_refl nic)]
  apply and_congr_right
  intro _
  apply and_congr_right
  intro _
  apply exists_congr
  intro h
  apply RTPStreamsManager.ConsumedBy.congr ahead.sinkOrdered
  rw [byte]
  exact ahead.stream nic (Nat.le_refl nic)

end Ahead

/-- The result of a NIC that a frame reaches: the answer of its clock comes before that of its sinks. -/
theorem dispatchPacket_result {ops : RTPAudioStreamOps} {bytes : List UInt8} {macHeader : Bool}
    {clockTime : UInt64} {result : DispatchResult} (c : m.streams.Consistent) (isNic : nic < maxNics)
    (udp : isUDPFrame bytes macHeader = true) (active : m.isNICActive nic = true)
    (done : m.dispatchPacket ops bytes macHeader nic clockTime = .ok (m', result)) :
    (result = .rtpPacketUsed ↔
        (∃ message, (m.ptp nic).heard bytes = some message ∧ (m.ptp nic).IsForeign message) ∨
          (m.ptp nic).heard bytes = none ∧ ∃ h, m.streams.ConsumedBy (UInt8.ofNat nic) bytes h) ∧
      Ahead m m' (nic + 1) := by
  have byte := toNat_nicByte isNic
  obtain ⟨⟨m₁, answer⟩, answered, rest⟩ := bind_eq_ok.mp done
  obtain ⟨⟨streams, final⟩, dispatched, last⟩ := bind_eq_ok.mp rest
  cases last
  unfold processPTP at answered
  rw [udp, active] at answered
  obtain ⟨⟨clock, result'⟩, heard, same⟩ := bind_eq_ok.mp answered
  cases same
  have others : ∀ k ≥ nic + 1, (m.setPTP nic clock).ptp k = m.ptp k := fun k later =>
    setPTP_of_ne m (by omega) ..
  unfold RTPStreamsManager.dispatchPacket at dispatched
  simp only [udp, byte, active, isNic, decide_true, Bool.and_self, if_true] at dispatched
  obtain ⟨unheard, answer⟩ | ⟨message, isMessage, ⟨foreign, answer⟩ | ⟨isMaster, answer⟩⟩ :=
    ClockPTP.processPTPPacket_result heard
  · rw [answer] at dispatched
    obtain ⟨⟨streams', used⟩, processed, last⟩ := bind_eq_ok.mp dispatched
    cases last
    have isNic' : (UInt8.ofNat nic).toNat < maxNics := by rwa [byte]
    have consumed := RTPStreamsManager.processUDPPacket_used c isNic' processed
    constructor
    · rw [← consumed]
      cases used
      all_goals simp [unheard]
    · constructor
      · rfl
      · rfl
      · exact others
      · exact (RTPStreamsManager.processUDPPacket_same processed).sinkOrdered
      · intro k later h listed
        exact RTPStreamsManager.processUDPPacket_other c processed (by rw [byte]; omega) listed
      · exact (RTPStreamsManager.processUDPPacket_same processed).consistent c
  · rw [answer] at dispatched
    cases dispatched
    constructor
    · simp [isMessage, foreign]
    · exact ⟨rfl, rfl, others, rfl, fun _ _ _ _ => rfl, c⟩
  · rw [answer] at dispatched
    cases dispatched
    constructor
    · simp [isMessage, isMaster]
    · exact ⟨rfl, rfl, others, rfl, fun _ _ _ _ => rfl, c⟩

theorem dispatchPacket_unreached {ops : RTPAudioStreamOps} {bytes : List UInt8} {macHeader : Bool}
    {clockTime : UInt64} {result : DispatchResult} (isNic : nic < maxNics)
    (unreached : ¬ (isUDPFrame bytes macHeader = true ∧ m.isNICActive nic = true))
    (done : m.dispatchPacket ops bytes macHeader nic clockTime = .ok (m', result)) :
    m' = m ∧ result = .packetNotUsed := by
  have byte := toNat_nicByte isNic
  obtain ⟨⟨m₁, answer⟩, answered, rest⟩ := bind_eq_ok.mp done
  obtain ⟨⟨streams, final⟩, dispatched, last⟩ := bind_eq_ok.mp rest
  cases last
  unfold processPTP at answered
  rw [if_neg (by simpa using unreached)] at answered
  cases answered
  unfold RTPStreamsManager.dispatchPacket at dispatched
  split at dispatched
  · rename_i udp
    have idle : m.isNICActive nic = false := by simpa [udp] using unreached
    simp only [byte, idle, Bool.and_false, Bool.false_eq_true, if_false] at dispatched
    cases dispatched
    exact ⟨rfl, rfl⟩
  · split at dispatched
    · obtain ⟨_, -, last⟩ := map_eq_ok.mp dispatched
      cases last
      exact ⟨rfl, rfl⟩
    · cases dispatched
      exact ⟨rfl, rfl⟩

theorem Ahead.refl (c : m.streams.Consistent) : Ahead m m n :=
  ⟨rfl, rfl, fun _ _ => rfl, rfl, fun _ _ _ _ => rfl, c⟩

theorem verdict_eq_zero_iff {result : DispatchResult} : result.verdict = 0 ↔ result = .rtpPacketUsed := by
  cases result
  all_goals decide

theorem verdict_zero_or_one (result : DispatchResult) : result.verdict = 0 ∨ result.verdict = 1 := by
  cases result
  all_goals decide

theorem rxPacket_verdict (c : m.streams.Consistent) (isNic : nic < maxNics)
    (done : m.rxPacket frame nic = .ok (m', verdict)) :
    (verdict = 0 ∨ verdict = 1) ∧ (verdict = 0 ↔ m.ForeignTime frame nic ∨ m.UsedAsAudio frame nic) ∧
      Ahead m m' (nic + 1) := by
  unfold rxPacket at done
  unfold ForeignTime UsedAsAudio Reaches
  split at done
  · rename_i taken
    obtain ⟨⟨m₁, result⟩, dispatched, last⟩ := map_eq_ok.mp done
    cases last
    refine ⟨verdict_zero_or_one result, ?_⟩
    rw [verdict_eq_zero_iff]
    by_cases reached : isUDPFrame frame.bytes frame.macHeader = true ∧ m.isNICActive nic = true
    · obtain ⟨verdict, ahead⟩ := dispatchPacket_result c isNic reached.1 reached.2 dispatched
      refine ⟨?_, ahead⟩
      rw [verdict]
      simp [taken, reached]
    · obtain ⟨same, unused⟩ := dispatchPacket_unreached isNic reached dispatched
      rw [same, unused]
      constructor
      · simp [taken, reached]
      · exact .refl c
  · rename_i refused
    cases done
    simp [refused, Ahead.refl c]

theorem nfRxPacket_fst (m : Manager) (frame : FrameArrival) : (·.1) <$> m.nfRxPacket frame =
    m.etherTubeRxPacket frame.alsa frame.bytes frame.ifname frame.macHeader frame.clockTime frame.counterTime := by
  unfold nfRxPacket etherTubeRxPacket
  apply forUp_map
  intro nic found
  unfold rxPacket
  split
  · cases found.1.dispatchPacket _ _ _ _ _
    all_goals rfl
  · rfl

theorem Ahead.trans (first : Ahead m m₁ n) (later : Ahead m₁ m' (n + 1)) : Ahead m m' (n + 1) where
  ethernetFilter := later.ethernetFilter.trans first.ethernetFilter
  isNICActive := later.isNICActive.trans first.isNICActive
  ptp nic beyond := (later.ptp nic beyond).trans (first.ptp nic (by omega))
  sinkOrdered := later.sinkOrdered.trans first.sinkOrdered
  stream nic beyond h listed := by
    rw [later.stream nic beyond h (by rwa [first.sinkOrdered]), first.stream nic (by omega) h listed]
  consistent := later.consistent

theorem and_verdict {a b : Int32} (first : a = 0 ∨ a = 1) (second : b = 0 ∨ b = 1) :
    (a &&& b = 0 ∨ a &&& b = 1) ∧ (a &&& b = 0 ↔ a = 0 ∨ b = 0) := by
  rcases first with rfl | rfl
  all_goals
    rcases second with rfl | rfl
    all_goals decide

theorem nfRxPacket_verdict (c : m.streams.Consistent) (done : m.nfRxPacket frame = .ok (m', verdict)) :
    verdict = 0 ↔ ∃ nic < maxNics, m.ForeignTime frame nic ∨ m.UsedAsAudio frame nic := by
  let inv (n : Nat) (found : Manager × Int32) : Prop :=
    (found.2 = 0 ∨ found.2 = 1) ∧
      (found.2 = 0 ↔ ∃ nic < n, m.ForeignTime frame nic ∨ m.UsedAsAudio frame nic) ∧ Ahead m found.1 n
  have start : inv 0 (m, 1) := by
    refine ⟨.inr rfl, ?_, .refl c⟩
    simp
  have whole : inv maxNics (m', verdict) := by
    apply forUp_kept inv start _ done
    intro k found after isNic holds step
    obtain ⟨bits, sofar, ahead⟩ := holds
    obtain ⟨⟨m₁, here⟩, received, last⟩ := map_eq_ok.mp step
    cases last
    obtain ⟨bits', last, further⟩ := rxPacket_verdict ahead.consistent isNic received
    rw [ahead.foreignTime, ahead.usedAsAudio isNic] at last
    obtain ⟨both, zero⟩ := and_verdict bits bits'
    refine ⟨both, ?_, ahead.trans further⟩
    rw [zero, sofar, last]
    simp only [Nat.lt_succ_iff_lt_or_eq, or_and_right, exists_or, exists_eq_left]
  exact whole.2.1

/-- A dropped frame was used as audio by a sink, and no PTP message is dropped. -/
structure Transparent (m : Manager) (frame : FrameArrival) (verdict : Int32) : Prop where
  dropped : verdict = 0 → ∃ nic < maxNics, m.UsedAsAudio frame nic
  ptp : ∀ message, PTPMessage.ofPacket frame.bytes = some message → verdict ≠ 0

/-- No clock finds a foreign time in the frame, and a PTP message is not used as audio where no clock runs. -/
def Harmless (m : Manager) (frame : FrameArrival) : Prop :=
  ∀ nic < maxNics, ¬ m.ForeignTime frame nic ∧
    (PTPMessage.ofPacket frame.bytes ≠ none → ¬ m.UsedAsAudio frame nic)

theorem ForeignTime.isPTP (foreign : m.ForeignTime frame nic) : PTPMessage.ofPacket frame.bytes ≠ none := by
  obtain ⟨-, message, heard, -⟩ := foreign
  unfold ClockPTP.heard at heard
  split at heard
  · simp [heard]
  · cases heard

theorem transparent_iff {macAddress : Nat → MACAddress} {livesIn : RingMemory}
    {streamAt : UInt64 → StreamHandle} {ops : List ManagerOp}
    (run : Run ManagerOp.step (fun _ _ => True) (init macAddress livesIn streamAt) ops m)
    (done : m.nfRxPacket frame = .ok (m', verdict)) : m.Transparent frame verdict ↔ m.Harmless frame := by
  have drops := nfRxPacket_verdict (run_ok run).streams done
  constructor
  · intro transparent nic isNic
    have accepted : PTPMessage.ofPacket frame.bytes ≠ none → verdict ≠ 0 := by
      intro isPTP
      obtain ⟨message, found⟩ := Option.ne_none_iff_exists'.mp isPTP
      exact transparent.ptp message found
    constructor
    · intro foreign
      exact accepted foreign.isPTP (drops.mpr ⟨nic, isNic, .inl foreign⟩)
    · intro isPTP used
      exact accepted isPTP (drops.mpr ⟨nic, isNic, .inr used⟩)
  · intro harmless
    constructor
    · intro dropped
      obtain ⟨nic, isNic, foreign | used⟩ := drops.mp dropped
      · exact absurd foreign (harmless nic isNic).1
      · exact ⟨nic, isNic, used⟩
    · intro message found dropped
      obtain ⟨nic, isNic, foreign | used⟩ := drops.mp dropped
      · exact (harmless nic isNic).1 foreign
      · exact (harmless nic isNic).2 (by simp [found]) used

def stray : FrameArrival where
  bytes := UDPPacketBase.bytes {
      ipv4Header := { protocol := ipProtoUDP }
      udpHeader := { destPort := mtalSwap16 319 } } ++
    [0, 2] ++ List.replicate 18 0 ++ [8] ++ List.replicate 23 0
  ifname := [101, 116, 104, 48]
  macHeader := false

theorem transparent_iff_stray : ∃ m' verdict, loaded.nfRxPacket stray = .ok (m', verdict) ∧
    (loaded.Transparent stray verdict ↔ loaded.Harmless stray) := by
  obtain ⟨⟨m', verdict⟩, done⟩ : Succeeds (loaded.nfRxPacket stray) := ⟨_, rfl⟩
  have run : Run ManagerOp.step (fun _ _ => True) loaded [] loaded := .nil loaded
  exact ⟨m', verdict, done, transparent_iff run done⟩

def startOnEth0 : List ManagerOp :=
  [.message ⟨15, 5, [101, 116, 104, 48, 0]⟩ {} fun _ _ => .unlocked,
    .message ⟨0, 0, []⟩ {} fun _ _ => .unlocked]

/-- The Sync is dropped by a started driver without streams. -/
theorem stray_sync_dropped : ¬ ∀ ops m frame m' verdict, Run ManagerOp.step (fun _ _ => True) loaded ops m →
    m.nfRxPacket frame = .ok (m', verdict) → m.Transparent frame verdict := by
  intro all
  obtain ⟨m, run, seen⟩ := exists_run .interfaceOverrun ManagerOp.step (fun _ _ => True) loaded startOnEth0
    (fun m => (·.2) <$> m.nfRxPacket stray) (.ok 0) (by decide +kernel)
  obtain ⟨⟨m', verdict⟩, done, same⟩ := map_eq_ok.mp seen
  have isPTP : PTPMessage.ofPacket stray.bytes ≠ none := by decide
  obtain ⟨message, found⟩ := Option.ne_none_iff_exists'.mp isPTP
  exact (all _ m stray m' verdict run done).ptp message found same

end Manager

end RavennaLkm
