import RavennaLkm.InterfaceNames
import RavennaLkm.SlotReuse
import RavennaLkm.StreamTable

/-!
What the reply to a message says of it. A handler may overwrite an error that it
has found, ignore the result of the setter, or answer for the last of several
names.
-/
namespace RavennaLkm
open CheckedLoop LittleEndian GuardedRun

namespace RTPStreamsManager

variable {m m' : RTPStreamsManager} {h : StreamHandle} {info : RTPStreamInfo} {ops : RTPAudioStreamOps}

structure Adds (m : RTPStreamsManager) (info : RTPStreamInfo) (h : StreamHandle) (m' : RTPStreamsManager) :
    Prop where
  fresh : ¬ m.Listed h
  listed : m'.Listed h
  info : (m'.stream h).rtpStreamInfo = info

theorem insertStream_listed (m : RTPStreamsManager) (info : RTPStreamInfo) (h : StreamHandle) :
    (m.insertStream info h).Listed h := by
  unfold insertStream
  split
  · left
    exact (insertSource_perm m h m.sourceOrdered).mem_iff.mpr List.mem_cons_self
  · right
    refine ⟨info.ifPortId.toUInt8.toNat, ?_⟩
    dsimp only
    rw [Function.update_self]
    exact List.mem_append_right _ List.mem_cons_self

theorem addRTPStream_adds (c : m.Consistent) (accepted : (m.addRTPStream info ops).2 = some h) :
    m.Adds info h (m.addRTPStream info ops).1 := by
  obtain ⟨-, usable, -, -, added⟩ := addRTPStream_accepted accepted
  rw [added]
  constructor
  case fresh =>
    intro listed
    exact Bool.false_ne_true ((usableHandler_free usable).2.1.symm.trans (c.active listed))
  case listed => exact insertStream_listed _ info h
  case info =>
    obtain ⟨p, attached⟩ := attachedStream_stream (m.createIn info ops h).1 h h
    rw [insertStream_stream, attached]
    exact (createIn_info c usable ops).1

theorem not_listed_of_removed (c : m.Consistent) (ops : RTPAudioStreamOps) (h : StreamHandle) :
    ¬ (m.removeRTPStream ops h).1.Listed h := by
  obtain ⟨sources, sinks, -⟩ := removeRTPStream_lists c ops h
  rintro (source | ⟨nic, sink⟩)
  · rw [sources] at source
    exact c.sourceOnce.not_mem_erase source
  · rw [sinks] at sink
    exact (c.sinkOnce nic).not_mem_erase sink

theorem removeAllRTPStreams_lists (c : m.Consistent) (ops : RTPAudioStreamOps) (h : StreamHandle) :
    ¬ (m.removeAllRTPStreams ops).Listed h := by
  obtain ⟨consistent, inactive⟩ := removeAllRTPStreams_spec c ops
  intro listed
  exact Bool.false_ne_true ((inactive h).symm.trans (consistent.active listed))

theorem statusIn_unlisted {l : List StreamHandle} (unlisted : h ∉ l) : m.statusIn h l = (m, none) :=
  if_neg unlisted

theorem statusIn_sink (c : m.Consistent) {nic : Nat} (listed : h ∈ m.sinkOrdered nic) :
    (m.statusIn h (m.sinkOrdered nic)).2 = some (m.stream h).streamStatus := by
  have sink := (c.sink nic h listed).2.2.2.sink
  rw [statusIn, if_pos listed, RavennaLkm.getRTPStreamStatus, if_neg (by rw [sink]; decide)]

theorem getRTPStreamStatus_snd (c : m.Consistent) (h : StreamHandle) :
    (∃ nic, h ∈ m.sinkOrdered nic) ∧ (m.getRTPStreamStatus h).2 = some (m.stream h).streamStatus ∨
      (¬ ∃ nic, h ∈ m.sinkOrdered nic) ∧ (m.getRTPStreamStatus h).2 = none := by
  rw [getRTPStreamStatus_eq c]
  unfold sinkStatus
  dsimp only
  have lists : (m.statusIn h (m.sinkOrdered 0)).1.sinkOrdered = m.sinkOrdered :=
    (statusIn_same m h (m.sinkOrdered 0)).sinkOrdered
  rw [lists]
  by_cases onNic0 : h ∈ m.sinkOrdered 0
  · left
    refine ⟨⟨0, onNic0⟩, ?_⟩
    have elsewhere : h ∉ m.sinkOrdered 1 := c.sink_only onNic0 (by decide)
    rw [statusIn_unlisted elsewhere, statusIn_sink c onNic0]
    rfl
  · rw [statusIn_unlisted onNic0]
    by_cases onNic1 : h ∈ m.sinkOrdered 1
    · left
      refine ⟨⟨1, onNic1⟩, ?_⟩
      rw [statusIn_sink c onNic1]
      rfl
    · right
      rw [statusIn_unlisted onNic1]
      refine ⟨?_, rfl⟩
      rintro ⟨nic, listed⟩
      obtain ⟨slot, onNic, -⟩ := c.sink nic h listed
      have below := sinkSlots_nic slot
      rw [onNic] at below
      obtain rfl | rfl : nic = 0 ∨ nic = 1 := by
        unfold maxNics at below
        omega
      · exact onNic0 listed
      · exact onNic1 listed

end RTPStreamsManager

namespace Manager

variable {m m' : Manager} {msg : MTALSAMsg} {reply : MTALSAReply} {alsa : AlsaBuffers}
  {polled : Nat → Nat → PTPLockStatus}

def Applied (m : Manager) (index : Nat) (name : List UInt8) : Prop :=
  m.isNICActive index = true ∧ (m.ethernetFilter index).ifnameUsed = name

/-- Handled names are on the two NICs, and applied unless they are too long. -/
theorem setInterfaceNames_applied {names : List (List UInt8)} {index : Nat} {first : MTALSAReply}
    (within : index ≤ maxNics) (done : setInterfaceNames msg names index (m, first) = .ok (m', reply)) :
    (∀ nic, nic < index ∨ index + names.length ≤ nic → m'.isNICActive nic = m.isNICActive nic ∧
        m'.ethernetFilter nic = m.ethernetFilter nic) ∧
      (∀ i name, names[i]? = some name → if name.length < maxInterfaceName then m'.Applied (index + i) name
        else m'.isNICActive (index + i) = m.isNICActive (index + i)) ∧
      reply = (names.getLast?.map fun last =>
        msg.answer (decide (last.length < maxInterfaceName))).getD first := by
  induction names generalizing m index first with
  | nil =>
    cases done
    refine ⟨fun _ _ => ⟨rfl, rfl⟩, ?_, rfl⟩
    intro i name found
    cases found
  | cons name rest ih =>
    obtain ⟨⟨m1, result⟩, set, others⟩ := bind_eq_ok.mp done
    obtain ⟨below, known, isResult⟩ : index < maxNics ∧
        (∀ nic, nic ≠ index → m1.isNICActive nic = m.isNICActive nic ∧
          m1.ethernetFilter nic = m.ethernetFilter nic) ∧
        (name.length < maxInterfaceName ∧ result = true ∧ m1.Applied index name ∨
          ¬ name.length < maxInterfaceName ∧ result = false ∧ m1.isNICActive index = m.isNICActive index) := by
      obtain ⟨beyond, -⟩ | ⟨below, long, refused⟩ | ⟨below, short, accepted⟩ | ⟨-, overrun⟩ :=
        setInterfaceName_cases m name index
      · omega
      · cases refused.symm.trans set
        refine ⟨below, ?_, .inr ⟨by omega, rfl, rfl⟩⟩
        intro nic other
        exact ⟨rfl, Function.update_of_ne other ..⟩
      · cases accepted.symm.trans set
        have fits : name.length < maxInterfaceName := by
          unfold ifnameSize at short
          unfold maxInterfaceName
          omega
        refine ⟨below, ?_, .inl ⟨fits, rfl, Function.update_self .., named_ifnameUsed m name index⟩⟩
        intro nic other
        exact ⟨Function.update_of_ne other .., Function.update_of_ne other ..⟩
      · cases overrun.symm.trans set
    obtain ⟨kept, applied, isReply⟩ := ih below others
    rw [List.length_cons]
    refine ⟨?_, ?_, ?_⟩
    · intro nic outside
      obtain ⟨active, filter⟩ := kept nic (by omega)
      obtain ⟨active', filter'⟩ := known nic (by omega)
      exact ⟨active.trans active', filter.trans filter'⟩
    · intro i other found
      cases i with
      | zero =>
        rw [List.getElem?_cons_zero] at found
        cases found
        obtain ⟨active, filter⟩ := kept index (.inl (Nat.lt_succ_self index))
        rcases isResult with ⟨fits, -, isActive, isName⟩ | ⟨long, -, isActive⟩
        · rw [if_pos fits]
          exact ⟨active.trans isActive, (congrArg EtherTube.ifnameUsed filter).trans isName⟩
        · rw [if_neg long]
          exact active.trans isActive
      | succ i =>
        rw [List.getElem?_cons_succ] at found
        have later := applied i other found
        rw [Nat.succ_add_eq_add_succ] at later
        split at later
        · rename_i fits
          rw [if_pos fits]
          exact later
        · rename_i long
          rw [if_neg long]
          exact later.trans (known _ (by omega)).1
    · rw [isReply]
      cases rest with
      | nil =>
        rcases isResult with ⟨fits, rfl, -⟩ | ⟨long, rfl, -⟩
        · simp [fits]
        · simp [long]
      | cons next others => rfl

/-- The manager runs at a rate, and where its clocks had to be started again they were seen locked. -/
def RateInForce (m : Manager) (samplingRate : UInt32) (polled : Nat → Nat → PTPLockStatus) (m' : Manager) : Prop :=
  samplingRate ≠ 0 ∧ m'.sampleRate = samplingRate ∧
    (m.sampleRate ≠ samplingRate → m'.isStarted = true →
      ∃ k, 0 < k ∧ k < lockPolls ∧ polled k 0 = .locked ∧ polled k 1 = .locked)

def FrameInForce (m : Manager) : Prop :=
  m.frameSize.toNat = min (m.ticFrameSizeAt1FS.toNat * (nFS m.sampleRate).toNat) m.maxFrameSize.toNat

/-- What a message asks for has come about, in the manager or in the reply. Nothing has when the driver does not
do it for a message. -/
def TookEffect (m : Manager) (msg : MTALSAMsg) (polled : Nat → Nat → PTPLockStatus) (m' : Manager)
    (data : ReplyData) : Prop :=
  match MTALSAMsgId.ofValue msg.id with
  | some .getRTPStreamStatus => ∃ nic, m.streamAt (load64 msg.byte 0) ∈ m.streams.sinkOrdered nic ∧
      data = .streamStatus (some (m.streams.stream (m.streamAt (load64 msg.byte 0))).streamStatus)
  | some .reset => ∀ h, ¬ m'.streams.Listed h
  | some .start => m'.isStarted = true
  | some .stop => m'.isStarted = false
  | some .setSampleRate => m.RateInForce (load32 msg.byte 0) polled m'
  | some .getSampleRate => data = .word (ravennaRate m.sampleRate)
  | some .getAudioMode => data = .word (getAudioModeFromRate m.sampleRate).value
  | some .setDSDAudioMode =>
    ∃ rate, dsdSamplingRate (load32 msg.byte 0) = some rate ∧ m.RateInForce rate polled m'
  | some .setTICFrameSizeAt1FS => m'.ticFrameSizeAt1FS = load64 msg.byte 0 ∧ m'.FrameInForce
  | some .setMaxTICFrameSize =>
    m'.maxFrameSize.toNat = (load64 msg.byte 0).toNat ∧ m'.frameSize.toNat ≤ m'.maxFrameSize.toNat
  | some .setNumberOfInputs => m'.numberOfInputs = load32 msg.byte 0
  | some .setNumberOfOutputs => m'.numberOfOutputs = load32 msg.byte 0
  | some .getNumberOfInputs => data = .word m.numberOfInputs
  | some .getNumberOfOutputs => data = .word m.numberOfOutputs
  | some .setInterfaceName => ∀ i name, msg.names[i]? = some name → m'.Applied i name
  | some .addRTPStream =>
    ∃ h, data = .handle h ∧ m.streams.Adds (.ofBytes msg.byte) h m'.streams
  | some .removeRTPStream => m.streams.Listed (m.streamAt (load64 msg.byte 0)) ∧
      ¬ m'.streams.Listed (m.streamAt (load64 msg.byte 0))
  | some .setPTPConfig => ∀ nic, (m'.ptp nic).ptpConfig = ⟨msg.byte 0, msg.byte 1⟩
  | some .getPTPConfig => data = .ptpConfig m.ptpSelected.ptpConfig
  | some .getPTPStatus => data = .ptpStatus m.ptpSelected.getLockStatus m.ptpSelected.ptpMasterGMID
      m.ptpSelected.maxClkJitter
  | some .setMasterOutputVolume => m'.alsaChip.currentPlaybackVolume = (load32 msg.byte 0).toInt32
  | some .setMasterOutputSwitch => m'.alsaChip.currentPlaybackSwitch = (load32 msg.byte 0).toInt32
  | some .setPlayoutDelay => m'.playoutDelay = (load32 msg.byte 0).toInt32
  | some .setCaptureDelay => m'.captureDelay = (load32 msg.byte 0).toInt32
  | some .startIo | some .stopIo | some .updateRTPStreamName | some .getPTPInfo | some .hello | some .bye
  | some .ping | some .getMasterOutputVolume | some .getMasterOutputSwitch | none => False

/-- A reply without an error is to an operation that took effect, and one that did not has an error. -/
structure Truthful (m : Manager) (msg : MTALSAMsg) (polled : Nat → Nat → PTPLockStatus) (m' : Manager)
    (reply : MTALSAReply) : Prop where
  done : reply.errCode = 0 → m.TookEffect msg polled m' reply.data
  failed : ¬ m.TookEffect msg polled m' reply.data → reply.errCode < 0

def TakesRate (m : Manager) (samplingRate : UInt32) (polled : Nat → Nat → PTPLockStatus) : Prop :=
  samplingRate ≠ 0 ∧ (m.sampleRate = samplingRate ∨
    m.ioRunning = false ∧ (m.isStarted = true →
      ∃ k, 0 < k ∧ k < lockPolls ∧ polled k 0 = .locked ∧ polled k 1 = .locked))

/-- The messages whose reply is true, among those of the size that their handler asks for. -/
def TruthfulWhen (m : Manager) (msg : MTALSAMsg) (polled : Nat → Nat → PTPLockStatus) : Prop :=
  match MTALSAMsgId.ofValue msg.id with
  | some .getRTPStreamStatus => msg.dataSize.toInt = 8 →
      ∃ nic, m.streamAt (load64 msg.byte 0) ∈ m.streams.sinkOrdered nic
  | some .setSampleRate => msg.dataSize.toInt = 4 → m.TakesRate (load32 msg.byte 0) polled
  | some .setDSDAudioMode => msg.dataSize.toInt = 4 →
      ∀ rate, dsdSamplingRate (load32 msg.byte 0) = some rate → m.TakesRate rate polled
  | some .setTICFrameSizeAt1FS => msg.dataSize.toInt = 8 →
      (load64 msg.byte 0).toNat * (nFS m.sampleRate).toNat < 2 ^ 32 ∨
        m.maxFrameSize ≤ (load64 msg.byte 0).toUInt32 * nFS m.sampleRate
  | some .setMaxTICFrameSize => msg.dataSize.toInt = 8 → (load64 msg.byte 0).toNat < 2 ^ 32
  | some .setInterfaceName => msg.dataSize ≤ 32 →
      ∀ last, msg.names.getLast? = some last → last.length < maxInterfaceName →
        ∀ name ∈ msg.names, name.length < maxInterfaceName
  | _ => True

theorem truthful_refused (negative : reply.errCode < 0) : m.Truthful msg polled m' reply := by
  constructor
  · intro none
    rw [none] at negative
    exact absurd negative (by decide)
  · intro _
    exact negative

theorem refused {errCode : Int32} (negative : errCode < 0) : m.Truthful msg polled m' (msg.reply errCode) :=
  truthful_refused negative

theorem truthful_done_iff (done : reply.errCode = 0) :
    m.Truthful msg polled m' reply ↔ m.TookEffect msg polled m' reply.data := by
  constructor
  · intro truthful
    exact truthful.done done
  · intro effect
    exact ⟨fun _ => effect, fun refused => absurd effect refused⟩

theorem sized_truthful_iff {size : Nat} {holds : Prop}
    {handle : (Nat → UInt8) → Except ManagerFault (Manager × MTALSAReply)}
    (handled : handle msg.byte = .ok (m', reply) → (m.Truthful msg polled m' reply ↔ holds))
    (done : m.sized msg size handle = .ok (m', reply)) :
    m.Truthful msg polled m' reply ↔ (msg.dataSize.toInt = size → holds) := by
  rcases sized_eq_ok.mp done with ⟨differs, rfl, rfl⟩ | ⟨fits, -, answered⟩
  · apply iff_of_true
    · exact refused (show (-315 : Int32) < 0 by decide)
    · intro same
      exact absurd same differs
  · rw [handled answered]
    constructor
    · intro holds _
      exact holds
    · intro holds
      exact holds fits

theorem sized_truthful {size : Nat} {handle : (Nat → UInt8) → Except ManagerFault (Manager × MTALSAReply)}
    (handled : handle msg.byte = .ok (m', reply) → m.Truthful msg polled m' reply)
    (done : m.sized msg size handle = .ok (m', reply)) : m.Truthful msg polled m' reply :=
  (sized_truthful_iff (fun answered => iff_true_intro (handled answered)) done).mpr fun _ => trivial

theorem rateInForce_iff {samplingRate : UInt32} {result : Bool}
    (done : m.setSamplingRate samplingRate polled = .ok (m', result)) :
    m.RateInForce samplingRate polled m' ↔ m.TakesRate samplingRate polled := by
  unfold RateInForce TakesRate
  apply and_congr_right
  intro _
  obtain ⟨rfl, ⟨-, same⟩ | ⟨-, differs, running⟩⟩ | ⟨differs, idle, ⟨isStarted, started, -⟩ | ⟨stopped, rfl, -⟩⟩ :=
    setSamplingRate_cases done
  · apply iff_of_true
    · exact ⟨same, fun differs => absurd same differs⟩
    · exact .inl same
  · apply iff_of_false
    · rintro ⟨same, -⟩
      exact differs same
    · rintro (same | ⟨idle, -⟩)
      · exact differs same
      · exact Bool.false_ne_true (idle.symm.trans running)
  · have rate : m'.sampleRate = samplingRate := by
      rw [started.only]
      rfl
    have still : m'.isStarted = true := by
      rw [started.only]
      exact isStarted
    constructor
    · rintro ⟨-, locked⟩
      exact .inr ⟨idle, fun _ => locked differs still⟩
    · rintro (same | ⟨-, locked⟩)
      · exact absurd same differs
      · exact ⟨rate, fun _ _ => locked isStarted⟩
  · apply iff_of_true
    · exact ⟨rfl, fun _ isStarted => absurd (stopped.symm.trans isStarted) Bool.false_ne_true⟩
    · exact .inr ⟨idle, fun isStarted => absurd (stopped.symm.trans isStarted) Bool.false_ne_true⟩

theorem setSampleRate_truthful_iff (isId : MTALSAMsgId.ofValue msg.id = some .setSampleRate)
    (done : m.onSetSampleRate msg polled = .ok (m', reply)) :
    m.Truthful msg polled m' reply ↔ (msg.dataSize.toInt = 4 → m.TakesRate (load32 msg.byte 0) polled) := by
  refine sized_truthful_iff ?_ done
  intro handled
  obtain ⟨⟨m1, result⟩, set, last⟩ := bind_eq_ok.mp handled
  cases last
  rw [truthful_done_iff (by rfl), ← rateInForce_iff (lift_eq_ok.mp set)]
  unfold TookEffect
  rw [isId]

theorem setDSDAudioMode_truthful_iff (isId : MTALSAMsgId.ofValue msg.id = some .setDSDAudioMode)
    (done : m.onSetDSDAudioMode msg polled = .ok (m', reply)) :
    m.Truthful msg polled m' reply ↔ (msg.dataSize.toInt = 4 →
      ∀ rate, dsdSamplingRate (load32 msg.byte 0) = some rate → m.TakesRate rate polled) := by
  refine sized_truthful_iff ?_ done
  intro handled
  cases isRate : dsdSamplingRate (load32 msg.byte 0) with
  | none =>
    rw [isRate] at handled
    cases handled
    apply iff_of_true
    · exact refused (show (-805 : Int32) < 0 by decide)
    · intro rate found
      cases found
  | some rate =>
    rw [isRate] at handled
    obtain ⟨⟨m1, result⟩, set, last⟩ := bind_eq_ok.mp handled
    cases last
    rw [truthful_done_iff (by rfl)]
    unfold TookEffect
    rw [isId]
    simp only [isRate, Option.some.injEq, exists_eq_left', forall_eq']
    exact rateInForce_iff (lift_eq_ok.mp set)

theorem onSet_truthful_iff {size : Nat} {set : (Nat → UInt8) → Except Fault Manager} {c : Change} {holds : Prop}
    (sets : set msg.byte = m.restarting alsa c.apply)
    (effect : m'.config = (c.apply m).config → (m.TookEffect msg polled m' .none ↔ holds))
    (done : m.onSet msg size set = .ok (m', reply)) :
    m.Truthful msg polled m' reply ↔ (msg.dataSize.toInt = size → holds) := by
  refine sized_truthful_iff ?_ done
  intro handled
  obtain ⟨m1, lifted, last⟩ := bind_eq_ok.mp handled
  cases last
  rw [truthful_done_iff (by rfl)]
  exact effect (restarting_config (sets.symm.trans (lift_eq_ok.mp lifted)))

theorem setTICFrameSizeAt1FS_truthful_iff (isId : MTALSAMsgId.ofValue msg.id = some .setTICFrameSizeAt1FS)
    (done : m.onSetTICFrameSizeAt1FS msg alsa = .ok (m', reply)) :
    m.Truthful msg polled m' reply ↔ (msg.dataSize.toInt = 8 →
      (load64 msg.byte 0).toNat * (nFS m.sampleRate).toNat < 2 ^ 32 ∨
        m.maxFrameSize ≤ (load64 msg.byte 0).toUInt32 * nFS m.sampleRate) := by
  refine onSet_truthful_iff (c := .ticFrameSizeAt1FS (load64 msg.byte 0)) rfl ?_ done
  intro config
  unfold TookEffect FrameInForce
  rw [isId]
  have tic : m'.ticFrameSizeAt1FS = load64 msg.byte 0 := congrArg Config.ticFrameSizeAt1FS config
  have rate : m'.sampleRate = m.sampleRate := congrArg Config.sampleRate config
  have largest : m'.maxFrameSize = m.maxFrameSize := congrArg Config.maxFrameSize config
  have frame : m'.frameSize =
      if (load64 msg.byte 0).toUInt32 * nFS m.sampleRate > m.maxFrameSize then m.maxFrameSize
      else (load64 msg.byte 0).toUInt32 * nFS m.sampleRate := congrArg Config.frameSize config
  have product : ((load64 msg.byte 0).toUInt32 * nFS m.sampleRate).toNat =
      (load64 msg.byte 0).toNat * (nFS m.sampleRate).toNat % 2 ^ 32 := by
    rw [UInt32.toNat_mul, UInt64.toNat_toUInt32, Nat.mod_mul_mod]
  have frameNat : m'.frameSize.toNat =
      min ((load64 msg.byte 0).toNat * (nFS m.sampleRate).toNat % 2 ^ 32) m.maxFrameSize.toNat := by
    rw [frame, ← product]
    split
    · rename_i above
      have above := UInt32.lt_iff_toNat_lt.mp above
      omega
    · rename_i within
      rw [gt_iff_lt, UInt32.lt_iff_toNat_lt] at within
      omega
  have bound := m.maxFrameSize.toNat_lt
  dsimp only
  rw [tic, rate, largest, frameNat, UInt32.le_iff_toNat_le, product, eq_self_iff_true, true_and]
  omega

theorem setMaxTICFrameSize_truthful_iff (isId : MTALSAMsgId.ofValue msg.id = some .setMaxTICFrameSize)
    (done : m.onSetMaxTICFrameSize msg alsa = .ok (m', reply)) :
    m.Truthful msg polled m' reply ↔ (msg.dataSize.toInt = 8 → (load64 msg.byte 0).toNat < 2 ^ 32) := by
  refine onSet_truthful_iff (c := .maxTICFrameSize (load64 msg.byte 0)) rfl ?_ done
  intro config
  unfold TookEffect
  rw [isId]
  have largest : m'.maxFrameSize = (load64 msg.byte 0).toUInt32 := congrArg Config.maxFrameSize config
  have frame : m'.frameSize =
      if m.ticFrameSizeAt1FS.toUInt32 * nFS m.sampleRate > (load64 msg.byte 0).toUInt32 then
        (load64 msg.byte 0).toUInt32
      else m.ticFrameSizeAt1FS.toUInt32 * nFS m.sampleRate := congrArg Config.frameSize config
  have within : m'.frameSize ≤ m'.maxFrameSize := by
    rw [frame, largest]
    split
    · exact UInt32.le_refl _
    · rename_i within
      exact UInt32.not_lt.mp within
  dsimp only
  rw [and_iff_left (UInt32.le_iff_toNat_le.mp within), largest, UInt64.toNat_toUInt32]
  have bound := (load64 msg.byte 0).toNat_lt
  omega

theorem setInterfaceName_truthful_iff (isId : MTALSAMsgId.ofValue msg.id = some .setInterfaceName)
    (done : m.onSetInterfaceName msg = .ok (m', reply)) :
    m.Truthful msg polled m' reply ↔ (msg.dataSize ≤ 32 →
      ∀ last, msg.names.getLast? = some last → last.length < maxInterfaceName →
        ∀ name ∈ msg.names, name.length < maxInterfaceName) := by
  unfold onSetInterfaceName at done
  split at done
  · rename_i large
    cases done
    apply iff_of_true
    · exact refused (show (-315 : Int32) < 0 by decide)
    · intro small
      exact absurd large (Int32.not_lt.mpr small)
  · rename_i small
    rw [forall_prop_of_true (Int32.not_lt.mp small)]
    obtain ⟨ifnames, isString, named⟩ := bind_eq_ok.mp done
    have names : interfaceNames ifnames = msg.names := by
      unfold MTALSAMsg.cString at isString
      split at isString
      · cases isString
        rfl
      · cases isString
    rw [names] at named
    obtain ⟨-, applied, isReply⟩ := setInterfaceNames_applied (Nat.zero_le _) named
    have all_iff : m.TookEffect msg polled m' reply.data ↔ ∀ name ∈ msg.names, name.length < maxInterfaceName := by
      unfold TookEffect
      rw [isId]
      dsimp only
      constructor
      · intro all name isName
        obtain ⟨i, found⟩ := List.getElem?_of_mem isName
        by_contra long
        have inactive := applied i name found
        rw [if_neg long, Nat.zero_add] at inactive
        exact Bool.false_ne_true (inactive.symm.trans (all i name found).1)
      · intro short i name found
        have isApplied := applied i name found
        rw [if_pos (short name (List.mem_of_getElem? found)), Nat.zero_add] at isApplied
        exact isApplied
    cases isLast : msg.names.getLast? with
    | none =>
      rw [isLast] at isReply
      rw [isReply]
      apply iff_of_true
      · exact truthful_refused (show (-404 : Int32) < 0 by decide)
      · intro last found
        cases found
    | some last =>
      rw [isLast] at isReply
      by_cases short : last.length < maxInterfaceName
      · have done : reply.errCode = 0 := by
          rw [isReply]
          simp [MTALSAMsg.answer, MTALSAMsg.reply, short]
        rw [truthful_done_iff done, all_iff]
        constructor
        · intro all other found _
          exact all
        · intro all
          exact all last rfl short
      · have negative : reply.errCode < 0 := by
          rw [isReply]
          simp [MTALSAMsg.answer, MTALSAMsg.reply, short]
        apply iff_of_true
        · exact truthful_refused negative
        · intro other found fits
          cases found
          exact absurd fits short

theorem getRTPStreamStatus_truthful_iff (c : m.streams.Consistent)
    (isId : MTALSAMsgId.ofValue msg.id = some .getRTPStreamStatus)
    (done : m.onGetRTPStreamStatus msg = .ok (m', reply)) :
    m.Truthful msg polled m' reply ↔ (msg.dataSize.toInt = 8 →
      ∃ nic, m.streamAt (load64 msg.byte 0) ∈ m.streams.sinkOrdered nic) := by
  refine sized_truthful_iff ?_ done
  intro handled
  cases handled
  rw [truthful_done_iff (by rfl)]
  unfold TookEffect
  rw [isId]
  dsimp only [MTALSAMsg.reply]
  obtain ⟨listed, status⟩ | ⟨unlisted, status⟩ :=
    RTPStreamsManager.getRTPStreamStatus_snd c (m.streamAt (load64 msg.byte 0))
  · rw [status]
    obtain ⟨nic, isSink⟩ := listed
    apply iff_of_true
    · exact ⟨nic, isSink, rfl⟩
    · exact ⟨nic, isSink⟩
  · apply iff_of_false
    · rintro ⟨nic, isSink, -⟩
      exact unlisted ⟨nic, isSink⟩
    · exact unlisted

theorem addRTPStream_truthful (c : m.streams.Consistent) (isId : MTALSAMsgId.ofValue msg.id = some .addRTPStream)
    (done : m.onAddRTPStream msg alsa = .ok (m', reply)) : m.Truthful msg polled m' reply := by
  unfold onAddRTPStream at done
  split at done
  · cases done
    exact refused (show (-315 : Int32) < 0 by decide)
  · obtain ⟨b, loaded, last⟩ := bind_eq_ok.mp done
    have isBytes : b = msg.byte := by
      unfold MTALSAMsg.load at loaded
      split at loaded
      · cases loaded
        rfl
      · cases loaded
    subst isBytes
    cases last
    cases added : (m.streams.addRTPStream (.ofBytes msg.byte) (m.callbacks alsa)).2 with
    | none => exact refused (show (-401 : Int32) < 0 by decide)
    | some h =>
      apply (truthful_done_iff (by rfl)).mpr
      unfold TookEffect
      rw [isId]
      exact ⟨h, rfl, RTPStreamsManager.addRTPStream_adds c added⟩

theorem removeRTPStream_truthful (c : m.streams.Consistent)
    (isId : MTALSAMsgId.ofValue msg.id = some .removeRTPStream)
    (done : m.onRemoveRTPStream msg alsa = .ok (m', reply)) : m.Truthful msg polled m' reply := by
  refine sized_truthful ?_ done
  intro handled
  cases handled
  obtain ⟨-, -, removed⟩ :=
    RTPStreamsManager.removeRTPStream_lists c (m.callbacks alsa) (m.streamAt (load64 msg.byte 0))
  cases found : (m.streams.removeRTPStream (m.callbacks alsa) (m.streamAt (load64 msg.byte 0))).2 with
  | false => exact refused (show (-401 : Int32) < 0 by decide)
  | true =>
    apply (truthful_done_iff (by rfl)).mpr
    unfold TookEffect
    rw [isId]
    exact ⟨removed.mp found, RTPStreamsManager.not_listed_of_removed c _ _⟩

theorem setPTPConfig_ptpConfig (clock : ClockPTP) (config : PTPConfig) :
    (clock.setPTPConfig config).ptpConfig = config := by
  unfold ClockPTP.setPTPConfig
  split
  · rfl
  · rename_i same
    simp only [ne_eq, Bool.or_eq_true, decide_eq_true_eq, not_or, not_not] at same
    obtain ⟨domain, dscp⟩ := same
    cases isConfig : clock.ptpConfig
    cases config
    rw [isConfig] at domain dscp
    cases domain
    cases dscp
    rfl

theorem answered {id : MTALSAMsgId} {data : ReplyData} (isId : MTALSAMsgId.ofValue msg.id = some id)
    (effect : MTALSAMsgId.ofValue msg.id = some id → m.TookEffect msg polled m' data) :
    m.Truthful msg polled m' (msg.reply 0 data) :=
  (truthful_done_iff rfl).mpr (effect isId)

/-- In every run, and for every message that is handled. -/
theorem replies_truthful_iff {macAddress : Nat → MACAddress} {livesIn : RingMemory}
    {streamAt : UInt64 → StreamHandle} {allowed : Manager → ManagerOp → Prop} {ops : List ManagerOp}
    (run : Run ManagerOp.step allowed (init macAddress livesIn streamAt) ops m)
    (done : m.onNewMessage msg alsa polled = .ok (m', reply)) :
    m.Truthful msg polled m' reply ↔ m.TruthfulWhen msg polled := by
  have c := (run_ok run).streams
  unfold onNewMessage at done
  unfold TruthfulWhen
  cases isId : MTALSAMsgId.ofValue msg.id with
  | none =>
    rw [isId] at done
    cases done
    exact iff_true_intro (refused (show (-314 : Int32) < 0 by decide))
  | some id =>
    rw [isId] at done
    cases id
    case getRTPStreamStatus => exact getRTPStreamStatus_truthful_iff c isId done
    case setSampleRate => exact setSampleRate_truthful_iff isId done
    case setDSDAudioMode => exact setDSDAudioMode_truthful_iff isId done
    case setTICFrameSizeAt1FS => exact setTICFrameSizeAt1FS_truthful_iff isId done
    case setMaxTICFrameSize => exact setMaxTICFrameSize_truthful_iff isId done
    case setInterfaceName => exact setInterfaceName_truthful_iff isId done
    case addRTPStream => exact iff_true_intro (addRTPStream_truthful c isId done)
    case removeRTPStream => exact iff_true_intro (removeRTPStream_truthful c isId done)
    all_goals apply iff_true_intro
    case reset =>
      cases done
      refine answered isId fun isId => ?_
      unfold TookEffect
      rw [isId]
      have none := RTPStreamsManager.removeAllRTPStreams_lists c (m.callbacks alsa)
      dsimp only [setStreams]
      exact none
    case start =>
      obtain ⟨m1, started, last⟩ := bind_eq_ok.mp done
      cases last
      obtain ⟨m2, -, rfl⟩ := start_started (lift_eq_ok.mp started)
      refine answered isId fun isId => ?_
      unfold TookEffect
      rw [isId]
    case stop =>
      cases done
      refine answered isId fun isId => ?_
      unfold TookEffect
      rw [isId]
      rfl
    case setNumberOfInputs =>
      refine (onSet_truthful_iff (c := .numberOfInputs (load32 msg.byte 0)) rfl ?_ done).mpr fun _ => trivial
      intro config
      unfold TookEffect
      rw [isId]
      exact iff_true_intro (congrArg Config.numberOfInputs config)
    case setNumberOfOutputs =>
      refine (onSet_truthful_iff (c := .numberOfOutputs (load32 msg.byte 0)) rfl ?_ done).mpr fun _ => trivial
      intro config
      unfold TookEffect
      rw [isId]
      exact iff_true_intro (congrArg Config.numberOfOutputs config)
    case setPTPConfig =>
      refine sized_truthful ?_ done
      intro handled
      cases handled
      refine answered isId fun isId => ?_
      unfold TookEffect
      rw [isId]
      intro nic
      exact setPTPConfig_ptpConfig _ _
    case setMasterOutputVolume | setMasterOutputSwitch | setPlayoutDelay | setCaptureDelay =>
      refine sized_truthful ?_ done
      intro handled
      cases handled
      refine answered isId fun isId => ?_
      unfold TookEffect
      rw [isId]
    case getSampleRate | getAudioMode | getNumberOfInputs | getNumberOfOutputs | getPTPConfig | getPTPStatus =>
      cases done
      refine answered isId fun isId => ?_
      unfold TookEffect
      rw [isId]
    -- what the driver does not do for a message is refused
    all_goals
      cases done
      exact refused (by decide)

def set48000 : MTALSAMsg := ⟨5, 4, [0x80, 0xBB, 0, 0]⟩

theorem replies_truthful_idle : ∃ m' reply,
    loaded.onNewMessage set48000 {} (fun _ _ => .unlocked) = .ok (m', reply) ∧
    (loaded.Truthful set48000 (fun _ _ => .unlocked) m' reply ↔
      loaded.TruthfulWhen set48000 fun _ _ => .unlocked) := by
  have run : Run ManagerOp.step (fun _ _ => True) loaded [] loaded := .nil loaded
  obtain ⟨⟨m', reply⟩, done⟩ : Succeeds (loaded.onNewMessage set48000 {} fun _ _ => .unlocked) := ⟨_, rfl⟩
  exact ⟨m', reply, done, replies_truthful_iff run done⟩

/-- The rate is refused while the playback runs, and the status of a stream that does not exist is not there, but
both replies are without an error. -/
theorem untruthful_replies :
    (∃ ops m m' reply, Run ManagerOp.step (fun _ _ => True) loaded ops m ∧
      m.onNewMessage set48000 {} (fun _ _ => .unlocked) = .ok (m', reply) ∧
      ¬ m.Truthful set48000 (fun _ _ => .unlocked) m' reply) ∧
    ∃ m' reply, loaded.onNewMessage ⟨29, 8, List.replicate 8 0⟩ {} (fun _ _ => .unlocked) = .ok (m', reply) ∧
      ¬ loaded.Truthful ⟨29, 8, List.replicate 8 0⟩ (fun _ _ => .unlocked) m' reply := by
  constructor
  · have start : Run ManagerOp.step (fun _ _ => True) loaded [.message ⟨0, 0, []⟩ {} fun _ _ => .unlocked] _ :=
      .one trivial rfl
    have playing : Run ManagerOp.step (fun _ _ => True) loaded (_ ++ [.startIo {} true]) _ :=
      start.snoc trivial rfl
    refine ⟨_, _, _, _, playing, rfl, ?_⟩
    intro truthful
    have effect := truthful.done rfl
    exact absurd effect.2.1 (by decide)
  · refine ⟨_, _, rfl, ?_⟩
    intro truthful
    obtain ⟨nic, listed, -⟩ := truthful.done rfl
    cases listed

end Manager

end RavennaLkm
