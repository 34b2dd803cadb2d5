import RavennaLkm.ManagerSpec

/-!
The rings of the channels and the fills that mute them. A ring begins every
`ringBufferSize` cells, by a product of 32 bits, while a buffer is muted in one fill of as
many cells as ALSA has frames, for every channel. The allocation is as large as
the 512 rings of four times the channels that ALSA knows.
-/
namespace RavennaLkm
open CheckedLoop GuardedRun

def mutedCell (pattern : UInt8) : Sample := ⟨pattern, pattern, pattern, pattern⟩

/-- The cells of `mr_alsa_audio_preallocate_memory`, which allocates `buffer_bytes_max * 4` bytes. -/
def preallocatedCells : Nat := bufferBytesMax * 4 / 4

theorem preallocatedCells_eq : preallocatedCells = 512 * 49152 := rfl

def Change.FitsAllocation : Change → Prop
  | .numberOfInputs n | .numberOfOutputs n => n.toNat ≤ 512
  | .ticFrameSizeAt1FS _ | .maxTICFrameSize _ => True

namespace Manager

variable {m m' : Manager} {alsa : AlsaBuffers} {numberOfChannels channelId : UInt32} {base : Nat}

theorem jitterBuffer_eq_some :
    jitterBuffer numberOfChannels channelId = some base ↔
      channelId.toNat < numberOfChannels.toNat ∧ base = channelId.toNat * ringBufferSize.toNat % 2 ^ 30 := by
  unfold jitterBuffer
  simp only [toNat_ringBufferSize]
  have bytes : (channelId * ringBufferSize * 4).toNat = channelId.toNat * 49152 * 4 % 2 ^ 32 := by
    rw [UInt32.toNat_mul, UInt32.toNat_mul, Nat.mod_mul_mod]
    rfl
  have cells : channelId.toNat * 49152 * 4 % 2 ^ 32 / 4 = channelId.toNat * 49152 % 2 ^ 30 := by omega
  simp only [bytes, cells, ge_iff_le, UInt32.le_iff_toNat_le]
  split
  · rename_i beyond
    constructor
    · intro none
      cases none
    · rintro ⟨below, -⟩
      omega
  · rename_i below
    rw [Option.some_inj]
    constructor
    · intro same
      exact ⟨by omega, same.symm⟩
    · rintro ⟨-, same⟩
      exact same.symm

theorem ring_of_channel {channel : Nat} (below : channel < numberOfChannels.toNat) :
    jitterBuffer numberOfChannels (UInt32.ofNat channel) = some (channel * ringBufferSize.toNat % 2 ^ 30) := by
  have bound := numberOfChannels.toNat_lt
  have size : UInt32.size = 2 ^ 32 := rfl
  have value : (UInt32.ofNat channel).toNat = channel := UInt32.toNat_ofNat_of_lt' (by omega)
  rw [jitterBuffer_eq_some, value]
  exact ⟨below, rfl⟩

def lastRing (n : Nat) : Nat := ringBufferSize.toNat * (min n 21846 - 1)

theorem ring_le_last {n channel : Nat} (below : channel < n) :
    channel * ringBufferSize.toNat % 2 ^ 30 ≤ lastRing n := by
  simp only [lastRing, toNat_ringBufferSize]
  omega

theorem last_is_ring {n : Nat} (positive : 0 < n) :
    ∃ channel < n, channel * ringBufferSize.toNat % 2 ^ 30 = lastRing n := by
  refine ⟨min n 21846 - 1, by omega, ?_⟩
  simp only [lastRing, toNat_ringBufferSize]
  omega

theorem rings_cover {n a : Nat} (positive : 0 < n) (below : a < lastRing n + ringBufferSize.toNat) :
    ∃ channel < n, channel * ringBufferSize.toNat % 2 ^ 30 ≤ a ∧
      a < channel * ringBufferSize.toNat % 2 ^ 30 + ringBufferSize.toNat := by
  simp only [lastRing, toNat_ringBufferSize] at below ⊢
  exact ⟨a / 49152, by omega, by omega, by omega⟩

/-- After the fill the first `length` frames of every ring are muted, and nothing else has changed,
whatever the buffer held. -/
def MutesRings (pattern : UInt8) (bufferLength numberOfChannels : UInt32) (fill : RingMemory → RingMemory) :
    Prop :=
  ∀ before,
    (∀ channelId base, jitterBuffer numberOfChannels channelId = some base →
      ∀ k < bufferLength.toNat, fill before (base + k) = mutedCell pattern) ∧
    ∀ a, (∀ channelId base, jitterBuffer numberOfChannels channelId = some base →
      ¬ (base ≤ a ∧ a < base + ringBufferSize.toNat)) → fill before a = before a

/-- The fill reaches `length` frames into the last ring, and not beyond its end. -/
def FillCovers (bufferLength numberOfChannels : UInt32) : Prop :=
  bufferLength = 0 ∨ numberOfChannels = 0 ∨
    lastRing numberOfChannels.toNat ≤ bufferLength.toNat * (numberOfChannels.toNat - 1) ∧
      bufferLength.toNat * numberOfChannels.toNat ≤ lastRing numberOfChannels.toNat + ringBufferSize.toNat

theorem muteCells_eq {pattern : UInt8} {count a : Nat} {before : RingMemory} :
    muteCells pattern 0 count before a = if a < count then mutedCell pattern else before a := by
  unfold muteCells mutedCell
  simp

theorem mutedCell_next_ne (pattern : UInt8) : mutedCell (pattern + 1) ≠ mutedCell pattern := by
  intro same
  have value := congrArg (fun cell => cell.byte0.toNat) same
  have bound := pattern.toNat_lt
  simp only [mutedCell, UInt8.toNat_add, UInt8.toNat_one] at value
  omega

theorem muteCells_mutes_iff (pattern : UInt8) (bufferLength numberOfChannels : UInt32) :
    MutesRings pattern bufferLength numberOfChannels
        (muteCells pattern 0 (bufferLength.toNat * numberOfChannels.toNat)) ↔
      FillCovers bufferLength numberOfChannels := by
  unfold FillCovers
  rw [← UInt32.toNat_inj, ← UInt32.toNat_inj]
  have none : (0 : UInt32).toNat = 0 := rfl
  rw [none]
  constructor
  · intro mutes
    by_cases nothing : bufferLength.toNat = 0 ∨ numberOfChannels.toNat = 0
    · rcases nothing with noFrames | noChannels
      · exact .inl noFrames
      · exact .inr (.inl noChannels)
    · right; right
      rw [not_or] at nothing
      -- a buffer in which every cell is told apart from a muted one
      obtain ⟨mutesRings, mutesOnly⟩ := mutes fun _ => mutedCell (pattern + 1)
      have apart := mutedCell_next_ne pattern
      obtain ⟨last, below, atLast⟩ := last_is_ring (n := numberOfChannels.toNat) (by omega)
      have ring := ring_of_channel below
      rw [atLast] at ring
      have rows : bufferLength.toNat * numberOfChannels.toNat =
          bufferLength.toNat * (numberOfChannels.toNat - 1) + bufferLength.toNat := by
        conv => lhs; rw [← Nat.sub_add_cancel (Nat.pos_of_ne_zero nothing.2)]
        rw [Nat.mul_succ]
      constructor
      · have muted := mutesRings _ _ ring (bufferLength.toNat - 1) (by omega)
        rw [muteCells_eq] at muted
        split at muted
        · omega
        · exact absurd muted apart
      · by_contra beyond
        have kept := mutesOnly (lastRing numberOfChannels.toNat + ringBufferSize.toNat) (by
          rintro channelId base found ⟨-, inside⟩
          obtain ⟨under, rfl⟩ := jitterBuffer_eq_some.mp found
          have bound := ring_le_last under
          omega)
        rw [muteCells_eq, if_pos (by omega)] at kept
        exact apart kept.symm
  · intro covers before
    constructor
    · intro channelId base found k inside
      obtain ⟨under, rfl⟩ := jitterBuffer_eq_some.mp found
      rcases covers with noFrames | noChannels | ⟨reaches, -⟩
      · omega
      · omega
      · have rows : bufferLength.toNat * numberOfChannels.toNat =
            bufferLength.toNat * (numberOfChannels.toNat - 1) + bufferLength.toNat := by
          conv => lhs; rw [← Nat.sub_add_cancel (show 1 ≤ numberOfChannels.toNat by omega)]
          rw [Nat.mul_succ]
        have bound := ring_le_last under
        rw [muteCells_eq, if_pos (by omega)]
    · intro a outside
      rw [muteCells_eq]
      split
      · rename_i filled
        exfalso
        rcases covers with noFrames | noChannels | ⟨-, ends⟩
        · rw [noFrames, Nat.zero_mul] at filled
          omega
        · rw [noChannels, Nat.mul_zero] at filled
          omega
        · have some : 0 < numberOfChannels.toNat := by
            by_contra zero
            rw [Nat.eq_zero_of_not_pos zero, Nat.mul_zero] at filled
            omega
          obtain ⟨channel, under, above, before_end⟩ := rings_cover some (show a < _ by omega)
          exact outside _ _ (ring_of_channel under) ⟨above, before_end⟩
      · rfl

/-- With as many rings as do not wrap, only a buffer of one channel can be shorter than a ring. -/
theorem fillCovers_iff_of_few {bufferLength numberOfChannels : UInt32} (few : numberOfChannels.toNat ≤ 21846) :
    FillCovers bufferLength numberOfChannels ↔
      bufferLength = 0 ∨ numberOfChannels = 0 ∨ numberOfChannels = 1 ∧ bufferLength ≤ ringBufferSize ∨
        bufferLength = ringBufferSize := by
  unfold FillCovers lastRing
  rw [Nat.min_eq_left few, UInt32.le_iff_toNat_le, ← UInt32.toNat_inj, ← UInt32.toNat_inj, ← UInt32.toNat_inj,
    ← UInt32.toNat_inj]
  simp only [toNat_ringBufferSize]
  have none : (0 : UInt32).toNat = 0 := rfl
  have one : (1 : UInt32).toNat = 1 := rfl
  rw [none, one]
  constructor
  · rintro (noFrames | noChannels | ⟨reaches, ends⟩)
    · exact .inl noFrames
    · exact .inr (.inl noChannels)
    · right
      by_cases single : numberOfChannels.toNat ≤ 1
      · by_cases zero : numberOfChannels.toNat = 0
        · exact .inl zero
        · have same : numberOfChannels.toNat = 1 := by omega
          rw [same] at ends
          exact .inr (.inl ⟨same, by omega⟩)
      · have above : 49152 ≤ bufferLength.toNat := by
          rw [Nat.mul_comm] at reaches
          have positive : 0 < numberOfChannels.toNat - 1 := by omega
          rw [Nat.mul_comm bufferLength.toNat] at reaches
          exact Nat.le_of_mul_le_mul_left (by omega) positive
        have below : bufferLength.toNat ≤ 49152 := by
          have total : bufferLength.toNat * numberOfChannels.toNat ≤ 49152 * numberOfChannels.toNat := by omega
          exact Nat.le_of_mul_le_mul_right total (by omega)
        exact .inr (.inr (by omega))
  · rintro (noFrames | noChannels | ⟨single, short⟩ | whole)
    · exact .inl noFrames
    · exact .inr (.inl noChannels)
    · right; right
      rw [single]
      omega
    · by_cases zero : numberOfChannels.toNat = 0
      · exact .inr (.inl zero)
      · right; right
        rw [whole]
        omega

/-- What the fill of the capture buffer makes of a memory. -/
def inputFill (m : Manager) (alsa : AlsaBuffers) (livesIn : RingMemory) : RingMemory :=
  ({ m with streams := { m.streams with livesIn := livesIn } }.muteInputBuffer alsa).streams.livesIn

theorem inputFill_eq (m : Manager) (alsa : AlsaBuffers) : m.inputFill alsa =
    muteCells (muteChannels m.sampleRate) 0
      (alsa.getCaptureBufferSizeInFrames.toNat * m.numberOfInputs.toNat) := rfl

theorem mute_buffers_iff (m : Manager) (alsa : AlsaBuffers) :
    (MutesRings (muteChannels m.sampleRate) alsa.getCaptureBufferSizeInFrames m.numberOfInputs
        (m.inputFill alsa) ↔
      FillCovers alsa.getCaptureBufferSizeInFrames m.numberOfInputs) ∧
    (MutesRings (muteChannels m.sampleRate) alsa.getPlaybackBufferSizeInFrames m.numberOfOutputs
        (m.muteOutputBuffer alsa) ↔
      FillCovers alsa.getPlaybackBufferSizeInFrames m.numberOfOutputs) := by
  constructor
  · exact muteCells_mutes_iff _ _ _
  · exact muteCells_mutes_iff _ _ _

/-- 64 channels, and a buffer of 4 periods of 48 frames. -/
theorem short_buffer_not_muted :
    ∃ (m : Manager) (alsa : AlsaBuffers), alsa.getCaptureBufferSizeInFrames = 192 ∧ m.numberOfInputs = 64 ∧
      ¬ MutesRings (muteChannels m.sampleRate) alsa.getCaptureBufferSizeInFrames m.numberOfInputs
        (m.inputFill alsa) ∧
      ¬ MutesRings (muteChannels m.sampleRate) alsa.getPlaybackBufferSizeInFrames m.numberOfOutputs
        (m.muteOutputBuffer alsa) := by
  refine ⟨loaded, { capture := some ⟨48, 4, by decide⟩, playback := some ⟨48, 4, by decide⟩ }, rfl, rfl, ?_, ?_⟩
  · intro mutes
    have covers := (fillCovers_iff_of_few (by decide)).mp ((muteCells_mutes_iff _ _ _).mp mutes)
    revert covers
    decide
  · intro mutes
    have covers := (fillCovers_iff_of_few (by decide)).mp ((muteCells_mutes_iff _ _ _).mp mutes)
    revert covers
    decide

/-- Every pointer to a channel is to a whole ring of the allocation. -/
def RingsInside (numberOfChannels : UInt32) : Prop :=
  ∀ channelId base, jitterBuffer numberOfChannels channelId = some base →
    base + ringBufferSize.toNat ≤ preallocatedCells

/-- The fill leaves everything beyond the allocation alone. -/
def FillInside (fill : RingMemory → RingMemory) : Prop :=
  ∀ before a, preallocatedCells ≤ a → fill before a = before a

theorem ringsInside_iff : RingsInside numberOfChannels ↔ numberOfChannels.toNat ≤ 512 := by
  unfold RingsInside
  rw [toNat_ringBufferSize, preallocatedCells_eq]
  constructor
  · intro inside
    by_contra many
    have beyond := inside _ _ (ring_of_channel (show 512 < _ by omega))
    rw [toNat_ringBufferSize] at beyond
    omega
  · intro few channelId base found
    obtain ⟨below, rfl⟩ := jitterBuffer_eq_some.mp found
    rw [toNat_ringBufferSize]
    have offset := Nat.mod_le (channelId.toNat * 49152) (2 ^ 30)
    omega

theorem fillInside_iff (pattern : UInt8) (count : Nat) :
    FillInside (muteCells pattern 0 count) ↔ count ≤ preallocatedCells := by
  constructor
  · intro inside
    by_contra many
    have kept := inside (fun _ => mutedCell (pattern + 1)) preallocatedCells (Nat.le_refl _)
    rw [muteCells_eq, if_pos (by omega)] at kept
    exact mutedCell_next_ne pattern kept.symm
  · intro few before a beyond
    rw [muteCells_eq, if_neg (by omega)]

def FewChannels (m : Manager) : Prop := m.numberOfInputs.toNat ≤ 512 ∧ m.numberOfOutputs.toNat ≤ 512

theorem few_of_config (same : m'.config = m.config) (few : FewChannels m) : FewChannels m' := by
  have inputs := congrArg Config.numberOfInputs same
  have outputs := congrArg Config.numberOfOutputs same
  unfold FewChannels
  rw [show m'.numberOfInputs = m.numberOfInputs from inputs,
    show m'.numberOfOutputs = m.numberOfOutputs from outputs]
  exact few

theorem few_of_quiet (quiet : Quiet m m') (few : FewChannels m) : FewChannels m' := by
  unfold FewChannels
  rw [quiet.numberOfInputs, quiet.numberOfOutputs]
  exact few

theorem Change.apply_few {c : Change} (fits : c.FitsAllocation) (few : FewChannels m) : FewChannels (c.apply m) := by
  cases c with
  | ticFrameSizeAt1FS v => exact few
  | maxTICFrameSize v => exact few
  | numberOfInputs n => exact ⟨fits, few.2⟩
  | numberOfOutputs n => exact ⟨few.1, fits⟩

theorem performs_few {request : Option Request} {polled : Nat → Nat → PTPLockStatus}
    (fits : ∀ c, request = some (.change c) → c.FitsAllocation) (few : FewChannels m)
    (performs : Performs m alsa polled request m') : FewChannels m' := by
  rcases request with _ | request
  · exact few_of_quiet performs few
  · cases request with
    | start => exact few_of_config (start_config performs) few
    | stop =>
      rw [show m' = m.stop alsa from performs]
      exact few_of_config (stop_config m alsa) few
    | rate samplingRate =>
      obtain ⟨result, done⟩ := performs
      rcases setSamplingRate_config done with same | same
      · exact few_of_config same few
      · exact few_of_config (m := m.withRate samplingRate) same few
    | change c => exact few_of_config (restarting_config performs) (Change.apply_few (fits c rfl) few)

/-- The messages that a run may have. -/
def ChannelsFit (_ : Manager) : ManagerOp → Prop
  | .message msg _ _ => ∀ c, msg.request = some (.change c) → c.FitsAllocation
  | _ => True

theorem step_few {op : ManagerOp} (few : FewChannels m) (fits : ChannelsFit m op) (done : op.step m = .ok m') :
    FewChannels m' := by
  cases op with
  | message msg alsa polled =>
    obtain ⟨⟨m1, reply⟩, handled, last⟩ := map_eq_ok.mp done
    cases last
    exact performs_few fits few (onNewMessage_performs handled)
  | packet alsa bytes ifname macHeader clockTime counterTime =>
    exact few_of_quiet (etherTubeRxPacket_quiet (lift_eq_ok.mp done)) few
  | tick now =>
    rcases tick_cases done with ⟨-, rfl⟩ | ⟨-, next, ticked⟩
    · exact few
    · exact few_of_quiet (tClockTimer_quiet ticked) few
  | startIo alsa isPlayback =>
    cases done
    unfold startIo
    split
    · exact few
    · split
      · exact few
      · exact few
  | stopIo alsa isPlayback =>
    cases done
    exact few_of_config (stopIo_config m alsa isPlayback) few

/-- In every run whose messages set at most 512 channels the pointers are to rings of the allocation,
and a fill stays in it if there are no more frames than the allocation has room for. -/
theorem channel_rings_stay_inside {macAddress : Nat → MACAddress} {livesIn : RingMemory}
    {streamAt : UInt64 → StreamHandle} {ops : List ManagerOp}
    (run : Run ManagerOp.step ChannelsFit (init macAddress livesIn streamAt) ops m) :
    RingsInside m.numberOfInputs ∧ RingsInside m.numberOfOutputs ∧ ∀ alsa : AlsaBuffers,
      (FillInside (m.inputFill alsa) ↔
        alsa.getCaptureBufferSizeInFrames.toNat * m.numberOfInputs.toNat ≤ preallocatedCells) ∧
      (FillInside (m.muteOutputBuffer alsa) ↔
        alsa.getPlaybackBufferSizeInFrames.toNat * m.numberOfOutputs.toNat ≤ preallocatedCells) := by
  have start : FewChannels (init macAddress livesIn streamAt) :=
    ⟨show defaultNumberOfInputs.toNat ≤ 512 by decide, show defaultNumberOfOutputs.toNat ≤ 512 by decide⟩
  have few : FewChannels m :=
    run.invariant FewChannels start fun _ _ _ few fits next => step_few few fits next
  refine ⟨ringsInside_iff.mpr few.1, ringsInside_iff.mpr few.2, ?_⟩
  intro alsa
  constructor
  · rw [inputFill_eq]
    exact fillInside_iff _ _
  · exact fillInside_iff _ _

theorem channel_rings_stay_inside_512 :
    RingsInside 512 ∧ RingsInside 64 ∧ ∀ alsa : AlsaBuffers,
      (FillInside (inputFill { loaded with numberOfInputs := 512 } alsa) ↔
        alsa.getCaptureBufferSizeInFrames.toNat * 512 ≤ preallocatedCells) ∧
      (FillInside (muteOutputBuffer { loaded with numberOfInputs := 512 } alsa) ↔
        alsa.getPlaybackBufferSizeInFrames.toNat * 64 ≤ preallocatedCells) := by
  have run : Run ManagerOp.step ChannelsFit loaded
      [.message ⟨11, 4, [0, 2, 0, 0]⟩ {} fun _ _ => .unlocked] { loaded with numberOfInputs := 512 } := by
    apply Run.one
    · intro c asked
      cases asked
      change (LittleEndian.load32 (fun k => [0, 2, 0, 0].getD k 0) 0).toNat ≤ 512
      decide
    · rfl
  exact channel_rings_stay_inside run

/-- After a message that sets 600 inputs. -/
theorem channel_rings_leave_allocation :
    ∃ ops m, Run ManagerOp.step (fun _ _ => True) (init (fun _ => {}) (fun _ => {}) fun _ => .source 0) ops m ∧
      ¬ RingsInside m.numberOfInputs ∧ ¬ FillInside (m.inputFill {}) := by
  refine ⟨[.message ⟨11, 4, [88, 2, 0, 0]⟩ {} fun _ _ => .unlocked], { loaded with numberOfInputs := 600 }, ?_, ?_, ?_⟩
  · apply Run.one trivial
    rfl
  · rw [ringsInside_iff]
    decide
  · rw [inputFill_eq, fillInside_iff]
    decide

end Manager

end RavennaLkm
