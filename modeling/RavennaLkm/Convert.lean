import RavennaLkm.Lib.CheckedLoop
import RavennaLkm.Lib.Gather
import RavennaLkm.StreamInfo

/-!
MTConvert.c: the converters between the per-channel rings of the audio engine
and the interleaved big-endian samples of a packet, on a little-endian machine.
A channel pointer is the address of its first 4-byte cell, or `none` for NULL.
The byte order reads `in[k]`/`out[k]` as in the source.
-/
namespace RavennaLkm
open CheckedLoop Gather

inductive Fault where
  | readPast | writePast | divideByZero | nullPointer | endlessLoop
  deriving DecidableEq, Repr

structure Sample where
  byte0 : UInt8 := 0
  byte1 : UInt8 := 0
  byte2 : UInt8 := 0
  byte3 : UInt8 := 0
  deriving DecidableEq, Repr

abbrev RingMemory := Nat → Sample

abbrev ChannelMap := Nat → Option Nat

abbrev PacketReader := Nat → Except Fault UInt8

def outPos (offsetOutputBuf : UInt32) : Nat := (offsetOutputBuf * 4).toNat / 4

def storeMapped (load : PacketReader → Nat → Except Fault Sample) (input : PacketReader)
    (inPos : Nat) (out : Option Nat) (outPos : Nat) (mem : RingMemory) : Except Fault RingMemory :=
  match out with
  | none => .error .nullPointer
  | some base => load input inPos >>= fun s => .ok (Function.update mem (base + outPos) s)

/-- The loops of the de-interleaving converters: channel after channel, `width` bytes a sample. -/
def deInterleave (width : UInt32) (load : PacketReader → Nat → Except Fault Sample)
    (input : PacketReader) (outputBuffer : ChannelMap) (offsetOutputBuf nbChannels nbSamples : UInt32) :
    RingMemory → Except Fault RingMemory :=
  forUp (fun ch => forUp (fun i =>
      storeMapped load input (width.toNat * ch + i * (width * nbChannels).toNat) (outputBuffer ch)
        (outPos offsetOutputBuf + i))
    nbSamples.toNat) nbChannels.toNat

def loadInt16 (input : PacketReader) (pos : Nat) : Except Fault Sample := do
  let in1 ← input (pos + 1)
  let in0 ← input pos
  .ok ⟨0, 0, in1, in0⟩

def loadInt24 (input : PacketReader) (pos : Nat) : Except Fault Sample := do
  let in2 ← input (pos + 2)
  let in1 ← input (pos + 1)
  let in0 ← input pos
  .ok ⟨0, in2, in1, in0⟩

def loadInt32 (input : PacketReader) (pos : Nat) : Except Fault Sample := do
  let in3 ← input (pos + 3)
  let in2 ← input (pos + 2)
  let in1 ← input (pos + 1)
  let in0 ← input pos
  .ok ⟨in3, in2, in1, in0⟩

def mtConvertBigEndianInt16ToMappedInt32DeInterleave := deInterleave 2 loadInt16
def mtConvertBigEndianInt24ToMappedInt32DeInterleave := deInterleave 3 loadInt24
def mtConvertBigEndianInt32ToMappedInt32DeInterleave := deInterleave 4 loadInt32

/-- The values of `m_pfnMTConvertInterleaveToMapped`. -/
inductive InterleaveToMapped where
  | bigEndianInt16 | bigEndianInt24 | bigEndianInt32
  deriving DecidableEq, Repr

namespace InterleaveToMapped

def width : InterleaveToMapped → UInt32
  | .bigEndianInt16 => 2
  | .bigEndianInt24 => 3
  | .bigEndianInt32 => 4

def load : InterleaveToMapped → PacketReader → Nat → Except Fault Sample
  | .bigEndianInt16 => loadInt16
  | .bigEndianInt24 => loadInt24
  | .bigEndianInt32 => loadInt32

def call : InterleaveToMapped → PacketReader → ChannelMap → UInt32 → UInt32 → UInt32 →
    RingMemory → Except Fault RingMemory
  | .bigEndianInt16 => mtConvertBigEndianInt16ToMappedInt32DeInterleave
  | .bigEndianInt24 => mtConvertBigEndianInt24ToMappedInt32DeInterleave
  | .bigEndianInt32 => mtConvertBigEndianInt32ToMappedInt32DeInterleave

theorem call_eq (f : InterleaveToMapped) : f.call = deInterleave f.width f.load := by
  cases f <;> rfl

def decode : InterleaveToMapped → (Nat → UInt8) → Nat → Sample
  | .bigEndianInt16, b, pos => ⟨0, 0, b (pos + 1), b pos⟩
  | .bigEndianInt24, b, pos => ⟨0, b (pos + 2), b (pos + 1), b pos⟩
  | .bigEndianInt32, b, pos => ⟨b (pos + 3), b (pos + 2), b (pos + 1), b pos⟩

theorem load_ok (f : InterleaveToMapped) {input : PacketReader} {b : Nat → UInt8} {pos : Nat}
    (readable : ∀ k < f.width.toNat, input (pos + k) = .ok (b (pos + k))) :
    f.load input pos = .ok (f.decode b pos) := by
  cases f
  all_goals
    have at0 := readable 0 (by decide)
    have at1 := readable 1 (by decide)
    simp only [Nat.add_zero] at at0
  · simp [load, loadInt16, decode, at0, at1]
  · have at2 := readable 2 (by decide)
    simp [load, loadInt24, decode, at0, at1, at2]
  · have at2 := readable 2 (by decide)
    have at3 := readable 3 (by decide)
    simp [load, loadInt32, decode, at0, at1, at2, at3]

theorem load_succeeds (f : InterleaveToMapped) {input : PacketReader} {pos : Nat}
    (done : Succeeds (f.load input pos)) : ∀ k < f.width.toNat, Succeeds (input (pos + k)) := by
  have split : ∀ k, k < 2 → k = 0 ∨ k = 1 := by omega
  have split' : ∀ k, k < 3 → k = 0 ∨ k = 1 ∨ k = 2 := by omega
  have split'' : ∀ k, k < 4 → k = 0 ∨ k = 1 ∨ k = 2 ∨ k = 3 := by omega
  cases f
  · simp only [load, loadInt16, succeeds_bind] at done
    obtain ⟨in1, read1, in0, read0, -⟩ := done
    intro k below
    rcases split k below with rfl | rfl
    exacts [⟨_, read0⟩, ⟨_, read1⟩]
  · simp only [load, loadInt24, succeeds_bind] at done
    obtain ⟨in2, read2, in1, read1, in0, read0, -⟩ := done
    intro k below
    rcases split' k below with rfl | rfl | rfl
    exacts [⟨_, read0⟩, ⟨_, read1⟩, ⟨_, read2⟩]
  · simp only [load, loadInt32, succeeds_bind] at done
    obtain ⟨in3, read3, in2, read2, in1, read1, in0, read0, -⟩ := done
    intro k below
    rcases split'' k below with rfl | rfl | rfl | rfl
    exacts [⟨_, read0⟩, ⟨_, read1⟩, ⟨_, read2⟩, ⟨_, read3⟩]

def samplePos (f : InterleaveToMapped) (nbChannels : UInt32) (ch i : Nat) : Nat :=
  f.width.toNat * ch + i * (f.width * nbChannels).toNat

def deInterleaved (f : InterleaveToMapped) (b : Nat → UInt8) (base : Nat → Nat)
    (offset nbChannels nbSamples : UInt32) : RingMemory → RingMemory :=
  iterUp (fun ch => iterUp (fun i mem =>
      Function.update mem (base ch + (outPos offset + i)) (f.decode b (f.samplePos nbChannels ch i)))
    nbSamples.toNat) nbChannels.toNat

theorem call_eq_deInterleaved (f : InterleaveToMapped) {input : PacketReader} {b : Nat → UInt8}
    {outputBuffer : ChannelMap} {base : Nat → Nat} {offset nbChannels nbSamples : UInt32}
    (mem : RingMemory)
    (usable : ∀ ch < nbChannels.toNat, ∀ i < nbSamples.toNat, outputBuffer ch = some (base ch) ∧
      ∀ k < f.width.toNat,
        input (f.samplePos nbChannels ch i + k) = .ok (b (f.samplePos nbChannels ch i + k))) :
    f.call input outputBuffer offset nbChannels nbSamples mem =
      .ok (f.deInterleaved b base offset nbChannels nbSamples mem) := by
  rw [call_eq]
  apply forUp_eq_iterUp
  intro ch chBelow mem
  apply forUp_eq_iterUp
  intro i iBelow mem
  obtain ⟨mapped, readable⟩ := usable ch chBelow i iBelow
  have loaded := f.load_ok readable
  simp only [storeMapped, mapped, samplePos] at loaded ⊢
  rw [loaded]
  rfl

theorem call_succeeds (f : InterleaveToMapped) {input : PacketReader} {outputBuffer : ChannelMap}
    {offset nbChannels nbSamples : UInt32} {mem : RingMemory}
    (done : Succeeds (f.call input outputBuffer offset nbChannels nbSamples mem)) :
    ∀ ch < nbChannels.toNat, ∀ i < nbSamples.toNat, (outputBuffer ch).isSome ∧
      ∀ k < f.width.toNat, Succeeds (input (f.samplePos nbChannels ch i + k)) := by
  intro ch chBelow i iBelow
  rw [call_eq] at done
  obtain ⟨_, -, channel⟩ := forUp_round_succeeds done chBelow
  obtain ⟨_, -, stored⟩ := forUp_round_succeeds channel iBelow
  unfold storeMapped at stored
  cases target : outputBuffer ch with
  | none => simp [target] at stored
  | some base =>
    simp only [target, succeeds_bind] at stored
    obtain ⟨sample, loaded, -⟩ := stored
    exact ⟨rfl, f.load_succeeds ⟨sample, loaded⟩⟩

end InterleaveToMapped

/-- A transmit buffer: `none` marks a byte nobody has written yet. -/
abbrev PacketBuffer := Nat → Option UInt8

structure OutCursor where
  out : Nat
  packet : PacketBuffer

def writeBytes (packet : PacketBuffer) (pos : Nat) (bytes : List UInt8) : PacketBuffer :=
  fun a => if pos ≤ a ∧ a < pos + bytes.length then bytes[a - pos]? else packet a

/-- `out[0] = …; out += bytes.length`, inside a buffer of `capacity` bytes. -/
def emit (capacity : Nat) (bytes : List UInt8) (c : OutCursor) : Except Fault OutCursor :=
  if bytes = [] ∨ c.out + bytes.length ≤ capacity then
    .ok ⟨c.out + bytes.length, writeBytes c.packet c.out bytes⟩
  else .error .writePast

/-- Rounds of `for (i = offset; i < offset + nb; ++i)` in 32 bits: none when the bound wraps. -/
def sampleRounds (offsetInputBuf nbSamplesIn : UInt32) : Nat :=
  (offsetInputBuf + nbSamplesIn).toNat - offsetInputBuf.toNat

def inPos (offsetInputBuf : UInt32) (i : Nat) : Nat :=
  (offsetInputBuf * 4 + 4 * UInt32.ofNat i).toNat / 4

def emitMapped (store : Sample → List UInt8) (capacity : Nat) (mem : RingMemory)
    (input : Option Nat) (inPos : Nat) (c : OutCursor) : Except Fault OutCursor :=
  match input with
  | none => .error .nullPointer
  | some base => emit capacity (store (mem (base + inPos))) c

def interleave (store : Sample → List UInt8) (capacity : Nat) (mem : RingMemory)
    (inputBuffer : ChannelMap) (offsetInputBuf nbChannels nbSamplesIn : UInt32) :
    OutCursor → Except Fault OutCursor :=
  forUp (fun i => forUp (fun ch =>
      emitMapped store capacity mem (inputBuffer ch) (inPos offsetInputBuf i)) nbChannels.toNat)
    (sampleRounds offsetInputBuf nbSamplesIn)

def storeInt16 (s : Sample) : List UInt8 := [s.byte3, s.byte2]
def storeInt24 (s : Sample) : List UInt8 := [s.byte3, s.byte2, s.byte1]
def storeInt32 (s : Sample) : List UInt8 := [s.byte3, s.byte2, s.byte1, s.byte0]

def mtConvertMappedInt32ToBigEndianInt16Interleave := interleave storeInt16
def mtConvertMappedInt32ToBigEndianInt24Interleave := interleave storeInt24
def mtConvertMappedInt32ToBigEndianInt32Interleave := interleave storeInt32

def mtConvertMappedInt32ToInt16LEInterleave := interleave fun s => [s.byte2, s.byte3]
def mtConvertMappedInt32ToInt24LEInterleave := interleave fun s => [s.byte1, s.byte2, s.byte3]
def mtConvertMappedInt32ToInt24LE4ByteInterleave := interleave fun s => [s.byte1, s.byte2, s.byte3, 0]
def mtConvertMappedInt32ToInt32LEInterleave := interleave fun s => [s.byte0, s.byte1, s.byte2, s.byte3]

def mtConvertMappedFloatToBigEndianDSD256Interleave (capacity : Nat) (mem : RingMemory)
    (uninterleave : ChannelMap) (offsetInUninterleaveBuffer nbOfChannels nbOfSamplesByChannels : UInt32) :
    OutCursor → Except Fault OutCursor :=
  forUp (fun i => forUp (fun ch c =>
      match uninterleave ch with
      | none => .ok c
      | some base =>
        let s := mem (base + (offsetInUninterleaveBuffer.toNat + i))
        emit capacity [s.byte0, s.byte1, s.byte2, s.byte3] c) nbOfChannels.toNat)
    (sampleRounds offsetInUninterleaveBuffer nbOfSamplesByChannels)

inductive MappedToInterleave where
  | bigEndianInt16 | bigEndianInt24 | bigEndianInt32 | bigEndianDSD256
  deriving DecidableEq, Repr

namespace MappedToInterleave

def width : MappedToInterleave → Nat
  | .bigEndianInt16 => 2
  | .bigEndianInt24 => 3
  | .bigEndianInt32 | .bigEndianDSD256 => 4

def store : MappedToInterleave → Sample → List UInt8
  | .bigEndianInt16 => storeInt16
  | .bigEndianInt24 => storeInt24
  | .bigEndianInt32 => storeInt32
  | .bigEndianDSD256 => fun s => [s.byte0, s.byte1, s.byte2, s.byte3]

def cell : MappedToInterleave → UInt32 → Nat → Nat
  | .bigEndianDSD256, offset, i => offset.toNat + i
  | _, offset, i => inPos offset i

def call : MappedToInterleave → Nat → RingMemory → ChannelMap → UInt32 → UInt32 → UInt32 →
    OutCursor → Except Fault OutCursor
  | .bigEndianInt16 => mtConvertMappedInt32ToBigEndianInt16Interleave
  | .bigEndianInt24 => mtConvertMappedInt32ToBigEndianInt24Interleave
  | .bigEndianInt32 => mtConvertMappedInt32ToBigEndianInt32Interleave
  | .bigEndianDSD256 => mtConvertMappedFloatToBigEndianDSD256Interleave

@[simp] theorem length_store (f : MappedToInterleave) (s : Sample) : (f.store s).length = f.width := by
  cases f <;> rfl

theorem width_pos (f : MappedToInterleave) : 0 < f.width := by cases f <;> decide

def row (f : MappedToInterleave) (mem : RingMemory) (base : Nat → Nat) (offset : UInt32)
    (nbChannels i : Nat) : List UInt8 :=
  gather (fun ch => f.store (mem (base ch + f.cell offset i))) nbChannels

def payload (f : MappedToInterleave) (mem : RingMemory) (base : Nat → Nat) (offset : UInt32)
    (nbChannels rounds : Nat) : List UInt8 :=
  gather (f.row mem base offset nbChannels) rounds

theorem length_row (f : MappedToInterleave) (mem : RingMemory) (base : Nat → Nat) (offset : UInt32)
    (nbChannels i : Nat) : (f.row mem base offset nbChannels i).length = nbChannels * f.width :=
  length_gather fun _ _ => f.length_store _

theorem length_payload (f : MappedToInterleave) (mem : RingMemory) (base : Nat → Nat)
    (offset : UInt32) (nbChannels rounds : Nat) :
    (f.payload mem base offset nbChannels rounds).length = rounds * (nbChannels * f.width) :=
  length_gather fun _ _ => f.length_row ..

end MappedToInterleave

theorem sampleRounds_of_noWrap {offset n : UInt32} (noWrap : offset.toNat + n.toNat < 2 ^ 32) :
    sampleRounds offset n = n.toNat := by
  rw [sampleRounds, UInt32.toNat_add, Nat.mod_eq_of_lt noWrap]
  omega

theorem inPos_eq {offset : UInt32} {i : Nat} (small : offset.toNat + i < 2 ^ 30) :
    inPos offset i = offset.toNat + i := by
  have index : (UInt32.ofNat i).toNat = i := Nat.mod_eq_of_lt (by omega)
  have bytes : (offset * 4 + 4 * UInt32.ofNat i).toNat = 4 * (offset.toNat + i) := by
    simp only [UInt32.toNat_add, UInt32.toNat_mul, index, UInt32.reduceToNat]
    omega
  rw [inPos, bytes, Nat.mul_div_cancel_left _ (by decide)]

theorem writeBytes_nil (packet : PacketBuffer) (pos : Nat) : writeBytes packet pos [] = packet := by
  funext a
  simp only [writeBytes, List.length_nil]
  split
  · omega
  · rfl

theorem writeBytes_append (packet : PacketBuffer) (pos : Nat) (xs ys : List UInt8) :
    writeBytes (writeBytes packet pos xs) (pos + xs.length) ys = writeBytes packet pos (xs ++ ys) := by
  funext a
  simp only [writeBytes, List.length_append]
  by_cases front : pos ≤ a ∧ a < pos + xs.length
  · rw [if_neg (by omega), if_pos front, if_pos (by omega), List.getElem?_append_left (by omega)]
  · by_cases back : pos + xs.length ≤ a ∧ a < pos + xs.length + ys.length
    · rw [if_pos back, if_pos (by omega), List.getElem?_append_right (by omega)]
      congr 1
      omega
    · rw [if_neg back, if_neg front, if_neg (by omega)]

@[simp] theorem emit_nil (capacity : Nat) (c : OutCursor) : emit capacity [] c = .ok c := by
  simp [emit, writeBytes_nil]

theorem emit_append (capacity : Nat) (xs ys : List UInt8) (c : OutCursor) :
    emit capacity (xs ++ ys) c = emit capacity xs c >>= emit capacity ys := by
  by_cases noFront : xs = []
  · simp [noFront]
  by_cases noBack : ys = []
  · rw [noBack, List.append_nil]
    cases emit capacity xs c <;> simp
  have nonempty := List.length_pos_iff.mpr noBack
  have length : (xs ++ ys).length = xs.length + ys.length := List.length_append
  by_cases front : c.out + xs.length ≤ capacity
  · simp only [emit, noFront, noBack, front, List.append_eq_nil_iff, false_and, false_or, if_true,
      ok_bind, writeBytes_append, length, Nat.add_assoc]
  · have whole : ¬ c.out + (xs ++ ys).length ≤ capacity := by omega
    simp only [emit, noFront, front, whole, List.append_eq_nil_iff, false_and, false_or, if_false,
      error_bind]

theorem forUp_emit (capacity : Nat) (chunk : Nat → List UInt8) (n : Nat) (c : OutCursor) :
    forUp (fun k => emit capacity (chunk k)) n c = emit capacity (gather chunk n) c := by
  induction n with
  | zero => simp
  | succ n ih => rw [forUp_succ, ih, gather_succ, emit_append]

namespace MappedToInterleave

theorem interleave_eq_emit (store : Sample → List UInt8) (capacity : Nat) (mem : RingMemory)
    {inputBuffer : ChannelMap} {base : Nat → Nat} (offset : UInt32) {nbChannels : UInt32}
    (nbSamples : UInt32) (c : OutCursor)
    (mapped : ∀ ch < nbChannels.toNat, inputBuffer ch = some (base ch)) :
    interleave store capacity mem inputBuffer offset nbChannels nbSamples c =
      emit capacity (gather (fun i => gather (fun ch => store (mem (base ch + inPos offset i)))
        nbChannels.toNat) (sampleRounds offset nbSamples)) c := by
  rw [interleave, ← forUp_emit]
  apply forUp_congr
  intro i _ c
  rw [← forUp_emit]
  apply forUp_congr
  intro ch below c
  simp only [emitMapped, mapped ch below]

theorem call_eq_emit (f : MappedToInterleave) (capacity : Nat) (mem : RingMemory)
    {inputBuffer : ChannelMap} {base : Nat → Nat} (offset : UInt32) {nbChannels : UInt32}
    (nbSamples : UInt32) (c : OutCursor)
    (mapped : ∀ ch < nbChannels.toNat, inputBuffer ch = some (base ch)) :
    f.call capacity mem inputBuffer offset nbChannels nbSamples c =
      emit capacity (f.payload mem base offset nbChannels.toNat (sampleRounds offset nbSamples)) c := by
  cases f
  · exact interleave_eq_emit _ capacity mem offset nbSamples c mapped
  · exact interleave_eq_emit _ capacity mem offset nbSamples c mapped
  · exact interleave_eq_emit _ capacity mem offset nbSamples c mapped
  · rw [call, mtConvertMappedFloatToBigEndianDSD256Interleave, payload, ← forUp_emit]
    apply forUp_congr
    intro i _ c
    rw [row, ← forUp_emit]
    apply forUp_congr
    intro ch below c
    rw [mapped ch below]
    rfl

end MappedToInterleave

end RavennaLkm
