import RavennaLkm.Transport

/-!
The codecs of the wire, there and back. The rings are read sample after sample
and written channel after channel, and both sides place a sample of the payload
at the same bytes. A payload comes back from rings that lie apart, and the
samples of any rings come back in the width of the codec.
-/
namespace RavennaLkm
open CheckedLoop CellWrites Gather

def readBytes (bytes : List UInt8) : PacketReader := fun k =>
  match bytes[k]? with
  | some byte => .ok byte
  | none => .error .readPast

theorem readBytes_eq {bytes : List UInt8} {k : Nat} (inside : k < bytes.length) :
    readBytes bytes k = .ok (bytes.getD k 0) := by
  rw [readBytes, List.getD_eq_getElem?_getD, List.getElem?_eq_getElem inside]
  rfl

theorem map_getD_range (bytes : List UInt8) :
    (List.range bytes.length).map (fun k => bytes.getD k 0) = bytes := by
  apply List.ext_getElem
  · rw [List.length_map, List.length_range]
  · intro k _ inside
    rw [List.getElem_map, List.getElem_range, List.getD_eq_getElem?_getD, List.getElem?_eq_getElem inside]
    rfl

namespace InterleaveToMapped

/-- `n` samples of every channel from `offset` on, inside of rings that a byte position of 32 bits reaches. -/
structure CodecRegion (g : InterleaveToMapped) (map : ChannelMap) (base : Nat → Nat)
    (offset nbChannels n : UInt32) : Prop where
  mapped : ∀ ch < nbChannels.toNat, map ch = some (base ch)
  inRing : offset.toNat + n.toNat ≤ 2 ^ 30
  row : g.width.toNat * nbChannels.toNat < 2 ^ 32

/-- No cell of the region belongs to two of its samples. -/
def Apart (base : Nat → Nat) (offset nbChannels n : UInt32) : Prop :=
  ∀ ch < nbChannels.toNat, ∀ i < n.toNat, ∀ ch' < nbChannels.toNat, ∀ i' < n.toNat,
    base ch + (offset.toNat + i) = base ch' + (offset.toNat + i') → ch = ch'

/-- `after` has `sample ch i` in the cells of the region and agrees with `before` outside of it. -/
def WritesRegion (base : Nat → Nat) (offset nbChannels n : UInt32) (sample : Nat → Nat → Sample) :
    RingMemory → RingMemory → Prop :=
  Writes (fun k : ChannelSample => k.1 < nbChannels.toNat ∧ k.2 < n.toNat)
    (fun k => base k.1 + (offset.toNat + k.2)) (fun k => sample k.1 k.2)

def payloadBytes (g : InterleaveToMapped) (nbChannels n : UInt32) : Nat :=
  n.toNat * (nbChannels.toNat * g.width.toNat)

variable {g : InterleaveToMapped} {map : ChannelMap} {base : Nat → Nat} {offset nbChannels n : UInt32}

theorem CodecRegion.samplePos (region : CodecRegion g map base offset nbChannels n) (ch i : Nat) :
    g.samplePos nbChannels ch i = (i * nbChannels.toNat + ch) * g.width.toNat := by
  rw [InterleaveToMapped.samplePos, UInt32.toNat_mul, Nat.mod_eq_of_lt region.row, Nat.add_mul, Nat.add_comm,
    Nat.mul_comm ch, Nat.mul_comm g.width.toNat nbChannels.toNat, Nat.mul_assoc]

theorem CodecRegion.outPos (region : CodecRegion g map base offset nbChannels n) {i : Nat} (below : i < n.toNat) :
    outPos offset + i = offset.toNat + i := by
  have := region.inRing
  rw [outPos_eq (by omega)]

theorem store_decode (g : InterleaveToMapped) (b : Nat → UInt8) (pos : Nat) :
    g.counterpart.store (g.decode b pos) = gather (fun r => [b (pos + r)]) g.width.toNat := by
  cases g <;> rfl

def sampleAt (g : InterleaveToMapped) (bytes : List UInt8) (nbChannels : UInt32) (ch i : Nat) : Sample :=
  g.decode (fun k => bytes.getD k 0) ((i * nbChannels.toNat + ch) * g.width.toNat)

theorem CodecRegion.call_eq (region : CodecRegion g map base offset nbChannels n) {bytes : List UInt8}
    (length : bytes.length = g.payloadBytes nbChannels n) (mem : RingMemory) :
    g.call (readBytes bytes) map offset nbChannels n mem =
      .ok (g.deInterleaved (fun k => bytes.getD k 0) base offset nbChannels n mem) := by
  apply g.call_eq_deInterleaved
  intro ch channel i below
  refine ⟨region.mapped ch channel, ?_⟩
  intro k byte
  rw [region.samplePos]
  apply readBytes_eq
  rw [length]
  exact block_lt below channel byte

/-- De-interleaving a payload as long as the region writes the samples of the region and nothing else. -/
theorem CodecRegion.deInterleaves (region : CodecRegion g map base offset nbChannels n) {bytes : List UInt8}
    (length : bytes.length = g.payloadBytes nbChannels n) (mem : RingMemory)
    (agree : ∀ ch < nbChannels.toNat, ∀ i < n.toNat, ∀ ch' < nbChannels.toNat, ∀ i' < n.toNat,
      base ch + (offset.toNat + i) = base ch' + (offset.toNat + i') →
        g.sampleAt bytes nbChannels ch i = g.sampleAt bytes nbChannels ch' i') :
    ∃ after, g.call (readBytes bytes) map offset nbChannels n mem = .ok after ∧
      WritesRegion base offset nbChannels n (g.sampleAt bytes nbChannels) mem after := by
  refine ⟨_, region.call_eq length mem, ?_⟩
  have writes := @Writes.grid Sample nbChannels.toNat n.toNat
    (fun k => base k.1 + (RavennaLkm.outPos offset + k.2))
    (fun k => g.decode (fun k => bytes.getD k 0) (g.samplePos nbChannels k.1 k.2)) mem (by
      intro ch channel i below ch' channel' i' below' same
      dsimp only at same ⊢
      rw [region.outPos below, region.outPos below'] at same
      rw [region.samplePos, region.samplePos]
      exact agree ch channel i below ch' channel' i' below' same)
  apply writes.agree
  · intro k inside
    rw [region.outPos inside.2]
  · intro k _
    rw [sampleAt, region.samplePos]

def regionBytes (g : InterleaveToMapped) (mem : RingMemory) (base : Nat → Nat) (offset nbChannels n : UInt32) :
    List UInt8 :=
  gather (fun i => gather (fun ch => g.counterpart.store (mem (base ch + (offset.toNat + i)))) nbChannels.toNat)
    n.toNat

theorem length_regionBytes (g : InterleaveToMapped) (mem : RingMemory) (base : Nat → Nat)
    (offset nbChannels n : UInt32) :
    (g.regionBytes mem base offset nbChannels n).length = g.payloadBytes nbChannels n :=
  length_gather fun _ _ => length_gather fun _ _ => (g.counterpart.length_store _).trans g.counterpart_width

theorem CodecRegion.interleaves (region : CodecRegion g map base offset nbChannels n) (mem : RingMemory)
    {capacity : Nat} {out : OutCursor} (room : out.out + g.payloadBytes nbChannels n ≤ capacity) :
    g.counterpart.call capacity mem map offset nbChannels n out =
      .ok ⟨out.out + g.payloadBytes nbChannels n,
        writeBytes out.packet out.out (g.regionBytes mem base offset nbChannels n)⟩ := by
  have inRing := region.inRing
  have payload : g.counterpart.payload mem base offset nbChannels.toNat n.toNat =
      g.regionBytes mem base offset nbChannels n := by
    apply gather_congr
    intro i below
    apply gather_congr
    intro ch _
    rw [g.counterpart_cell, inPos_eq (by omega)]
  rw [MappedToInterleave.call_eq_emit _ _ _ _ _ _ region.mapped, sampleRounds_of_noWrap (by omega), payload]
  unfold emit
  rw [g.length_regionBytes, if_pos (.inr room)]

theorem regionBytes_of_writes {bytes : List UInt8} (length : bytes.length = g.payloadBytes nbChannels n)
    {mem after : RingMemory}
    (writes : WritesRegion base offset nbChannels n (g.sampleAt bytes nbChannels) mem after) :
    g.regionBytes after base offset nbChannels n = bytes := by
  conv_rhs => rw [← map_getD_range bytes, length]
  unfold payloadBytes regionBytes
  rw [map_range_blocks]
  apply gather_congr
  intro i below
  apply gather_congr
  intro ch channel
  have sample := writes.written (ch, i) ⟨channel, below⟩
  dsimp only at sample
  rw [sample, sampleAt, store_decode]

/-- A sample of the bytes of a region is the one of the rings in the width of the codec. -/
theorem sampleAt_regionBytes (g : InterleaveToMapped) (mem : RingMemory) (base : Nat → Nat)
    (offset : UInt32) {ch i : Nat} (channel : ch < nbChannels.toNat) (below : i < n.toNat) :
    g.sampleAt (g.regionBytes mem base offset nbChannels n) nbChannels ch i =
      g.truncated (mem (base ch + (offset.toNat + i))) := by
  apply g.decode_store
  intro r byte
  have width (x : Sample) : (g.counterpart.store x).length = g.width.toNat :=
    (g.counterpart.length_store x).trans g.counterpart_width
  have inside := block_lt below channel byte
  have stored : (g.regionBytes mem base offset nbChannels n)[(i * nbChannels.toNat + ch) * g.width.toNat + r]? =
      (g.counterpart.store (mem (base ch + (offset.toNat + i))))[r]? :=
    getElem?_gather_blocks (fun _ _ => width _) below channel byte
  rw [← stored, List.getElem?_eq_getElem (by rw [length_regionBytes]; exact inside), List.getD_eq_getElem?_getD,
    List.getElem?_eq_getElem (by rw [length_regionBytes]; exact inside)]
  rfl

section
variable (g : InterleaveToMapped) (map : ChannelMap) (base : Nat → Nat) (offset nbChannels n : UInt32)
  (capacity : Nat) (out : OutCursor)

/-- A payload that is spread over the rings is what is collected from them; the cells outside of the region
stay as they were. -/
def PayloadComesBack : Prop :=
  ∀ bytes : List UInt8, bytes.length = g.payloadBytes nbChannels n → ∀ before : RingMemory, ∃ after,
    g.call (readBytes bytes) map offset nbChannels n before = .ok after ∧
    g.counterpart.call capacity after map offset nbChannels n out =
      .ok ⟨out.out + bytes.length, writeBytes out.packet out.out bytes⟩ ∧
    ∀ a, (∀ ch < nbChannels.toNat, ∀ i < n.toNat, a ≠ base ch + (offset.toNat + i)) → after a = before a

/-- A payload of the region's length is spread over the rings, and the cells outside of the region stay as
they were. -/
def SpreadsInside : Prop :=
  ∀ bytes : List UInt8, bytes.length = g.payloadBytes nbChannels n → ∀ before : RingMemory, ∃ after,
    g.call (readBytes bytes) map offset nbChannels n before = .ok after ∧
    ∀ a, (∀ ch < nbChannels.toNat, ∀ i < n.toNat, a ≠ base ch + (offset.toNat + i)) → after a = before a

/-- What is collected depends on the cells of the region only, and spread over the region of any rings it is
the samples with the bits below the width of the codec cleared. -/
def SamplesComeBack : Prop :=
  ∀ rings : RingMemory, ∃ bytes : List UInt8, bytes.length = g.payloadBytes nbChannels n ∧
    (∀ same : RingMemory, (∀ ch < nbChannels.toNat, ∀ i < n.toNat,
        same (base ch + (offset.toNat + i)) = rings (base ch + (offset.toNat + i))) →
      g.counterpart.call capacity same map offset nbChannels n out =
        .ok ⟨out.out + bytes.length, writeBytes out.packet out.out bytes⟩) ∧
    ∀ before : RingMemory, ∃ after, g.call (readBytes bytes) map offset nbChannels n before = .ok after ∧
      WritesRegion base offset nbChannels n (fun ch i => g.truncated (rings (base ch + (offset.toNat + i))))
        before after

end

theorem CodecRegion.payload_comes_back (region : CodecRegion g map base offset nbChannels n) {capacity : Nat}
    {out : OutCursor} (room : out.out + g.payloadBytes nbChannels n ≤ capacity)
    (apart : Apart base offset nbChannels n) : PayloadComesBack g map base offset nbChannels n capacity out := by
  intro bytes length before
  obtain ⟨after, spread, writes⟩ := region.deInterleaves length before (by
    intro ch channel i below ch' channel' i' below' same
    obtain rfl := apart ch channel i below ch' channel' i' below' same
    obtain rfl : i = i' := by omega
    rfl)
  refine ⟨after, spread, ?_, ?_⟩
  · rw [region.interleaves after room, regionBytes_of_writes length writes, length]
  · intro a outside
    apply writes.other
    intro k inside
    exact outside k.1 inside.1 k.2 inside.2

theorem CodecRegion.samples_come_back (region : CodecRegion g map base offset nbChannels n) {capacity : Nat}
    {out : OutCursor} (room : out.out + g.payloadBytes nbChannels n ≤ capacity) :
    SamplesComeBack g map base offset nbChannels n capacity out := by
  intro rings
  have length := g.length_regionBytes rings base offset nbChannels n
  refine ⟨g.regionBytes rings base offset nbChannels n, length, ?_, ?_⟩
  · intro same agree
    have bytes : g.regionBytes same base offset nbChannels n = g.regionBytes rings base offset nbChannels n := by
      apply gather_congr
      intro i below
      apply gather_congr
      intro ch channel
      rw [agree ch channel i below]
    rw [region.interleaves same room, bytes, length]
  · intro before
    obtain ⟨after, spread, writes⟩ := region.deInterleaves length before (by
      intro ch channel i below ch' channel' i' below' same
      rw [sampleAt_regionBytes g rings base offset channel below,
        sampleAt_regionBytes g rings base offset channel' below', same])
    refine ⟨after, spread, writes.agree (fun _ _ => rfl) ?_⟩
    intro k inside
    exact (sampleAt_regionBytes g rings base offset inside.1 inside.2).symm

theorem CodecRegion.spreads_inside (region : CodecRegion g map base offset nbChannels n) :
    SpreadsInside g map base offset nbChannels n := by
  intro bytes length before
  refine ⟨_, region.call_eq length before, ?_⟩
  intro a outside
  apply Writes.grid_other (fun k => base k.1 + (RavennaLkm.outPos offset + k.2))
    (fun k => g.decode (fun k => bytes.getD k 0) (g.samplePos nbChannels k.1 k.2))
  intro ch channel i below
  rw [region.outPos below]
  exact outside ch channel i below

/-- Both round trips of a codec. Rings that two channels share keep the sample of the later one, so that a
payload comes back from rings that lie apart; the samples of rings come back in any case, and in any case
nothing outside of the region is written. -/
theorem codec_round_trip (region : CodecRegion g map base offset nbChannels n) {capacity : Nat} {out : OutCursor}
    (room : out.out + g.payloadBytes nbChannels n ≤ capacity) :
    (Apart base offset nbChannels n → PayloadComesBack g map base offset nbChannels n capacity out) ∧
      SamplesComeBack g map base offset nbChannels n capacity out ∧
      SpreadsInside g map base offset nbChannels n :=
  ⟨region.payload_comes_back room, region.samples_come_back room, region.spreads_inside⟩

/-- Three samples of 24 bits for each of two rings of a hundred cells, and for one ring that both share. -/
theorem codec_round_trip_stereo :
    (PayloadComesBack .bigEndianInt24 (fun ch => some (100 * ch)) (100 * ·) 5 2 3 20 ⟨2, fun _ => none⟩ ∧
      SamplesComeBack .bigEndianInt24 (fun ch => some (100 * ch)) (100 * ·) 5 2 3 20 ⟨2, fun _ => none⟩) ∧
      SpreadsInside .bigEndianInt24 (fun _ => some 0) (fun _ => 0) 5 2 3 := by
  have apart : CodecRegion .bigEndianInt24 (fun ch => some (100 * ch)) (100 * ·) 5 2 3 :=
    ⟨fun _ _ => rfl, by decide, by decide⟩
  have shared : CodecRegion .bigEndianInt24 (fun _ => some 0) (fun _ => 0) 5 2 3 :=
    ⟨fun _ _ => rfl, by decide, by decide⟩
  have room : (⟨2, fun _ => none⟩ : OutCursor).out + payloadBytes .bigEndianInt24 2 3 ≤ 20 := by decide
  obtain ⟨payload, samples, -⟩ := codec_round_trip apart room
  obtain ⟨-, -, inside⟩ := codec_round_trip shared room
  refine ⟨⟨payload ?_, samples⟩, inside⟩
  unfold Apart
  decide

/-- Two channels that are routed to one ring, and a region whose end is no 32-bit number. -/
theorem payload_lost :
    ¬ PayloadComesBack .bigEndianInt16 (fun _ => some 0) (fun _ => 0) 5 2 1 4 ⟨0, fun _ => none⟩ ∧
      ¬ PayloadComesBack .bigEndianInt16 (fun _ => some 0) (fun _ => 0) 0xFFFFFFFF 1 1 2 ⟨0, fun _ => none⟩ := by
  constructor
  · intro comesBack
    obtain ⟨after, spread, collected, -⟩ := comesBack [0, 1, 0, 2] rfl fun _ => {}
    cases spread
    have second := congrArg (fun r => r.toOption.map (·.packet 1)) collected
    exact absurd second (by decide)
  · intro comesBack
    obtain ⟨after, spread, collected, -⟩ := comesBack [0, 1] rfl fun _ => {}
    cases spread
    have length := congrArg (fun r => r.toOption.map (·.out)) collected
    exact absurd length (by decide)

end InterleaveToMapped

end RavennaLkm
