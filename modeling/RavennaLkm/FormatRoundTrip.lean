import RavennaLkm.PlaybackFIFO

/-!
The PCM formats of ALSA, there and back: what a playback function spreads over
the rings, the capture function of the same format collects again. A ring holds
samples of 32 bits, so that only the pad byte of `S24_LE` is lost.
-/
namespace RavennaLkm
open CheckedLoop CellWrites Gather

namespace PCMFormat

def restored (format : PCMFormat) (bytes : Nat → UInt8) (k : Nat) : UInt8 :=
  if format = .s24LE ∧ k % 4 = 3 then 0 else bytes k

theorem restored_block (format : PCMFormat) (bytes : Nat → UInt8) (m i : Nat) :
    format.restored bytes (m * format.stride + i) =
      format.restored (fun i => bytes (m * format.stride + i)) i := by
  unfold restored
  cases format with
  | s24LE =>
    have block : (m * stride .s24LE + i) % 4 = i % 4 := by
      change (m * 4 + i) % 4 = i % 4
      omega
    rw [block]
  | _ => rfl

end PCMFormat

namespace AudioChip

/-- `F` frames that lie inside of their area, the rings and the area they come back to; the byte addresses of
the rings are words of 32 bits. -/
structure FrameRegion (sub : PCMSubstream) (size src : Nat) (pos F : UInt32) (map : ChannelMap)
    (capacity out : Nat) : Prop where
  rings : sub.channels.toNat * (ringBufferSize.toNat * 4) ≤ 2 ^ 32
  mapped : ∀ ch < sub.channels.toNat, map ch = some (ch * ringBufferSize.toNat)
  inRing : pos.toNat + F.toNat ≤ ringBufferSize.toNat
  inArea : src + F.toNat * sub.frameBytes ≤ size
  inOutput : out + F.toNat * sub.frameBytes ≤ capacity

variable {play record : PCMSubstream} {fn : PlaybackDeinterleave} {gn : CaptureInterleave}

theorem store_decode (pcm : play.format ∈ captureFormats) (format : record.format = play.format)
    (selected : selectDeinterleave play = some fn) (selected' : selectInterleave record = some gn)
    (bytes : Nat → UInt8) :
    gn.store (fn.decode bytes) = gather (fun i => [play.format.restored bytes i]) play.format.stride := by
  unfold selectDeinterleave getDSDSampleRate at selected
  unfold selectInterleave at selected'
  rw [format] at selected'
  generalize play.format = format at pcm selected selected'
  simp only [captureFormats, List.mem_cons, List.not_mem_nil, or_false] at pcm
  rcases pcm with rfl | rfl | rfl | rfl
  all_goals
    cases selected
    cases selected'
    rfl

theorem deinterleave_succeeds (selected : selectDeinterleave play = some fn) {size src : Nat} {pos F : UInt32}
    (dma : Nat → UInt8) (inArea : src + F.toNat * play.frameBytes ≤ size) (c : PlaybackCopy) :
    Succeeds (fn.call size dma src ringBufferSize pos play.channels F c) := by
  obtain ⟨-, stride, -⟩ := selectDeinterleave_reads selected 1
  have narrow : ∀ k ∈ fn.offsets, k < fn.strideIn := by
    cases fn
    all_goals decide
  have accesses := playbackDeinterleave_accesses fn.strideIn fn.offsets fn.decode size dma src ringBufferSize pos
    play.channels F
  rw [fn.call_eq]
  apply accesses.succeeds
  intro a isRead
  obtain ⟨ch, channel, inChannel⟩ := mem_gather.mp isRead
  obtain ⟨f, inFrame, inSample⟩ := mem_gather.mp inChannel
  obtain ⟨k, isOffset, rfl⟩ := List.mem_map.mp inSample
  have below := block_lt inFrame channel (narrow k isOffset)
  rw [PCMSubstream.frameBytes, ← stride] at inArea
  omega

/-- What the capture function collects from the words that the playback function has written. -/
theorem collected_bytes (pcm : play.format ∈ captureFormats) (format : record.format = play.format)
    (selected : selectDeinterleave play = some fn) (selected' : selectInterleave record = some gn) {size src : Nat}
    {dma : Nat → UInt8} {pos F : UInt32} {c copy : PlaybackCopy}
    (inRing : pos.toNat + F.toNat ≤ ringBufferSize.toNat)
    (done : fn.call size dma src ringBufferSize pos play.channels F c = .ok copy) :
    capturedBytes gn copy.ring play.channels.toNat pos F =
      (List.range (F.toNat * play.frameBytes)).map (play.format.restored fun k => dma (src + k)) := by
  obtain ⟨-, stride, -⟩ := selectDeinterleave_reads selected 1
  have size := toNat_ringBufferSize
  rw [fn.call_eq] at done
  have words := deinterleave_ring inRing done
  unfold capturedBytes PCMSubstream.frameBytes
  rw [sampleRounds_of_noWrap (by omega), map_range_blocks]
  apply gather_congr
  intro f inFrame
  apply gather_congr
  intro ch channel
  have word := words.written (ch, f) ⟨channel, inFrame⟩
  dsimp only at word
  rw [inPos_eq (by omega), word, store_decode pcm format selected selected', stride]
  apply gather_congr
  intro i _
  rw [PCMFormat.restored_block]
  simp only [Nat.add_assoc]

/-- Playback into the rings and capture from the same frames of them: the bytes come back behind `out`, and
the words of the rings outside of the frames are the ones that were there. -/
structure ComesBack (fn : PlaybackDeinterleave) (gn : CaptureInterleave) (sub : PCMSubstream) (size : Nat)
    (dma : Nat → UInt8) (src : Nat) (pos F : UInt32) (map : ChannelMap) (capacity : Nat) (start : PlaybackCopy)
    (out : OutCursor) (copy : PlaybackCopy) : Prop where
  spread : fn.call size dma src ringBufferSize pos sub.channels F start = .ok copy
  collected : gn.call capacity copy.ring map pos sub.channels F out =
    .ok ⟨out.out + F.toNat * sub.frameBytes, writeBytes out.packet out.out
      ((List.range (F.toNat * sub.frameBytes)).map (sub.format.restored fun k => dma (src + k)))⟩
  others : ∀ cell, (∀ ch < sub.channels.toNat, ∀ f < F.toNat,
      cell ≠ ch * ringBufferSize.toNat + (pos.toNat + f)) → copy.ring cell = start.ring cell

theorem prepareCapture_interleave {chip recorder : AudioChip} {before after : Manager} {err : Int32}
    (prepared : chip.prepareCapture record before after err = .ok (some recorder)) :
    recorder.captureInterleaveFn = selectInterleave record := by
  unfold prepareCapture at prepared
  obtain ⟨offset, -, prepared⟩ := bind_eq_ok.mp prepared
  split at prepared
  · cases prepared
  · cases prepared
    rfl

/-- With the functions that `prepare` chooses for a PCM format, playback and capture of the same frames of
the rings give back the bytes of the area. -/
theorem format_round_trip {chip chip' player recorder : AudioChip} {before before' after : Manager}
    {err err' : Int32} (prepared : chip.preparePlayback play before err = some player)
    (prepared' : chip'.prepareCapture record before' after err' = .ok (some recorder))
    (pcm : play.format ∈ captureFormats) (format : record.format = play.format) {size src capacity : Nat}
    {pos F : UInt32} {map : ChannelMap} {out : OutCursor}
    (region : FrameRegion play size src pos F map capacity out.out) (dma : Nat → UInt8) (start : PlaybackCopy) :
    ∃ fn gn, player.playbackDeinterleaveFn = some fn ∧ recorder.captureInterleaveFn = some gn ∧
      ∃ copy, ComesBack fn gn play size dma src pos F map capacity start out copy := by
  obtain ⟨fn, selected⟩ := selectDeinterleave_some pcm
  have pcm' : record.format ∈ captureFormats := by rwa [format]
  obtain ⟨gn, selected', -⟩ := selectInterleave_some pcm'
  refine ⟨fn, gn, ?_, ?_, ?_⟩
  · exact (preparePlayback_playing prepared).1.deinterleave.trans selected
  · exact (prepareCapture_interleave prepared').trans selected'
  · obtain ⟨copy, done⟩ := deinterleave_succeeds selected dma region.inArea start
    have bytes := collected_bytes pcm format selected selected' region.inRing done
    refine ⟨copy, done, ?_, ?_⟩
    · rw [gn.call_eq, MappedToInterleave.interleave_eq_emit _ _ _ _ _ _ region.mapped]
      change emit _ (capturedBytes gn copy.ring play.channels.toNat pos F) _ = _
      rw [bytes]
      have length : ((List.range (F.toNat * play.frameBytes)).map
          (play.format.restored fun k => dma (src + k))).length = F.toNat * play.frameBytes := by
        rw [List.length_map, List.length_range]
      unfold emit
      rw [length, if_pos (.inr region.inOutput)]
    · intro cell outside
      rw [fn.call_eq] at done
      apply (deinterleave_ring region.inRing done).other
      rintro ⟨ch, f⟩ ⟨channel, inFrame⟩
      exact outside ch channel f inFrame

open PlaybackTIC (onAir)

theorem padded_fits : 64 * 3 ≤ bufferBytesMax := by decide

def padded : PCMSubstream :=
  { periodSize := 64, periods := 3, fits := padded_fits, format := .s24LE, rate := 48000, channels := 2,
    bufferSize := 192 }

def paddedChip : AudioChip := { capture := { substream := some padded } }

theorem format_round_trip_padded : ∃ player recorder,
    paddedChip.preparePlayback padded onAir 0 = some player ∧
    paddedChip.prepareCapture padded onAir onAir 0 = .ok (some recorder) ∧
    ∃ fn gn, player.playbackDeinterleaveFn = some fn ∧ recorder.captureInterleaveFn = some gn ∧
      ∃ copy, ComesBack fn gn padded 1536 (fun a => UInt8.ofNat (a + 1)) 8 24573 3 captureBufferChannelsMap 24
        ⟨fun _ => {}, []⟩ ⟨0, fun _ => none⟩ copy := by
  have sized : padded.Sized := by
    constructor
    all_goals decide
  obtain ⟨player, prepared⟩ : ∃ player, paddedChip.preparePlayback padded onAir 0 = some player := ⟨_, rfl⟩
  obtain ⟨recorder, prepared'⟩ : ∃ recorder,
      paddedChip.prepareCapture padded onAir onAir 0 = .ok (some recorder) :=
    prepareCapture_succeeds onAir onAir sized rfl
  refine ⟨player, recorder, prepared, prepared', ?_⟩
  exact format_round_trip prepared prepared' (by decide) rfl
    ⟨by decide, by decide, by decide, by decide, by decide⟩ _ _

end AudioChip

end RavennaLkm
