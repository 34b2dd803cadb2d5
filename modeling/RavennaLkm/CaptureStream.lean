import RavennaLkm.CaptureAlignment
import RavennaLkm.Lib.DelayRing

/-!
A capture as a stream. Each interrupt hands over one frame of the rings as they are
then, and the area of ALSA keeps the frames of its last turn, whatever else the
driver does in between.
-/
namespace RavennaLkm
open CheckedLoop DelayRing Gather GuardedRun

namespace AudioChip

def areaTurn (sub : PCMSubstream) (F : UInt32) : Nat := sub.bufferSize / F.toNat

def areaByte (sub : PCMSubstream) (frame ch i : Nat) : Nat :=
  (frame * sub.channels.toNat + ch) * sub.format.stride + i

def areaAddress (sub : PCMSubstream) (F : UInt32) (slot j ch i : Nat) : Nat := areaByte sub (slot * F.toNat + j) ch i

def heardByte (sub : PCMSubstream) (s : Sample) (i : Nat) : Option UInt8 :=
  (selectInterleave sub).bind fun fn => (fn.store s)[i]?

variable {sub : PCMSubstream} {F : UInt32} {chip next : AudioChip} {dsd : UInt32} {first n : Nat}

theorem areaAddress_eq (sub : PCMSubstream) (F : UInt32) (slot j ch i : Nat) :
    areaAddress sub F slot j ch i = slot * F.toNat * sub.frameBytes +
      (j * sub.channels.toNat + ch) * sub.format.stride + i := by
  unfold areaAddress areaByte PCMSubstream.frameBytes
  simp only [Nat.add_mul, Nat.mul_assoc, Nat.add_assoc]

theorem areaAddress_inside {slot j ch i : Nat} (inFrame : j < F.toNat) (channel : ch < sub.channels.toNat)
    (byte : i < sub.format.stride) :
    slot * (F.toNat * sub.frameBytes) ≤ areaAddress sub F slot j ch i ∧
      areaAddress sub F slot j ch i < (slot + 1) * (F.toNat * sub.frameBytes) := by
  have inside := block_lt inFrame channel byte
  rw [areaAddress_eq, Nat.mul_assoc, Nat.succ_mul, PCMSubstream.frameBytes]
  constructor
  · omega
  · omega

theorem areaTurn_mul (whole : F.toNat ∣ sub.bufferSize) : areaTurn sub F * F.toNat = sub.bufferSize :=
  Nat.div_mul_cancel whole

theorem area_position (whole : F.toNat ∣ sub.bufferSize) (n : Nat) :
    RingCursor.after sub.bufferSize F.toNat 0 n = n % areaTurn sub F * F.toNat := by
  rw [RingCursor.after, Nat.zero_add, ← areaTurn_mul whole, Nat.mul_mod_mul_right]

structure Recording (sub : PCMSubstream) (dsd F : UInt32) (first : Nat) (rings : Nat → RingMemory)
    (initial : PacketBuffer) (n : Nat) (chip : AudioChip) : Prop extends CapturedFor sub dsd F first n chip where
  once : chip.capture.nbInterruptsPerPeriod = 1
  area : ∀ j < F.toNat, ∀ ch < sub.channels.toNat, ∀ i < sub.format.stride, Holds (areaTurn sub F)
    (fun slot => initial (areaAddress sub F slot j ch i))
    (fun k => heardByte sub (rings k (ch * ringBufferSize.toNat +
      (RingCursor.after (ringBufferFrames dsd sub).toNat F.toNat first k + j))) i) n
    (fun slot => chip.dmaCaptured (areaAddress sub F slot j ch i))

/-- The bytes outside of its frame are none of the interrupt's business. -/
theorem area_after_interrupt (captured : CapturedFor sub dsd F first n chip) (g : CaptureGeometry sub dsd F)
    {livesIn : RingMemory} (done : chip.pcmInterruptCapture F livesIn = .ok next) {a : Nat}
    (outside : a < chip.capture.dmaOffset.toNat ∨ chip.capture.dmaOffset.toNat + F.toNat * sub.frameBytes ≤ a) :
    next.dmaCaptured a = chip.dmaCaptured a := by
  obtain ⟨fn, selected, width⟩ := selectInterleave_some g.format
  obtain ⟨positive, small⟩ := ringBufferFrames_bounds g.sized dsd
  have short := g.short
  have inside : chip.capture.bufferPos.toNat < (ringBufferFrames dsd sub).toNat := by
    rw [captured.positions.bufferPos]
    exact RingCursor.after_lt positive n
  obtain ⟨-, after⟩ := captured.interrupt g.sized g.inBuffer g.short g.moves selected width livesIn
  have length := length_capturedBytes width livesIn (show chip.capture.bufferPos.toNat + F.toNat < 2 ^ 32 by omega)
  rw [(after next done).2.2, writeBytes, length]
  exact if_neg (by omega)

theorem pcmInterruptCapture_nbInterrupts (captured : CapturedFor sub dsd F first n chip) {livesIn : RingMemory}
    (done : chip.pcmInterruptCapture F livesIn = .ok next) :
    next.capture.nbInterruptsPerPeriod = chip.capture.nbInterruptsPerPeriod := by
  unfold pcmInterruptCapture at done
  rw [captured.capturing.substream] at done
  obtain ⟨_, -, same⟩ := bind_eq_ok.mp done
  cases same
  rfl

theorem Recording.interrupt {rings : Nat → RingMemory} {initial : PacketBuffer}
    (recording : Recording sub dsd F first rings initial n chip) (g : CaptureGeometry sub dsd F)
    (whole : F.toNat ∣ sub.bufferSize) (done : chip.pcmInterruptCapture F (rings n) = .ok next) :
    Recording sub dsd F first rings initial (n + 1) next := by
  obtain ⟨fn, selected, width⟩ := selectInterleave_some g.format
  have captured := recording.toCapturedFor
  obtain ⟨-, after⟩ := captured.interrupt g.sized g.inBuffer g.short g.moves selected width (rings n)
  have position := captured.positions.dmaOffset
  rw [area_position whole] at position
  refine ⟨(after next done).2.1, (pcmInterruptCapture_nbInterrupts captured done).trans recording.once, ?_⟩
  intro j inFrame ch channel i byte
  apply (recording.area j inFrame ch channel i byte).write
  · have written := CaptureRun.sample_after_interrupt captured g selected width done inFrame channel byte
    rw [position, ← areaAddress_eq, captured.positions.bufferPos] at written
    rw [written, heardByte, selected, Option.bind_some]
  · intro slot _ other
    apply area_after_interrupt captured g done
    obtain ⟨lower, upper⟩ := @areaAddress_inside sub F slot j ch i inFrame channel byte
    rw [position, Nat.mul_assoc (n % areaTurn sub F)]
    rcases Nat.lt_or_gt_of_ne other with before | behind
    · left
      exact Nat.lt_of_lt_of_le upper (Nat.mul_le_mul_right _ (Nat.succ_le_of_lt before))
    · right
      rw [← Nat.succ_mul]
      exact Nat.le_trans (Nat.mul_le_mul_right _ (Nat.succ_le_of_lt behind)) lower

theorem CapturedFor.next_succeeds (captured : CapturedFor sub dsd F first n chip) (g : CaptureGeometry sub dsd F)
    (whole : F.toNat ∣ sub.bufferSize) (livesIn : RingMemory) : Succeeds (chip.pcmInterruptCapture F livesIn) := by
  obtain ⟨fn, selected, width⟩ := selectInterleave_some g.format
  apply (captured.interrupt g.sized g.inBuffer g.short g.moves selected width livesIn).1
  exact RingCursor.fits_of_dvd g.sized.bufferSize.1 whole (Nat.dvd_zero _) n

theorem prepareCapture_nbInterrupts {start : AudioChip} {before after : Manager} {err : Int32}
    (pcm : sub.format ∈ captureFormats) (prepared : chip.prepareCapture sub before after err = .ok (some start)) :
    start.capture.nbInterruptsPerPeriod = 1 := by
  have once : sub.nbInterrupts = 1 := by
    unfold PCMSubstream.nbInterrupts PCMSubstream.dsdMode
    generalize sub.format = format at pcm
    simp only [captureFormats, List.mem_cons, List.not_mem_nil, or_false] at pcm
    rcases pcm with rfl | rfl | rfl | rfl <;> rfl
  unfold prepareCapture at prepared
  obtain ⟨offset, -, rest⟩ := bind_eq_ok.mp prepared
  split at rest
  · cases rest
  · cases rest
    exact once

structure SameRecording (chip chip' : AudioChip) : Prop extends SameCapture chip chip' where
  area : chip'.dmaCaptured = chip.dmaCaptured

theorem SameRecording.recording {rings : Nat → RingMemory} {initial : PacketBuffer} {chip chip' : AudioChip}
    (same : SameRecording chip chip') (recording : Recording sub dsd F first rings initial n chip) :
    Recording sub dsd F first rings initial n chip' := by
  refine ⟨same.toSameCapture.captured recording.toCapturedFor, ?_, ?_⟩
  · rw [same.capture]
    exact recording.once
  rw [same.area]
  exact recording.area

theorem pcmInterruptPlayback_sameRecording {dma : Nat → UInt8} (done : chip.pcmInterruptPlayback F dma = .ok next) :
    SameRecording chip next := by
  refine ⟨pcmInterruptPlayback_sameCapture done, ?_⟩
  unfold pcmInterruptPlayback at done
  split at done
  · cases done
    rfl
  · obtain ⟨copied, copies, same⟩ := bind_eq_ok.mp done
    cases same
    unfold playbackCopy at copies
    split at copies
    · obtain ⟨_, -, same⟩ := bind_eq_ok.mp copies
      cases same
      rfl
    · unfold playbackCopyInternal at copies
      split at copies
      · obtain ⟨_, -, same⟩ := bind_eq_ok.mp copies
        cases same
        rfl
      · cases copies
        rfl

end AudioChip

namespace Manager
open AudioChip

variable {m m' : Manager} {chip chip' : AudioChip}

theorem startInterrupts_sameRecording (m : Manager) (chip : AudioChip) (isPlayback : Bool) :
    SameRecording chip (m.startInterrupts chip isPlayback).2 := by
  refine ⟨(startInterrupts_frame m chip isPlayback).1, ?_⟩
  unfold startInterrupts
  dsimp only
  split <;> rfl

theorem stopInterrupts_sameRecording (m : Manager) (chip : AudioChip) (isPlayback : Bool) :
    SameRecording chip (m.stopInterrupts chip isPlayback).2 := by
  refine ⟨(stopInterrupts_frame m chip isPlayback).1, ?_⟩
  unfold stopInterrupts
  dsimp only
  split <;> rfl

/-- The interrupt of a TIC finds the rings as the preparation of the sinks has left them. -/
theorem audioFrameTICWithChip_heard {tick : Tick} {dma : Nat → UInt8} {log : RTPStreamsManager.SendLog}
    (done : m.audioFrameTICWithChip chip tick dma = .ok (m', chip', log)) :
    ∃ prepared, m.streams.prepareBufferLivesAll (m.callbacks chip.alsaBuffers) = .ok prepared ∧
      (m.runsCapture = false → SameRecording chip chip') ∧
      (m.runsCapture = true → ∃ next,
        chip.pcmInterruptCapture m.frameSize prepared.livesIn = .ok next ∧ SameRecording next chip') := by
  unfold audioFrameTICWithChip at done
  obtain ⟨prepared, prepares, rest⟩ := bind_eq_ok.mp done
  refine ⟨prepared, prepares, ?_⟩
  unfold runsCapture
  split at rest
  · rename_i sends
    obtain ⟨⟨streams, sent⟩, sending, rest⟩ := bind_eq_ok.mp rest
    obtain ⟨captured, captures, rest⟩ := bind_eq_ok.mp rest
    obtain ⟨played, plays, same⟩ := bind_eq_ok.mp rest
    cases same
    have afterwards : SameRecording captured chip' := by
      unfold interruptPlayback at plays
      split at plays
      · exact pcmInterruptPlayback_sameRecording plays
      · cases plays
        exact ⟨⟨rfl, rfl, rfl⟩, rfl⟩
    unfold interruptCapture at captures
    rw [sends, Bool.true_and]
    split at captures
    · rename_i records
      refine ⟨fun idle => ?_, fun _ => ⟨captured, captures, afterwards⟩⟩
      rw [records] at idle
      cases idle
    · rename_i idle
      refine ⟨fun _ => ?_, fun records => absurd records idle⟩
      cases captures
      exact afterwards
  · rename_i silent
    cases rest
    refine ⟨fun _ => ⟨⟨rfl, rfl, rfl⟩, rfl⟩, fun runs => ?_⟩
    rw [Bool.and_eq_true] at runs
    exact absurd runs.1 silent

end Manager

def CaptureOp.heard (r : CaptureRun) : CaptureOp → List RingMemory
  | .tic streams _ _ =>
    if r.manager.runsCapture then
      match streams.prepareBufferLivesAll ((r.manager.advanceSAC.setStreams streams).callbacks r.chip.alsaBuffers) with
      | .ok prepared => [prepared.livesIn]
      | .error _ => []
    else []
  | _ => []

structure HeardRun where
  run : CaptureRun
  heard : List RingMemory := []

namespace HeardRun
open AudioChip

def step (r : HeardRun) (op : CaptureOp) : Except Fault HeardRun :=
  (fun next => ⟨next, r.heard ++ op.heard r.run⟩) <$> op.step r.run

structure Kept (sub : PCMSubstream) (dsd F : UInt32) (sac : UInt64) (initial : PacketBuffer) (r : HeardRun) : Prop
    where
  run : r.run.Kept sub dsd F sac
  counted : r.run.tics = r.run.missed + r.heard.length
  recording : ∀ rings, (∀ k < r.heard.length, r.heard[k]? = some (rings k)) →
    Recording sub dsd F (sac.toNat % (ringBufferFrames dsd sub).toNat) rings initial r.heard.length r.run.chip

variable {sub : PCMSubstream} {dsd F : UInt32} {sac : UInt64} {initial : PacketBuffer} {r r' : HeardRun}

theorem Kept.quiet (kept : r.Kept sub dsd F sac initial) {next : CaptureRun}
    (run : next.Kept sub dsd F sac) (same : SameRecording r.run.chip next.chip)
    (counted : next.tics = next.missed + r.heard.length) : Kept sub dsd F sac initial ⟨next, r.heard ++ []⟩ := by
  rw [List.append_nil]
  exact ⟨run, counted, fun rings are => same.recording (kept.recording rings are)⟩

theorem Kept.tic (kept : r.Kept sub dsd F sac initial) (g : CaptureGeometry sub dsd F)
    (whole : F.toNat ∣ sub.bufferSize) {streams : RTPStreamsManager} {tick : Manager.Tick} {dma : Nat → UInt8}
    (done : r.step (.tic streams tick dma) = .ok r') : r'.Kept sub dsd F sac initial := by
  obtain ⟨next, ran, same⟩ := map_eq_ok.mp done
  have run := kept.run.step g _ ran
  have counted := kept.counted
  obtain ⟨⟨manager, chip, log⟩, frames, isNext⟩ := bind_eq_ok.mp ran
  obtain ⟨prepared, prepares, idle, runs⟩ := Manager.audioFrameTICWithChip_heard frames
  change streams.prepareBufferLivesAll _ = _ at prepares
  cases same
  cases isNext
  cases captures : r.run.manager.runsCapture with
  | false =>
    simp only [CaptureOp.heard, captures, Bool.false_eq_true, if_false] at run ⊢
    apply kept.quiet run (idle captures)
    dsimp only
    omega
  | true =>
    obtain ⟨interrupted, interrupts, afterwards⟩ := runs captures
    change r.run.chip.pcmInterruptCapture r.run.manager.frameSize _ = _ at interrupts
    rw [kept.run.frame] at interrupts
    simp only [CaptureOp.heard, captures, if_true, prepares] at run ⊢
    refine ⟨run, ?_, ?_⟩
    · simp only [List.length_append, List.length_singleton]
      omega
    · intro rings are
      simp only [List.length_append, List.length_singleton] at are ⊢
      have last := are r.heard.length (by omega)
      rw [List.getElem?_concat_length, Option.some.injEq] at last
      rw [last] at interrupts
      have before := kept.recording rings fun k below => by
        rw [← are k (by omega), List.getElem?_append_left below]
      exact afterwards.recording (before.interrupt g whole interrupts)

theorem Kept.step (kept : r.Kept sub dsd F sac initial) (g : CaptureGeometry sub dsd F)
    (whole : F.toNat ∣ sub.bufferSize) (op : CaptureOp) (done : r.step op = .ok r') :
    r'.Kept sub dsd F sac initial := by
  cases op with
  | tic streams tick dma => exact kept.tic g whole done
  | startInterrupts isPlayback =>
    obtain ⟨next, ran, same⟩ := map_eq_ok.mp done
    have run := kept.run.step g _ ran
    cases same
    cases ran
    exact kept.quiet run (Manager.startInterrupts_sameRecording ..) kept.counted
  | stopInterrupts isPlayback =>
    obtain ⟨next, ran, same⟩ := map_eq_ok.mp done
    have run := kept.run.step g _ ran
    cases same
    cases ran
    exact kept.quiet run (Manager.stopInterrupts_sameRecording ..) kept.counted
  | lockStatus status =>
    obtain ⟨next, ran, same⟩ := map_eq_ok.mp done
    have run := kept.run.step g _ ran
    cases same
    cases ran
    exact kept.quiet run ⟨⟨rfl, rfl, rfl⟩, rfl⟩ kept.counted

/-- What a capture of frames of `F` from the position `sac` on has given to ALSA. Interrupt `k` reads the rings at
`sac + k * F`, and its frame is frame `k` of the stream; of the stream the area has the last turn. -/
structure Streams (sub : PCMSubstream) (dsd F : UInt32) (sac : UInt64) (initial : PacketBuffer) (r : HeardRun) :
    Prop where
  counted : r.run.tics = r.run.missed + r.heard.length
  goesOn : ∀ livesIn, Succeeds (r.run.chip.pcmInterruptCapture F livesIn)
  pointer : (pcmPointer r.run.chip.capture).toNat = r.heard.length * F.toNat % sub.bufferSize
  frames : ∀ k rings, r.heard[k]? = some rings → r.heard.length ≤ k + areaTurn sub F →
    ∀ j < F.toNat, ∀ ch < sub.channels.toNat, ∀ i < sub.format.stride,
      r.run.chip.dmaCaptured (areaByte sub ((k * F.toNat + j) % sub.bufferSize) ch i) =
        heardByte sub (rings (ch * ringBufferSize.toNat +
          ((sac.toNat + k * F.toNat) % (ringBufferFrames dsd sub).toNat + j))) i
  unreached : ∀ o < sub.bufferSize, r.heard.length * F.toNat ≤ o → ∀ ch < sub.channels.toNat,
    ∀ i < sub.format.stride, r.run.chip.dmaCaptured (areaByte sub o ch i) = initial (areaByte sub o ch i)

theorem area_frame (whole : F.toNat ∣ sub.bufferSize) {j : Nat} (inFrame : j < F.toNat) (k : Nat) :
    (k * F.toNat + j) % sub.bufferSize = k % areaTurn sub F * F.toNat + j := by
  have turn := areaTurn_mul whole
  by_cases empty : sub.bufferSize = 0
  · have none : areaTurn sub F = 0 := by rw [areaTurn, empty, Nat.zero_div]
    rw [empty, none, Nat.mod_zero, Nat.mod_zero]
  · have positive : 0 < areaTurn sub F := by
      apply Nat.pos_of_ne_zero
      intro none
      rw [none, Nat.zero_mul] at turn
      exact empty turn.symm
    have slot := Nat.mod_lt k positive
    have inside : k % areaTurn sub F * F.toNat + j < sub.bufferSize := by
      calc k % areaTurn sub F * F.toNat + j < (k % areaTurn sub F + 1) * F.toNat := by
            rw [Nat.succ_mul]
            omega
        _ ≤ areaTurn sub F * F.toNat := Nat.mul_le_mul_right _ slot
        _ = sub.bufferSize := turn
    calc (k * F.toNat + j) % sub.bufferSize
        = (k * F.toNat % (areaTurn sub F * F.toNat) + j) % sub.bufferSize := by rw [turn, Nat.mod_add_mod]
      _ = (k % areaTurn sub F * F.toNat + j) % sub.bufferSize := by rw [Nat.mul_mod_mul_right]
      _ = k % areaTurn sub F * F.toNat + j := Nat.mod_eq_of_lt inside

theorem Kept.streams (kept : r.Kept sub dsd F sac initial) (g : CaptureGeometry sub dsd F)
    (whole : F.toNat ∣ sub.bufferSize) : r.Streams sub dsd F sac initial := by
  have recording := kept.recording (fun k => r.heard[k]?.getD fun _ => {}) fun k below => by
    rw [List.getElem?_eq_getElem below, Option.getD_some]
  have captured := recording.toCapturedFor
  constructor
  case counted => exact kept.counted
  case goesOn => exact fun livesIn => captured.next_succeeds g whole livesIn
  case pointer =>
    rw [pcmPointer_eq g.sized captured.capturing.substream captured.capturing.stride recording.once
      captured.positions.dmaOffset, RingCursor.after, Nat.zero_add]
  case frames =>
    intro k rings at_ recent j inFrame ch channel i byte
    obtain ⟨below, -⟩ := List.getElem?_eq_some_iff.mp at_
    have holds := recording.area j inFrame ch channel i byte (k + areaTurn sub F) recent (by omega)
    rw [Nat.add_mod_right, delayed, if_neg (by omega), Nat.add_sub_cancel, at_, Option.getD_some,
      RingCursor.after_mod_start] at holds
    rw [area_frame whole inFrame]
    exact holds
  case unreached =>
    intro o inArea notYet ch channel i byte
    have inFrame := Nat.mod_lt o g.moves
    have parts : o / F.toNat * F.toNat + o % F.toNat = o := Nat.div_add_mod' o F.toNat
    have slot : o / F.toNat < areaTurn sub F := by
      rw [Nat.div_lt_iff_lt_mul g.moves, areaTurn_mul whole]
      exact inArea
    have later : r.heard.length ≤ o / F.toNat := (Nat.le_div_iff_mul_le g.moves).mpr notYet
    have holds := recording.area (o % F.toNat) inFrame ch channel i byte (o / F.toNat) later (by omega)
    simp only [Nat.mod_eq_of_lt slot, delayed, if_pos slot, areaAddress, parts] at holds
    exact holds

/-- From the preparation on, in every run of TICs, triggers and losses of the lock, with anything in the rings. -/
theorem capture_streams {m before after : Manager} {c : HwConstraints} {chip start : AudioChip} {err : Int32}
    {ops : List CaptureOp} (opened : pcmOpen captureFormats m = .ok c) (allows : c.Allows sub)
    (substream : chip.capture.substream = some sub)
    (prepared : chip.prepareCapture sub before after err = .ok (some start))
    (whole : after.frameSize.toNat ∣ sub.bufferSize)
    (inRing : after.frameSize.toNat ≤ (ringBufferFrames (getDSDMode before.sampleRate) sub).toNat)
    (run : Run step (fun _ _ => True) { run := { manager := after, chip := start } } ops r) :
    r.Streams sub (getDSDMode before.sampleRate) after.frameSize after.ptpSelected.globalSAC start.dmaCaptured := by
  have g := captureGeometry_of_whole opened allows whole inRing
  have atStart := CaptureRun.kept_of_geometry g substream prepared ⟨[], .nil _⟩
  apply Kept.streams ?_ g whole
  apply run.invariant (Kept sub _ _ _ _ ·)
  case start =>
    refine ⟨atStart, rfl, ?_⟩
    intro rings _
    refine ⟨atStart.captured, ?_, ?_⟩
    · exact prepareCapture_nbInterrupts g.format prepared
    · intro j _ ch _ i _
      exact holds_start _
  case preserves =>
    intro r op r' kept _ done
    exact kept.step g whole op done

/-- Two interrupts, with a TIC without one before them. -/
theorem capture_streams_stereo : ∃ r : HeardRun, r.heard.length = 2 ∧ r.run.missed = 1 ∧
    r.Streams AudioChip.stereo 0 512 0 CaptureRun.stereoStart.dmaCaptured := by
  obtain ⟨c, opened, allows⟩ := CaptureRun.stereo_capture_allowed
  obtain ⟨r, run, sees⟩ := exists_run .divideByZero step (fun _ _ => True)
    { run := { manager := CaptureRun.recordingManager, chip := CaptureRun.stereoStart } }
    [CaptureRun.quietTIC, .startInterrupts false, CaptureRun.quietTIC, CaptureRun.quietTIC]
    (fun r => (r.heard.length, r.run.missed)) (2, 1) (by decide +kernel)
  obtain ⟨heard, missed⟩ := Prod.mk.inj sees
  exact ⟨r, heard, missed, capture_streams opened allows rfl CaptureRun.stereo_prepared (by decide +kernel)
    (by decide +kernel) run⟩

end HeardRun

end RavennaLkm
