import RavennaLkm.Receive

/-!
Whether a sink is muted: both counters have 64 bits, and their difference and the
frame size are compared as they are left in 32 bits. Each cast to `int` takes
whole turns of 2^32 away.
-/
namespace RavennaLkm

def intTurns (x : Int) : Int := (x + 2 ^ 31) / 2 ^ 32

theorem bmod_eq_sub_turns (x : Int) : x.bmod (2 ^ 32) = x - intTurns x * 2 ^ 32 := by
  unfold intTurns
  rw [Int.bmod_def]
  omega

/-- How far ahead of the global SAC a stream has received. -/
def audioAhead (s : RTPStream) (ops : RTPAudioStreamOps) : Int :=
  s.lastAudioSampleReceivedSAC.toNat - ops.globalSAC.toNat

/-- The audio of the current frame is not there. -/
def LacksAudio (s : RTPStream) (ops : RTPAudioStreamOps) : Prop :=
  audioAhead s ops < ops.frameSize.toNat

instance (s : RTPStream) (ops : RTPAudioStreamOps) : Decidable (LacksAudio s ops) :=
  inferInstanceAs (Decidable (_ < _))

/-- The two sides of a comparison keep their order: the casts move them alike, or the side that is
moved further is still the same one. -/
def OrderKept (ahead frameSize : Int) : Prop :=
  let turns := intTurns ahead - intTurns frameSize
  turns = 0 ∨ (0 < turns ∧ turns * 2 ^ 32 ≤ ahead - frameSize) ∨
    (turns < 0 ∧ ahead - frameSize < turns * 2 ^ 32)

instance (ahead frameSize : Int) : Decidable (OrderKept ahead frameSize) :=
  inferInstanceAs (Decidable (_ ∨ _))

theorem toInt_ahead (s : RTPStream) (ops : RTPAudioStreamOps) :
    (s.lastAudioSampleReceivedSAC - ops.globalSAC).toUInt32.toInt32.toInt = (audioAhead s ops).bmod (2 ^ 32) := by
  have word (x : UInt32) : x.toInt32.toInt = (x.toNat : Int).bmod (2 ^ 32) :=
    BitVec.toInt_eq_toNat_bmod x.toInt32.toBitVec
  have last := s.lastAudioSampleReceivedSAC.toNat_lt
  have now := ops.globalSAC.toNat_lt
  rw [word, UInt64.toNat_toUInt32, UInt64.toNat_sub]
  unfold audioAhead
  rw [Int.bmod_def, Int.bmod_def]
  omega

theorem isLivesInMustBeMuted_iff (s : RTPStream) (ops : RTPAudioStreamOps) :
    isLivesInMustBeMuted s ops = true ↔
      (audioAhead s ops).bmod (2 ^ 32) < (ops.frameSize.toNat : Int).bmod (2 ^ 32) := by
  have size : ops.frameSize.toInt32.toInt = (ops.frameSize.toNat : Int).bmod (2 ^ 32) :=
    BitVec.toInt_eq_toNat_bmod ops.frameSize.toInt32.toBitVec
  unfold isLivesInMustBeMuted
  rw [decide_eq_true_eq, Int32.lt_iff_toInt_lt, toInt_ahead, size]

theorem mute_decision_iff (s : RTPStream) (ops : RTPAudioStreamOps) :
    (isLivesInMustBeMuted s ops = true ↔ LacksAudio s ops) ↔
      OrderKept (audioAhead s ops) ops.frameSize.toNat := by
  rw [isLivesInMustBeMuted_iff, bmod_eq_sub_turns, bmod_eq_sub_turns]
  unfold LacksAudio OrderKept intTurns
  dsimp only
  omega

theorem orderKept_of_near {ahead frameSize : Int} (low : -2 ^ 31 ≤ ahead) (high : ahead < 2 ^ 31)
    (pos : 0 ≤ frameSize) (small : frameSize < 2 ^ 31) : OrderKept ahead frameSize := by
  unfold OrderKept intTurns
  dsimp only
  omega

theorem silent_sink_not_muted {s : RTPStream} {ops : RTPAudioStreamOps} (small : ops.frameSize.toNat < 2 ^ 31)
    (silent : ops.globalSAC.toNat = s.lastAudioSampleReceivedSAC.toNat + (2 ^ 31 + 1)) :
    LacksAudio s ops ∧ isLivesInMustBeMuted s ops = false := by
  have ahead : audioAhead s ops = -(2 ^ 31 + 1) := by
    unfold audioAhead
    omega
  constructor
  · unfold LacksAudio
    omega
  · rw [← Bool.not_eq_true, isLivesInMustBeMuted_iff, ahead, bmod_eq_sub_turns, bmod_eq_sub_turns]
    unfold intTurns
    omega

/-- A sink that has never received, after half a day at 48 kHz. -/
theorem never_fed_sink_not_muted :
    ¬ ∀ (s : RTPStream) (ops : RTPAudioStreamOps), isLivesInMustBeMuted s ops = true ↔ LacksAudio s ops := by
  intro all
  let ops : RTPAudioStreamOps := { globalSAC := 0x80000001, frameSize := 48 }
  have lacks : LacksAudio {} ops := by decide
  exact absurd ((all {} ops).mpr lacks) (by decide)

end RavennaLkm
