import RavennaLkm.LockSoundness
import RavennaLkm.Lib.SignedWords

/-!
The period of the TIC. It is the base period, or the base period adjusted by the
integrator, which stays near it; but when PTP is about to lock it is the base
period times a ratio of two measured intervals, and nothing checks that ratio.
-/
namespace RavennaLkm
open CheckedLoop GuardedRun SignedWords

namespace ClockPTP

variable {c c' : ClockPTP} {h : V2MsgHeader} {body : V2MsgAnnounce} {origin : V2TimeRepresentation}
  {message : PTPMessage} {clockTime : UInt64}

/-- The bound of the integrator. -/
def IGRBounded (c : ClockPTP) : Prop := -4000000 ≤ c.ticIGR.toInt ∧ c.ticIGR.toInt ≤ 4000000

/-- The period is positive and within 50 percent of the base period. -/
def PeriodNear (c : ClockPTP) : Prop :=
  0 < c.ticCurrentPeriod.toNat ∧ c.ticBasePeriod.toNat ≤ 2 * c.ticCurrentPeriod.toNat ∧
    2 * c.ticCurrentPeriod.toNat ≤ 3 * c.ticBasePeriod.toNat

/-- For a base period below 0.8 ms the nearest frame is at most 300 µs away. -/
theorem nearestTICFrame_within {delta : Int32} (small : c.ticBasePeriod.toNat < 800000000)
    (near : ¬ (delta > 3 * c.midPeriod ∨ delta < -3 * c.midPeriod)) :
    -3 ≤ (c.nearestTICFrame delta).toInt ∧ (c.nearestTICFrame delta).toInt ≤ 3 := by
  have twice : (psToRefUnit * 2).toNat = 200000000 := rfl
  have once : psToRefUnit.toNat = 100000000 := rfl
  obtain ⟨m, mid, m_le⟩ : ∃ m : Int, c.midPeriod.toInt = m ∧
      (m = c.ticBasePeriod.toNat / 200000000 ∧ 0 ≤ m ∧ m ≤ 3) := by
    refine ⟨_, rfl, ?_⟩
    rw [midPeriod, toInt_toInt32, UInt64.toNat_div, twice]
    · omega
    · rw [UInt64.toNat_div, twice]
      omega
  obtain ⟨p, period, p_le⟩ : ∃ p : Int, (c.ticBasePeriod / psToRefUnit).toUInt32.toInt32.toInt = p ∧
      2 * m ≤ p ∧ p ≤ 2 * m + 1 := by
    refine ⟨_, rfl, ?_⟩
    rw [toInt_toInt32, UInt64.toNat_div, once]
    · omega
    · rw [UInt64.toNat_div, once]
      omega
  have three : (3 * c.midPeriod).toInt = 3 * m := by
    rw [Int32.toInt_mul, mid]
    exact Int.bmod_eq_of_le_mul_two (by simp; omega) (by simp; omega)
  have negThree : (-3 * c.midPeriod).toInt = -3 * m := by
    rw [Int32.toInt_mul, mid]
    exact Int.bmod_eq_of_le_mul_two (by simp; omega) (by simp; omega)
  have negative : (-c.midPeriod).toInt = -m := by
    rw [Int32.toInt_neg, mid]
    exact Int.bmod_eq_of_le_mul_two (by omega) (by omega)
  simp only [gt_iff_lt, Int32.lt_iff_toInt_lt, three, negThree, not_or, not_lt] at near
  rw [nearestTICFrame]
  split
  · rename_i late
    rw [gt_iff_lt, Int32.lt_iff_toInt_lt, mid] at late
    have moved : (delta - (c.ticBasePeriod / psToRefUnit).toUInt32.toInt32).toInt = delta.toInt - p := by
      rw [Int32.toInt_sub, period]
      exact Int.bmod_eq_of_le_mul_two (by omega) (by omega)
    omega
  · rename_i notLate
    rw [gt_iff_lt, Int32.lt_iff_toInt_lt, mid] at notLate
    split
    · rename_i early
      rw [Int32.lt_iff_toInt_lt, negative] at early
      have moved : (delta + (c.ticBasePeriod / psToRefUnit).toUInt32.toInt32).toInt = delta.toInt + p := by
        rw [Int32.toInt_add, period]
        exact Int.bmod_eq_of_le_mul_two (by omega) (by omega)
      omega
    · rename_i notEarly
      rw [Int32.lt_iff_toInt_lt, negative] at notEarly
      omega

theorem toInt_clamp_four {x : Int64} : (clamp x 4000000).toInt = max (min x.toInt 4000000) (-4000000) := by
  have bound : (4000000 : Int64).toInt = 4000000 := rfl
  rw [clamp, toInt_max, toInt_min, toInt_neg (by decide), bound]

theorem adjustPhase_igr (c : ClockPTP) (delta : Int32) : (c.adjustPhase delta).IGRBounded := by
  rw [IGRBounded, adjustPhase, toInt_clamp_four]
  omega

def IGRSmall (c : ClockPTP) : Prop := c.ticBasePeriod.toNat < 800000000 →
  -(57 * c.ticBasePeriod.toNat) ≤ c.ticIGR.toInt * 5000000 ∧
    c.ticIGR.toInt * 5000000 ≤ 57 * c.ticBasePeriod.toNat

theorem proportional_within {delta : Int32} {base : UInt64} (small : base.toNat < 800000000)
    (near : -3 ≤ delta.toInt ∧ delta.toInt ≤ 3) :
    let proportional := (delta.toInt64.toUInt64 * base).toInt64 / 5000000
    proportional.toInt * 5000000 ≤ 3 * base.toNat ∧
      -(3 * base.toNat : Int) ≤ proportional.toInt * 5000000 := by
  intro proportional
  have low : -3 * (base.toNat : Int) ≤ delta.toInt * base.toNat :=
    Int.mul_le_mul_of_nonneg_right near.1 (by omega)
  have high : delta.toInt * base.toNat ≤ 3 * (base.toNat : Int) :=
    Int.mul_le_mul_of_nonneg_right near.2 (by omega)
  have product : (delta.toInt64.toUInt64 * base).toInt64.toInt = delta.toInt * base.toNat := by
    rw [← Int32.toInt_toInt64] at low high ⊢
    exact toInt_mul_toUInt64 (by omega) (by omega)
  have quotient : proportional.toInt = (delta.toInt * base.toNat).tdiv 5000000 := by
    rw [Int64.toInt_div_of_ne_right _ _ (by decide), product]
    rfl
  rw [quotient]
  exact (tdiv_within (by decide) (by omega) (by omega)).symm

theorem leaky_within {igr proportional : Int64} {n : Nat} (small : n < 800000000)
    (igr_low : -(57 * n : Int) ≤ igr.toInt * 5000000) (igr_high : igr.toInt * 5000000 ≤ 57 * n)
    (low : -(3 * n : Int) ≤ proportional.toInt * 5000000) (high : proportional.toInt * 5000000 ≤ 3 * n) :
    let leaky := (igr + proportional) * 95 / 100
    leaky.toInt * 5000000 ≤ 57 * n ∧ -(57 * n : Int) ≤ leaky.toInt * 5000000 := by
  intro leaky
  have factor : (95 : Int64).toInt = 95 := rfl
  have sum : (igr + proportional).toInt = igr.toInt + proportional.toInt :=
    toInt_add (by omega) (by omega)
  have scaled : ((igr + proportional) * 95).toInt = (igr.toInt + proportional.toInt) * 95 := by
    rw [← sum, toInt_mul (by rw [factor]; omega) (by rw [factor]; omega), factor]
  have quotient : leaky.toInt = ((igr.toInt + proportional.toInt) * 95).tdiv 100 := by
    rw [Int64.toInt_div_of_ne_right _ _ (by decide), scaled]
    rfl
  have within := tdiv_within (x := (igr.toInt + proportional.toInt) * 95) (d := 100)
    (b := (60 * 95 * n : Int) / 5000000) (by decide) (by omega) (by omega)
  rw [quotient]
  omega

theorem adjustPhase_igrSmall {delta : Int32} (igr : c.IGRSmall)
    (near : c.ticBasePeriod.toNat < 800000000 → -3 ≤ delta.toInt ∧ delta.toInt ≤ 3) :
    (c.adjustPhase delta).IGRSmall := by
  intro small
  have base : (c.adjustPhase delta).ticBasePeriod = c.ticBasePeriod := rfl
  rw [base] at small ⊢
  obtain ⟨high, low⟩ := proportional_within small (near small)
  obtain ⟨leaky_high, leaky_low⟩ := leaky_within small (igr small).1 (igr small).2 low high
  rw [adjustPhase, toInt_clamp_four]
  omega

theorem adjustPhase_near {delta : Int32} (base : 0 < c.ticBasePeriod.toNat)
    (fits : c.ticBasePeriod.toNat < 2 ^ 63) (isBase : c.ticCurrentPeriod = c.ticBasePeriod)
    (igr : (c.adjustPhase delta).IGRSmall) : (c.adjustPhase delta).PeriodNear := by
  have bounded := adjustPhase_igr c delta
  rw [IGRBounded] at bounded
  rw [IGRSmall] at igr
  generalize isIGR : (c.adjustPhase delta).ticIGR = x at bounded igr
  have same : (c.adjustPhase delta).ticBasePeriod = c.ticBasePeriod := rfl
  have current : (c.adjustPhase delta).ticCurrentPeriod =
      c.ticBasePeriod + (clamp (x / 10) 4000000 * 1000).toUInt64 := by
    rw [← isIGR, ← isBase]
    rfl
  have tenth : (x / 10).toInt = x.toInt.tdiv 10 := Int64.toInt_div_of_ne_right _ _ (by decide)
  have within := tdiv_within (x := x.toInt) (d := 10) (by decide) bounded.1 bounded.2
  have phase : (clamp (x / 10) 4000000).toInt = x.toInt.tdiv 10 := by
    rw [toInt_clamp_four, tenth]
    omega
  have picoseconds : (clamp (x / 10) 4000000 * 1000).toInt = x.toInt.tdiv 10 * 1000 := by
    have factor : (1000 : Int64).toInt = 1000 := rfl
    rw [← phase, toInt_mul (by rw [factor]; omega) (by rw [factor]; omega), factor]
  rw [same] at igr
  rw [PeriodNear, same, current]
  have half : -(c.ticBasePeriod.toNat : Int) ≤ 2 * (x.toInt.tdiv 10 * 1000) ∧
      2 * (x.toInt.tdiv 10 * 1000) ≤ c.ticBasePeriod.toNat := by
    by_cases small : c.ticBasePeriod.toNat < 800000000
    · obtain ⟨low, high⟩ := igr small
      have tight := tdiv_within (x := x.toInt) (d := 10) (b := (57 * c.ticBasePeriod.toNat : Int) / 5000000)
        (by decide) (by omega) (by omega)
      omega
    · omega
  have moved := toNat_add_toUInt64 (x := c.ticBasePeriod)
    (a := clamp (x / 10) 4000000 * 1000) (by omega) (by omega)
  omega

def measuredDeltaT2 (c : ClockPTP) (clockTime : UInt64) : PTPMessage → UInt64
  | .sync _ _ => clockTime / nsToRefUnit - c.t2
  | .announce _ _ | .followUp _ _ | .other _ => c.deltaT2

/-- The base period times `deltaT2` does not overflow into another range than half to one and a half
times the base period times `deltaT1`. -/
def IntervalsAgree (base deltaT1 deltaT2 : UInt64) : Prop :=
  (base.toNat + 1) / 2 * deltaT1.toNat ≤ (base * deltaT2).toNat ∧
    (base * deltaT2).toNat < (3 * base.toNat / 2 + 1) * deltaT1.toNat

instance (base deltaT1 deltaT2 : UInt64) : Decidable (IntervalsAgree base deltaT1 deltaT2) :=
  inferInstanceAs (Decidable (_ ∧ _))

/-- The intervals agree when PTP is about to lock, and a start does not overflow. -/
def Steady (c : ClockPTP) : ClockEvent → Prop
  | .packet bytes clockTime => c.listens = true → c.ptpLockCounter = 2 →
    ∀ message ∈ PTPMessage.ofPacket bytes, ∀ t1 ∈ c.newT1 message,
      IntervalsAgree c.ticBasePeriod (t1 - c.t1) (c.measuredDeltaT2 clockTime message)
  | .start frameSize samplingRate =>
    0 < frameSize ∧ 0 < samplingRate ∧ frameSize.toNat * 1000000000000 < 2 ^ 63
  | .tick _ _ _ | .setNextAbsoluteTime _ | .stop | .config _ => True

-- not by trying all the words
instance (t1 : Option UInt64) (P : UInt64 → Prop) [DecidablePred P] : Decidable (∀ t ∈ t1, P t) :=
  Option.decidableForallMem t1

instance (c : ClockPTP) : DecidablePred c.Steady := fun
  | .packet _ _ => inferInstanceAs (Decidable (_ → _ → ∀ message ∈ _, ∀ t1 ∈ _, _))
  | .start _ _ => inferInstanceAs (Decidable (_ ∧ _ ∧ _))
  | .tick _ _ _ | .setNextAbsoluteTime _ | .stop | .config _ => inferInstanceAs (Decidable True)

structure PeriodKept (c : ClockPTP) : Prop where
  base : 0 < c.ticBasePeriod.toNat
  fits : c.ticBasePeriod.toNat < 2 ^ 63
  near : c.PeriodNear
  igrBounded : c.IGRBounded
  igrSmall : c.IGRSmall

theorem PeriodKept.congr (kept : c.PeriodKept) (base : c'.ticBasePeriod = c.ticBasePeriod)
    (current : c'.ticCurrentPeriod = c.ticCurrentPeriod) (igr : c'.ticIGR = c.ticIGR ∨ c'.ticIGR = 0) :
    c'.PeriodKept := by
  have nothing : (0 : Int64).toInt = 0 := rfl
  refine ⟨by rw [base]; exact kept.base, by rw [base]; exact kept.fits, ?_, ?_, ?_⟩
  · rw [PeriodNear, base, current]
    exact kept.near
  · rw [IGRBounded]
    rcases igr with same | zero
    · rw [same]
      exact kept.igrBounded
    · rw [zero, nothing]
      omega
  · rw [IGRSmall, base]
    rcases igr with same | zero
    · rw [same]
      exact kept.igrSmall
    · rw [zero, nothing]
      omega

theorem periodNear_of_base (base : 0 < c.ticBasePeriod.toNat)
    (current : c.ticCurrentPeriod = c.ticBasePeriod) : c.PeriodNear := by
  rw [PeriodNear, current]
  omega

theorem IntervalsAgree.near {base deltaT1 deltaT2 : UInt64} (agree : IntervalsAgree base deltaT1 deltaT2)
    (apart : deltaT1 ≠ 0) (positive : 0 < base.toNat) :
    let period := (base * deltaT2 / deltaT1).toNat
    0 < period ∧ base.toNat ≤ 2 * period ∧ 2 * period ≤ 3 * base.toNat := by
  intro period
  obtain ⟨low, high⟩ := agree
  have divisor : 0 < deltaT1.toNat := by
    rw [ne_eq, ← UInt64.toNat_inj] at apart
    exact Nat.pos_of_ne_zero apart
  have least : (base.toNat + 1) / 2 ≤ (base * deltaT2).toNat / deltaT1.toNat :=
    (Nat.le_div_iff_mul_le divisor).mpr low
  have most : (base * deltaT2).toNat / deltaT1.toNat < 3 * base.toNat / 2 + 1 :=
    (Nat.div_lt_iff_lt_mul divisor).mpr high
  have quotient : period = (base * deltaT2).toNat / deltaT1.toNat := UInt64.toNat_div _ _
  omega

theorem PeriodKept.countDown {t1 : UInt64} (kept : c.PeriodKept) (apart : t1 ≠ c.t1)
    (agree : c.ptpLockCounter = 2 → IntervalsAgree c.ticBasePeriod (t1 - c.t1) c.deltaT2)
    (done : c.countDownPTPLock t1 (t1 - c.t1) = .ok c') : c'.PeriodKept := by
  rcases countDownPTPLock_cases done with ⟨-, rfl⟩ | ⟨two, aligned⟩ | ⟨-, -, rfl⟩
  · exact kept
  · obtain ⟨nonzero, _, rfl⟩ := alignNextTIC_cases aligned
    exact ⟨kept.base, kept.fits, (agree two).near nonzero kept.base, kept.igrBounded, kept.igrSmall⟩
  · exact kept.congr rfl rfl (.inl rfl)

theorem PeriodKept.adjust {t1 : UInt64} (kept : c.PeriodKept) (done : c.adjustPeriod t1 = .ok c') :
    c'.PeriodKept := by
  rcases adjustPeriod_cases done with rfl | ⟨delta, near, rfl⟩
  · exact ⟨kept.base, kept.fits, periodNear_of_base kept.base rfl, kept.igrBounded, kept.igrSmall⟩
  · have locked : IGRSmall { c with
        ticPTPToRTXClockOffset := c.t2.toInt64 - t1.toInt64
        ticCurrentPeriod := c.ticBasePeriod } := kept.igrSmall
    have small := adjustPhase_igrSmall locked fun small => nearestTICFrame_within small near
    exact ⟨kept.base, kept.fits, adjustPhase_near kept.base kept.fits rfl small, adjustPhase_igr _ _, small⟩

theorem PeriodKept.processT1 {t1 : UInt64} (kept : c.PeriodKept)
    (agree : t1 ≠ c.t1 → c.ptpLockCounter = 2 →
      IntervalsAgree c.ticBasePeriod (t1 - c.t1) c.deltaT2)
    (done : c.processT1 t1 = .ok c') : c'.PeriodKept := by
  rcases processT1_cases done with ⟨-, rfl⟩ | ⟨apart, counted, adjusted, down, step, rfl⟩
  · exact kept
  · have first := kept.countDown apart (agree apart) down
    rcases step with ⟨-, adjust⟩ | ⟨-, rfl⟩
    · exact (first.adjust adjust).congr rfl rfl (.inl rfl)
    · exact first.congr rfl rfl (.inl rfl)

theorem PeriodKept.announce (kept : c.PeriodKept) (h : V2MsgHeader) (body : V2MsgAnnounce)
    (clockTime : UInt64) : (c.processAnnounce h body clockTime).PeriodKept := by
  have noticed : (c.noteAnnounce h).noticeConfig.PeriodKept := by
    rw [noticeConfig]
    split
    · exact kept.congr rfl rfl (.inr rfl)
    · exact kept.congr rfl rfl (.inl rfl)
  have reached : (c.atElection h).PeriodKept := by
    rw [atElection, checkMasterDomain]
    split
    · exact noticed.congr rfl rfl (.inr rfl)
    · exact noticed
  have elected : ((c.atElection h).electPTPMaster h (clockTime / 100)).PeriodKept := by
    rw [electPTPMaster]
    split
    · exact reached.congr rfl rfl (.inr rfl)
    · exact reached
  rw [processAnnounce]
  split
  · rw [saveAnnounce]
    split
    · exact elected.congr rfl rfl (.inl rfl)
    · exact elected
  · exact reached

theorem PeriodKept.sync (kept : c.PeriodKept) (isMaster : h.clockIdentity = c.ptpMasterClockIdentity)
    (agree : c.ptpLockCounter = 2 → ∀ t1 ∈ c.newT1 (.sync h origin),
      IntervalsAgree c.ticBasePeriod (t1 - c.t1) (clockTime / nsToRefUnit - c.t2))
    (done : c.processSync h origin clockTime = .ok c') : c'.PeriodKept := by
  obtain ⟨timed, step, last⟩ := bind_eq_ok.mp done
  have timely : timed.PeriodKept := by
    rw [timeSync] at step
    split at step
    · cases step
      exact kept.congr rfl rfl (.inr rfl)
    · rename_i near
      have recorded : (c.recordT2 (clockTime / nsToRefUnit)).PeriodKept := kept.congr rfl rfl (.inl rfl)
      split at step
      · cases step
        exact recorded
      · rename_i oneStep
        refine recorded.processT1 (fun apart two => agree two _ ?_) step
        rw [newT1_sync isMaster near (by simpa using oneStep)]
        exact if_pos apart
  cases last
  exact timely.congr rfl rfl (.inl rfl)

theorem PeriodKept.followUp (kept : c.PeriodKept) (isMaster : h.clockIdentity = c.ptpMasterClockIdentity)
    (agree : c.ptpLockCounter = 2 → ∀ t1 ∈ c.newT1 (.followUp h origin),
      IntervalsAgree c.ticBasePeriod (t1 - c.t1) c.deltaT2)
    (done : c.processFollowUp h origin = .ok c') : c'.PeriodKept := by
  obtain ⟨timed, step, last⟩ := bind_eq_ok.mp done
  have timely : timed.PeriodKept := by
    rw [timeFollowUp] at step
    split at step
    · rename_i same
      exact kept.processT1 (fun apart two => agree two _ (if_pos ⟨isMaster, same, apart⟩)) step
    · cases step
      exact kept
  cases last
  exact timely.congr rfl rfl (.inl rfl)

theorem PeriodKept.of_base (base : 0 < c.ticBasePeriod.toNat) (fits : c.ticBasePeriod.toNat < 2 ^ 63)
    (current : c.ticCurrentPeriod = c.ticBasePeriod) (igr : c.ticIGR = 0) : c.PeriodKept := by
  have nothing : (0 : Int64).toInt = 0 := rfl
  refine ⟨base, fits, periodNear_of_base base current, ?_, ?_⟩
  · rw [IGRBounded, igr, nothing]
    omega
  · rw [IGRSmall, igr, nothing]
    omega

theorem basePeriod_of_steady {frameSize samplingRate : UInt32} {period : UInt64} (frame : 0 < frameSize)
    (rate : 0 < samplingRate) (fits : frameSize.toNat * 1000000000000 < 2 ^ 63)
    (done : basePeriod frameSize samplingRate = .ok period) :
    0 < period.toNat ∧ period.toNat < 2 ^ 63 := by
  obtain ⟨quotient, divided, last⟩ := bind_eq_ok.mp done
  cases last
  have frame_lt := frameSize.toNat_lt
  have rate_lt := samplingRate.toNat_lt
  rw [UInt32.lt_iff_toNat_lt, UInt32.toNat_zero] at frame rate
  have word (x : UInt32) : x.toUInt64.toInt64.toInt = x.toNat := by
    have bound := x.toNat_lt
    rw [toInt_toInt64, UInt32.toNat_toUInt64]
    exact Int.bmod_eq_of_le_mul_two (by omega) (by omega)
  have factor : (1000000000000 : Int64).toInt = 1000000000000 := rfl
  have product : (frameSize.toUInt64.toInt64 * 1000000000000).toInt =
      ((frameSize.toNat * 1000000000000 : Nat) : Int) := by
    rw [toInt_mul (by rw [word, factor]; omega) (by rw [word, factor]; omega), word, factor]
    rfl
  have value : quotient.toInt = ((frameSize.toNat * 1000000000000 / samplingRate.toNat : Nat) : Int) := by
    rw [divI64] at divided
    split at divided
    · cases divided
    · cases divided
      rw [Int64.toInt_div_of_ne_right _ _ (fun minus => ?_), product, word,
        Int.tdiv_eq_ediv_of_nonneg (Int.natCast_nonneg _)]
      · rfl
      · have signed := congrArg Int64.toInt minus
        rw [word, Int64.toInt_neg] at signed
        simp at signed
  have positive : 0 < frameSize.toNat * 1000000000000 / samplingRate.toNat :=
    Nat.div_pos (by omega) rate
  have bounded := Nat.div_le_self (frameSize.toNat * 1000000000000) samplingRate.toNat
  have unsigned := toNat_toUInt64 quotient
  have unsigned_lt := quotient.toUInt64.toNat_lt
  rw [Int.bmod_def] at unsigned
  omega

theorem PeriodKept.start {frameSize samplingRate : UInt32} (frame : 0 < frameSize)
    (rate : 0 < samplingRate) (fits : frameSize.toNat * 1000000000000 < 2 ^ 63)
    (done : c.startAudioFrameTICTimer frameSize samplingRate = .ok c') : c'.PeriodKept := by
  obtain ⟨period, divided, last⟩ := bind_eq_ok.mp done
  obtain ⟨base, small⟩ := basePeriod_of_steady frame rate fits divided
  cases last
  exact .of_base base small rfl rfl

theorem PeriodKept.step {event : ClockEvent} (kept : c.PeriodKept) (steady : c.Steady event)
    (done : event.step c = .ok c') : c'.PeriodKept := by
  cases event with
  | packet bytes clockTime =>
    obtain ⟨⟨clock, result⟩, processed, first⟩ := map_eq_ok.mp done
    cases first
    rcases processPTPPacket_cases processed with ⟨-, rfl⟩ | ⟨listens, message, isPTP, heard⟩
    · exact kept
    · have agree : c.ptpLockCounter = 2 → ∀ t1 ∈ c.newT1 message,
          IntervalsAgree c.ticBasePeriod (t1 - c.t1) (c.measuredDeltaT2 clockTime message) :=
        fun two => steady listens two message isPTP
      obtain rfl | ⟨h, body, rfl, rfl⟩ | ⟨h, origin, rfl, isMaster, step⟩ |
        ⟨h, origin, rfl, isMaster, step⟩ := processMessage_cases heard
      · exact kept
      · exact kept.announce h body clockTime
      · exact kept.sync isMaster agree step
      · exact kept.followUp isMaster agree step
  | tick clockTime endTime counterTime =>
    obtain ⟨⟨clock, next⟩, processed, first⟩ := map_eq_ok.mp done
    cases first
    rcases timerProcess_cases processed with ⟨-, rfl⟩ | ⟨-, ticCount, -, -, -, rest⟩
    · exact kept.congr rfl rfl (.inl rfl)
    · split at rest
      · have base := congrArg ticBasePeriod rest
        have current := congrArg ticCurrentPeriod rest
        have igr := congrArg ticIGR rest
        exact kept.congr base current (.inr igr)
      · have base := congrArg ticBasePeriod rest
        have current := congrArg ticCurrentPeriod rest
        have igr := congrArg ticIGR rest
        exact kept.congr base current (.inl igr)
  | setNextAbsoluteTime next =>
    cases done
    exact kept.congr rfl rfl (.inl rfl)
  | start frameSize samplingRate => exact .start steady.1 steady.2.1 steady.2.2 done
  | stop =>
    cases done
    exact kept.congr rfl rfl (.inr rfl)
  | config wanted =>
    cases done
    rw [setPTPConfig]
    split
    · exact kept.congr rfl rfl (.inl rfl)
    · exact kept

/-- When the measured intervals agree whenever PTP is about to lock, the period is near the base
period in every run of the clock, and the integrator is bounded. -/
theorem period_near {events : List ClockEvent} (run : Run ClockEvent.step Steady initPTP events c) :
    c.PeriodNear ∧ c.IGRBounded := by
  have kept : c.PeriodKept := run.invariant PeriodKept (.of_base (by decide) (by decide) rfl rfl)
    fun c event c' kept steady step => kept.step steady step
  exact ⟨kept.near, kept.igrBounded⟩

theorem period_near_four : ∃ c : ClockPTP, c.ticBasePeriod = 1333333333 ∧
    c.ptpLockCounter = 0 ∧ c.PeriodNear ∧ c.IGRBounded := by
  obtain ⟨c, run, seen⟩ := exists_run Fault.endlessLoop ClockEvent.step Steady initPTP fourSyncs
    (fun c => (c.ticBasePeriod, c.ptpLockCounter)) (1333333333, 0) (by decide +kernel)
  obtain ⟨base, locked⟩ := Prod.mk.inj seen
  exact ⟨c, base, locked, period_near run⟩

def lateSync : List ClockEvent :=
  elects ++ [.packet (syncFrame 0 7 1 1) 2000000000, .packet (syncFrame 0 7 2 2) 4000000000,
    .packet (syncFrame 0 7 3 3) 4000000000]

/-- The period is zero when PTP is about to lock. -/
theorem late_sync_stops : ∃ c, Run ClockEvent.step (fun _ _ => True) initPTP lateSync c ∧
    c.ticBasePeriod = 1333333333 ∧ c.ticCurrentPeriod = 0 ∧ ¬ c.PeriodNear := by
  obtain ⟨c, run, seen⟩ := exists_run Fault.endlessLoop ClockEvent.step (fun _ _ => True) initPTP
    lateSync (fun c => (c.ticBasePeriod, c.ticCurrentPeriod)) (1333333333, 0) (by decide +kernel)
  obtain ⟨base, current⟩ := Prod.mk.inj seen
  refine ⟨c, run, base, current, fun near => ?_⟩
  rw [PeriodNear, current] at near
  exact absurd near.1 (by decide)

end ClockPTP

end RavennaLkm
