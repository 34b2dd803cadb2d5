import RavennaLkm.Clock

/-!
The wake-up time of the timer, as 100 µs and a fraction in ps. Many frames at once
add the same time as one after the other, but the fraction is narrowed to 32 bits
before its whole units are taken out of it.
-/
namespace RavennaLkm
open CheckedLoop

theorem total_advance (unit whole fraction period n : Nat) :
    (whole + period / unit * n) * unit + (fraction + period % unit * n) = whole * unit + fraction + n * period := by
  have split : n * period = period / unit * n * unit + period % unit * n := by
    conv_lhs => rw [← Nat.div_add_mod' period unit]
    rw [Nat.mul_add, Nat.mul_left_comm, ← Nat.mul_assoc, Nat.mul_comm n]
  rw [Nat.add_mul]
  omega

theorem total_carry {unit whole fraction carry : Nat} (carried : unit * carry ≤ fraction) :
    (whole + carry) * unit + (fraction - unit * carry) = whole * unit + fraction := by
  rw [Nat.add_mul, Nat.mul_comm carry]
  omega

namespace ClockPTP

variable {c : ClockPTP} {frameCount : UInt32}

def unit : Nat := 100000000

theorem toNat_psToRefUnit : psToRefUnit.toNat = unit := rfl

def exactNextTime (c : ClockPTP) : Nat := c.ticNextAbsoluteTime.toNat * unit + c.ticNextAbsoluteTimeFrac.toNat

/-- The fraction with the ones of `n` frames added to it. -/
def summedFraction (c : ClockPTP) (n : Nat) : Nat :=
  c.ticNextAbsoluteTimeFrac.toNat + c.ticCurrentPeriod.toNat % unit * n

def carriedUnits (c : ClockPTP) (n : Nat) : Nat :=
  if c.summedFraction n > unit then c.summedFraction n % 2 ^ 32 / unit else 0

/-- The fraction is not above one unit, and the time `n` frames later is one of 64 bits. -/
structure TimeFits (c : ClockPTP) (n : Nat) : Prop where
  fraction : c.ticNextAbsoluteTimeFrac.toNat ≤ unit
  time : c.exactNextTime + n * c.ticCurrentPeriod.toNat < 2 ^ 64 * unit

theorem carriedUnits_le (c : ClockPTP) (n : Nat) : unit * c.carriedUnits n ≤ c.summedFraction n := by
  unfold carriedUnits unit
  split
  · omega
  · omega

/-- The wake-up time in ps after a call, whatever is left in the fraction. -/
theorem exactNextTime_carry (c : ClockPTP) (n : Nat) :
    (c.ticNextAbsoluteTime.toNat + c.ticCurrentPeriod.toNat / unit * n + c.carriedUnits n) * unit +
        (c.summedFraction n - unit * c.carriedUnits n) =
      c.exactNextTime + n * c.ticCurrentPeriod.toNat := by
  rw [total_carry (c.carriedUnits_le n)]
  exact total_advance ..

theorem TimeFits.whole_lt {n : Nat} (fits : c.TimeFits n) :
    c.ticNextAbsoluteTime.toNat + c.ticCurrentPeriod.toNat / unit * n + c.carriedUnits n < 2 ^ 64 := by
  have exact_ := c.exactNextTime_carry n
  have time := fits.time
  apply Nat.lt_of_mul_lt_mul_right (a := unit)
  omega

theorem TimeFits.summedFraction_lt (fits : c.TimeFits frameCount.toNat) :
    c.summedFraction frameCount.toNat < 2 ^ 60 := by
  have fraction := fits.fraction
  have remainder := Nat.mod_lt c.ticCurrentPeriod.toNat (show 0 < unit by decide)
  have product : c.ticCurrentPeriod.toNat % unit * frameCount.toNat ≤ unit * 2 ^ 32 :=
    Nat.mul_le_mul (Nat.le_of_lt remainder) (Nat.le_of_lt frameCount.toNat_lt)
  change _ ≤ 100000000 at fraction
  change _ ≤ 100000000 * 2 ^ 32 at product
  unfold summedFraction
  omega

theorem TimeFits.toNat_fraction (fits : c.TimeFits frameCount.toNat) :
    (c.ticNextAbsoluteTimeFrac + c.ticCurrentPeriod % psToRefUnit * frameCount.toUInt64).toNat =
      c.summedFraction frameCount.toNat := by
  have small := fits.summedFraction_lt
  have addend : (c.ticCurrentPeriod % psToRefUnit * frameCount.toUInt64).toNat =
      c.ticCurrentPeriod.toNat % unit * frameCount.toNat := by
    unfold summedFraction at small
    rw [UInt64.toNat_mul, UInt64.toNat_mod, UInt32.toNat_toUInt64, toNat_psToRefUnit, Nat.mod_eq_of_lt (by omega)]
  unfold summedFraction at small ⊢
  rw [UInt64.toNat_add, addend, Nat.mod_eq_of_lt (by omega)]

theorem TimeFits.toNat_next (fits : c.TimeFits frameCount.toNat) :
    (c.ticNextAbsoluteTime + c.ticCurrentPeriod / psToRefUnit * frameCount.toUInt64).toNat =
      c.ticNextAbsoluteTime.toNat + c.ticCurrentPeriod.toNat / unit * frameCount.toNat := by
  have whole := fits.whole_lt
  have advance : (c.ticCurrentPeriod / psToRefUnit * frameCount.toUInt64).toNat =
      c.ticCurrentPeriod.toNat / unit * frameCount.toNat := by
    rw [UInt64.toNat_mul, UInt64.toNat_div, UInt32.toNat_toUInt64, toNat_psToRefUnit, Nat.mod_eq_of_lt (by omega)]
  rw [UInt64.toNat_add, advance, Nat.mod_eq_of_lt (by omega)]

theorem computeNextAbsoluteTime_fields (fits : c.TimeFits frameCount.toNat) :
    (c.computeNextAbsoluteTime frameCount).ticNextAbsoluteTime.toNat =
        c.ticNextAbsoluteTime.toNat + c.ticCurrentPeriod.toNat / unit * frameCount.toNat +
          c.carriedUnits frameCount.toNat ∧
      (c.computeNextAbsoluteTime frameCount).ticNextAbsoluteTimeFrac.toNat =
        c.summedFraction frameCount.toNat - unit * c.carriedUnits frameCount.toNat := by
  have whole := fits.whole_lt
  have unit32 : psToRefUnit.toUInt32.toNat = unit := rfl
  have carried := c.carriedUnits_le frameCount.toNat
  have fraction := fits.toNat_fraction
  have next := fits.toNat_next
  unfold computeNextAbsoluteTime
  dsimp only
  generalize c.ticNextAbsoluteTimeFrac + c.ticCurrentPeriod % psToRefUnit * frameCount.toUInt64 = frac at *
  have carries : frac > psToRefUnit ↔ c.summedFraction frameCount.toNat > unit := by
    rw [gt_iff_lt, UInt64.lt_iff_toNat_lt, fraction, toNat_psToRefUnit]
  by_cases above : c.summedFraction frameCount.toNat > unit
  · have isCarry : c.carriedUnits frameCount.toNat = c.summedFraction frameCount.toNat % 2 ^ 32 / unit :=
      if_pos above
    have epsilon : (frac.toUInt32 / psToRefUnit.toUInt32).toNat = c.carriedUnits frameCount.toNat := by
      rw [UInt32.toNat_div, UInt64.toNat_toUInt32, fraction, unit32, isCarry]
    have product : (psToRefUnit.toUInt32 * (frac.toUInt32 / psToRefUnit.toUInt32)).toUInt64.toNat =
        unit * c.carriedUnits frameCount.toNat := by
      rw [UInt32.toNat_toUInt64, UInt32.toNat_mul, epsilon, unit32, isCarry,
        Nat.mod_eq_of_lt (by unfold unit; omega)]
    have below : (psToRefUnit.toUInt32 * (frac.toUInt32 / psToRefUnit.toUInt32)).toUInt64 ≤ frac := by
      rw [UInt64.le_iff_toNat_le, product, fraction]
      exact carried
    rw [if_pos (carries.mpr above)]
    constructor
    · rw [UInt64.toNat_add, next, UInt32.toNat_toUInt64, epsilon, Nat.mod_eq_of_lt whole]
    · rw [UInt64.toNat_sub_of_le _ _ below, product, fraction]
  · have noCarry : c.carriedUnits frameCount.toNat = 0 := if_neg above
    rw [if_neg (mt carries.mp above), noCarry]
    exact ⟨next, fraction⟩

theorem computeNextAbsoluteTime_exactNextTime (fits : c.TimeFits frameCount.toNat) :
    (c.computeNextAbsoluteTime frameCount).exactNextTime =
      c.exactNextTime + frameCount.toNat * c.ticCurrentPeriod.toNat := by
  obtain ⟨next, fraction⟩ := computeNextAbsoluteTime_fields fits
  rw [exactNextTime, next, fraction]
  exact c.exactNextTime_carry frameCount.toNat

theorem computeNextAbsoluteTime_fraction_iff (fits : c.TimeFits frameCount.toNat) :
    (c.computeNextAbsoluteTime frameCount).ticNextAbsoluteTimeFrac.toNat ≤ unit ↔
      c.summedFraction frameCount.toNat < 2 ^ 32 := by
  rw [(computeNextAbsoluteTime_fields fits).2]
  unfold carriedUnits unit
  constructor
  · intro below
    split at below
    · omega
    · omega
  · intro small
    split
    · omega
    · omega

theorem computeNextAbsoluteTime_period (c : ClockPTP) (frameCount : UInt32) :
    (c.computeNextAbsoluteTime frameCount).ticCurrentPeriod = c.ticCurrentPeriod := by
  unfold computeNextAbsoluteTime
  dsimp only
  split
  · rfl
  · rfl

def addFrame (self : ClockPTP) : ClockPTP :=
  let next := self.ticNextAbsoluteTime + self.ticCurrentPeriod / psToRefUnit
  let frac := self.ticNextAbsoluteTimeFrac + self.ticCurrentPeriod % psToRefUnit
  if frac > psToRefUnit then
    { self with ticNextAbsoluteTimeFrac := frac - psToRefUnit, ticNextAbsoluteTime := next + 1 }
  else { self with ticNextAbsoluteTime := next, ticNextAbsoluteTimeFrac := frac }

def computeNextAbsoluteTimeByFrame (self : ClockPTP) (frameCount : UInt32) : ClockPTP :=
  iterUp (fun _ => addFrame) frameCount.toNat self

theorem addFrame_eq (fraction : c.ticNextAbsoluteTimeFrac.toNat ≤ unit) :
    c.addFrame = c.computeNextAbsoluteTime 1 := by
  have one : (1 : UInt32).toUInt64 = 1 := rfl
  have remainder : (c.ticCurrentPeriod % psToRefUnit).toNat < unit := by
    rw [UInt64.toNat_mod]
    exact Nat.mod_lt _ (by decide)
  unfold addFrame computeNextAbsoluteTime
  rw [one, UInt64.mul_one, UInt64.mul_one]
  dsimp only
  split
  · rename_i above
    have sum : (c.ticNextAbsoluteTimeFrac + c.ticCurrentPeriod % psToRefUnit).toNat =
        c.ticNextAbsoluteTimeFrac.toNat + (c.ticCurrentPeriod % psToRefUnit).toNat := by
      rw [UInt64.toNat_add, Nat.mod_eq_of_lt (by unfold unit at *; omega)]
    have epsilon : (c.ticNextAbsoluteTimeFrac + c.ticCurrentPeriod % psToRefUnit).toUInt32 /
        psToRefUnit.toUInt32 = 1 := by
      rw [gt_iff_lt, UInt64.lt_iff_toNat_lt, sum, toNat_psToRefUnit] at above
      apply UInt32.toNat_inj.mp
      rw [UInt32.toNat_div, UInt64.toNat_toUInt32, sum]
      change _ / 100000000 = 1
      unfold unit at *
      omega
    rw [epsilon]
    rfl
  · rfl

theorem iterUp_addFrame {n : Nat} (fits : c.TimeFits n) :
    (iterUp (fun _ => addFrame) n c).exactNextTime = c.exactNextTime + n * c.ticCurrentPeriod.toNat ∧
      (iterUp (fun _ => addFrame) n c).ticNextAbsoluteTimeFrac.toNat ≤ unit ∧
      (iterUp (fun _ => addFrame) n c).ticCurrentPeriod = c.ticCurrentPeriod := by
  induction n with
  | zero => exact ⟨by simp [iterUp], fits.fraction, rfl⟩
  | succ n ih =>
    have time := fits.time
    rw [Nat.succ_mul] at time
    obtain ⟨total, fraction, period⟩ := ih ⟨fits.fraction, by omega⟩
    rw [iterUp_succ]
    generalize iterUp (fun _ => addFrame) n c = w at *
    have one : w.TimeFits (1 : UInt32).toNat := by
      refine ⟨fraction, ?_⟩
      rw [total, period]
      change _ + 1 * _ < _
      omega
    have small : w.summedFraction (1 : UInt32).toNat < 2 ^ 32 := by
      have remainder := Nat.mod_lt w.ticCurrentPeriod.toNat (show 0 < unit by decide)
      change _ + _ * 1 < 2 ^ 32
      unfold unit at *
      omega
    rw [addFrame_eq fraction]
    refine ⟨?_, (computeNextAbsoluteTime_fraction_iff one).mpr small, ?_⟩
    · rw [computeNextAbsoluteTime_exactNextTime one, total, period, Nat.succ_mul, Nat.add_assoc]
      congr 2
      exact Nat.one_mul _
    · rw [computeNextAbsoluteTime_period, period]

/-- A call adds the time of its frames, as the loop does, and leaves at most one unit in the fraction. -/
structure Accumulates (c : ClockPTP) (frameCount : UInt32) : Prop where
  time : (c.computeNextAbsoluteTime frameCount).exactNextTime =
    c.exactNextTime + frameCount.toNat * c.ticCurrentPeriod.toNat
  fraction : (c.computeNextAbsoluteTime frameCount).ticNextAbsoluteTimeFrac.toNat ≤ unit
  loop : (c.computeNextAbsoluteTime frameCount).exactNextTime =
    (c.computeNextAbsoluteTimeByFrame frameCount).exactNextTime

/-- A call does so when the summed fraction is one of 32 bits. -/
theorem accumulates_iff (fits : c.TimeFits frameCount.toNat) :
    c.Accumulates frameCount ↔ c.summedFraction frameCount.toNat < 2 ^ 32 := by
  rw [← computeNextAbsoluteTime_fraction_iff fits]
  constructor
  · exact fun accumulates => accumulates.fraction
  · intro fraction
    have time := computeNextAbsoluteTime_exactNextTime fits
    exact ⟨time, fraction, time.trans (iterUp_addFrame fits).1.symm⟩

/-- A hundred periods of 64 frames at 48 kHz. -/
theorem accumulates_hundred : initPTP.Accumulates 100 ↔ initPTP.summedFraction 100 < 2 ^ 32 :=
  accumulates_iff ⟨by decide, by decide⟩

/-- The fraction of 375 of these periods, which is half a second, has more than 32 bits. -/
theorem half_second_not_accumulated : ¬ initPTP.Accumulates 375 := by
  intro accumulates
  exact absurd accumulates.fraction (by decide)

end ClockPTP

end RavennaLkm
