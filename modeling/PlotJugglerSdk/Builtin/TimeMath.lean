import PlotJugglerSdk.Builtin.Geometry
import PlotJugglerSdk.Numeric.Checked

/-!
# Time arithmetic

The checked arithmetic on nanosecond timestamps: that joining seconds and nanoseconds never
overflows on the way (`combineSecondsAndNanos_defined`), and the synthetic axis, whose rows
are `anchor + row * interval`.

A row is refused where its offset does not fit, though its instant may: an axis fitted to a
span of more than half of all timestamps can lose its last rows.

* `syntheticInstant_eq_some_iff` — when a row has an instant, and which
* `fitted_iff`                   — when an interval is fitted, and which
* `syntheticAxis_iff`            — the rows and the spans that are served in full
-/

namespace PlotJugglerSdk

open Signed

/-! ## Seconds and nanoseconds -/

/-- `combineSecondsAndNanos` on checked operations: none where one of them overflows. -/
def combineSecondsAndNanosChecked (seconds nanos : Int64) : Option (Option Int64) :=
  if nanos < 0 ∨ nanosecondsPerSecond ≤ nanos then some none
  -- one second is moved over, so that the product and the rest have one sign
  else if seconds < 0 then do
    let seconds ← add seconds 1
    let nanos ← sub nanos nanosecondsPerSecond
    let room ← sub Int64.minValue nanos
    let least ← div room nanosecondsPerSecond
    if seconds < least then some none
    else
      ((mul seconds nanosecondsPerSecond).bind fun product => add product nanos).map some
  else do
    let room ← sub Int64.maxValue nanos
    let greatest ← div room nanosecondsPerSecond
    if greatest < seconds then some none
    else
      ((mul seconds nanosecondsPerSecond).bind fun product => add product nanos).map some

theorem combineSecondsAndNanos_defined (seconds nanos : Int64) :
    combineSecondsAndNanosChecked seconds nanos = some (combineSecondsAndNanos seconds nanos) := by
  have hbillion : nanosecondsPerSecond.toInt = 1000000000 := rfl
  have hne : nanosecondsPerSecond ≠ 0 := by decide
  have hpos : 0 < nanosecondsPerSecond.toInt := by omega
  have hzero : (0 : Int64).toInt = 0 := rfl
  have hone : (1 : Int64).toInt = 1 := rfl
  obtain ⟨hlow, hhigh⟩ := fits_toInt seconds
  unfold combineSecondsAndNanosChecked combineSecondsAndNanos
  by_cases hrange : nanos < 0 ∨ nanosecondsPerSecond ≤ nanos
  · rw [if_pos hrange, if_pos hrange]
  rw [if_neg hrange, if_neg hrange]
  simp only [Int64.lt_iff_toInt_lt, Int64.le_iff_toInt_le, hbillion, hzero] at hrange
  by_cases hneg : seconds < 0
  · -- below zero: the steps on the rebased parts
    rw [if_pos hneg, if_pos hneg]
    simp only [Int64.lt_iff_toInt_lt, hzero] at hneg
    have hsec : Fits (seconds.toInt + (1 : Int64).toInt) := by unfold Fits; omega
    have hnan : Fits (nanos.toInt - nanosecondsPerSecond.toInt) := by unfold Fits; omega
    have hsec' := toInt_add hsec
    have hnan' := toInt_sub hnan
    have hroom : Fits (Int64.minValue.toInt - (nanos - nanosecondsPerSecond).toInt) := by
      rw [hnan', Int64.toInt_minValue]
      unfold Fits
      omega
    have hroom' := toInt_sub hroom
    have hquot := toInt_div (a := Int64.minValue - (nanos - nanosecondsPerSecond))
      (fits_tdiv hpos)
    have hfacts := tdiv_tmod_billion (Int64.minValue - (nanos - nanosecondsPerSecond)).toInt
    have hdiv := div_eq (a := Int64.minValue - (nanos - nanosecondsPerSecond)) hne (fits_tdiv hpos)
    rw [add_eq hsec, Option.bind_eq_bind, Option.bind_some, sub_eq hnan, Option.bind_some,
      sub_eq hroom, Option.bind_some, hdiv, Option.bind_some]
    rw [Int64.toInt_minValue, hnan', hbillion] at hroom'
    rw [hroom', hbillion] at hquot
    rw [hroom'] at hfacts
    by_cases hleast : seconds + 1 <
        (Int64.minValue - (nanos - nanosecondsPerSecond)) / nanosecondsPerSecond
    · rw [if_pos hleast]
      dsimp only
      rw [if_pos hleast]
    · rw [if_neg hleast]
      dsimp only
      rw [if_neg hleast]
      rw [Int64.lt_iff_toInt_lt, hsec', hquot, hone] at hleast
      have hmul : Fits ((seconds + 1).toInt * nanosecondsPerSecond.toInt) := by
        rw [hbillion, hsec', hone]
        unfold Fits
        omega
      have hsum : Fits ((seconds + 1).toInt * nanosecondsPerSecond.toInt +
          (nanos - nanosecondsPerSecond).toInt) := by
        rw [hbillion, hsec', hone, hnan', hbillion]
        unfold Fits
        omega
      rw [mul_add_eq hmul hsum, Option.map_some]
  · rw [if_neg hneg, if_neg hneg]
    simp only [Int64.lt_iff_toInt_lt, hzero] at hneg
    have hroom : Fits (Int64.maxValue.toInt - nanos.toInt) := by
      rw [Int64.toInt_maxValue]
      unfold Fits
      omega
    have hroom' := toInt_sub hroom
    have hquot := toInt_div (a := Int64.maxValue - nanos) (fits_tdiv hpos)
    have hfacts := tdiv_tmod_billion (Int64.maxValue - nanos).toInt
    have hdiv := div_eq (a := Int64.maxValue - nanos) hne (fits_tdiv hpos)
    rw [sub_eq hroom, Option.bind_eq_bind, Option.bind_some, hdiv, Option.bind_some]
    rw [Int64.toInt_maxValue] at hroom'
    rw [hroom', hbillion] at hquot
    rw [hroom'] at hfacts
    by_cases hgreatest : (Int64.maxValue - nanos) / nanosecondsPerSecond < seconds
    · rw [if_pos hgreatest, if_pos hgreatest]
    · rw [if_neg hgreatest, if_neg hgreatest]
      rw [Int64.lt_iff_toInt_lt, hquot] at hgreatest
      have hmul : Fits (seconds.toInt * nanosecondsPerSecond.toInt) := by
        rw [hbillion]
        unfold Fits
        omega
      have hsum : Fits (seconds.toInt * nanosecondsPerSecond.toInt + nanos.toInt) := by
        rw [hbillion]
        unfold Fits
        omega
      rw [mul_add_eq hmul hsum, Option.map_some]

/-! ## The synthetic axis -/

/-- The instant of a row, `anchorNs + row * intervalNs`. -/
def syntheticInstant (anchorNs intervalNs row : Int64) : Option Int64 :=
  if row < 0 then none
  else if (0 < intervalNs ∧ Int64.maxValue / intervalNs < row) ∨
      (intervalNs < 0 ∧ 0 < row ∧ intervalNs < Int64.minValue / row) then none
  else
    let offset := intervalNs * row
    if (0 < offset ∧ Int64.maxValue - offset < anchorNs) ∨
        (offset < 0 ∧ anchorNs < Int64.minValue - offset) then none
    else some (anchorNs + offset)

/-- The interval of `rows` rows from `firstNs` to `lastNs`. -/
def fitSyntheticInterval (firstNs lastNs rows fallbackNs : Int64) : Int64 :=
  if rows < 2 ∨ lastNs ≤ firstNs then fallbackNs
  else
    let span := lastNs.toUInt64 - firstNs.toUInt64
    let interval := span / (rows - 1).toUInt64
    if Int64.maxValue.toUInt64 < interval then fallbackNs else interval.toInt64

/-- The guard of the offset. -/
theorem offset_guard_iff {intervalNs row : Int64} (hrow : ¬ row < 0) :
    (0 < intervalNs ∧ Int64.maxValue / intervalNs < row) ∨
        (intervalNs < 0 ∧ 0 < row ∧ intervalNs < Int64.minValue / row) ↔
      ¬ Fits (intervalNs.toInt * row.toInt) := by
  have hzero : (0 : Int64).toInt = 0 := rfl
  simp only [Int64.lt_iff_toInt_lt, hzero] at hrow ⊢
  have hrow0 : 0 ≤ row.toInt := by omega
  obtain hneg | hnull | hpos := lt_trichotomy intervalNs.toInt 0
  · have hsign : intervalNs.toInt * row.toInt ≤ 0 :=
      Int.mul_nonpos_of_nonpos_of_nonneg (by omega) hrow0
    by_cases hfirst : row.toInt = 0
    · rw [hfirst, Int.mul_zero]
      unfold Fits
      omega
    · have hguard := lt_minValue_div_iff (a := intervalNs) (b := row) (by omega)
      unfold Fits
      omega
  · rw [hnull, Int.zero_mul]
    unfold Fits
    omega
  · have hsign : 0 ≤ intervalNs.toInt * row.toInt := Int.mul_nonneg (by omega) hrow0
    have hguard := maxValue_div_lt_iff (b := row) hpos
    unfold Fits
    omega

/-- The guard of the sum. -/
theorem sum_guard_iff {anchorNs offset : Int64} :
    (0 < offset ∧ Int64.maxValue - offset < anchorNs) ∨
        (offset < 0 ∧ anchorNs < Int64.minValue - offset) ↔
      ¬ Fits (anchorNs.toInt + offset.toInt) := by
  obtain ⟨hlow, hhigh⟩ := fits_toInt anchorNs
  obtain ⟨hlow', hhigh'⟩ := fits_toInt offset
  have hzero : (0 : Int64).toInt = 0 := rfl
  simp only [Int64.lt_iff_toInt_lt, hzero]
  obtain hneg | hnull | hpos := lt_trichotomy offset.toInt 0
  · have hroom : (Int64.minValue - offset).toInt = -2 ^ 63 - offset.toInt := by
      rw [toInt_sub (by rw [Int64.toInt_minValue]; unfold Fits; omega), Int64.toInt_minValue]
    rw [hroom]
    unfold Fits
    omega
  · unfold Fits
    omega
  · have hroom : (Int64.maxValue - offset).toInt = 2 ^ 63 - 1 - offset.toInt := by
      rw [toInt_sub (by rw [Int64.toInt_maxValue]; unfold Fits; omega), Int64.toInt_maxValue]
    rw [hroom]
    unfold Fits
    omega

/-- A row has an instant where both its offset and the sum fit. -/
theorem syntheticInstant_eq_some_iff {anchorNs intervalNs row instant : Int64} :
    syntheticInstant anchorNs intervalNs row = some instant ↔
      0 ≤ row.toInt ∧ Fits (intervalNs.toInt * row.toInt) ∧
        instant.toInt = anchorNs.toInt + intervalNs.toInt * row.toInt := by
  have hzero : (0 : Int64).toInt = 0 := rfl
  unfold syntheticInstant
  by_cases hrow : row < 0
  · rw [if_pos hrow]
    rw [Int64.lt_iff_toInt_lt, hzero] at hrow
    simp only [reduceCtorEq, false_iff]
    omega
  rw [if_neg hrow]
  -- each guard says whether the operation behind it is exact
  by_cases hoffset : Fits (intervalNs.toInt * row.toInt)
  · rw [if_neg (mt (offset_guard_iff hrow).mp (not_not.mpr hoffset))]
    have hproduct := toInt_mul hoffset
    dsimp only
    rw [Int64.lt_iff_toInt_lt, hzero] at hrow
    by_cases hsum : Fits (anchorNs.toInt + (intervalNs * row).toInt)
    · rw [if_neg (mt sum_guard_iff.mp (not_not.mpr hsum))]
      have hadd := toInt_add hsum
      rw [Option.some.injEq, ← Int64.toInt_inj, hadd, hproduct]
      constructor
      · intro h
        exact ⟨by omega, hoffset, h.symm⟩
      · intro h
        exact h.2.2.symm
    · rw [if_pos (sum_guard_iff.mpr hsum)]
      simp only [reduceCtorEq, false_iff, not_and]
      intro _ _ h
      rw [hproduct, ← h] at hsum
      exact hsum (fits_toInt instant)
  · rw [if_pos ((offset_guard_iff hrow).mpr hoffset)]
    simp only [reduceCtorEq, false_iff]
    intro h
    exact hoffset h.2.1

/-- The rows fit this interval: it is the answer whatever the fallback is. -/
def Fitted (firstNs lastNs rows intervalNs : Int64) : Prop :=
  ∀ fallbackNs, fitSyntheticInterval firstNs lastNs rows fallbackNs = intervalNs

theorem fitted_iff {firstNs lastNs rows intervalNs : Int64} :
    Fitted firstNs lastNs rows intervalNs ↔
      2 ≤ rows.toInt ∧ firstNs.toInt < lastNs.toInt ∧
        intervalNs.toInt = (lastNs.toInt - firstNs.toInt) / (rows.toInt - 1) := by
  have htwo : (2 : Int64).toInt = 2 := rfl
  unfold Fitted fitSyntheticInterval
  by_cases hguard : rows < 2 ∨ lastNs ≤ firstNs
  · -- two fallbacks, two answers
    simp only [if_pos hguard]
    rw [Int64.lt_iff_toInt_lt, Int64.le_iff_toInt_le, htwo] at hguard
    constructor
    · intro h
      exact absurd ((h 0).trans (h 1).symm) (by decide)
    · intro h
      omega
  simp only [if_neg hguard]
  rw [Int64.lt_iff_toInt_lt, Int64.le_iff_toInt_le, htwo] at hguard
  obtain ⟨hrows, horder⟩ : 2 ≤ rows.toInt ∧ firstNs.toInt < lastNs.toInt := by omega
  have hone : (1 : Int64).toInt = 1 := rfl
  have hfits := fits_toInt rows
  have hless : (rows - 1).toInt = rows.toInt - 1 := by
    apply toInt_sub
    rw [hone]
    unfold Fits at *
    omega
  have hspan := toNat_sub_patterns (a := firstNs) (b := lastNs) (by omega)
  have hgaps : ((rows - 1).toUInt64.toNat : Int) = rows.toInt - 1 := by
    have hcases := toInt_cases (rows - 1)
    omega
  have hquot : (((lastNs.toUInt64 - firstNs.toUInt64) / (rows - 1).toUInt64).toNat : Int) =
      (lastNs.toInt - firstNs.toInt) / (rows.toInt - 1) := by
    rw [UInt64.toNat_div, Int.natCast_ediv, hspan, hgaps]
  have hmax : Int64.maxValue.toUInt64.toNat = 2 ^ 63 - 1 := rfl
  have hinterval := fits_toInt intervalNs
  by_cases hlarge : Int64.maxValue.toUInt64 <
      (lastNs.toUInt64 - firstNs.toUInt64) / (rows - 1).toUInt64
  · simp only [if_pos hlarge]
    rw [UInt64.lt_iff_toNat_lt, hmax] at hlarge
    constructor
    · intro h
      exact absurd ((h 0).trans (h 1).symm) (by decide)
    · rintro ⟨-, -, heq⟩
      unfold Fits at hinterval
      omega
  · simp only [if_neg hlarge, forall_const]
    rw [UInt64.lt_iff_toNat_lt, hmax] at hlarge
    have hsmall : ((lastNs.toUInt64 - firstNs.toUInt64) / (rows - 1).toUInt64).toNat < 2 ^ 63 := by
      omega
    have hcast := toInt_toInt64 hsmall
    rw [← Int64.toInt_inj, hcast, hquot]
    constructor
    · intro h
      exact ⟨hrows, horder, h.symm⟩
    · intro h
      exact h.2.2.symm

/-! What an axis is for: a row where the sum is a timestamp, and rows that cover the span. -/

/-- The row has an instant if and only if it is one of the axis and the sum is a timestamp. -/
def InstantExact (anchorNs intervalNs row : Int64) : Prop :=
  ∀ instant : Int64, syntheticInstant anchorNs intervalNs row = some instant ↔
    0 ≤ row.toInt ∧ instant.toInt = anchorNs.toInt + row.toInt * intervalNs.toInt

/-- Rows from `firstNs` on, each with an instant, in order and inside the span. -/
structure Covers (firstNs lastNs rows intervalNs : Int64) : Prop where
  starts : syntheticInstant firstNs intervalNs 0 = some firstNs
  served : ∀ row, 0 ≤ row.toInt → row.toInt < rows.toInt →
    (syntheticInstant firstNs intervalNs row).isSome
  ordered : ∀ row row' instant instant', row.toInt ≤ row'.toInt →
    syntheticInstant firstNs intervalNs row = some instant →
    syntheticInstant firstNs intervalNs row' = some instant' → instant.toInt ≤ instant'.toInt
  inside : ∀ row instant, row.toInt < rows.toInt →
    syntheticInstant firstNs intervalNs row = some instant →
    firstNs.toInt ≤ instant.toInt ∧ instant.toInt ≤ lastNs.toInt

theorem instantExact_iff {anchorNs intervalNs row : Int64} :
    InstantExact anchorNs intervalNs row ↔
      (0 ≤ row.toInt → Fits (anchorNs.toInt + row.toInt * intervalNs.toInt) →
        Fits (row.toInt * intervalNs.toInt)) := by
  unfold InstantExact
  simp only [syntheticInstant_eq_some_iff, Int.mul_comm intervalNs.toInt]
  constructor
  · intro h hrow hsum
    exact ((h (Int64.ofInt _)).mpr ⟨hrow, toInt_ofInt hsum⟩).2.1
  · intro h instant
    constructor
    · intro hinstant
      exact ⟨hinstant.1, hinstant.2.2⟩
    · rintro ⟨hrow, heq⟩
      refine ⟨hrow, h hrow ?_, heq⟩
      rw [← heq]
      exact fits_toInt instant

/-- A fitted axis covers its span where the offset of the last row fits. -/
theorem covers_iff {firstNs lastNs rows intervalNs : Int64}
    (hfitted : Fitted firstNs lastNs rows intervalNs) :
    Covers firstNs lastNs rows intervalNs ↔
      (rows.toInt - 1) * ((lastNs.toInt - firstNs.toInt) / (rows.toInt - 1)) < 2 ^ 63 := by
  obtain ⟨hrows, horder, hinterval⟩ := fitted_iff.mp hfitted
  have hnonneg : 0 ≤ intervalNs.toInt := by
    rw [hinterval]
    exact Int.ediv_nonneg (by omega) (by omega)
  have hspan : (rows.toInt - 1) * intervalNs.toInt ≤ lastNs.toInt - firstNs.toInt := by
    rw [hinterval]
    exact Int.mul_ediv_self_le (by omega)
  -- the offset of a row is no more than that of the last one
  have hoffset : ∀ row : Int64, 0 ≤ row.toInt → row.toInt < rows.toInt →
      0 ≤ intervalNs.toInt * row.toInt ∧
        intervalNs.toInt * row.toInt ≤ (rows.toInt - 1) * intervalNs.toInt := by
    intro row hrow hlt
    rw [Int.mul_comm intervalNs.toInt]
    exact ⟨Int.mul_nonneg hrow hnonneg, Int.mul_le_mul_of_nonneg_right (by omega) hnonneg⟩
  have hfirst := fits_toInt firstNs
  have hlast := fits_toInt lastNs
  have hzero : (0 : Int64).toInt = 0 := rfl
  rw [← hinterval]
  constructor
  · intro hcovers
    have hlastRow : (rows - 1).toInt = rows.toInt - 1 := by
      have hfits := fits_toInt rows
      have hone : (1 : Int64).toInt = 1 := rfl
      apply toInt_sub
      rw [hone]
      unfold Fits at *
      omega
    obtain ⟨instant, hinstant⟩ :=
      Option.isSome_iff_exists.mp (hcovers.served (rows - 1) (by omega) (by omega))
    obtain ⟨-, hfits, -⟩ := syntheticInstant_eq_some_iff.mp hinstant
    rw [hlastRow, Int.mul_comm] at hfits
    exact hfits.2
  · intro hsmall
    refine ⟨?_, ?_, ?_, ?_⟩
    · rw [syntheticInstant_eq_some_iff, hzero, Int.mul_zero]
      exact ⟨Int.le_refl 0, by unfold Fits; omega, by omega⟩
    · intro row hrow hlt
      obtain ⟨hlow, hhigh⟩ := hoffset row hrow hlt
      have hsum : Fits (firstNs.toInt + intervalNs.toInt * row.toInt) := by
        unfold Fits at *
        omega
      have hinstant : syntheticInstant firstNs intervalNs row = some (Int64.ofInt _) :=
        syntheticInstant_eq_some_iff.mpr
          ⟨hrow, by unfold Fits at *; omega, toInt_ofInt hsum⟩
      rw [hinstant]
      rfl
    · intro row row' instant instant' hle h h'
      obtain ⟨hrow, -, heq⟩ := syntheticInstant_eq_some_iff.mp h
      obtain ⟨-, -, heq'⟩ := syntheticInstant_eq_some_iff.mp h'
      have hmul : intervalNs.toInt * row.toInt ≤ intervalNs.toInt * row'.toInt :=
        Int.mul_le_mul_of_nonneg_left hle hnonneg
      omega
    · intro row instant hlt h
      obtain ⟨hrow, -, heq⟩ := syntheticInstant_eq_some_iff.mp h
      obtain ⟨hlow, hhigh⟩ := hoffset row hrow hlt
      omega

/-- The rows that are served exactly, and the fitted spans that are covered. -/
theorem syntheticAxis_iff (anchorNs intervalNs row firstNs lastNs rows fittedNs : Int64)
    (hfitted : Fitted firstNs lastNs rows fittedNs) :
    (InstantExact anchorNs intervalNs row ↔
      (0 ≤ row.toInt → Fits (anchorNs.toInt + row.toInt * intervalNs.toInt) →
        Fits (row.toInt * intervalNs.toInt))) ∧
      (Covers firstNs lastNs rows fittedNs ↔
        (rows.toInt - 1) * ((lastNs.toInt - firstNs.toInt) / (rows.toInt - 1)) < 2 ^ 63) :=
  ⟨instantExact_iff, covers_iff hfitted⟩

theorem syntheticAxis_quarters :
    Covers 1000 4000 5 750 ∧ InstantExact 1000 750 4 := by
  have hfitted : Fitted 1000 4000 5 750 := fitted_iff.mpr (by decide)
  have haxis := syntheticAxis_iff 1000 750 4 1000 4000 5 750 hfitted
  exact ⟨haxis.2.mpr (by decide), haxis.1.mpr (by decide)⟩

/-- Three rows over all timestamps: the sum of row 2 is the last timestamp but one, and row 2
has no instant. -/
theorem syntheticAxis_lastRowLost :
    Fitted Int64.minValue Int64.maxValue 3 Int64.maxValue ∧
      syntheticInstant Int64.minValue Int64.maxValue 2 = none ∧
      ¬ InstantExact Int64.minValue Int64.maxValue 2 ∧
      ¬ Covers Int64.minValue Int64.maxValue 3 Int64.maxValue := by
  have hfitted : Fitted Int64.minValue Int64.maxValue 3 Int64.maxValue :=
    fitted_iff.mpr (by decide)
  refine ⟨hfitted, by decide, ?_, ?_⟩
  · rw [instantExact_iff]
    decide
  · rw [covers_iff hfitted]
    decide

end PlotJugglerSdk
