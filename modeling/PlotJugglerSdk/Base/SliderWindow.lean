import PlotJugglerSdk.Numeric.Checked

/-!
# The window of a slider

Two handles on a scale of `steps` stand for a half-open window of nanoseconds. The product
of a span and a handle may not fit into 64 bits, so the span is split by the scale into a
quotient and a remainder, and each is scaled by itself.

* `offset_spec`          — a split offset is the exact one, and no step of it overflows
* `sliderToWindow_exact` — the window of two handles, and how two windows lie to each other
-/

namespace PlotJugglerSdk

open Signed

structure SliderWindow where
  startNs : Int64 := 0
  endNs : Int64 := 0
  deriving DecidableEq

namespace SliderWindow

/-- `span * position / steps`, without the product. -/
def offset (span : Int64) (steps position : Int32) : Int64 :=
  span / steps.toInt64 * position.toInt64 +
    span % steps.toInt64 * position.toInt64 / steps.toInt64

/-- `offset` on checked operations: none where one of them overflows. -/
def offsetChecked (span : Int64) (steps position : Int32) : Option Int64 := do
  let quotient ← div span steps.toInt64
  let whole ← mul quotient position.toInt64
  let remainder ← rem span steps.toInt64
  let scaled ← mul remainder position.toInt64
  let part ← div scaled steps.toInt64
  add whole part

end SliderWindow

open SliderWindow

def sliderToWindow (minNs maxNs : Int64) (lower upper steps : Int32) : Option SliderWindow :=
  if maxNs ≤ minNs ∨ steps ≤ 0 ∨ lower < 0 ∨ upper < lower ∨ steps < upper then none
  else
    let spanUnsigned := maxNs.toUInt64 - minNs.toUInt64
    if Int64.maxValue.toUInt64 < spanUnsigned ∨ (upper = steps ∧ maxNs = Int64.maxValue) then none
    else
      let span := spanUnsigned.toInt64
      some {
        startNs := minNs + offset span steps lower
        endNs := if upper = steps then maxNs + 1 else minNs + offset span steps upper }

/-- `sliderToWindow` on checked operations: none where one of them overflows. -/
def sliderToWindowChecked (minNs maxNs : Int64) (lower upper steps : Int32) :
    Option (Option SliderWindow) :=
  if maxNs ≤ minNs ∨ steps ≤ 0 ∨ lower < 0 ∨ upper < lower ∨ steps < upper then some none
  else
    -- taken unsigned, the difference cannot overflow
    let spanUnsigned := maxNs.toUInt64 - minNs.toUInt64
    if Int64.maxValue.toUInt64 < spanUnsigned ∨ (upper = steps ∧ maxNs = Int64.maxValue) then
      some none
    else do
      let span := spanUnsigned.toInt64
      let first ← offsetChecked span steps lower
      let startNs ← add minNs first
      let endNs ←
        -- the windows are half open: one more tick, so that the last frame survives
        if upper = steps then add maxNs 1
        else do
          let last ← offsetChecked span steps upper
          add minNs last
      some (some { startNs, endNs })

/-! ## One offset -/

/-- A handle, exactly. -/
def SliderWindow.scaled (span : Int) (steps position : Int32) : Int :=
  span * position.toInt / steps.toInt

section Offset

variable {span : Int64} {steps position : Int32}

/-- An offset lies in the span, and no operation on the way to it overflows. -/
theorem offset_spec (hspan : 0 ≤ span.toInt) (hsteps : 0 < steps.toInt)
    (hposition : 0 ≤ position.toInt) (hwithin : position.toInt ≤ steps.toInt) :
    offsetChecked span steps position = some (offset span steps position) ∧
      (offset span steps position).toInt = scaled span.toInt steps position ∧
      0 ≤ scaled span.toInt steps position ∧ scaled span.toInt steps position ≤ span.toInt := by
  have hk : steps.toInt64.toInt = steps.toInt := Int32.toInt_toInt64 steps
  have hp : position.toInt64.toInt = position.toInt := Int32.toInt_toInt64 position
  have hk' : 0 < steps.toInt64.toInt := by omega
  have hne : steps.toInt64 ≠ 0 := by
    intro hzero
    rw [hzero] at hk'
    exact absurd hk' (by decide)
  have hsmall := steps.toInt_lt
  obtain ⟨-, hfits⟩ := fits_toInt span
  -- the quotient and the remainder
  have hquotient : (span / steps.toInt64).toInt = span.toInt / steps.toInt := by
    rw [toInt_div (fits_tdiv hk'), hk, Int.tdiv_eq_ediv_of_nonneg hspan]
  have hremainder : (span % steps.toInt64).toInt = span.toInt % steps.toInt := by
    rw [Int64.toInt_mod, hk, Int.tmod_eq_emod_of_nonneg hspan]
  have hq : 0 ≤ span.toInt / steps.toInt := Int.ediv_nonneg hspan (by omega)
  have hr : 0 ≤ span.toInt % steps.toInt := Int.emod_nonneg _ (by omega)
  have hr' : span.toInt % steps.toInt < steps.toInt := Int.emod_lt_of_pos _ hsteps
  -- what is scaled by a handle stays below what is scaled by the whole scale
  have hwhole : 0 ≤ span.toInt / steps.toInt * position.toInt := Int.mul_nonneg hq hposition
  have hscaled : 0 ≤ span.toInt % steps.toInt * position.toInt := Int.mul_nonneg hr hposition
  have hpart : 0 ≤ span.toInt % steps.toInt * position.toInt / steps.toInt :=
    Int.ediv_nonneg hscaled (by omega)
  have hsum := ediv_mul_add_emod_mul_ediv span.toInt position.toInt (by omega : steps.toInt ≠ 0)
  have hle : span.toInt * position.toInt / steps.toInt ≤ span.toInt := by
    have hmul : span.toInt * position.toInt ≤ span.toInt * steps.toInt :=
      Int.mul_le_mul_of_nonneg_left hwithin hspan
    have hdiv := Int.ediv_le_ediv hsteps hmul
    rwa [Int.mul_ediv_cancel _ (by omega)] at hdiv
  have hproduct : span.toInt % steps.toInt * position.toInt ≤ 2 ^ 31 * 2 ^ 31 :=
    Int.mul_le_mul (by omega) (by omega) hposition (by decide)
  -- step by step
  have hfitsWhole : Fits ((span / steps.toInt64).toInt * position.toInt64.toInt) := by
    rw [hquotient, hp]
    unfold Fits
    omega
  have hfitsScaled : Fits ((span % steps.toInt64).toInt * position.toInt64.toInt) := by
    rw [hremainder, hp]
    unfold Fits
    omega
  have hwhole' := toInt_mul hfitsWhole
  have hscaled' := toInt_mul hfitsScaled
  rw [hquotient, hp] at hwhole'
  rw [hremainder, hp] at hscaled'
  have hpart' : (span % steps.toInt64 * position.toInt64 / steps.toInt64).toInt =
      span.toInt % steps.toInt * position.toInt / steps.toInt := by
    rw [toInt_div (fits_tdiv hk'), hscaled', hk, Int.tdiv_eq_ediv_of_nonneg hscaled]
  have hfitsSum : Fits ((span / steps.toInt64 * position.toInt64).toInt +
      (span % steps.toInt64 * position.toInt64 / steps.toInt64).toInt) := by
    rw [hwhole', hpart']
    unfold Fits
    omega
  refine ⟨?_, ?_, ?_, hle⟩
  · unfold offsetChecked offset
    rw [div_eq hne (fits_tdiv hk'), Option.bind_eq_bind, Option.bind_some, mul_eq hfitsWhole,
      Option.bind_some, rem_eq hne (fits_tdiv hk'), Option.bind_some, mul_eq hfitsScaled,
      Option.bind_some, div_eq hne (fits_tdiv hk'), Option.bind_some, add_eq hfitsSum]
  · unfold offset scaled
    rw [toInt_add hfitsSum, hwhole', hpart', hsum]
  · unfold scaled
    omega

end Offset

/-! ## Windows -/

section Window

variable {minNs maxNs : Int64} {steps lower upper : Int32}

/-- The window of two handles: its ends, and that no operation on the way to them overflows. -/
theorem sliderToWindow_spec (hrange : minNs.toInt < maxNs.toInt) (hmax : maxNs.toInt < 2 ^ 63 - 1)
    (hspan : maxNs.toInt - minNs.toInt < 2 ^ 63) (hsteps : 0 < steps.toInt)
    (hlower : 0 ≤ lower.toInt) (hordered : lower.toInt ≤ upper.toInt)
    (hupper : upper.toInt ≤ steps.toInt) :
    sliderToWindowChecked minNs maxNs lower upper steps =
        some (sliderToWindow minNs maxNs lower upper steps) ∧
      ∃ window, sliderToWindow minNs maxNs lower upper steps = some window ∧
        window.startNs.toInt = minNs.toInt + scaled (maxNs.toInt - minNs.toInt) steps lower ∧
        window.endNs.toInt =
          if upper = steps then maxNs.toInt + 1
          else minNs.toInt + scaled (maxNs.toInt - minNs.toInt) steps upper := by
  have hzero : (0 : Int32).toInt = 0 := rfl
  have hone : (1 : Int64).toInt = 1 := rfl
  have hvalid : ¬(maxNs ≤ minNs ∨ steps ≤ 0 ∨ lower < 0 ∨ upper < lower ∨ steps < upper) := by
    simp only [Int64.le_iff_toInt_le, Int32.le_iff_toInt_le, Int32.lt_iff_toInt_lt, hzero]
    omega
  -- the difference of the patterns is the span
  have hpatterns := toNat_sub_patterns (Int.le_of_lt hrange)
  have hsmall : (maxNs.toUInt64 - minNs.toUInt64).toNat < 2 ^ 63 := by omega
  have hspan' := toInt_toInt64 hsmall
  rw [hpatterns] at hspan'
  have hfits : ¬(Int64.maxValue.toUInt64 < maxNs.toUInt64 - minNs.toUInt64 ∨
      (upper = steps ∧ maxNs = Int64.maxValue)) := by
    rintro (hlarge | ⟨-, rfl⟩)
    · rw [UInt64.lt_iff_toNat_lt] at hlarge
      have hlimit : Int64.maxValue.toUInt64.toNat = 2 ^ 63 - 1 := rfl
      omega
    · rw [Int64.toInt_maxValue] at hmax
      omega
  have hspanFits : 0 ≤ (maxNs.toUInt64 - minNs.toUInt64).toInt64.toInt := by omega
  obtain ⟨hfirst, hfirstExact, hfirstLow, hfirstHigh⟩ :=
    offset_spec hspanFits hsteps hlower (Int.le_trans hordered hupper)
  obtain ⟨hlast, hlastExact, hlastLow, hlastHigh⟩ :=
    offset_spec hspanFits hsteps (Int.le_trans hlower hordered) hupper
  obtain ⟨hminLow, -⟩ := fits_toInt minNs
  have hstart : Fits (minNs.toInt +
      (offset (maxNs.toUInt64 - minNs.toUInt64).toInt64 steps lower).toInt) := by
    rw [hfirstExact]
    unfold Fits
    omega
  have hend : Fits (minNs.toInt +
      (offset (maxNs.toUInt64 - minNs.toUInt64).toInt64 steps upper).toInt) := by
    rw [hlastExact]
    unfold Fits
    omega
  have hafter : Fits (maxNs.toInt + (1 : Int64).toInt) := by
    rw [hone]
    unfold Fits
    omega
  rw [← hspan', ← hfirstExact, ← hlastExact]
  unfold sliderToWindowChecked sliderToWindow
  rw [if_neg hvalid, if_neg hvalid]
  dsimp only
  rw [if_neg hfits, if_neg hfits, hfirst, Option.bind_eq_bind, Option.bind_some, add_eq hstart,
    Option.bind_some]
  by_cases hfull : upper = steps
  · rw [if_pos hfull, if_pos hfull, if_pos hfull, add_eq hafter]
    refine ⟨rfl, _, rfl, toInt_add hstart, ?_⟩
    rw [toInt_add hafter, hone]
  · rw [if_neg hfull, if_neg hfull, if_neg hfull, hlast, Option.bind_some, add_eq hend]
    exact ⟨rfl, _, rfl, toInt_add hstart, toInt_add hend⟩

/-- A larger handle is not scaled to less. -/
theorem scaled_mono {span : Int} {position position' : Int32} (hspan : 0 ≤ span)
    (hsteps : 0 < steps.toInt) (h : position.toInt ≤ position'.toInt) :
    scaled span steps position ≤ scaled span steps position' :=
  Int.ediv_le_ediv hsteps (Int.mul_le_mul_of_nonneg_left h hspan)

theorem scaled_zero (span : Int) (steps : Int32) : scaled span steps 0 = 0 := by
  unfold scaled
  rw [show (0 : Int32).toInt = 0 from rfl, Int.mul_zero, Int.zero_ediv]

/-- Two windows of one slider: no operation overflows, both are the floors of the exact ends,
and the windows are ordered as their handles are; where one's upper handle is the other's
lower one, the two meet; and the whole scale is the whole range. -/
theorem sliderToWindow_exact {lower' upper' : Int32} (hrange : minNs < maxNs)
    (hmax : maxNs < Int64.maxValue) (hspan : maxNs.toInt - minNs.toInt ≤ Int64.maxValue.toInt)
    (hsteps : 0 < steps) (hlower : 0 ≤ lower) (hordered : lower ≤ upper) (hupper : upper ≤ steps)
    (hlower' : 0 ≤ lower') (hordered' : lower' ≤ upper') (hupper' : upper' ≤ steps) :
    sliderToWindowChecked minNs maxNs lower upper steps =
        some (sliderToWindow minNs maxNs lower upper steps) ∧
      ∃ window window', sliderToWindow minNs maxNs lower upper steps = some window ∧
        sliderToWindow minNs maxNs lower' upper' steps = some window' ∧
        window.startNs.toInt =
          minNs.toInt + (maxNs.toInt - minNs.toInt) * lower.toInt / steps.toInt ∧
        (upper < steps → window.endNs.toInt =
          minNs.toInt + (maxNs.toInt - minNs.toInt) * upper.toInt / steps.toInt) ∧
        (upper = steps → window.endNs.toInt = maxNs.toInt + 1) ∧
        (lower ≤ lower' → window.startNs ≤ window'.startNs) ∧
        (upper ≤ upper' → window.endNs ≤ window'.endNs) ∧
        (upper < steps → lower' = upper → window.endNs = window'.startNs) ∧
        (lower = 0 → upper = steps → window.startNs = minNs ∧ window.endNs = maxNs + 1) := by
  rw [Int64.lt_iff_toInt_lt] at hrange hmax
  rw [Int64.toInt_maxValue] at hmax hspan
  simp only [Int32.lt_iff_toInt_lt, Int32.le_iff_toInt_le, show (0 : Int32).toInt = 0 from rfl] at *
  have hspan' : 0 ≤ maxNs.toInt - minNs.toInt := by omega
  -- both windows as the floors of their exact ends
  obtain ⟨hchecked, window, hwindow, hstart, hend⟩ :=
    sliderToWindow_spec hrange hmax (by omega) hsteps hlower hordered hupper
  obtain ⟨-, window', hwindow', hstart', hend'⟩ :=
    sliderToWindow_spec hrange hmax (by omega) hsteps hlower' hordered' hupper'
  -- no handle inside the scale is placed behind the range
  have hbelow (position : Int32) (hwithin : position.toInt ≤ steps.toInt) :
      scaled (maxNs.toInt - minNs.toInt) steps position ≤ maxNs.toInt - minNs.toInt := by
    have hmono := scaled_mono hspan' hsteps hwithin
    unfold scaled at hmono ⊢
    rwa [Int.mul_ediv_cancel _ (by omega)] at hmono
  refine ⟨hchecked, window, window', hwindow, hwindow', hstart, fun hbefore => ?_, fun hfull => ?_,
    fun hlowers => ?_, fun huppers => ?_, fun hbefore hmeet => ?_, fun hfirst hfull => ?_⟩
  · rw [if_neg (fun hfull => by rw [hfull] at hbefore; omega)] at hend
    exact hend
  · rw [if_pos hfull] at hend
    exact hend
  · have hmono := scaled_mono hspan' hsteps hlowers
    rw [Int64.le_iff_toInt_le]
    omega
  · have hmono := scaled_mono hspan' hsteps huppers
    have hlast := hbelow upper hupper
    rw [Int64.le_iff_toInt_le]
    -- the full scale ends one behind the range, so the last handle is a case of its own
    by_cases hfull : upper = steps
    · have hfull' : upper' = steps := Int32.toInt_inj.mp (by rw [hfull] at huppers; omega)
      rw [if_pos hfull] at hend
      rw [if_pos hfull'] at hend'
      omega
    · rw [if_neg hfull] at hend
      split at hend' <;> omega
  · rw [if_neg (fun hfull => by rw [hfull] at hbefore; omega)] at hend
    rw [hmeet] at hstart'
    exact Int64.toInt_inj.mp (hend.trans hstart'.symm)
  · rw [if_pos hfull] at hend
    rw [hfirst, scaled_zero] at hstart
    have hone : (1 : Int64).toInt = 1 := rfl
    -- the sum is exact, the range ends before the greatest value
    have hafter : Fits (maxNs.toInt + (1 : Int64).toInt) := by
      rw [hone]
      obtain ⟨hlow, -⟩ := fits_toInt maxNs
      unfold Fits
      omega
    have hexact := toInt_add hafter
    exact ⟨Int64.toInt_inj.mp (by omega), Int64.toInt_inj.mp (by omega)⟩

/-- Seven hours, a third and two thirds of the scale. -/
theorem sliderToWindow_exact_thirds :
    ∃ window window', sliderToWindow 1779209029609533992 1779235502659755586 0 1 3 = some window ∧
      sliderToWindow 1779209029609533992 1779235502659755586 1 2 3 = some window' ∧
      window.endNs = window'.startNs := by
  obtain ⟨-, window, window', hwindow, hwindow', -, -, -, -, -, hmeet, -⟩ :=
    @sliderToWindow_exact 1779209029609533992 1779235502659755586 3 0 1 1 2 (by decide) (by decide)
      (by decide) (by decide) (by decide) (by decide) (by decide) (by decide) (by decide)
        (by decide)
  exact ⟨window, window', hwindow, hwindow', hmeet (by decide) rfl⟩

end Window

end PlotJugglerSdk
