import CallScript.Number.Binary64
import Mathlib.Data.Nat.Dist
import Mathlib.Tactic.Ring

/-!
# Rounding

Every number that is not missing is a whole count of units.  Written as a significand with
a spacing, `significand * 2 ^ spacing`, the count grows with the magnitude, and the
magnitude of infinity belongs to the count that would follow the largest finite one.

A ratio of units is rounded to the nearest number, and to the one of even magnitude when
it lies halfway between two; with infinity counted as above, this includes the ratios that
are too large.  The main statement is `Binary64.ofRatio_isNearest`.  Nothing but the number
itself is nearest to a ratio that is a number, `Binary64.IsNearest.units_eq`.
-/

namespace CallScript

namespace Binary64

/-! ## Magnitudes -/

theorem magnitude_ofMagnitude
    (negative : Bool)
    (magnitude : Nat) :
    (ofMagnitude negative magnitude).magnitude = min magnitude infiniteMagnitude := by
  simp only [Binary64.magnitude, ofMagnitude, Fin.ofNat, infiniteMagnitude, fractions]
  omega

theorem isNaN_ofMagnitude
    (negative : Bool)
    (magnitude : Nat) :
    (ofMagnitude negative magnitude).isNaN = false := by
  rw [isNaN, magnitude_ofMagnitude, decide_eq_false_iff_not, Nat.not_lt]
  exact Nat.min_le_right _ _

theorem isNaN_eq_false_iff
    {number : Binary64} :
    number.isNaN = false ↔ number.magnitude ≤ infiniteMagnitude := by
  rw [isNaN, decide_eq_false_iff_not, Nat.not_lt]

/-- A number is determined by its sign and its magnitude. -/
theorem eq_of_magnitude_eq
    {left right : Binary64}
    (sameSign : left.negative = right.negative)
    (sameMagnitude : left.magnitude = right.magnitude) :
    left = right := by
  rcases left with ⟨leftSign, ⟨leftExponent, _⟩, ⟨leftFraction, _⟩⟩
  rcases right with ⟨rightSign, ⟨rightExponent, _⟩, ⟨rightFraction, _⟩⟩
  obtain rfl : leftSign = rightSign := sameSign
  simp only [magnitude, fractions] at sameMagnitude
  obtain rfl : leftExponent = rightExponent := by omega
  obtain rfl : leftFraction = rightFraction := by omega
  rfl

/-! ## Units -/

/-- The spacing of the numbers around a number, as a power of two. -/
def spacing (number : Binary64) : Nat :=
  number.exponent.val - 1

theorem units_eq
    (number : Binary64) :
    number.units = number.significand * 2 ^ number.spacing :=
  rfl

theorem magnitude_eq
    (number : Binary64) :
    number.magnitude = number.spacing * fractions + number.significand := by
  rw [magnitude, spacing, significand]
  split
  · rename_i lowest
    rw [lowest]
  · rename_i normal
    obtain ⟨further, exponent⟩ := Nat.exists_eq_succ_of_ne_zero normal
    rw [exponent, Nat.succ_sub_one, Nat.succ_mul, Nat.add_assoc]

theorem significand_lt
    (number : Binary64) :
    number.significand < 2 * fractions := by
  have fraction := number.fraction.isLt
  rw [significand, fractions]
  split
  · omega
  · omega

/-- Only the significands of the smallest spacing may lack the leading one. -/
theorem fractions_le_significand
    {number : Binary64}
    (spaced : number.spacing ≠ 0) :
    fractions ≤ number.significand := by
  rw [significand, if_neg fun lowest => spaced (by rw [spacing, lowest])]
  exact Nat.le_add_right _ _

/--
The units of a magnitude that is divided into a spacing and a significand.  The significand
may also be the first one that is too long; the magnitude is then that of the number with the
next spacing.
-/
theorem units_of_magnitude
    {number : Binary64}
    {spacing significand : Nat}
    (divided : number.magnitude = spacing * fractions + significand)
    (short : significand ≤ 2 * fractions)
    (long : spacing ≠ 0 → fractions ≤ significand) :
    number.units = significand * 2 ^ spacing := by
  have own := number.magnitude_eq
  have ownShort := number.significand_lt
  have ownLong := number.fractions_le_significand
  rw [divided] at own
  rw [number.units_eq]
  simp only [fractions] at own short long ownShort ownLong
  rcases Nat.lt_trichotomy number.spacing spacing with less | same | more
  · omega
  · obtain rfl : number.significand = significand := by omega
    rw [same]
  · obtain ⟨next, first, tooLong⟩ :
        number.spacing = spacing + 1 ∧
          number.significand = 4503599627370496 ∧ significand = 2 * 4503599627370496 := by
      omega
    rw [next, first, tooLong, Nat.pow_succ]
    ring

/-- A number lies below every significand with the leading one at a wider spacing. -/
theorem units_lt_of_spacing_lt
    {number : Binary64}
    {spacing : Nat}
    (wider : number.spacing < spacing) :
    number.units < fractions * 2 ^ spacing := by
  calc
    number.units < 2 * fractions * 2 ^ number.spacing := by
      rw [number.units_eq]
      exact Nat.mul_lt_mul_of_pos_right number.significand_lt (Nat.two_pow_pos _)
    _ = fractions * 2 ^ (number.spacing + 1) := by
      rw [Nat.pow_succ]
      ring
    _ ≤ fractions * 2 ^ spacing := by
      exact Nat.mul_le_mul_left _ (Nat.pow_le_pow_right (by decide) wider)

/-- Otherwise the number is itself a multiple of the spacing. -/
theorem exists_units_eq_of_spacing_le
    {number : Binary64}
    {spacing : Nat}
    (narrow : spacing ≤ number.spacing) :
    ∃ multiple, number.units = multiple * 2 ^ spacing := by
  refine ⟨number.significand * 2 ^ (number.spacing - spacing), ?_⟩
  rw [number.units_eq, Nat.mul_assoc, ← Nat.pow_add, Nat.sub_add_cancel narrow]

theorem units_eq_zero_iff
    {number : Binary64} :
    number.units = 0 ↔ number.magnitude = 0 := by
  have long := number.fractions_le_significand
  rw [number.units_eq, Nat.mul_eq_zero, number.magnitude_eq]
  simp only [fractions] at long ⊢
  constructor
  · rintro (zero | impossible)
    · omega
    · exact absurd impossible (Nat.ne_of_gt (Nat.two_pow_pos _))
  · intro zero
    exact .inl (by omega)

theorem units_zero
    (negative : Bool) :
    (Binary64.zero negative).units = 0 :=
  units_eq_zero_iff.2 (magnitude_ofMagnitude _ _)

theorem units_of_infiniteMagnitude
    {number : Binary64}
    (infinite : number.magnitude = infiniteMagnitude) :
    number.spacing = 2046 ∧ number.units = fractions * 2 ^ number.spacing := by
  have own := number.magnitude_eq
  have short := number.significand_lt
  have long := number.fractions_le_significand
  rw [infinite, infiniteMagnitude] at own
  rw [number.units_eq]
  simp only [fractions] at own short long ⊢
  obtain ⟨widest, first⟩ :
      number.spacing = 2046 ∧ number.significand = 4503599627370496 := by
    omega
  exact ⟨widest, by rw [first]⟩

theorem units_le_of_infiniteMagnitude
    {number other : Binary64}
    (infinite : number.magnitude = infiniteMagnitude)
    (valued : other.isNaN = false) :
    other.units ≤ number.units := by
  obtain ⟨widest, units⟩ := units_of_infiniteMagnitude infinite
  by_cases wider : other.spacing < number.spacing
  · rw [units]
    exact Nat.le_of_lt (units_lt_of_spacing_lt wider)
  · have otherInfinite : other.magnitude = infiniteMagnitude := by
      have bound := isNaN_eq_false_iff.1 valued
      have own := other.magnitude_eq
      have long := other.fractions_le_significand
      simp only [infiniteMagnitude, fractions] at bound own long ⊢
      omega
    obtain ⟨otherWidest, otherUnits⟩ := units_of_infiniteMagnitude otherInfinite
    rw [units, otherUnits, widest, otherWidest]

/-- The sign and the units determine a number that is not missing. -/
theorem eq_of_units_eq
    {left right : Binary64}
    (sameSign : left.negative = right.negative)
    (sameUnits : left.units = right.units) :
    left = right := by
  have apart
      (number other : Binary64)
      (wider : number.spacing < other.spacing) :
      number.units < other.units := by
    apply Nat.lt_of_lt_of_le (units_lt_of_spacing_lt wider)
    rw [other.units_eq]
    exact Nat.mul_le_mul_right _ (fractions_le_significand (Nat.ne_zero_of_lt wider))
  have sameSpacing : left.spacing = right.spacing := by
    rcases Nat.lt_trichotomy left.spacing right.spacing with less | same | more
    · exact absurd sameUnits (Nat.ne_of_lt (apart left right less))
    · exact same
    · exact absurd sameUnits.symm (Nat.ne_of_lt (apart right left more))
  apply eq_of_magnitude_eq sameSign
  rw [left.units_eq, right.units_eq, sameSpacing] at sameUnits
  rw [left.magnitude_eq, right.magnitude_eq, sameSpacing,
    Nat.eq_of_mul_eq_mul_right (Nat.two_pow_pos _) sameUnits]

/-! ## Rounding to a multiple -/

/-- A quotient is rounded down or up, to the closer side or else to the even one. -/
theorem roundedQuotient_cases
    (numerator denominator : Nat) :
    roundedQuotient numerator denominator = numerator / denominator ∧
        2 * (numerator % denominator) ≤ denominator ∧
        (2 * (numerator % denominator) = denominator → numerator / denominator % 2 = 0) ∨
      roundedQuotient numerator denominator = numerator / denominator + 1 ∧
        denominator ≤ 2 * (numerator % denominator) ∧
        (2 * (numerator % denominator) = denominator → numerator / denominator % 2 = 1) := by
  simp only [roundedQuotient]
  split
  · rename_i down
    exact .inl ⟨rfl, Nat.le_of_lt down, fun halfway => absurd halfway (Nat.ne_of_lt down)⟩
  split
  · rename_i up
    exact .inr ⟨rfl, Nat.le_of_lt up, fun halfway => absurd halfway.symm (Nat.ne_of_lt up)⟩
  · rcases Nat.mod_two_eq_zero_or_one (numerator / denominator) with even | odd
    · exact .inl ⟨by omega, by omega, fun _ => even⟩
    · exact .inr ⟨by omega, by omega, fun _ => odd⟩

/-- Distinct multiples are a whole denominator apart at least. -/
theorem add_le_of_lt
    {less more : Nat}
    (apart : less < more)
    (denominator : Nat) :
    less * denominator + denominator ≤ more * denominator := by
  rw [← Nat.succ_mul]
  exact Nat.mul_le_mul_right _ apart

/-- The rounded multiple of the denominator is the closest one, or one of two and even. -/
theorem dist_roundedQuotient
    (numerator multiple : Nat)
    {denominator : Nat}
    (positive : 0 < denominator) :
    multiple = roundedQuotient numerator denominator ∨
      Nat.dist (roundedQuotient numerator denominator * denominator) numerator <
        Nat.dist (multiple * denominator) numerator ∨
      Nat.dist (roundedQuotient numerator denominator * denominator) numerator =
          Nat.dist (multiple * denominator) numerator ∧
        roundedQuotient numerator denominator % 2 = 0 := by
  have divided := Nat.div_add_mod' numerator denominator
  have remainder := Nat.mod_lt numerator positive
  have upper : (numerator / denominator + 1) * denominator =
      numerator / denominator * denominator + denominator := Nat.succ_mul _ _
  rcases Nat.lt_trichotomy multiple (roundedQuotient numerator denominator) with
    less | same | more
  · have below := add_le_of_lt less denominator
    right
    simp only [Nat.dist]
    rcases roundedQuotient_cases numerator denominator with
      ⟨rounded, closer, tie⟩ | ⟨rounded, closer, tie⟩
    all_goals
      rw [rounded] at below ⊢
      omega
  · exact .inl same
  · have above := add_le_of_lt more denominator
    right
    simp only [Nat.dist]
    rcases roundedQuotient_cases numerator denominator with
      ⟨rounded, closer, tie⟩ | ⟨rounded, closer, tie⟩
    all_goals
      rw [rounded] at above ⊢
      omega

/-! ## The nearest number -/

/--
The number is nearest to a ratio of units, and the even one of two that are.  Infinity
counts as the number that would follow the largest finite one.
-/
structure IsNearest (number : Binary64) (numerator denominator : Nat) : Prop where
  /-- The number has a value. -/
  isNaN_eq_false : number.isNaN = false
  /-- No other number is closer, and an odd one is closer than all others. -/
  closest (other : Binary64) :
    other.isNaN = false →
      other.units = number.units ∨
        Nat.dist (number.units * denominator) numerator <
          Nat.dist (other.units * denominator) numerator ∨
        Nat.dist (number.units * denominator) numerator =
            Nat.dist (other.units * denominator) numerator ∧
          number.magnitude % 2 = 0

theorem fractions_eq :
    fractions = 2 ^ 52 :=
  rfl

/-- Measured by the spacing around it, a ratio has the digits of a significand. -/
theorem div_spacing_bounds
    (quotient : Nat) :
    quotient / 2 ^ (Nat.log2 quotient - 52) < 2 * fractions ∧
      (Nat.log2 quotient - 52 ≠ 0 → fractions ≤ quotient / 2 ^ (Nat.log2 quotient - 52)) := by
  constructor
  · rw [Nat.div_lt_iff_lt_mul (Nat.two_pow_pos _), fractions_eq, ← Nat.pow_succ', ← Nat.pow_add]
    apply Nat.lt_of_lt_of_le Nat.lt_log2_self
    exact Nat.pow_le_pow_right (by decide) (by omega)
  · intro spaced
    have nonzero : quotient ≠ 0 := by
      rintro rfl
      exact spaced rfl
    rw [Nat.le_div_iff_mul_le (Nat.two_pow_pos _), fractions_eq, ← Nat.pow_add,
      show 52 + (Nat.log2 quotient - 52) = Nat.log2 quotient by omega]
    exact Nat.log2_self_le nonzero

/-- A ratio is rounded to a multiple of a spacing by which it has the digits of a significand. -/
theorem exists_spacing
    (numerator denominator : Nat) :
    ∃ spacing,
      let rounded := roundedQuotient numerator (denominator * 2 ^ spacing)
      roundedMagnitude numerator denominator = spacing * fractions + rounded ∧
        rounded ≤ 2 * fractions ∧
        (spacing ≠ 0 →
          fractions ≤ rounded ∧ fractions * 2 ^ spacing * denominator ≤ numerator) := by
  refine ⟨Nat.log2 (numerator / denominator) - 52, rfl, ?_⟩
  have bounds := div_spacing_bounds (numerator / denominator)
  generalize Nat.log2 (numerator / denominator) - 52 = spacing at bounds ⊢
  rw [Nat.div_div_eq_div_mul] at bounds
  rcases bounds with ⟨short, long⟩
  have cases := roundedQuotient_cases numerator (denominator * 2 ^ spacing)
  refine ⟨by omega, fun spaced => ⟨?_, ?_⟩⟩
  · have := long spaced
    omega
  · calc
      fractions * 2 ^ spacing * denominator = fractions * (denominator * 2 ^ spacing) := by ring
      _ ≤ numerator / (denominator * 2 ^ spacing) * (denominator * 2 ^ spacing) :=
        Nat.mul_le_mul_right _ (long spaced)
      _ ≤ numerator := Nat.div_mul_le_self _ _

/-- A smaller count of units is farther from a ratio that lies above. -/
theorem dist_lt_of_units_lt
    {less more numerator denominator : Nat}
    (positive : 0 < denominator)
    (apart : less < more)
    (below : more * denominator ≤ numerator) :
    Nat.dist (more * denominator) numerator < Nat.dist (less * denominator) numerator := by
  have further := add_le_of_lt apart denominator
  simp only [Nat.dist]
  omega

/-- A ratio that is not even half a unit is nearest to zero. -/
theorem isNearest_of_units_eq_zero
    {number : Binary64}
    {numerator denominator : Nat}
    (valued : number.isNaN = false)
    (zero : number.units = 0)
    (small : 2 * numerator < denominator) :
    number.IsNearest numerator denominator := by
  refine ⟨valued, fun other _ => ?_⟩
  rw [zero]
  rcases Nat.eq_zero_or_pos other.units with same | more
  · exact .inl same
  · have further := add_le_of_lt more denominator
    simp only [Nat.dist]
    omega

/-- A ratio that lies above infinity is nearest to infinity. -/
theorem isNearest_of_infiniteMagnitude
    {number : Binary64}
    {numerator denominator : Nat}
    (infinite : number.magnitude = infiniteMagnitude)
    (positive : 0 < denominator)
    (below : number.units * denominator ≤ numerator) :
    number.IsNearest numerator denominator := by
  refine ⟨isNaN_eq_false_iff.2 (Nat.le_of_eq infinite), fun other valued => ?_⟩
  rcases Nat.eq_or_lt_of_le (units_le_of_infiniteMagnitude infinite valued) with same | less
  · exact .inl same
  · exact .inr (.inl (dist_lt_of_units_lt positive less below))

theorem isNearest_roundedMagnitude
    (negative : Bool)
    (numerator : Nat)
    {denominator : Nat}
    (positive : 0 < denominator) :
    IsNearest (ofMagnitude negative (roundedMagnitude numerator denominator)) numerator
      denominator := by
  obtain ⟨spacing, rounded, short, long⟩ := exists_spacing numerator denominator
  have magnitude := magnitude_ofMagnitude negative (roundedMagnitude numerator denominator)
  have valued := isNaN_ofMagnitude negative (roundedMagnitude numerator denominator)
  generalize ofMagnitude negative (roundedMagnitude numerator denominator) = number
    at magnitude valued ⊢
  by_cases fits : roundedMagnitude numerator denominator ≤ infiniteMagnitude
  case neg =>
    rw [Nat.min_eq_right (Nat.le_of_not_le fits)] at magnitude
    obtain ⟨widest, units⟩ := units_of_infiniteMagnitude magnitude
    have wide : number.spacing ≤ spacing ∧ spacing ≠ 0 := by
      simp only [infiniteMagnitude, fractions] at fits rounded short
      omega
    apply isNearest_of_infiniteMagnitude magnitude positive
    rw [units]
    refine Nat.le_trans ?_ (long wide.2).2
    apply Nat.mul_le_mul_right
    apply Nat.mul_le_mul_left
    exact Nat.pow_le_pow_right Nat.two_pos wide.1
  case pos =>
    refine ⟨valued, fun other _ => ?_⟩
    rw [Nat.min_eq_left fits, rounded] at magnitude
    have units := units_of_magnitude magnitude short fun spaced => (long spaced).1
    have measured
        (multiple : Nat) :
        multiple * (denominator * 2 ^ spacing) = multiple * 2 ^ spacing * denominator := by
      ring
    have step : 0 < denominator * 2 ^ spacing := Nat.mul_pos positive (Nat.two_pow_pos _)
    by_cases narrow : spacing ≤ other.spacing
    · obtain ⟨multiple, otherUnits⟩ := exists_units_eq_of_spacing_le narrow
      rw [units, otherUnits, ← measured, ← measured]
      rcases dist_roundedQuotient numerator multiple step with same | closer | ⟨halfway, even⟩
      · rw [same]
        exact .inl rfl
      · exact .inr (.inl closer)
      · refine .inr (.inr ⟨halfway, ?_⟩)
        simp only [fractions] at magnitude
        omega
    · -- Such a number lies below a multiple that the ratio has passed.
      have wider := Nat.lt_of_not_le narrow
      have farther :=
        dist_lt_of_units_lt positive (units_lt_of_spacing_lt wider)
          (long (Nat.ne_zero_of_lt wider)).2
      rw [← measured] at farther
      rw [units, ← measured]
      refine .inr (.inl (Nat.lt_of_le_of_lt ?_ farther))
      rcases dist_roundedQuotient numerator fractions step with same | closer | ⟨halfway, -⟩
      · rw [← same]
      · exact Nat.le_of_lt closer
      · exact Nat.le_of_eq halfway

/-- A ratio is rounded to the nearest number, and to the even one of two. -/
theorem ofRatio_isNearest
    (negative : Bool)
    (numerator : Nat)
    {denominator : Nat}
    (positive : 0 < denominator) :
    IsNearest (ofRatio negative numerator denominator) (numerator * unitsInOne) denominator :=
  isNearest_roundedMagnitude negative (numerator * unitsInOne) positive

/-- Nothing is nearer to a number than the number itself. -/
theorem IsNearest.units_eq
    {number other : Binary64}
    {numerator denominator : Nat}
    (nearest : number.IsNearest numerator denominator)
    (positive : 0 < denominator)
    (valued : other.isNaN = false)
    (exact : numerator = other.units * denominator) :
    number.units = other.units := by
  have there : Nat.dist (other.units * denominator) numerator = 0 := by
    rw [exact, Nat.dist_self]
  rcases nearest.closest other valued with same | closer | ⟨halfway, -⟩
  · exact same.symm
  · rw [there] at closer
    exact absurd closer (Nat.not_lt_zero _)
  · rw [there] at halfway
    exact Nat.eq_of_mul_eq_mul_right positive ((Nat.eq_of_dist_eq_zero halfway).trans exact)

end Binary64

end CallScript
