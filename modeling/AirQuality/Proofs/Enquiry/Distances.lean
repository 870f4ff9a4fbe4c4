import AirQuality.Geo
import AirQuality.Proofs.Number.Bounds

/-!
# Distances between points on the globe

The haversine formula has a value for a point on the globe and one whose coordinates are finite:
none of its steps leaves the range that the next one needs, although each step is rounded. One step
can do so if the second point lies beyond a pole, where a cosine is negative: the sum can be rounded
to less than zero. For a coordinate that is not finite the formula fails, or its value is NaN.

## Key results

- `distanceBy_eq_ok_iff`: when there is a distance
- `not_roundsBelowZero`: the sum is not negative between the poles
- `exists_distance_iff`: when there is a distance that is not negative
-/

namespace AirQuality

open Number (Unsigned UpTo value scale limit units)

/-! ## The library -/

/-- A quarter of a turn in radians. -/
def quarterTurn : Float := 1.5707963267948966

/-- What is relied on of the functions of a mathematical library. That their values are rounded does
not matter: the bounds are doubles themselves. -/
structure Elementary.Laws (f : Elementary) : Prop where
  sin_between : ∀ x, x.isFinite = true → -1.0 ≤ f.sin x ∧ f.sin x ≤ 1.0
  cos_between : ∀ x, x.isFinite = true → -1.0 ≤ f.cos x ∧ f.cos x ≤ 1.0
  /-- The cosine of an acute angle has no minus sign. The double for a quarter of a turn is less than
  that, and its cosine is positive. -/
  cos_unsigned : ∀ x, -quarterTurn ≤ x → x ≤ quarterTurn → Unsigned (f.cos x)
  square_between : ∀ x, -1.0 ≤ x → x ≤ 1.0 → Unsigned (f.square x) ∧ f.square x ≤ 1.0
  /-- The angle of a point in the first quadrant is not negative. It is zero, of either sign, on the
  first axis, but only if the axis is not the one to the left. -/
  atan2_nonneg : ∀ y x, 0.0 ≤ y → Unsigned x → 0.0 ≤ f.atan2 y x
  /-- NaN comes through all of the functions. -/
  sin_number : ∀ x, (f.sin x).isNaN = false → x.isNaN = false
  square_number : ∀ x, (f.square x).isNaN = false → x.isNaN = false
  atan2_number : ∀ y x, (f.atan2 y x).isNaN = false → y.isNaN = false

/-! ## The formula -/

/-- There is a sine unless the angle is infinite. -/
theorem Elementary.sine_eq_ok_iff {f : Elementary} {x y : Float} :
    f.sine x = .ok y ↔ x.isInf = false ∧ f.sin x = y := by
  unfold Elementary.sine
  -- Only the angle decides, whatever the function gives for it.
  cases x.isInf <;> simp

/-- There is a cosine unless the angle is infinite. -/
theorem Elementary.cosine_eq_ok_iff {f : Elementary} {x y : Float} :
    f.cosine x = .ok y ↔ x.isInf = false ∧ f.cos x = y := by
  unfold Elementary.cosine
  cases x.isInf <;> simp

/-- There is a square root unless the double is negative. -/
theorem squareRoot_eq_ok_iff {x y : Float} : squareRoot x = .ok y ↔ ¬x < 0.0 ∧ x.sqrt = y := by
  unfold squareRoot
  split <;> simp [*]

section Formula

variable (f : Elementary) (x₁ y₁ x₂ y₂ : Float)

/-- Half of the difference of two coordinates in radians. -/
def halfAngle (a b : Float) : Float := radians (b - a) / 2.0

/-- The haversine of the angle between two points. -/
def haversine : Float :=
  f.square (f.sin (halfAngle x₁ x₂)) +
    f.cos (radians x₁) * f.cos (radians x₂) * f.square (f.sin (halfAngle y₁ y₂))

/-- What is left of one, or zero. -/
def remainder (a : Float) : Float := if 0.0 < 1.0 - a then 1.0 - a else 0.0

/-- The distance for the haversine of an angle. -/
def arcKm (a : Float) : Float :=
  earthRadiusKm * (2.0 * f.atan2 a.sqrt (remainder a).sqrt)

variable {f x₁ y₁ x₂ y₂}

/-- What is left of one is not negative, by the comparison with zero. -/
private theorem unsigned_remainder (a : Float) : Unsigned (remainder a) := by
  unfold remainder
  split
  · rename_i pos
    exact Number.unsigned_of_pos pos
  · exact Number.unsigned_iff.mpr rfl

/-- There is a distance unless an angle is infinite or the haversine is negative. -/
theorem distanceBy_eq_ok_iff {lat lon : Number} (hlat : lat.toFloat? = some x₁)
    (hlon : lon.toFloat? = some y₁) {km : Float} :
    distanceBy f lat lon (.float x₂) (.float y₂) = .ok km ↔
      (halfAngle x₁ x₂).isInf = false ∧ (radians x₁).isInf = false ∧
      (radians x₂).isInf = false ∧ (halfAngle y₁ y₂).isInf = false ∧
      ¬haversine f x₁ y₁ x₂ y₂ < 0.0 ∧ km = arcKm f (haversine f x₁ y₁ x₂ y₂) := by
  -- The other coordinate is subtracted as a double, be this one an integer or a double.
  have between {a : Number} {u : Float} (ha : a.toFloat? = some u) (w : Float) :
      angleBetween a (.float w) = .ok (radians (w - u)) := by
    have difference : Number.sub? (.float w) a = some (.float (w - u)) := by
      cases a with
      | int n =>
        show (Number.toFloat? (.int n) >>= fun v => pure (Number.float (w - v))) = _
        rw [ha]
        rfl
      | float v =>
        obtain rfl := Option.some.inj ha
        rfl
    rw [angleBetween, difference]
    rfl
  have single {a : Number} {u : Float} (ha : a.toFloat? = some u) : angle a = .ok (radians u) := by
    rw [angle, ha]
    rfl
  rw [distanceBy, between hlat, between hlon, single hlat, single (a := .float x₂) rfl]
  -- Each step may fail, and the second root alone cannot.
  simp only [bind_eq_ok_iff, Elementary.sine_eq_ok_iff, Elementary.cosine_eq_ok_iff,
    squareRoot_eq_ok_iff]
  constructor
  · rintro ⟨_, ⟨⟩, _, ⟨⟩, _, ⟨lat_bounded, rfl⟩, _, ⟨⟩, _, ⟨own_bounded, rfl⟩, _, ⟨⟩, _,
      ⟨other_bounded, rfl⟩, _, ⟨lon_bounded, rfl⟩, _, ⟨not_negative, rfl⟩, _, ⟨-, rfl⟩, ⟨⟩⟩
    exact ⟨lat_bounded, own_bounded, other_bounded, lon_bounded, not_negative, rfl⟩
  · rintro ⟨lat_bounded, own_bounded, other_bounded, lon_bounded, not_negative, rfl⟩
    exact ⟨_, rfl, _, rfl, _, ⟨lat_bounded, rfl⟩, _, rfl, _, ⟨own_bounded, rfl⟩, _, rfl, _,
      ⟨other_bounded, rfl⟩, _, ⟨lon_bounded, rfl⟩, _, ⟨not_negative, rfl⟩, _,
      ⟨(unsigned_remainder _).not_neg, rfl⟩, rfl⟩

end Formula

/-! ## Angles -/

/-- A latitude in degrees. -/
def IsLatitude (a : Number) : Prop :=
  Number.le (.int (-90)) a = true ∧ Number.le a (.int 90) = true

/-- A longitude in degrees. -/
def IsLongitude (a : Number) : Prop :=
  Number.le (.int (-180)) a = true ∧ Number.le a (.int 180) = true

instance (a : Number) : Decidable (IsLatitude a) := inferInstanceAs (Decidable (_ ∧ _))

instance (a : Number) : Decidable (IsLongitude a) := inferInstanceAs (Decidable (_ ∧ _))

/-- A latitude is a bounded double. -/
theorem IsLatitude.exists_toFloat? {a : Number} (h : IsLatitude a) :
    ∃ x, a.toFloat? = some x ∧ UpTo (90 * scale) x :=
  Number.exists_toFloat? (show 90 ≤ 180 by decide) h.1 h.2

/-- A longitude is a bounded double. -/
theorem IsLongitude.exists_toFloat? {a : Number} (h : IsLongitude a) :
    ∃ x, a.toFloat? = some x ∧ UpTo (180 * scale) x :=
  Number.exists_toFloat? (show 180 ≤ 180 by decide) h.1 h.2

section Angles

open Number

/-- A degree in radians, as it is unpacked. -/
private theorem unpack_degree :
    (pi / 180.0).toModel.unpack = .finite .positive 5030569068109113 (-58) (by decide) := by
  rfl

/-- A degree in radians has all bits of a mantissa. -/
private theorem isCanonicalPair_degree : IsCanonicalPair 5030569068109113 (-58) :=
  ⟨by decide, by decide, .inl (by decide)⟩

/-- The mantissa and the exponent of a quarter of a turn. -/
private theorem value_quarterTurn : value quarterTurn = .ofInt (units 7074237752028440 (-52)) := by
  rfl

/-- So has a quarter of a turn. -/
private theorem isCanonicalPair_quarterTurn : IsCanonicalPair 7074237752028440 (-52) :=
  ⟨by decide, by decide, .inl (by decide)⟩

/-- A degree is less than one radian. -/
private theorem upTo_degree : UpTo scale (pi / 180.0) := by
  show IsUpTo scale (pi / 180.0).toModel.unpack
  rw [unpack_degree]
  refine .finite _ _ isCanonicalPair_degree ?_
  rw [scale_eq]
  exact (units_lt_of_exponent_lt isCanonicalPair_degree
    ⟨by decide, by decide, .inl le_rfl⟩ (by decide)).le

/-- An angle in radians is bounded as it is in degrees. -/
private theorem upTo_radians {n : Nat} {x : Float} (hx : UpTo n x) (less : n < limit) :
    UpTo n (radians x) :=
  hx.mul upTo_degree less

/-- Half of the angle between a small coordinate and a finite one is finite. -/
private theorem upTo_halfAngle {n : Nat} {a b : Float} (ha : UpTo n a) (small : n ≤ 180 * scale)
    (finite : b.isFinite = true) : UpTo (units greatestMantissa 971) (halfAngle a b) :=
  (upTo_radians (UpTo.sub_small finite ha small) greatest_lt_limit).half greatest_lt_limit

/-- Ninety degrees are a quarter of a turn, and fewer degrees are not rounded to more. -/
private theorem upTo_radians_of_acute {x : Float} (hx : UpTo (90 * scale) x) :
    UpTo (units 7074237752028440 (-52)) (radians x) := by
  have product : IsUpTo (units 7074237752028440 (-52))
      (x.toModel.unpack.mul .binary64 (pi / 180.0).toModel.unpack) := by
    rw [unpack_degree]
    have hx : IsUpTo (90 * scale) x.toModel.unpack := hx
    generalize x.toModel.unpack = u at *
    -- A zero stays zero; any other mantissa is compared by rational numbers.
    cases hx with
    | zero s => exact .zero _
    | @finite s m e pos canonical le =>
      rw [mul_scale] at le
      have acute : (m : ℚ) * 2 ^ e ≤ 90 := by
        simpa using mul_zpow_le canonical.low (by decide) le
      apply isUpTo_mul_finite s _ pos _ canonical (by decide) isCanonicalPair_quarterTurn
      -- Ninety degrees are less than half a unit above a quarter of a turn, in the last place.
      calc (m : ℚ) * 2 ^ e * ((5030569068109113 : Nat) * 2 ^ (-58 : Int))
          ≤ 90 * ((5030569068109113 : Nat) * 2 ^ (-58 : Int)) :=
            mul_le_mul_of_nonneg_right acute (by positivity)
        _ < ((7074237752028440 : Nat) + 1 / 2) * 2 ^ (-52 : Int) := by norm_num
  have less := isCanonicalPair_quarterTurn.units_lt_limit (by decide)
  rwa [UpTo, radians, unpack_mul, repacked_of_isUpTo product less]

/-- A latitude is at most a quarter of a turn to either side. -/
private theorem radians_between {x : Float} (hx : UpTo (90 * scale) x) :
    -quarterTurn ≤ radians x ∧ radians x ≤ quarterTurn :=
  (upTo_iff_between (by rfl) value_quarterTurn
    (isCanonicalPair_quarterTurn.units_lt_limit (by decide))).mp (upTo_radians_of_acute hx)

end Angles

/-! ## Possible distances -/

/-- Whether rounding carries the haversine of the angle between two points below zero. -/
def RoundsBelowZero (f : Elementary) (lat lon : Number) (x y : Float) : Prop :=
  ∃ x₁ y₁, lat.toFloat? = some x₁ ∧ lon.toFloat? = some y₁ ∧ haversine f x₁ y₁ x y < 0.0

section Possible

open Number

variable {f : Elementary} (laws : f.Laws)

include laws

namespace Elementary.Laws

/-- The square of the sine of a finite angle. -/
private theorem unsigned_square_sin {x : Float} (finite : x.isFinite = true) :
    Unsigned (f.square (f.sin x)) ∧ UpTo scale (f.square (f.sin x)) := by
  -- The sine is between minus one and one, where the square is known.
  obtain ⟨low, high⟩ := laws.sin_between x finite
  obtain ⟨unsigned, le⟩ := laws.square_between _ low high
  exact ⟨unsigned, unsigned.upTo_one le⟩

/-- A cosine is bounded by one. -/
private theorem upTo_cos {x : Float} (finite : x.isFinite = true) : UpTo scale (f.cos x) :=
  upTo_one_iff.mpr (laws.cos_between x finite)

/-- The cosine of a latitude is not negative. -/
private theorem unsigned_cos {x : Float} (hx : UpTo (90 * scale) x) :
    Unsigned (f.cos (radians x)) := by
  obtain ⟨low, high⟩ := radians_between hx
  exact laws.cos_unsigned _ low high

/-- The distance for a haversine that is not negative. -/
private theorem nonneg_arcKm {a : Float} (nonneg : 0.0 ≤ a) : 0.0 ≤ arcKm f a := by
  -- The radius is positive, so it is a factor that keeps the sign.
  have radius : earthRadiusKm.toModel.unpack =
      .finite .positive 7004988580560896 (-40) (by decide) := by
    rfl
  -- The root of the negative zero is the negative zero.
  have root : 0.0 ≤ a.sqrt := by
    rcases unsigned_or_eq nonneg with unsigned | rfl
    · exact unsigned.sqrt.1
    · decide
  have angle := laws.atan2_nonneg _ _ root (unsigned_remainder a).sqrt
  -- The sum can be the negative zero, and so the angle; then the distance is that zero, too.
  rcases unsigned_or_eq angle with unsigned | zero
  · exact (Unsigned.multiple radius (Unsigned.multiple unpack_two unsigned)).1
  · rw [arcKm, zero]
    decide

end Elementary.Laws

section Haversine

variable {x₁ y₁ x₂ y₂ : Float} (hx₁ : UpTo (90 * scale) x₁) (hy₁ : UpTo (180 * scale) y₁)
  (hy₂ : y₂.isFinite = true)

include hx₁ hy₁ hy₂

/-- The haversine of the angle to a finite point is a number. -/
private theorem number_haversine (hx₂ : x₂.isFinite = true) :
    (haversine f x₁ y₁ x₂ y₂).isNaN = false := by
  -- Both halves of the formula are bounded, so that their sum is finite.
  have lat := upTo_halfAngle hx₁ (Nat.mul_le_mul_right scale (by decide)) hx₂
  have lon := upTo_halfAngle hy₁ le_rfl hy₂
  have own := laws.upTo_cos (upTo_radians_of_acute hx₁).isFinite
  have other := laws.upTo_cos
    (upTo_radians (upTo_of_isFinite hx₂) greatest_lt_limit).isFinite
  have product := (own.mul other scale_lt_limit).mul (laws.unsigned_square_sin lon.isFinite).2
    scale_lt_limit
  have square := (laws.unsigned_square_sin lat.isFinite).2
  exact (UpTo.add_small square.isFinite product (Nat.le_mul_of_pos_left scale (by decide))).isNaN

/-- It is not negative between the poles. -/
private theorem unsigned_haversine (hx₂ : UpTo (90 * scale) x₂) :
    Unsigned (haversine f x₁ y₁ x₂ y₂) := by
  have lat := upTo_halfAngle hx₁ (Nat.mul_le_mul_right scale (by decide)) hx₂.isFinite
  have lon := upTo_halfAngle hy₁ le_rfl hy₂
  have own := laws.upTo_cos (upTo_radians_of_acute hx₁).isFinite
  have other := laws.upTo_cos (upTo_radians_of_acute hx₂).isFinite
  -- Beyond the poles the second cosine is negative.
  have cosines := (laws.unsigned_cos hx₁).mul (laws.unsigned_cos hx₂) own other
  obtain ⟨square, upTo⟩ := laws.unsigned_square_sin lon.isFinite
  exact (laws.unsigned_square_sin lat.isFinite).1.add
    (cosines.mul square (own.mul other scale_lt_limit) upTo)

end Haversine

section Points

variable {lat lon : Number} (hlat : IsLatitude lat) (hlon : IsLongitude lon) {x₂ y₂ : Float}

include hlat hlon

/-- Between the poles nothing is rounded below zero. -/
theorem not_roundsBelowZero (other : IsLatitude (.float x₂)) (hy₂ : y₂.isFinite = true) :
    ¬RoundsBelowZero f lat lon x₂ y₂ := by
  -- The coordinates are read as bounded doubles, and then no part of the sum is negative.
  rintro ⟨x₁, y₁, readLat, readLon, below⟩
  obtain ⟨_, readLat', hx₁⟩ := hlat.exists_toFloat?
  obtain ⟨_, readLon', hy₁⟩ := hlon.exists_toFloat?
  obtain rfl := Option.some.inj (readLat.symm.trans readLat')
  obtain rfl := Option.some.inj (readLon.symm.trans readLon')
  exact (unsigned_haversine laws hx₁ hy₁ hy₂ (upTo_of_between other.1 other.2)).not_neg below

/-- What has a possible distance has finite coordinates. -/
private theorem finite_of_distance {km : Float}
    (distance : distanceBy f lat lon (.float x₂) (.float y₂) = .ok km) (possible : 0.0 ≤ km) :
    x₂.isFinite = true ∧ y₂.isFinite = true := by
  obtain ⟨x₁, hlat, -⟩ := hlat.exists_toFloat?
  obtain ⟨y₁, hlon, -⟩ := hlon.exists_toFloat?
  obtain ⟨latBounded, -, -, lonBounded, -, rfl⟩ := (distanceBy_eq_ok_iff hlat hlon).mp distance
  -- From the distance back to the coordinates: where a result is a number, so are its operands.
  have number : (arcKm f (haversine f x₁ y₁ x₂ y₂)).isNaN = false := (isNaN_of_le_float possible).2
  have root := laws.atan2_number _ _ (number_of_mul (number_of_mul number))
  obtain ⟨latSquare, product⟩ := number_of_add (number_of_sqrt root)
  have coordinate {a b : Float} (bounded : (halfAngle a b).isInf = false)
      (square : (f.square (f.sin (halfAngle a b))).isNaN = false) : b.isFinite = true := by
    have half := isFinite_of_number (laws.sin_number _ (laws.square_number _ square)) bounded
    exact isFinite_of_sub (isFinite_of_mul (isFinite_of_div half))
  exact ⟨coordinate latBounded latSquare, coordinate lonBounded (number_of_mul product)⟩

/-- From a point on the globe there is a possible distance to what has finite coordinates, unless
the haversine is rounded to less than zero. -/
theorem exists_distance_iff :
    (∃ km, distanceBy f lat lon (.float x₂) (.float y₂) = .ok km ∧ 0.0 ≤ km) ↔
      (x₂.isFinite = true ∧ y₂.isFinite = true) ∧ ¬RoundsBelowZero f lat lon x₂ y₂ := by
  obtain ⟨x₁, readLat, hx₁⟩ := hlat.exists_toFloat?
  obtain ⟨y₁, readLon, hy₁⟩ := hlon.exists_toFloat?
  -- The point is read in one way only.
  have below : RoundsBelowZero f lat lon x₂ y₂ ↔ haversine f x₁ y₁ x₂ y₂ < 0.0 := by
    simp only [RoundsBelowZero, readLat, readLon, Option.some.injEq, exists_and_left,
      exists_eq_left']
  rw [below]
  constructor
  · rintro ⟨km, distance, possible⟩
    -- That there is a distance says that the haversine was not negative.
    obtain ⟨-, -, -, -, not_neg, -⟩ := (distanceBy_eq_ok_iff readLat readLon).mp distance
    exact ⟨finite_of_distance laws hlat hlon distance possible, not_neg⟩
  · rintro ⟨⟨hx₂, hy₂⟩, not_neg⟩
    -- A number that is not below zero has a root, and the angle with it.
    have nonneg := (not_lt_zero_iff (number_haversine laws hx₁ hy₁ hy₂ hx₂)).mp not_neg
    refine ⟨arcKm f (haversine f x₁ y₁ x₂ y₂), ?_, laws.nonneg_arcKm nonneg⟩
    rw [distanceBy_eq_ok_iff readLat readLon]
    exact ⟨(upTo_halfAngle hx₁ (Nat.mul_le_mul_right scale (by decide)) hx₂).isInf,
      (upTo_radians_of_acute hx₁).isInf,
      (upTo_radians (upTo_of_isFinite hx₂) greatest_lt_limit).isInf,
      (upTo_halfAngle hy₁ le_rfl hy₂).isInf, not_neg, rfl⟩

end Points

end Possible

end AirQuality
