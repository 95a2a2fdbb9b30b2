import Mathlib.Tactic.Linarith
import Mathlib.Tactic.Positivity
import Mathlib.Tactic.Ring
import UsageWatch.Report
/-!
# Printed shares

A share is a quotient times one hundred, rounded three times: by the division, by
the product and by the printed text. Each rounding goes to a nearest value, so it
cannot pass a bound that is itself a value of its grid.
-/

namespace UsageWatch.Rounding

open Float.Model Float.Model.UnpackedFloat

/-! ## Cutting bits off -/

/-- What was cut off counts as more than the mantissa alone. -/
def AtMost (em : ExtendedMantissa) (n : Nat) : Prop :=
  em.mantissa < n ∨ em.mantissa = n ∧ em.roundBit = false ∧ em.stickyBit = false

theorem shift_zero (em : ExtendedMantissa) : em >>> 0 = em := rfl

theorem shift_succ (em : ExtendedMantissa) (k : Nat) :
    em >>> (k + 1) = (em >>> k).shiftRightOne := rfl

theorem mantissa_of (m : Nat) (acc : Accuracy) :
    (ExtendedMantissa.ofMantissaAndAccuracy m acc).mantissa = m := by
  unfold ExtendedMantissa.ofMantissaAndAccuracy
  split <;> rfl

theorem mantissa_shift (em : ExtendedMantissa) (k : Nat) :
    (em >>> k).mantissa = em.mantissa / 2 ^ k := by
  induction k with
  | zero => simp [shift_zero]
  | succ k ih =>
    rw [shift_succ, ExtendedMantissa.shiftRightOne, ih, Nat.pow_succ, Nat.div_div_eq_div_mul]

theorem AtMost.shiftRightOne {em : ExtendedMantissa} {n : Nat} (h : AtMost em (2 * n)) :
    AtMost em.shiftRightOne n := by
  unfold AtMost ExtendedMantissa.shiftRightOne at *
  rcases h with hlt | ⟨heq, hround, hsticky⟩
  · exact .inl (by simp only []; omega)
  · refine .inr ⟨by simp only []; omega, ?_, by simp [hround, hsticky]⟩
    simp [heq]

theorem AtMost.shift {em : ExtendedMantissa} {n : Nat} :
    ∀ {k : Nat}, AtMost em (n * 2 ^ k) → AtMost (em >>> k) n
  | 0, h => by simpa [shift_zero] using h
  | k + 1, h => by
    have h' : AtMost em (2 * n * 2 ^ k) := by
      rwa [Nat.pow_succ, ← Nat.mul_assoc, Nat.mul_comm _ 2, ← Nat.mul_assoc] at h
    rw [shift_succ]
    exact (AtMost.shift h').shiftRightOne

theorem AtMost.roundedMantissa_le {em : ExtendedMantissa} {n : Nat} (h : AtMost em n) :
    em.roundedMantissa ≤ n := by
  obtain ⟨m, r, s⟩ := em
  unfold AtMost at h
  cases r <;> cases s <;>
    simp [ExtendedMantissa.roundedMantissa, ExtendedMantissa.accuracy,
      Accuracy.roundToNearestEven] at h ⊢ <;> omega

theorem roundedMantissa_bounds (em : ExtendedMantissa) :
    em.mantissa ≤ em.roundedMantissa ∧ em.roundedMantissa ≤ em.mantissa + 1 := by
  obtain ⟨m, r, s⟩ := em
  cases r <;> cases s <;>
    simp [ExtendedMantissa.roundedMantissa, ExtendedMantissa.accuracy,
      Accuracy.roundToNearestEven]
  omega

theorem atMost_exact {m n : Nat} (h : m ≤ n) :
    AtMost (ExtendedMantissa.ofMantissaAndAccuracy m .exact) n := by
  rcases Nat.lt_or_eq_of_le h with h | h
  · exact .inl h
  · exact .inr ⟨h, rfl, rfl⟩

/-- A quotient with its remainder behind it. -/
theorem atMost_quotient {num den n : Nat} (h : num ≤ n * den) :
    AtMost (ExtendedMantissa.ofMantissaAndAccuracy (num / den)
      (accuracyOfFraction (num % den) den)) n := by
  rcases Nat.lt_or_eq_of_le (Nat.div_le_of_le_mul (Nat.mul_comm n den ▸ h)) with hlt | heq
  · exact .inl (by rwa [mantissa_of])
  · have hzero : num % den = 0 := by
      have := Nat.div_add_mod num den
      rw [heq, Nat.mul_comm] at this
      omega
    rw [hzero, heq]
    exact atMost_exact le_rfl

/-! ## Floats with a full significand -/

theorem finite_congr {s t : Sign} {m n : Nat} {e f : Int} {hm : 0 < m} {hn : 0 < n} (hst : s = t)
    (hmn : m = n) (hef : e = f) : UnpackedFloat.finite s m e hm = .finite t n f hn := by
  subst hst hmn hef
  rfl

/-- `significand / 2 ^ places`, for a significand of 53 bits. -/
structure Normal where
  significand : Nat
  places : Nat
  low : 2 ^ 52 ≤ significand
  high : significand < 2 ^ 53
  places_le : places ≤ 1074

namespace Normal

variable (x : Normal)

theorem pos : 0 < x.significand := by
  have := x.low
  omega

def unpacked : UnpackedFloat := .finite .positive x.significand (-x.places) x.pos

def toFloat : Float := ⟨.pack x.unpacked⟩

theorem log2_significand : x.significand.log2 = 52 :=
  (Nat.log2_eq_iff x.pos.ne').mpr ⟨x.low, x.high⟩

theorem pack_unpacked :
    UnpackedFloat.pack Format.binary64 x.unpacked =
      packComponents Format.binary64 .positive (BitVec.ofNat 11 (1075 - x.places))
        (BitVec.ofNat 52 x.significand) := by
  have hplaces := x.places_le
  have hbias : (-(x.places : Int) + (Format.binary64.exponentBias : Int) + (52 : Nat)).toNat =
      1075 - x.places := by
    rw [show (Format.binary64.exponentBias : Int) = 1023 from rfl]
    omega
  unfold unpacked UnpackedFloat.pack
  simp only [x.log2_significand, hbias]
  rw [if_neg (by omega), if_pos (by rfl)]

theorem toNat_append_ofNat {k n : Nat} (v : BitVec k) (m : Nat) :
    (v ++ BitVec.ofNat n m).toNat = v.toNat * 2 ^ n + m % 2 ^ n := by
  rw [BitVec.toNat_append, BitVec.toNat_ofNat,
    ← Nat.shiftLeft_add_eq_or_of_lt (Nat.mod_lt _ (by positivity)), Nat.shiftLeft_eq]

theorem toNat_toBits :
    x.toFloat.toBits.toNat = (1075 - x.places) * 2 ^ 52 + (x.significand - 2 ^ 52) := by
  have hlow := x.low
  have hhigh := x.high
  show (UnpackedFloat.pack Format.binary64 x.unpacked).toNat = _
  rw [pack_unpacked]
  show (Sign.positive.toBitVec ++ BitVec.ofNat 11 (1075 - x.places)
    ++ BitVec.ofNat 52 x.significand).toNat = _
  rw [toNat_append_ofNat, toNat_append_ofNat, show Sign.positive.toBitVec.toNat = 0 from rfl]
  omega

theorem unpackSign_positive (exponent : BitVec 11) (mantissa : BitVec 52) :
    unpackSign (packComponents Format.binary64 .positive exponent mantissa) = 0#1 := by
  change (Sign.positive.toBitVec ++ exponent ++ mantissa).extractLsb' 63 1 = 0#1
  rw [BitVec.extractLsb'_append_eq_of_le (by decide),
    BitVec.extractLsb'_append_eq_of_le (by decide)]
  rfl

theorem unpack_toModel : x.toFloat.toModel.unpack = x.unpacked := by
  have hlow := x.low
  have hhigh := x.high
  have hplaces := x.places_le
  have hexponent : (BitVec.ofNat 11 (1075 - x.places)).toNat = 1075 - x.places := by
    rw [BitVec.toNat_ofNat]
    omega
  have hmantissa : (1#1 ++ BitVec.ofNat 52 x.significand).toNat = x.significand := by
    rw [toNat_append_ofNat, show (1#1).toNat = 1 from rfl]
    omega
  have hbias : ((BitVec.ofNat 11 (1075 - x.places)).toNat : Int) -
      ((Format.binary64.exponentBias : Int) + (52 : Nat)) = -x.places := by
    rw [hexponent, show (Format.binary64.exponentBias : Int) = 1023 from rfl]
    omega
  -- neither the exponent of infinity nor that of the numbers below the normal ones
  have hfinite : BitVec.ofNat 11 (1075 - x.places) ≠ -1#11 := by
    intro h
    have h := congrArg BitVec.toNat h
    rw [hexponent, show (-1#11).toNat = 2047 from rfl] at h
    omega
  have hnormal : BitVec.ofNat 11 (1075 - x.places) ≠ 0#11 := by
    intro h
    have h := congrArg BitVec.toNat h
    rw [hexponent, show (0#11).toNat = 0 from rfl] at h
    omega
  show UnpackedFloat.unpack Format.binary64 (UnpackedFloat.pack Format.binary64 _) = _
  rw [pack_unpacked]
  unfold UnpackedFloat.unpack
  rw [unpackExponent_packComponents, if_neg hfinite, if_neg hnormal]
  refine finite_congr ?_ ?_ hbias
  · rw [unpackSign_positive]
    rfl
  · rw [unpackMantissa_packComponents]
    exact hmantissa

theorem parts_toFloat :
    Decimal.Parts.ofFloat x.toFloat = .finite false x.significand (-x.places) := by
  have hlow := x.low
  have hhigh := x.high
  have hplaces := x.places_le
  have hbits := x.toNat_toBits
  have hleading : Decimal.leadingBit = 2 ^ 52 := rfl
  unfold Decimal.Parts.ofFloat
  generalize x.toFloat.toBits = bits at hbits
  have hfield : bits.toNat / Decimal.leadingBit % 0x800 = 1075 - x.places := by
    rw [hbits, hleading]
    omega
  have hfraction : bits.toNat % Decimal.leadingBit = x.significand - 2 ^ 52 := by
    rw [hbits, hleading]
    omega
  have hsign : bits.toNat / 0x8000000000000000 = 0 := by
    rw [hbits]
    omega
  unfold Decimal.Parts.ofBits
  rw [hfield, hfraction, hsign]
  simp only []
  rw [if_neg (by omega), if_neg (by omega), hleading]
  have hrestored : x.significand - 2 ^ 52 + 2 ^ 52 = x.significand := by omega
  have hexponent : ((1075 - x.places : Nat) : Int) - 1075 = -x.places := by omega
  rw [hrestored, hexponent]
  rfl

def IsAtMost (c : Nat) : Prop := x.significand ≤ c * 2 ^ x.places

end Normal

/-! ## Rounding keeps a bound -/

theorem shiftToTargetExponent_eq (m T : Nat) (acc : Accuracy) (h : 52 ≤ m.log2) (hT : T ≤ 1074) :
    shiftToTargetExponent Format.binary64 m (-T) acc =
      (ExtendedMantissa.ofMantissaAndAccuracy m acc >>> (m.log2 - 52),
        -(T : Int) + (m.log2 - 52 : Nat)) := by
  have htarget : Format.binary64.targetExponent (totalExponent m (-T)) =
      -T + (m.log2 - 52 : Int) := by
    unfold Format.targetExponent totalExponent Format.minExponent Format.mantissaBits
    simp only []
    omega
  have hs : (-(T : Int) + (m.log2 - 52 : Int) - -T).toNat = m.log2 - 52 := by omega
  unfold shiftToTargetExponent shiftToExponent
  simp only [htarget]
  rw [hs]

theorem div_two_pow_bounds {m s : Nat} (h : m.log2 = 52 + s) :
    2 ^ 52 ≤ m / 2 ^ s ∧ m / 2 ^ s < 2 ^ 53 := by
  have hm : m ≠ 0 := by
    rintro rfl
    simp at h
    omega
  constructor
  · rw [Nat.le_div_iff_mul_le (by positivity), ← Nat.pow_add, ← h]
    exact Nat.log2_self_le hm
  · rw [Nat.div_lt_iff_lt_mul (by positivity), ← Nat.pow_add,
      show 53 + s = m.log2 + 1 by omega]
    exact Nat.lt_log2_self

theorem round_eq {x : Normal} {m r : Nat} {e : Int} {acc : Accuracy}
    {first last : ExtendedMantissa × Int}
    (hfirst : shiftToTargetExponent Format.binary64 m e acc = first)
    (hr : first.1.roundedMantissa = r)
    (hlast : shiftToTargetExponent Format.binary64 r first.2 .exact = last)
    (hsignificand : last.1.mantissa = x.significand) (hplaces : last.2 = -x.places) :
    roundWithAccuracy Format.binary64 .positive m e acc = x.unpacked := by
  subst hfirst hr hlast
  exact (dif_neg (hsignificand ▸ x.pos.ne')).trans (finite_congr rfl hsignificand hplaces)

theorem exists_round (m T c : Nat) (acc : Accuracy) (h : 52 ≤ m.log2) (hs : m.log2 - 52 < T)
    (hT : T ≤ 1074)
    (hc : AtMost (ExtendedMantissa.ofMantissaAndAccuracy m acc) (c * 2 ^ T)) :
    ∃ x : Normal, roundWithAccuracy Format.binary64 .positive m (-T) acc = x.unpacked ∧
      x.IsAtMost c ∧ x.places ≤ T := by
  obtain ⟨s, hlog⟩ : ∃ s, m.log2 = 52 + s := ⟨m.log2 - 52, by omega⟩
  obtain ⟨t, rfl⟩ : ∃ t, T = t + 1 + s := ⟨T - 1 - s, by omega⟩
  have hexp : -((t + 1 + s : Nat) : Int) + s = -(t + 1 : Nat) := by omega
  have hround : AtMost (ExtendedMantissa.ofMantissaAndAccuracy m acc >>> s) (c * 2 ^ (t + 1)) := by
    refine AtMost.shift ?_
    rwa [Nat.mul_assoc, ← Nat.pow_add]
  have hmantissa : (ExtendedMantissa.ofMantissaAndAccuracy m acc >>> s).mantissa = m / 2 ^ s := by
    rw [mantissa_shift, mantissa_of]
  have hfirst := shiftToTargetExponent_eq m (t + 1 + s) acc h hT
  rw [show m.log2 - 52 = s by omega, hexp] at hfirst
  generalize ExtendedMantissa.ofMantissaAndAccuracy m acc >>> s = em at *
  have hle := hround.roundedMantissa_le
  have hbounds := roundedMantissa_bounds em
  have hdiv := div_two_pow_bounds hlog
  rw [hmantissa] at hbounds
  generalize hr : em.roundedMantissa = r at *
  rcases Nat.lt_or_ge r (2 ^ 53) with hsmall | hlarge
  · have hlog : r.log2 = 52 := (Nat.log2_eq_iff (by omega)).mpr ⟨by omega, hsmall⟩
    have hsecond := shiftToTargetExponent_eq r (t + 1) .exact hlog.ge (by omega)
    rw [hlog, Nat.sub_self, shift_zero, Int.natCast_zero, Int.add_zero] at hsecond
    exact ⟨⟨r, t + 1, by omega, hsmall, by omega⟩,
      round_eq hfirst hr hsecond (mantissa_of r .exact) rfl, hle, Nat.le_add_right _ s⟩
  -- the one carry: the significand becomes a power of two and the exponent goes up
  · obtain rfl : r = 2 ^ 53 := by omega
    have hlog : (2 ^ 53).log2 = 53 := Nat.log2_two_pow
    have hsecond := shiftToTargetExponent_eq (2 ^ 53) (t + 1) .exact (by omega) (by omega)
    rw [hlog] at hsecond
    have hhalf : 2 ^ 52 ≤ c * 2 ^ t := by
      have hdouble : c * 2 ^ (t + 1) = c * 2 ^ t * 2 := by rw [Nat.pow_succ, Nat.mul_assoc]
      omega
    refine ⟨⟨2 ^ 52, t, le_rfl, by decide, by omega⟩, round_eq hfirst hr hsecond ?_ ?_, hhalf, ?_⟩
    · rw [mantissa_shift, mantissa_of]
      rfl
    · show -((t + 1 : Nat) : Int) + 1 = -t
      omega
    · show t ≤ t + 1 + s
      omega

theorem round_normal (x : Normal) :
    roundWithAccuracy Format.binary64 .positive x.significand (-x.places) .exact = x.unpacked := by
  have hshift := shiftToTargetExponent_eq x.significand x.places .exact
    x.log2_significand.ge x.places_le
  rw [x.log2_significand, Nat.sub_self, shift_zero, Int.natCast_zero, Int.add_zero] at hshift
  exact round_eq hshift rfl hshift rfl rfl

/-! ## Small numbers are exact -/

def Normal.ofNat (n : Nat) (hpos : 0 < n) (h : n < 2 ^ 53) : Normal where
  significand := n * 2 ^ (52 - n.log2)
  places := 52 - n.log2
  low := by
    have hlog : n.log2 < 53 := (Nat.log2_lt hpos.ne').mpr h
    calc 2 ^ 52 = 2 ^ n.log2 * 2 ^ (52 - n.log2) := by rw [← Nat.pow_add]; congr 1; omega
      _ ≤ n * 2 ^ (52 - n.log2) := Nat.mul_le_mul_right _ (Nat.log2_self_le hpos.ne')
  high := by
    have hlog : n.log2 < 53 := (Nat.log2_lt hpos.ne').mpr h
    calc n * 2 ^ (52 - n.log2) < 2 ^ (n.log2 + 1) * 2 ^ (52 - n.log2) :=
          Nat.mul_lt_mul_of_pos_right Nat.lt_log2_self (by positivity)
      _ = 2 ^ 53 := by rw [← Nat.pow_add]; congr 1; omega
  places_le := by omega

theorem ofNat_eq_unpacked (n : Nat) (hpos : 0 < n) (h : n < 2 ^ 53) :
    UnpackedFloat.ofNat Format.binary64 n = (Normal.ofNat n hpos h).unpacked := by
  have hlog : n.log2 < 53 := (Nat.log2_lt hpos.ne').mpr h
  have hsign : compare (n : Int) 0 = .gt := by
    rw [compare_gt_iff_gt]
    omega
  have htarget : Format.binary64.targetExponent (totalExponent n 0) = -(52 - n.log2 : Nat) := by
    unfold Format.targetExponent totalExponent Format.minExponent Format.mantissaBits
    simp only []
    omega
  have hshift : (- -((52 - n.log2 : Nat) : Int)).toNat = 52 - n.log2 := by omega
  unfold UnpackedFloat.ofNat UnpackedFloat.ofInt UnpackedFloat.normalize
  rw [hsign]
  simp only [Int.toNat_natCast]
  unfold UnpackedFloat.round decreaseExponent
  rw [htarget]
  simp only [Int.zero_sub, hshift, Nat.shiftLeft_eq]
  exact round_normal (Normal.ofNat n hpos h)

theorem toFloat_eq (n : Counter) (hpos : 0 < n.toNat) (h : n.toNat < 2 ^ 53) :
    n.toFloat = (Normal.ofNat n.toNat hpos h).toFloat := by
  unfold UInt64.toFloat Float.Model.ofUInt64 UnpackedFloat.ofUInt64 Normal.toFloat
  rw [ofNat_eq_unpacked n.toNat hpos h]

/-! ## Quotients and percentages -/

theorem quotient_bounds {x y : Normal} :
    2 ^ 52 ≤ x.significand <<< 53 / y.significand ∧
      x.significand <<< 53 / y.significand < 2 ^ 54 := by
  have hx := x.low
  have hx' := x.high
  have hy := y.low
  have hy' := y.high
  rw [Nat.shiftLeft_eq]
  constructor
  · rw [Nat.le_div_iff_mul_le y.pos]
    omega
  · rw [Nat.div_lt_iff_lt_mul y.pos]
    omega

theorem divCore_eq {m n : Nat} {e f t : Int} {k : Nat}
    (ht : min (e - f) (Format.binary64.targetExponent (totalExponent m e - totalExponent n f)) = t)
    (hk : (e - f - t).toNat = k) :
    divCore Format.binary64 m e n f = (m <<< k / n, t, accuracyOfFraction (m <<< k % n) n) := by
  subst ht hk
  rfl

theorem div_unpacked {x y : Normal} {q : Nat × Int × Accuracy}
    (h : divCore Format.binary64 x.significand (-x.places) y.significand (-y.places) = q) :
    UnpackedFloat.div Format.binary64 x.unpacked y.unpacked =
      roundWithAccuracy Format.binary64 .positive q.1 q.2.1 q.2.2 := by
  subst h
  rfl

theorem mul_unpacked (x y : Normal) :
    UnpackedFloat.mul Format.binary64 x.unpacked y.unpacked =
      roundWithAccuracy Format.binary64 .positive (x.significand * y.significand)
        (-x.places + -y.places) .exact := rfl

theorem exists_div {x y : Normal} {k : Nat} (hplaces : x.places = y.places + k) (hk : k ≤ 52)
    (h : x.significand ≤ y.significand * 2 ^ k) :
    ∃ z : Normal, x.toFloat / y.toFloat = z.toFloat ∧ z.IsAtMost 1 ∧ z.places ≤ 105 := by
  obtain ⟨hlow, hhigh⟩ := quotient_bounds (x := x) (y := y)
  have hlog : (x.significand <<< 53 / y.significand).log2 < 54 :=
    (Nat.log2_lt (by omega)).mpr hhigh
  have hlog' : 52 ≤ (x.significand <<< 53 / y.significand).log2 :=
    (Nat.le_log2 (by omega)).mpr hlow
  have htarget : Format.binary64.targetExponent
      (totalExponent x.significand (-x.places) - totalExponent y.significand (-y.places)) =
        -(53 + k : Nat) := by
    unfold Format.targetExponent totalExponent Format.minExponent Format.mantissaBits
    rw [x.log2_significand, y.log2_significand, hplaces]
    simp only []
    omega
  have hcore := divCore_eq (m := x.significand) (n := y.significand) (e := -x.places)
    (f := -y.places) (t := -(53 + k : Nat)) (k := 53) (by rw [htarget]; omega) (by omega)
  have hle : x.significand <<< 53 ≤ 1 * 2 ^ (53 + k) * y.significand := by
    rw [Nat.shiftLeft_eq, Nat.one_mul, Nat.pow_add, Nat.mul_assoc, Nat.mul_comm (2 ^ k),
      Nat.mul_comm]
    exact Nat.mul_le_mul_left _ h
  obtain ⟨z, hz, hbound, hplaces⟩ := exists_round _ (53 + k) 1 _ hlog' (by omega) (by omega)
    (atMost_quotient hle)
  refine ⟨z, ?_, hbound, by omega⟩
  show Float.ofModel (.pack (UnpackedFloat.div Format.binary64 x.toFloat.toModel.unpack
    y.toFloat.toModel.unpack)) = _
  rw [x.unpack_toModel, y.unpack_toModel]
  rw [div_unpacked hcore, hz]
  rfl

def Normal.hundred : Normal where
  significand := 100 * 2 ^ 46
  places := 46
  low := by decide
  high := by decide
  places_le := by decide

theorem hundred_eq : (100 : Float) = Normal.hundred.toFloat := rfl

theorem product_bounds (x y : Normal) :
    2 ^ 104 ≤ x.significand * y.significand ∧ x.significand * y.significand < 2 ^ 106 := by
  constructor
  · calc 2 ^ 104 = 2 ^ 52 * 2 ^ 52 := by decide
      _ ≤ x.significand * y.significand := Nat.mul_le_mul x.low y.low
  · calc x.significand * y.significand < 2 ^ 53 * 2 ^ 53 := Nat.mul_lt_mul'' x.high y.high
      _ = 2 ^ 106 := by decide

theorem exists_mul {x y : Normal} {c d : Nat} (hx : x.IsAtMost c) (hy : y.IsAtMost d)
    (hlow : 54 < x.places + y.places) (hhigh : x.places + y.places ≤ 1074) :
    ∃ z : Normal, x.toFloat * y.toFloat = z.toFloat ∧ z.IsAtMost (c * d) := by
  obtain ⟨hmin, hmax⟩ := product_bounds x y
  have hlog : (x.significand * y.significand).log2 < 106 :=
    (Nat.log2_lt (by omega)).mpr hmax
  have hlog' : 104 ≤ (x.significand * y.significand).log2 :=
    (Nat.le_log2 (by omega)).mpr hmin
  have hle : x.significand * y.significand ≤ c * d * 2 ^ (x.places + y.places) :=
    calc x.significand * y.significand ≤ c * 2 ^ x.places * (d * 2 ^ y.places) :=
          Nat.mul_le_mul hx hy
      _ = c * d * 2 ^ (x.places + y.places) := by rw [Nat.pow_add]; ring
  obtain ⟨z, hz, hbound, -⟩ := exists_round _ (x.places + y.places) (c * d) .exact (by omega)
    (by omega) hhigh (atMost_exact hle)
  refine ⟨z, ?_, hbound⟩
  have hexponent : -(x.places : Int) + -(y.places : Int) = -(x.places + y.places : Nat) := by omega
  show Float.ofModel (.pack (UnpackedFloat.mul Format.binary64 x.toFloat.toModel.unpack
    y.toFloat.toModel.unpack)) = _
  rw [x.unpack_toModel, y.unpack_toModel]
  rw [mul_unpacked, hexponent, hz]
  rfl

theorem roundDiv_le {num den n : Nat} (hden : 0 < den) (h : num ≤ n * den) :
    Decimal.roundDiv num den ≤ n := by
  unfold Decimal.roundDiv
  simp only []
  have hq : num / den ≤ n := Nat.div_le_of_le_mul (Nat.mul_comm n den ▸ h)
  split
  next hup =>
    refine Nat.lt_of_le_of_ne hq fun heq => ?_
    have hsplit := Nat.div_add_mod num den
    rw [heq, Nat.mul_comm] at hsplit
    omega
  next => exact hq

theorem Normal.IsAtMost.scaled_le {x : Normal} {c : Nat} (h : x.IsAtMost c) (places : Nat) :
    Decimal.scaled places x.significand (-x.places) ≤ c * 10 ^ places := by
  unfold Normal.IsAtMost at h
  unfold Decimal.scaled
  simp only [Int.neg_neg, Int.toNat_natCast, Nat.pow_eq]
  split
  next hzero =>
    have hplaces : x.places = 0 := by omega
    rw [hplaces] at h ⊢
    simpa using Nat.mul_le_mul_right (10 ^ places) h
  next =>
    refine roundDiv_le (by positivity) ?_
    calc x.significand * 10 ^ places ≤ c * 2 ^ x.places * 10 ^ places :=
          Nat.mul_le_mul_right _ h
      _ = c * 10 ^ places * 2 ^ x.places := by ring

theorem scaled_zero (places k : Nat) : Decimal.scaled places 0 (-k) = 0 := by
  unfold Decimal.scaled
  simp only [Nat.zero_mul, Int.neg_neg, Int.toNat_natCast, Nat.pow_eq]
  split
  next => rfl
  next => exact Nat.le_zero.mp (roundDiv_le (by positivity) (Nat.zero_le _))

end UsageWatch.Rounding

namespace UsageWatch

open Rounding Float.Model

theorem exists_percentage {part whole : Counter} (hpos : 0 < part.toNat) (hle : part ≤ whole)
    (hwhole : whole.toNat < 2 ^ 53) :
    ∃ x : Normal, percentage part whole = x.toFloat ∧ x.IsAtMost 100 := by
  have hle' : part.toNat ≤ whole.toNat := UInt64.le_iff_toNat_le.mp hle
  have hnonzero : whole ≠ 0 := by
    rintro rfl
    simp at hle'
    omega
  have hlog : part.toNat.log2 ≤ whole.toNat.log2 := 
    (Nat.le_log2 (by omega)).mpr (Nat.le_trans (Nat.log2_self_le hpos.ne') hle')
  have hlog' : whole.toNat.log2 < 53 := (Nat.log2_lt (by omega)).mpr hwhole
  obtain ⟨k, hk⟩ := Nat.le.dest hlog
  set x := Normal.ofNat part.toNat hpos (by omega)
  set y := Normal.ofNat whole.toNat (by omega) hwhole
  have hplaces : x.places = y.places + k := by
    simp only [x, y, Normal.ofNat]
    omega
  have hsignificand : x.significand ≤ y.significand * 2 ^ k := by
    simp only [x, y, Normal.ofNat]
    rw [Nat.mul_assoc, ← Nat.pow_add,
      show 52 - whole.toNat.log2 + k = 52 - part.toNat.log2 by omega]
    exact Nat.mul_le_mul_right _ hle'
  obtain ⟨q, hq, hone, hqplaces⟩ := exists_div hplaces (by omega) hsignificand
  have hpow : 2 ^ 52 ≤ 2 ^ q.places := by
    have hlow := q.low
    unfold Normal.IsAtMost at hone
    omega
  have hqlow : 52 ≤ q.places := (Nat.pow_le_pow_iff_right (by decide)).mp hpow
  have hhundred : Normal.hundred.IsAtMost 100 := le_rfl
  obtain ⟨z, hz, hbound⟩ := exists_mul hone hhundred
    (show 54 < q.places + 46 by omega) (show q.places + 46 ≤ 1074 by omega)
  refine ⟨z, ?_, hbound⟩
  unfold percentage
  rw [if_neg hnonzero, toFloat_eq part hpos (by omega), toFloat_eq whole (by omega) hwhole, hq,
    hundred_eq, hz]

theorem percentage_zero {whole : Counter} (hwhole : whole.toNat < 2 ^ 53) :
    percentage 0 whole = 0 := by
  unfold percentage
  by_cases hzero : whole = 0
  · rw [if_pos hzero]
  have hpos : 0 < whole.toNat := Nat.pos_of_ne_zero fun h => hzero (UInt64.toNat_inj.mp h)
  have hquotient : (0 : Counter).toFloat / (Normal.ofNat whole.toNat hpos hwhole).toFloat = 0 := by
    show Float.ofModel (.pack (UnpackedFloat.div Format.binary64 (.zero .positive)
      (Normal.toFloat _).toModel.unpack)) = 0
    rw [Normal.unpack_toModel]
    rfl
  rw [if_neg hzero, toFloat_eq whole hpos hwhole, hquotient]
  rfl

/-- A part of a whole of up to 53 bits is printed as a hundred percent at most. -/
theorem exists_shareText {part whole : Counter} (hle : part ≤ whole)
    (hwhole : whole.toNat < 2 ^ 53) :
    ∃ n ≤ 10000, Report.shareText part whole = Decimal.placesText 2 n ++ "%" := by
  unfold Report.shareText Report.percentText Decimal.fixed
  by_cases hpos : 0 < part.toNat
  · obtain ⟨x, hx, hbound⟩ := exists_percentage hpos hle hwhole
    refine ⟨_, hbound.scaled_le 2, ?_⟩
    rw [hx, x.parts_toFloat]
    simp
  · have hzero : part = 0 := UInt64.toNat_inj.mp (Nat.eq_zero_of_not_pos hpos)
    have hparts : Decimal.Parts.ofFloat 0 = .finite false 0 (-(1074 : Nat)) := by decide
    refine ⟨0, Nat.zero_le _, ?_⟩
    rw [hzero, percentage_zero hwhole, hparts]
    simp only [Bool.false_eq_true, if_false, String.empty_append]
    rw [scaled_zero]

end UsageWatch
