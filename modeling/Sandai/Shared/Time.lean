import Sandai.Shared.Types

/-! Go's `time.Time` and `time.Duration`, and the binary64 arithmetic behind `int(d.Seconds())`.

A `Time` is read from an injected clock or built by `time.Unix`; its location and monotonic
reading never reach the code modelled here. Binary64 values are exact integers times powers of
two; no runtime `Float` operation is involved.
-/

set_option autoImplicit false

namespace Sandai

/-- A `time.Time`: nanoseconds since January 1, year 1, 00:00:00 UTC, which is the zero `Time`. -/
structure Time where
  nanos : Int
  deriving DecidableEq, Repr

/-- `time.Duration`: a count of nanoseconds, an `int64`. -/
abbrev Duration := Int

namespace Time

def isZero (t : Time) : Bool := t.nanos = 0

def before (t u : Time) : Bool := t.nanos < u.nanos

def after (t u : Time) : Bool := u.nanos < t.nanos

/-- `t.Sub(u)`: the nanoseconds from `u` to `t`, saturated to the `int64` range. -/
def sub (t u : Time) : Duration := max (-2 ^ 63) (min (2 ^ 63 - 1) (t.nanos - u.nanos))

/-- When `t` is not before `u`, `t.Sub(u)` is the difference capped at `maxDuration`, and so is
never negative. -/
theorem sub_of_not_before {t u : Time} (notBefore : t.before u = false) :
    0 ≤ t.sub u ∧ t.sub u = min (2 ^ 63 - 1) (t.nanos - u.nanos) := by
  simp only [before, decide_eq_false_iff_not, not_lt] at notBefore
  have capped : (0 : Int) ≤ min (2 ^ 63 - 1) (t.nanos - u.nanos) :=
    le_min (by norm_num) (sub_nonneg.mpr notBefore)
  rw [sub, max_eq_right (le_trans (by norm_num) capped)]
  exact ⟨capped, rfl⟩

/-- `t.Add(d)` on a `Time` without a monotonic reading: the whole seconds of `d` and the carry of
its nanoseconds (`dsec++` or `dsec--`) go to the internal `int64` second count, which `addSec`
saturates at `2 ^ 63 - 1` and `-(2 ^ 63 - 1)` instead of wrapping. -/
def add (t : Time) (d : Duration) : Time :=
  let nsec := t.nanos % 1000000000 + d.tmod 1000000000
  let carry : Int := if 1000000000 ≤ nsec then 1 else if nsec < 0 then -1 else 0
  let dsec := d.tdiv 1000000000 + carry
  let sec := t.nanos / 1000000000
  let sum := toInt64 (sec + dsec)
  ⟨(if decide (sec < sum) = decide (0 < dsec) then sum
      else if 0 < dsec then 2 ^ 63 - 1 else -(2 ^ 63 - 1)) * 1000000000 +
    (nsec - carry * 1000000000)⟩

/-- When the second count stays in the `int64` range, `t.Add(d)` is `d` nanoseconds after `t`. -/
theorem add_of_fits (t : Time) (d : Duration)
    (low : -2 ^ 63 < t.nanos / 1000000000 + d.tdiv 1000000000)
    (high : t.nanos / 1000000000 + d.tdiv 1000000000 < 2 ^ 63 - 1) :
    (t.add d).nanos = t.nanos + d := by
  have whole := Int.ediv_add_emod t.nanos 1000000000
  have part := Int.tdiv_add_tmod d 1000000000
  have nsecLow := Int.emod_nonneg t.nanos (by norm_num : (1000000000 : Int) ≠ 0)
  have nsecHigh := Int.emod_lt_of_pos t.nanos (by norm_num : (0 : Int) < 1000000000)
  have carried : ∀ c : Int, c = 1 ∨ c = -1 ∨ c = 0 →
      -2 ^ 63 ≤ t.nanos / 1000000000 + (d.tdiv 1000000000 + c) ∧
        t.nanos / 1000000000 + (d.tdiv 1000000000 + c) < 2 ^ 63 := by omega
  unfold add
  dsimp only
  generalize carry : (if 1000000000 ≤ t.nanos % 1000000000 + d.tmod 1000000000 then 1
    else if t.nanos % 1000000000 + d.tmod 1000000000 < 0 then -1 else 0 : Int) = c
  have small : c = 1 ∨ c = -1 ∨ c = 0 := by subst carry; split_ifs <;> simp
  rw [toInt64_of_range (carried c small).1 (carried c small).2,
    if_pos (by simp only [decide_eq_decide]; omega)]
  omega

/-- Seconds from January 1, year 1 to January 1, 1970: Go's `unixToInternal`. -/
def unixToInternal : Int := 62135596800

/-- `t.Unix()`: the internal `int64` second count, shifted to 1970 with wrap-around. -/
def unix (t : Time) : Int := toInt64 (t.nanos / 1000000000 - unixToInternal)

def ofUnix (sec : Int) : Time := ⟨toInt64 (sec + unixToInternal) * 1000000000⟩

theorem unix_ofUnix {sec : Int} (low : -2 ^ 63 ≤ sec) (high : sec < 2 ^ 63) :
    (ofUnix sec).unix = sec := by
  simp only [unix, ofUnix, Int.mul_ediv_cancel _ (by norm_num : (1000000000 : Int) ≠ 0)]
  rw [sub_eq_add_neg, toInt64_add_toInt64, add_neg_cancel_right, toInt64_of_range low high]

end Time

/-! ## Binary64 -/

def roundHalfEven (n d : Nat) : Nat :=
  if 2 * (n % d) < d then n / d
  else if d < 2 * (n % d) then n / d + 1
  else if n / d % 2 = 0 then n / d else n / d + 1

theorem roundHalfEven_exact (q d : Nat) (positive : 0 < d) : roundHalfEven (q * d) d = q := by
  simp [roundHalfEven, Nat.mul_mod_left, Nat.mul_div_cancel _ positive, positive]

theorem log2_eq_of_bounds {n k : Nat} (low : 2 ^ k ≤ n) (high : n < 2 ^ (k + 1)) :
    n.log2 = k := by
  have nonzero : n ≠ 0 := by have := Nat.one_le_two_pow (n := k); omega
  have upper : n.log2 < k + 1 := (Nat.log2_lt nonzero).mpr high
  have lower : ¬ n.log2 < k := fun lt => by
    have := (Nat.log2_lt nonzero).mp lt; omega
  omega

theorem log2_mul_two_pow {a : Nat} (s : Nat) (nonzero : a ≠ 0) :
    (a * 2 ^ s).log2 = a.log2 + s := by
  apply log2_eq_of_bounds
  · rw [Nat.pow_add]; exact Nat.mul_le_mul_right _ (Nat.log2_self_le nonzero)
  · rw [show a.log2 + s + 1 = a.log2 + 1 + s by omega, Nat.pow_add]
    exact Nat.mul_lt_mul_of_pos_right Nat.lt_log2_self (Nat.two_pow_pos s)

/-- A finite binary64 value `mantissa * 2 ^ exponent`. -/
structure Float64 where
  mantissa : Int
  exponent : Int
  deriving DecidableEq, Repr

namespace Float64

def zero : Float64 := ⟨0, 0⟩

/-- `num / den` rounded to the nearest binary64, ties to even (`0 < den`). The numerator is
scaled by `2 ^ s` so that the quotient has at least 54 bits; its length then fixes the shift
that leaves a 53-bit significand. The values rounded here are far from overflow and from the
subnormal range. -/
def ofRatio (num : Int) (den : Nat) : Float64 :=
  if num = 0 then zero else
    let n := num.natAbs
    let s := den.log2 + 54
    let shift := (n * 2 ^ s / den).log2 - 52
    let m := roundHalfEven (n * 2 ^ s) (den * 2 ^ shift)
    ⟨if num < 0 then -(m : Int) else m, (shift : Int) - s⟩

def ofInt (i : Int) : Float64 := ofRatio i 1

def add (x y : Float64) : Float64 :=
  let e := min x.exponent y.exponent
  let num := x.mantissa * 2 ^ (x.exponent - e).toNat + y.mantissa * 2 ^ (y.exponent - e).toNat
  if 0 ≤ e then ofRatio (num * 2 ^ e.toNat) 1 else ofRatio num (2 ^ (-e).toNat)

def toInt (x : Float64) : Int :=
  if 0 ≤ x.exponent then x.mantissa * 2 ^ x.exponent.toNat
  else x.mantissa.tdiv (2 ^ (-x.exponent).toNat)

theorem ofRatio_mul_self {N : Int} (d : Nat) (nonzero : N ≠ 0) (small : N.natAbs < 2 ^ 53)
    (positive : 0 < d) :
    ofRatio (N * d) d = ⟨N * 2 ^ (52 - N.natAbs.log2), -((52 - N.natAbs.log2 : Nat) : Int)⟩ := by
  have abs_pos : N.natAbs ≠ 0 := Int.natAbs_ne_zero.mpr nonzero
  have length : N.natAbs.log2 ≤ 52 := by
    have := (Nat.log2_lt abs_pos).mpr small; omega
  have quotient : N.natAbs * d * 2 ^ (d.log2 + 54) / d = N.natAbs * 2 ^ (d.log2 + 54) := by
    rw [Nat.mul_right_comm, Nat.mul_div_cancel _ positive]
  have significand : roundHalfEven (N.natAbs * d * 2 ^ (d.log2 + 54))
      (d * 2 ^ (N.natAbs.log2 + (d.log2 + 54) - 52)) = N.natAbs * 2 ^ (52 - N.natAbs.log2) := by
    have regroup : N.natAbs * d * 2 ^ (d.log2 + 54) = N.natAbs * 2 ^ (52 - N.natAbs.log2) *
        (d * 2 ^ (N.natAbs.log2 + (d.log2 + 54) - 52)) := by
      have split : d.log2 + 54 = (52 - N.natAbs.log2) + (N.natAbs.log2 + (d.log2 + 54) - 52) := by
        omega
      calc N.natAbs * d * 2 ^ (d.log2 + 54)
          = N.natAbs * d * (2 ^ (52 - N.natAbs.log2) * 2 ^ (N.natAbs.log2 + (d.log2 + 54) - 52)) := by
            rw [← Nat.pow_add, ← split]
        _ = _ := by ring
    rw [regroup]
    exact roundHalfEven_exact _ _ (Nat.mul_pos positive (Nat.two_pow_pos _))
  simp only [ofRatio, mul_eq_zero, nonzero, Int.natCast_eq_zero, positive.ne', or_self,
    if_false, Int.natAbs_mul, Int.natAbs_ofNat, quotient, log2_mul_two_pow _ abs_pos,
    significand, Float64.mk.injEq]
  refine ⟨?_, by omega⟩
  rcases lt_or_gt_of_ne nonzero with negative | positive'
  · rw [if_pos (Int.mul_neg_of_neg_of_pos negative (by exact_mod_cast positive))]
    push_cast
    rw [abs_of_neg negative]; ring
  · rw [if_neg (not_lt.mpr (mul_nonneg positive'.le (by positivity)))]
    push_cast
    rw [abs_of_pos positive']

theorem ofRatio_zero (d : Nat) : ofRatio 0 d = zero := by
  simp [ofRatio]

theorem add_zero_of_nonpos (x : Float64) (nonpos : x.exponent ≤ 0) :
    x.add zero = ofRatio x.mantissa (2 ^ (-x.exponent).toNat) := by
  rcases eq_or_lt_of_le nonpos with same | negative
  · simp [add, zero, same]
  · simp [add, zero, min_eq_left nonpos, negative.not_le]

theorem toInt_of_exact (N : Int) (k : Nat) : toInt ⟨N * 2 ^ k, -(k : Int)⟩ = N := by
  rcases Nat.eq_zero_or_pos k with rfl | positive
  · simp [toInt]
  · simp only [toInt, Left.nonneg_neg_iff, Int.natCast_nonpos_iff, positive.ne', if_false,
      neg_neg, Int.toNat_ofNat]
    exact Int.mul_tdiv_cancel _ (by positivity)

end Float64

/-- `d.Seconds()`: `float64(d / Second) + float64(d % Second) / 1e9`. -/
def Duration.seconds (d : Duration) : Float64 :=
  (Float64.ofInt (d.tdiv 1000000000)).add (Float64.ofRatio (d.tmod 1000000000) 1000000000)

theorem seconds_whole {s : Int} (small : s.natAbs < 2 ^ 53) :
    (Duration.seconds (s * 1000000000)).toInt = s := by
  rcases eq_or_ne s 0 with rfl | nonzero
  · decide
  have rounded := fun d => Float64.ofRatio_mul_self d nonzero small
  have whole : Float64.ofInt s = ⟨s * 2 ^ (52 - s.natAbs.log2), -((52 - s.natAbs.log2 : Nat) : Int)⟩ := by
    simpa using rounded 1 Nat.one_pos
  simp only [Duration.seconds, Int.mul_tdiv_cancel _ (by norm_num : (1000000000 : Int) ≠ 0),
    Int.mul_tmod_left, Float64.ofRatio_zero, whole]
  rw [Float64.add_zero_of_nonpos _ (by simp)]
  have again := rounded _ (Nat.two_pow_pos (52 - s.natAbs.log2))
  push_cast at again
  simp only [neg_neg, Int.toNat_ofNat, again, Float64.toInt_of_exact]

end Sandai
