import Mathlib.Algebra.Order.Ring.Int
import Mathlib.Data.Nat.Find
import ClipboardWire.WhileLoop

namespace ClipboardWire

namespace Android

/-!
# The sample size of a large image

`ImageScaling.sampleSizeFor` of the Android client.  The sides are compared as
`Long`, but the sample size is an `Int`: its doubling wraps around to a
negative number and from there to zero.
-/

/-- The default for `maxSide`. -/
def defaultMaxSide : Int32 :=
  4096

/-- The test of the loop, over `Long`. -/
def isTooLong (longest : Int64) (maxSide sample : Int32) : Bool :=
  maxSide.toInt64 * sample.toInt64 < longest

/-- A round of the loop. -/
def double (sample : Int32) : Int32 :=
  sample * 2

/-- `sampleSizeFor`, with a bound on the number of tests that its loop makes. -/
def sampleSizeFor
    (fuel : Nat)
    (width height maxSide : Int32) :
    Except String (Option Int32) :=
  if 0 < maxSide then
    let longest := (max width height).toInt64
    .ok (WhileLoop.run? (isTooLong longest maxSide) double fuel 1)
  else
    .error "maxSide must be positive"

/-- A sample size is the smallest power of two that is large enough. -/
def IsSampleSize (width height maxSide sample : Int32) : Prop :=
  ∃ exponent : Nat,
    sample.toInt = 2 ^ exponent ∧
      max width.toInt height.toInt ≤ maxSide.toInt * sample.toInt ∧
      ∀ other : Nat,
        max width.toInt height.toInt ≤ maxSide.toInt * 2 ^ other →
        exponent ≤ other

/-- The larger of two sides. -/
theorem toInt_max (first second : Int32) :
    (max first second).toInt = max first.toInt second.toInt := by
  have split :
      max first second = if first ≤ second then second else first := rfl
  rw [split]
  split
  · rename_i below
    exact (max_eq_right (Int32.le_iff_toInt_le.mp below)).symm
  · rename_i above
    have other : ¬ first.toInt ≤ second.toInt :=
      fun below => above (Int32.le_iff_toInt_le.mpr below)
    exact (max_eq_left (le_of_not_ge other)).symm

/-- A product of two numbers of 32 bits fits into 64. -/
theorem toInt_product (first second : Int32) :
    (first.toInt64 * second.toInt64).toInt = first.toInt * second.toInt := by
  have bound (number : Int32) : number.toInt.natAbs ≤ 2 ^ 31 := by
    have lower := number.le_toInt
    have upper := number.toInt_lt
    omega
  have size :
      (first.toInt * second.toInt).natAbs ≤ 2 ^ 31 * 2 ^ 31 := by
    rw [Int.natAbs_mul]
    exact Nat.mul_le_mul (bound first) (bound second)
  rw [Int64.toInt_mul, Int32.toInt_toInt64, Int32.toInt_toInt64]
  apply Int.bmod_eq_of_le <;> omega

/-- The test compares the sides themselves. -/
theorem isTooLong_iff {width height maxSide sample : Int32} :
    isTooLong (max width height).toInt64 maxSide sample = true ↔
      maxSide.toInt * sample.toInt < max width.toInt height.toInt := by
  rw [isTooLong, decide_eq_true_eq, Int64.lt_iff_toInt_lt, toInt_product,
    Int32.toInt_toInt64, toInt_max]

/-- As long as it fits, the doubled number is a power of two. -/
theorem toInt_doubled
    {exponent : Nat}
    (fits : exponent ≤ 30) :
    (double^[exponent] 1).toInt = 2 ^ exponent := by
  have all : ∀ exponent < 31, (double^[exponent] 1).toInt = 2 ^ exponent := by
    decide +kernel
  exact all exponent (Nat.lt_succ_of_le fits)

/-- It is never larger than the largest power of two. -/
theorem toInt_doubled_le (rounds : Nat) :
    (double^[rounds] 1).toInt ≤ 2 ^ 30 := by
  by_cases early : rounds < 32
  · have all : ∀ rounds < 32, (double^[rounds] 1).toInt ≤ 2 ^ 30 := by
      decide +kernel
    exact all rounds early
  · have gone : double^[rounds] 1 = 0 := by
      induction rounds, Nat.le_of_not_lt early using Nat.le_induction with
      | base =>
          decide +kernel
      | succ rounds late inductionHypothesis =>
          rw [Function.iterate_succ_apply', inductionHypothesis (by omega)]
          decide
    rw [gone]
    decide

/-- A limit of two pixels or more, and any limit for sides up to half of the
largest number, is reached before the sample size wraps around. -/
theorem longest_le
    {width height maxSide : Int32}
    (positive : 0 < maxSide)
    (fits :
      maxSide ≠ 1 ∨ max width.toInt height.toInt ≤ 2 ^ 30) :
    max width.toInt height.toInt ≤ maxSide.toInt * 2 ^ 30 := by
  have atLeast : 0 < maxSide.toInt := Int32.lt_iff_toInt_lt.mp positive
  have longest : max width.toInt height.toInt < 2 ^ 31 :=
    max_lt width.toInt_lt height.toInt_lt
  rcases fits with other | short
  · have notOne : maxSide.toInt ≠ 1 :=
      fun isOne => other (Int32.toInt_inj.mp isOne)
    omega
  · omega

/-- For a limit of one pixel and a longer side, the loop does not end. -/
theorem run?_of_tooLong
    {width height : Int32}
    (long : 2 ^ 30 < max width.toInt height.toInt)
    (fuel : Nat) :
    WhileLoop.run? (isTooLong (max width height).toInt64 1) double fuel 1 =
      none := by
  apply WhileLoop.run?_eq_none
  intro rounds
  have one : (1 : Int32).toInt = 1 := by
    decide
  rw [isTooLong_iff, one, one_mul]
  exact lt_of_le_of_lt (toInt_doubled_le rounds) long

/-- The loop ends with the smallest power of two, or it does not end. -/
theorem sampleSizeFor_iff
    {width height maxSide : Int32}
    (positive : 0 < maxSide) :
    (∃ sample,
      IsSampleSize width height maxSide sample ∧
        ∃ enough, ∀ fuel,
          enough ≤ fuel →
          sampleSizeFor fuel width height maxSide = .ok (some sample)) ↔
      maxSide ≠ 1 ∨ max width.toInt height.toInt ≤ 2 ^ 30 := by
  constructor
  · rintro ⟨sample, -, enough, returns⟩
    by_contra tooLong
    rw [not_or, not_not, not_le] at tooLong
    obtain ⟨rfl, long⟩ := tooLong
    have returned := returns enough (Nat.le_refl enough)
    simp only [sampleSizeFor, if_pos positive, run?_of_tooLong long]
      at returned
    cases returned
  · intro fits
    have within := longest_le positive fits
    have found :
        ∃ exponent : Nat,
          max width.toInt height.toInt ≤ maxSide.toInt * 2 ^ exponent :=
      ⟨30, within⟩
    have small : Nat.find found ≤ 30 := Nat.find_le within
    have value := toInt_doubled small
    have ends :
        WhileLoop.EndsIn (isTooLong (max width height).toInt64 maxSide) double
          1 (double^[Nat.find found] 1) := by
      apply WhileLoop.EndsIn.of_iterate
      · intro earlier below
        rw [isTooLong_iff, toInt_doubled (by omega)]
        exact not_le.mp (Nat.find_min found below)
      · rw [← Bool.not_eq_true, isTooLong_iff, value, not_lt]
        exact Nat.find_spec found
    refine
      ⟨double^[Nat.find found] 1, ⟨Nat.find found, value, ?_, ?_⟩, ?_⟩
    · rw [value]
      exact Nat.find_spec found
    · intro other large
      exact Nat.find_le large
    · obtain ⟨enough, ends⟩ := ends
      refine ⟨enough, fun fuel more => ?_⟩
      simp only [sampleSizeFor, if_pos positive, ends fuel more]

example : sampleSizeFor 4 20000 100 defaultMaxSide = .ok (some 8) := by
  decide +kernel

/-- With the default limit even the longest side is served. -/
theorem sampleSizeFor_default :
    (∃ sample,
      IsSampleSize 20000 2147483647 defaultMaxSide sample ∧
        ∃ enough, ∀ fuel,
          enough ≤ fuel →
          sampleSizeFor fuel 20000 2147483647 defaultMaxSide =
            .ok (some sample)) ↔
      defaultMaxSide ≠ 1 ∨
        max (20000 : Int32).toInt (2147483647 : Int32).toInt ≤ 2 ^ 30 :=
  sampleSizeFor_iff (by decide)

/-- For a limit of one pixel there is an image that keeps the loop busy. -/
theorem sampleSizeFor_diverges :
    ¬ ∃ fuel sample,
      sampleSizeFor fuel 2147483647 1 1 = .ok (some sample) := by
  rintro ⟨fuel, sample, returned⟩
  have runs :
      WhileLoop.run? (isTooLong (max 2147483647 1 : Int32).toInt64 1) double
        fuel 1 = none :=
    run?_of_tooLong (by decide) fuel
  simp only [sampleSizeFor, if_pos (by decide : (0 : Int32) < 1), runs]
    at returned
  cases returned

end Android

end ClipboardWire
