/-
Testing a unit against a range.

A range is given by two signed words and a unit by an unsigned one, and the test compares signed
words.  The unit is read as a signed word for it, so a unit in the upper half of the words turns
negative on the way.  That is harmless: such a unit lies above every signed word, and a test that
is made at all has two ends that are not negative.  So the test on words is the test on integers
(`holdsWord_eq`), for every unit and not only for those of a real pool.
-/
import RanSlicing.Range

namespace RanSlicing.Range

/-- The unit lies between the ends, neither of which is negative. -/
structure Spans (r : Range) (unit : Nat) : Prop where
  nonneg : 0 ≤ r.min
  min_le : r.min ≤ unit
  le_max : (unit : Int) ≤ r.max

theorem holds_iff_spans {r : Range} {unit : Nat} : r.holds unit = true ↔ r.Spans unit := by
  rw [holds]
  simp only [Bool.and_eq_true, decide_eq_true_eq]
  constructor
  · rintro ⟨⟨⟨hmin, -⟩, hle⟩, hmax⟩
    exact ⟨hmin, hle, hmax⟩
  · rintro ⟨hmin, hle, hmax⟩
    refine ⟨⟨⟨hmin, ?_⟩, hle⟩, hmax⟩
    omega

instance (r : Range) (unit : Nat) : Decidable (r.Spans unit) :=
  decidable_of_iff _ holds_iff_spans

theorem isNone_iff {r : Range} : r.isNone = true ↔ r = none := beq_iff_eq

/-! ### The test on machine words -/

/-- The test as it is made on words, the unit read as a signed one. -/
def holdsWord (min max : Int64) (unit : UInt64) : Bool :=
  if min < 0 || max < 0 then false
  else min ≤ unit.toInt64 && unit.toInt64 ≤ max

/-- A word of the upper half turns negative when it is read as a signed one. -/
theorem toInt_toInt64 (unit : UInt64) :
    unit.toInt64.toInt =
      if unit.toNat < 9223372036854775808 then (unit.toNat : Int)
      else (unit.toNat : Int) - 18446744073709551616 := by
  have hword : unit.toInt64.toInt = unit.toBitVec.toInt := rfl
  rw [hword, BitVec.toInt_eq_toNat_cond, UInt64.toNat_toBitVec]
  have hhalf : 2 * unit.toNat < 18446744073709551616 ↔ unit.toNat < 9223372036854775808 := by
    omega
  simp only [Nat.reducePow, hhalf]
  rfl

/-- **The test on words is the test on integers.** -/
theorem holdsWord_eq (min max : Int64) (unit : UInt64) :
    holdsWord min max unit = holds ⟨min.toInt, max.toInt⟩ unit.toNat := by
  have hmax : max.toInt < 9223372036854775808 := max.toInt_lt
  have hunit : unit.toNat < 18446744073709551616 := unit.toNat_lt
  have hcast := toInt_toInt64 unit
  rw [Bool.eq_iff_iff, holds_iff_spans, holdsWord]
  have hzero : (0 : Int64).toInt = 0 := rfl
  simp only [Int64.lt_iff_toInt_lt, Int64.le_iff_toInt_le, hzero, Bool.or_eq_true,
    decide_eq_true_eq]
  split
  · rename_i hnegative
    constructor
    · intro h
      exact Bool.noConfusion h
    · rintro ⟨hmin, hle, hle'⟩
      simp only at hmin hle hle'
      omega
  · rename_i hpositive
    rw [Bool.and_eq_true, decide_eq_true_eq, decide_eq_true_eq]
    constructor
    · rintro ⟨hle, hle'⟩
      refine ⟨?_, ?_, ?_⟩ <;> simp only <;> split at hcast <;> omega
    · rintro ⟨hmin, hle, hle'⟩
      simp only at hmin hle hle'
      rw [if_pos (by omega)] at hcast
      omega

end RanSlicing.Range
