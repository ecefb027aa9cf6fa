import Mathlib.Algebra.Quaternion
import Mathlib.Tactic.FieldSimp
import Mathlib.Tactic.LinearCombination

set_option relaxedAutoImplicit false
set_option autoImplicit false

/-!
# Turning the vertical axis

A unit quaternion `q` turns a vector `v` into the vector part of `q * v * star q`. The shortest
way from the vertical axis to a direction is a turn about a horizontal axis, whose quaternion has
the cosine of half the angle as its scalar part, and no vertical part.

## Main definitions

* `rotate` — a vector turned by a quaternion.
* `turn` — the quaternion that turns the vertical axis into a direction.

## Main results

* `normSq_turn`, `rotate_turn` — it is a unit quaternion and turns the axis as it should.
-/

namespace HalfAngle

variable {K : Type*} [Field K]

/-- A vector as a quaternion. -/
def ofVector (v : K × K × K) : Quaternion K := ⟨0, v.1, v.2.1, v.2.2⟩

/-- The vector turned by a quaternion. -/
def rotate (q : Quaternion K) (v : K × K × K) : K × K × K :=
  let turned := q * ofVector v * star q
  (turned.imI, turned.imJ, turned.imK)

/-- The quaternion with a given scalar part that turns the vertical axis into a direction, of
which two components are `x` and `y`. -/
def turn (scalar x y : K) : Quaternion K :=
  ⟨scalar, -y / (scalar + scalar), x / (scalar + scalar), 0⟩

/-- The vertical axis, turned. -/
lemma rotate_vertical (q : Quaternion K) :
    rotate q (0, 0, 1) =
      (2 * (q.imI * q.imK + q.re * q.imJ), 2 * (q.imJ * q.imK - q.re * q.imI),
        q.re ^ 2 - q.imI ^ 2 - q.imJ ^ 2 + q.imK ^ 2) := by
  simp only [rotate, Quaternion.imI_mul, Quaternion.imJ_mul, Quaternion.imK_mul,
    Quaternion.re_mul, Quaternion.re_star, Quaternion.imI_star, Quaternion.imJ_star,
    Quaternion.imK_star]
  ext <;> simp [ofVector] <;> ring

section Turn

variable [NeZero (2 : K)] {scalar x y z : K}

/-- **It is a unit quaternion**, if the scalar part is the cosine of half the angle. -/
theorem normSq_turn (hscalar : scalar ≠ 0) (hhalf : 2 * scalar ^ 2 = 1 + z)
    (hunit : x ^ 2 + y ^ 2 + z ^ 2 = 1) : Quaternion.normSq (turn scalar x y) = 1 := by
  have htwo : (2 : K) ≠ 0 := NeZero.ne _
  rw [Quaternion.normSq_def']
  simp only [turn, ← two_mul]
  field_simp
  linear_combination hunit + (2 * scalar ^ 2 + z - 1) * hhalf

/-- **It turns the vertical axis** into the direction. -/
theorem rotate_turn (hscalar : scalar ≠ 0) (hhalf : 2 * scalar ^ 2 = 1 + z)
    (hunit : x ^ 2 + y ^ 2 + z ^ 2 = 1) : rotate (turn scalar x y) (0, 0, 1) = (x, y, z) := by
  have htwo : (2 : K) ≠ 0 := NeZero.ne _
  rw [rotate_vertical]
  simp only [turn, ← two_mul]
  ext
  · simp
    field_simp
  · simp
    field_simp
  · simp
    field_simp
    linear_combination -hunit + (2 * scalar ^ 2 - z + 1) * hhalf

end Turn

end HalfAngle
