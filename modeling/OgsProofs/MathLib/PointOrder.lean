/-
The orders on `MathLib::TemplatePoint` (MathLib/TemplatePoint.h). `operator<` runs a loop over the
coordinates and returns at the first coordinate where the points differ. `lessEq` makes the same
comparison on three coordinates, with a tolerance `eps` under which two coordinates count as
equal. `operator[]` asserts that its index is below `DIM`, so here it takes a `Fin DIM`. The
tolerance `eps` is a `double` in the source; here it has the coordinate type, which for
`T = double` is the same computation. The condition on coordinate 0 in TemplatePoint.h (line 146)
opens one parenthesis more than it closes, so the source does not compile as written; closed
before the `{`, it is the `&&` of its two tests, the form of the tests on coordinates 1 and 2, and
that is what `lessEq` computes.
-/
import OgsProofs.MathLib.TemplatePoint
import Mathlib

namespace Ogs.MathLib

variable {T : Type} {DIM : Nat}

/-- `TemplatePoint::operator[]`: coordinate `idx`, below `DIM` by the assert. -/
def TemplatePoint.get (p : TemplatePoint T DIM) (idx : Fin DIM) : T :=
  p.x.get (idx.cast p.length_x.symm)

theorem TemplatePoint.get_eq_iff (a b : TemplatePoint T DIM) : (∀ i, a.get i = b.get i) ↔ a = b :=
  ⟨fun h => TemplatePoint.ext (List.ext_get (a.length_x.trans b.length_x.symm)
    fun n h₁ _ => h ⟨n, a.length_x ▸ h₁⟩), fun h _ => h ▸ rfl⟩

theorem TemplatePoint.x_eq_get (p : TemplatePoint T 3) : p.x = [p.get 0, p.get 1, p.get 2] := by
  refine List.ext_get (by simp [p.length_x]) fun n _ h => ?_
  simp only [List.length_cons, List.length_nil] at h
  interval_cases n <;> rfl

/-! ## operator< -/

section Lt

variable [LT T] [DecidableRel ((· < ·) : T → T → Prop)]

/-- The loop of `operator<`, walking both coordinate arrays in step: at `a[i] = x` and `b[i] = y` it
returns false if `x > y`, true if `x < y`, and goes on to `i + 1` otherwise; past the last
coordinate it returns false. -/
def ltCoords : List T → List T → Bool
  | x :: xs, y :: ys => if x > y then false else if x < y then true else ltCoords xs ys
  | _, _ => false

/-- `operator<` on points. -/
def TemplatePoint.lt (a b : TemplatePoint T DIM) : Bool := ltCoords a.x b.x

instance : LT (TemplatePoint T DIM) := ⟨fun a b => a.lt b = true⟩

instance : DecidableRel ((· < ·) : TemplatePoint T DIM → TemplatePoint T DIM → Prop) :=
  fun a b => inferInstanceAs (Decidable (a.lt b = true))

theorem TemplatePoint.lt_def (a b : TemplatePoint T DIM) : a < b ↔ ltCoords a.x b.x = true :=
  Iff.rfl

end Lt

theorem lex_cons_cons_iff {r : T → T → Prop} {x y : T} {xs ys : List T} :
    List.Lex r (x :: xs) (y :: ys) ↔ r x y ∨ x = y ∧ List.Lex r xs ys :=
  ⟨fun | .cons h => .inr ⟨rfl, h⟩ | .rel h => .inl h,
    fun | .inl h => .rel h | .inr ⟨rfl, h⟩ => .cons h⟩

section Linear

variable [LinearOrder T]

theorem ltCoords_iff_lex : ∀ {xs ys : List T}, xs.length = ys.length →
    (ltCoords xs ys = true ↔ List.Lex (· < ·) xs ys)
  | [], [], _ => by simp [ltCoords]
  | [], _ :: _, h | _ :: _, [], h => absurd h (by simp)
  | x :: xs, y :: ys, h => by
    rw [lex_cons_cons_iff, ← ltCoords_iff_lex (Nat.succ.inj h), ltCoords]
    rcases lt_trichotomy x y with hxy | rfl | hxy
    · simp [hxy, not_lt_of_lt hxy]
    · simp
    · simp [hxy, not_lt_of_lt hxy, hxy.ne']

theorem TemplatePoint.lt_iff_lex (a b : TemplatePoint T DIM) :
    a < b ↔ List.Lex (· < ·) a.x b.x :=
  ltCoords_iff_lex (a.length_x.trans b.length_x.symm)

theorem TemplatePoint.lt_asymm {a b : TemplatePoint T DIM} (h : a < b) : ¬ b < a := by
  rw [TemplatePoint.lt_iff_lex] at h ⊢
  exact asymm h

theorem TemplatePoint.lt_trans {a b c : TemplatePoint T DIM} (hab : a < b) (hbc : b < c) :
    a < c := by
  rw [TemplatePoint.lt_iff_lex] at hab hbc ⊢
  exact IsTrans.trans _ _ _ hab hbc

theorem TemplatePoint.lt_trichotomy (a b : TemplatePoint T DIM) : a < b ∨ a = b ∨ b < a := by
  simp only [TemplatePoint.lt_iff_lex, TemplatePoint.ext_iff]
  exact trichotomous _ _

/-- `operator<` on a linearly ordered coordinate type is the strict lexicographic order on the
coordinate arrays: irreflexive, transitive, and of any two points exactly one is below the other
or the two have the same coordinates. -/
theorem lt_strict_lexicographic :
    (∀ a b : TemplatePoint T DIM, a < b ↔ List.Lex (· < ·) a.x b.x) ∧
    (∀ a : TemplatePoint T DIM, ¬ a < a) ∧
    (∀ a b c : TemplatePoint T DIM, a < b → b < c → a < c) ∧
    ∀ a b : TemplatePoint T DIM,
      (a < b ∨ b < a ∨ ∀ i, a.get i = b.get i) ∧ ¬ (a < b ∧ b < a) ∧
        ¬ (a < b ∧ ∀ i, a.get i = b.get i) ∧ ¬ (b < a ∧ ∀ i, a.get i = b.get i) := by
  refine ⟨TemplatePoint.lt_iff_lex, fun a h => TemplatePoint.lt_asymm h h,
    fun a b c => TemplatePoint.lt_trans, fun a b => ?_⟩
  simp only [TemplatePoint.get_eq_iff]
  refine ⟨(TemplatePoint.lt_trichotomy a b).imp_right Or.symm,
    fun h => TemplatePoint.lt_asymm h.1 h.2, ?_, ?_⟩ <;>
  · rintro ⟨h, rfl⟩; exact TemplatePoint.lt_asymm h h

example : (⟨[1, 2, 3], rfl⟩ : TemplatePoint Nat 3) < ⟨[1, 3, 0], rfl⟩ := by decide

end Linear

/-! ## lessEq -/

section LessEq

variable [LinearOrderedField T]

/-- `std::numeric_limits<double>::epsilon()`, the default `eps` of `lessEq`. -/
def epsilon : T := 1 / 2 ^ 52

/-- The test `lessEq` makes on one coordinate: `fabs(ak - bk)` is above `eps` times the scale
`scale` and above `eps` itself. -/
def beyondTolerance (eps scale ak bk : T) : Bool :=
  decide (|ak - bk| > eps * scale) && decide (|ak - bk| > eps)

/-- `lessEq(a, b, eps)` on points of three coordinates. Coordinate 0 is tested against
`eps * min(|b[0]|, |a[0]|)`, coordinates 1 and 2 against `eps * |a[k]|`. -/
def lessEq (a b : TemplatePoint T 3) (eps : T) : Bool :=
  if beyondTolerance eps (min |b.get 0| |a.get 0|) (a.get 0) (b.get 0) then decide (a.get 0 ≤ b.get 0)
  else if beyondTolerance eps |a.get 1| (a.get 1) (b.get 1) then decide (a.get 1 ≤ b.get 1)
  else if beyondTolerance eps |a.get 2| (a.get 2) (b.get 2) then decide (a.get 2 ≤ b.get 2)
  else true

theorem beyondTolerance_min_comm (eps a0 b0 : T) :
    beyondTolerance eps (min |b0| |a0|) a0 b0 = beyondTolerance eps (min |a0| |b0|) b0 a0 := by
  rw [beyondTolerance, beyondTolerance, abs_sub_comm, min_comm]

/-- `lessEq` is total on points where the tests on coordinates 1 and 2 give the same answer in
both argument orders. -/
theorem lessEq_total_of_symmetric (a b : TemplatePoint T 3) (eps : T)
    (hsymm : ∀ k : Fin 3, k ≠ 0 → beyondTolerance eps |a.get k| (a.get k) (b.get k) =
      beyondTolerance eps |b.get k| (b.get k) (a.get k)) :
    lessEq a b eps = true ∨ lessEq b a eps = true := by
  unfold lessEq
  rw [← beyondTolerance_min_comm eps (a.get 0) (b.get 0), ← hsymm 1 (by decide),
    ← hsymm 2 (by decide)]
  split_ifs <;> simp [le_total]

theorem lessEq_total_on_nearby_points :
    (∀ k : Fin 3, k ≠ 0 →
      beyondTolerance (epsilon : ℝ) |(⟨[0, 1, 2], rfl⟩ : TemplatePoint ℝ 3).get k|
          ((⟨[0, 1, 2], rfl⟩ : TemplatePoint ℝ 3).get k) ((⟨[0, 1, 3], rfl⟩ : TemplatePoint ℝ 3).get k) =
        beyondTolerance epsilon |(⟨[0, 1, 3], rfl⟩ : TemplatePoint ℝ 3).get k|
          ((⟨[0, 1, 3], rfl⟩ : TemplatePoint ℝ 3).get k) ((⟨[0, 1, 2], rfl⟩ : TemplatePoint ℝ 3).get k)) ∧
    (lessEq ⟨[0, 1, 2], rfl⟩ ⟨[0, 1, 3], rfl⟩ (epsilon : ℝ) = true ∨
      lessEq ⟨[0, 1, 3], rfl⟩ ⟨[0, 1, 2], rfl⟩ (epsilon : ℝ) = true) := by
  refine ⟨?hsymm, lessEq_total_of_symmetric _ _ _ ?hsymm⟩
  intro k hk
  fin_cases k <;> norm_num [beyondTolerance, epsilon, TemplatePoint.get] at hk ⊢

/-- At the default tolerance `lessEq` fails both ways on two points that are equal in coordinate 0.
The test on coordinate 1 uses the scale `|a[1]|`. For the first point that scale is the smaller
one, so the test separates the two points, and the first point is above the second there. From
the second point the same coordinates are within tolerance, and at coordinate 2 the second point
is above the first. -/
theorem lessEq_not_total :
    beyondTolerance (epsilon : ℝ) |2 ^ 8 - 2 ^ 60| (2 ^ 8 - 2 ^ 60) (-2 ^ 60) = true ∧
      beyondTolerance (epsilon : ℝ) |-2 ^ 60| (-2 ^ 60) (2 ^ 8 - 2 ^ 60) = false ∧
      lessEq ⟨[0, 2 ^ 8 - 2 ^ 60, 0], rfl⟩ ⟨[0, -2 ^ 60, 1], rfl⟩ (epsilon : ℝ) = false ∧
      lessEq ⟨[0, -2 ^ 60, 1], rfl⟩ ⟨[0, 2 ^ 8 - 2 ^ 60, 0], rfl⟩ (epsilon : ℝ) = false := by
  norm_num [lessEq, beyondTolerance, epsilon, TemplatePoint.get]

/-! ## maxNormDist -/

/-- `maxNormDist(p0, p1)`: the distance of two points of three coordinates in the maximum norm. -/
def maxNormDist (p0 p1 : TemplatePoint T 3) : T :=
  let x := |p1.get 0 - p0.get 0|
  let y := |p1.get 1 - p0.get 1|
  let z := |p1.get 2 - p0.get 2|
  max x (max y z)

theorem beyondTolerance_of_le {eps scale ak bk : T} (h : |ak - bk| ≤ eps) :
    beyondTolerance eps scale ak bk = false := by
  simp [beyondTolerance, h]

/-- Points within `eps` of each other in the maximum norm are equal for `lessEq`, both ways: every
coordinate fails the absolute part of the test. -/
theorem lessEq_of_maxNormDist_le (a b : TemplatePoint T 3) (eps : T) (h : maxNormDist a b ≤ eps) :
    lessEq a b eps = true ∧ lessEq b a eps = true := by
  simp only [maxNormDist, max_le_iff, abs_sub_comm (b.get _)] at h
  simp [lessEq, beyondTolerance_of_le, h, abs_sub_comm (b.get _)]

theorem lessEq_within_tolerance :
    maxNormDist (⟨[0, 1, 2], rfl⟩ : TemplatePoint ℝ 3) ⟨[0, 1 + 1 / 2 ^ 53, 2], rfl⟩ ≤ epsilon ∧
      lessEq ⟨[0, 1, 2], rfl⟩ ⟨[0, 1 + 1 / 2 ^ 53, 2], rfl⟩ (epsilon : ℝ) = true ∧
      lessEq ⟨[0, 1 + 1 / 2 ^ 53, 2], rfl⟩ ⟨[0, 1, 2], rfl⟩ (epsilon : ℝ) = true := by
  refine ⟨?h, lessEq_of_maxNormDist_le _ _ _ ?h⟩
  norm_num [maxNormDist, epsilon, TemplatePoint.get, abs_of_pos]

/-! ## lessEq without tolerance -/

theorem beyondTolerance_zero (scale ak bk : T) : beyondTolerance 0 scale ak bk = decide (ak ≠ bk) := by
  simp [beyondTolerance, sub_eq_zero]

/-- One coordinate of `lessEq` without tolerance against one turn of the loop of `operator<` with
the points swapped. -/
theorem lessEq_zero_step (x y : T) {p q : Bool} (h : p = true ↔ ¬ q = true) :
    (if x ≠ y then decide (x ≤ y) else p) = true ↔
      ¬ (if y > x then false else if y < x then true else q) = true := by
  rcases lt_trichotomy x y with hxy | rfl | hxy
  · simp [hxy, hxy.ne, hxy.le]
  · simpa using h
  · simp [hxy, hxy.ne', hxy.le, not_le_of_lt hxy]

/-- Without tolerance `lessEq(a, b, 0)` holds exactly when `b < a` does not: it is the non-strict
order that goes with `operator<`. -/
theorem lessEq_zero_iff (a b : TemplatePoint T 3) : lessEq a b 0 = true ↔ ¬ b < a := by
  rw [TemplatePoint.lt_def, b.x_eq_get, a.x_eq_get]
  simp only [lessEq, ltCoords, beyondTolerance_zero, decide_eq_true_eq]
  exact lessEq_zero_step _ _ (lessEq_zero_step _ _ (lessEq_zero_step _ _ (by decide)))

end LessEq

end Ogs.MathLib
