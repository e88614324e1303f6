import Mathlib
import WikiDump.Query.Filter
/-!
# How the comparison filters relate

The order filters `>`, `>=`, `<` and `<=` read both sides as doubles (a number as it is, any
other value through the numeral reader applied to its display text, NULL never) and compare the
doubles by IEEE rules. The `=` filter compares two numbers as doubles too, but texts as texts,
booleans as booleans, and anything else by display text.

So `>=` is `>` widened by numeric equality for every value a path yields (`sameNumber`), and
`<=` is `<` widened the same way; numeric equality is the `=` filter when both sides are numbers,
so between numbers `>=` matches exactly when `>` or `=` does. `!=` is `=` negated. All of this
is `order_filters_coherent`, and it rests on one fact of IEEE comparison: `x ≤ y` holds exactly
when `x < y` or `x == y`, for NaN and both zeros too (`float_le_widens`). Away from NaN, `x < y`
is the lexicographic order of a list of integers that places each double (`float_lt_orderKey`),
so `<` is a strict weak order there.

For booleans and texts the two notions of equality part: `true = true` matches where
`true >= true` does not, since a boolean reads as no number, and the text `1.0` is `>=` the
double `1` without being `=` to it (`equal_values_unordered`).
-/

namespace WikiDump

open Float.Model

/-! ## IEEE comparison -/

theorem compare_then_swap (e f : Int) (m n : Nat) :
    (compare e f).then (compare m n) = ((compare f e).then (compare n m)).swap := by
  rw [Ordering.swap_then, ← Std.OrientedOrd.eq_swap, ← Std.OrientedOrd.eq_swap]

theorem unpacked_compare_swap (a b : UnpackedFloat) :
    a.compare b = (b.compare a).map Ordering.swap := by
  rcases a with ⟨s⟩ | _ | ⟨s⟩ | ⟨s, m, e, _⟩ <;> rcases b with ⟨t⟩ | _ | ⟨t⟩ | ⟨t, n, f, _⟩
  case finite.finite =>
    -- Two finite values of one sign compare their exponents first and their mantissas next,
    -- the answer swapped when both are negative.
    cases s <;> cases t
    · show some ((compare e f).then (compare m n)).swap =
        some ((compare f e).then (compare n m)).swap.swap
      rw [compare_then_swap e f m n]
    · rfl
    · rfl
    · show some ((compare e f).then (compare m n)) = some ((compare f e).then (compare n m)).swap
      rw [compare_then_swap e f m n]
  -- Every other pair is decided by the kinds and the signs alone.
  all_goals (try cases s) <;> (try cases t) <;> rfl

/-- The place of a double other than NaN in the IEEE order: negative infinity, the negative
values by exponent and then mantissa downwards, the zeros, the positive values by exponent and
then mantissa, positive infinity. -/
def orderKey : UnpackedFloat → List Int
  | .infinity .negative => [0]
  | .finite .negative m e _ => [1, -e, -m]
  | .zero _ => [2]
  | .finite .positive m e _ => [3, e, m]
  | .infinity .positive => [4]
  | .notANumber => []

theorem then_compare_lt (e f : Int) (m n : Nat) :
    ((compare e f).then (compare m n) == .lt) =
      (decide (e < f) || decide (e = f) && decide (m < n)) := by
  rcases Int.lt_trichotomy e f with h | rfl | h
  · simp [Int.compare_eq_lt.2 h, h]
  · rcases Nat.lt_trichotomy m n with k | rfl | k
    · simp [Nat.compare_eq_lt.2 k, k]
    · simp
    · simp [Nat.compare_eq_gt.2 k]; omega
  · simp [Int.compare_eq_gt.2 h]; omega

theorem unpacked_lt_orderKey (a b : UnpackedFloat) (ha : a.isNaN = false) (hb : b.isNaN = false) :
    (a.compare b == some .lt) = decide (orderKey a < orderKey b) := by
  rcases a with ⟨s⟩ | _ | ⟨s⟩ | ⟨s, m, e, _⟩ <;> rcases b with ⟨t⟩ | _ | ⟨t⟩ | ⟨t, n, f, _⟩
  case finite.finite =>
    cases s <;> cases t
    · -- two negative values: the key negates exponent and mantissa
      have swapped := then_compare_lt f e n m
      rw [compare_then_swap f e n m] at swapped
      simpa [UnpackedFloat.compare, orderKey, List.cons_lt_cons_iff, eq_comm] using swapped
    · simp [UnpackedFloat.compare, orderKey, List.cons_lt_cons_iff]
    · simp [UnpackedFloat.compare, orderKey, List.cons_lt_cons_iff]
    · simpa [UnpackedFloat.compare, orderKey, List.cons_lt_cons_iff] using then_compare_lt e f m n
  case notANumber.notANumber | notANumber.infinity | notANumber.zero | notANumber.finite
    | infinity.notANumber | zero.notANumber | finite.notANumber =>
    simp [UnpackedFloat.isNaN] at ha hb
  -- the other pairs differ in kind or sign, which the first key entry tells apart
  all_goals (try cases s) <;> (try cases t) <;>
    simp [UnpackedFloat.compare, orderKey, List.cons_lt_cons_iff]
  all_goals decide

theorem float_beq_model (x y : Float) :
    (x == y) = (x.toModel.unpack.compare y.toModel.unpack == some .eq) := rfl

theorem float_lt_model (x y : Float) :
    decide (x < y) = (x.toModel.unpack.compare y.toModel.unpack == some .lt) := by
  have bool : decide (x < y) = x.lt y := by
    show decide (x.lt y = true) = x.lt y
    cases x.lt y <;> rfl
  rw [bool]
  show decide (x.toModel.lt y.toModel = true) = _
  rw [Bool.decide_eq_true]
  rfl

theorem float_le_model (x y : Float) :
    decide (x ≤ y) = (x.toModel.unpack.compare y.toModel.unpack).any (·.isLE) := by
  have bool : decide (x ≤ y) = x.le y := by
    show decide (x.le y = true) = x.le y
    cases x.le y <;> rfl
  rw [bool]
  show decide (x.toModel.le y.toModel = true) = _
  rw [Bool.decide_eq_true]
  rfl

theorem float_lt_orderKey {x y : Float} (hx : x.isNaN = false) (hy : y.isNaN = false) :
    decide (x < y) = decide (orderKey x.toModel.unpack < orderKey y.toModel.unpack) := by
  rw [float_lt_model]
  exact unpacked_lt_orderKey _ _ hx hy

theorem float_beq_symm (x y : Float) : (x == y) = (y == x) := by
  rw [float_beq_model, float_beq_model, unpacked_compare_swap x.toModel.unpack]
  cases y.toModel.unpack.compare x.toModel.unpack with
  | none => rfl
  | some order => cases order <;> rfl

/-- `x ≤ y` is `x < y` or `x == y`: both fail when a NaN is compared, and `0 ≤ -0` holds as
`0 == -0` does. -/
theorem float_le_widens (x y : Float) : decide (x ≤ y) = (decide (x < y) || x == y) := by
  rw [float_le_model, float_lt_model, float_beq_model]
  cases x.toModel.unpack.compare y.toModel.unpack with
  | none => rfl
  | some order => cases order <;> rfl

theorem float_ge_widens (x y : Float) : decide (x ≥ y) = (decide (x > y) || x == y) := by
  show decide (y ≤ x) = (decide (y < x) || x == y)
  rw [float_le_widens, float_beq_symm]

namespace Query

/-! ## Numbers compared -/

/-- Numeric equality: both sides read as doubles, and the doubles are equal. -/
def sameNumber (a b : Variant) : Bool := compareNumbers (fun x y => x == y) a b

theorem compareNumbers_or (r s : Float → Float → Bool) (a b : Variant) :
    compareNumbers (fun x y => r x y || s x y) a b = (compareNumbers r a b || compareNumbers s a b) := by
  unfold compareNumbers
  cases a.asNumber? <;> cases b.asNumber? <;> rfl

theorem compareNumbers_ge (a b : Variant) :
    compareNumbers (fun x y => decide (x ≥ y)) a b =
      (compareNumbers (fun x y => decide (x > y)) a b || sameNumber a b) := by
  rw [sameNumber, ← compareNumbers_or]
  simp only [float_ge_widens]

theorem compareNumbers_le (a b : Variant) :
    compareNumbers (fun x y => decide (x ≤ y)) a b =
      (compareNumbers (fun x y => decide (x < y)) a b || sameNumber a b) := by
  rw [sameNumber, ← compareNumbers_or]
  simp only [float_le_widens]

theorem asNumber_of_number {v : Variant} {x : Float} (number : v.number? = some x) :
    v.asNumber? = some x := by
  simp [Variant.asNumber?, number]

theorem isNull_of_number {v : Variant} {x : Float} (number : v.number? = some x) :
    v.isNull = false := by
  cases v <;> simp_all [Variant.number?, Variant.isNull]

theorem looseEqual_numbers {a b : Variant} (ha : a.number?.isSome) (hb : b.number?.isSome) :
    looseEqual a b = sameNumber a b := by
  obtain ⟨x, hx⟩ := Option.isSome_iff_exists.1 ha
  obtain ⟨y, hy⟩ := Option.isSome_iff_exists.1 hb
  simp [looseEqual, sameNumber, compareNumbers, isNull_of_number hx, isNull_of_number hy, hx, hy,
    asNumber_of_number hx, asNumber_of_number hy]

/-! ## The filters -/

theorem Filter.test_scalar (f : Filter) {a : Variant} (scalar : ∀ entries, a ≠ .map entries) :
    f.test a = testScalar f.operator a f.value := by
  cases a <;> simp_all [Filter.test]

/-- What the comparison filters on one field with the value `b` say of a value `a`: `>=` and `<=`
are `>` and `<` widened by numeric equality, `!=` negates `=`, and between two numbers `>=` and
`<=` are `>` or `=`, and `<` or `=`. -/
def FiltersCoherent (field : String) (b a : Variant) : Prop :=
  (Filter.mk field ">=" b).test a = ((Filter.mk field ">" b).test a || sameNumber a b) ∧
    (Filter.mk field "<=" b).test a = ((Filter.mk field "<" b).test a || sameNumber a b) ∧
    (Filter.mk field "!=" b).test a = !(Filter.mk field "=" b).test a ∧
    (a.number?.isSome → b.number?.isSome →
      (Filter.mk field ">=" b).test a = ((Filter.mk field ">" b).test a || (Filter.mk field "=" b).test a) ∧
        (Filter.mk field "<=" b).test a = ((Filter.mk field "<" b).test a || (Filter.mk field "=" b).test a))

theorem order_filters_coherent (field : String) (b : Variant) {a : Variant}
    (scalar : ∀ entries, a ≠ .map entries) : FiltersCoherent field b a := by
  simp only [FiltersCoherent, Filter.test_scalar _ scalar]
  have ge := compareNumbers_ge a b
  have le := compareNumbers_le a b
  refine ⟨by simpa [testScalar] using ge, by simpa [testScalar] using le, by simp [testScalar], ?_⟩
  intro ha hb
  have equal := looseEqual_numbers ha hb
  exact ⟨by simpa [testScalar, equal] using ge, by simpa [testScalar, equal] using le⟩

theorem order_filters_coherent_page_len :
    (∀ entries, Variant.int 111 ≠ .map entries) ∧ FiltersCoherent "page_len" (.float 111) (.int 111) :=
  ⟨fun _ => Variant.noConfusion, order_filters_coherent "page_len" (.float 111) fun _ => Variant.noConfusion⟩

/-- The `=` filter and the order filters part for booleans and texts: `true` equals `true` but is
neither `>` nor `>=` it, and the text `1.0` is `>=` the double `1` but neither `>` nor `=` it. -/
theorem equal_values_unordered :
    (Filter.mk "page_is_redirect" "=" (.bool true)).test (.bool true) = true ∧
      (Filter.mk "page_is_redirect" ">=" (.bool true)).test (.bool true) = false ∧
      (Filter.mk "page_is_redirect" ">" (.bool true)).test (.bool true) = false ∧
      (Filter.mk "page_title" ">=" (.float 1)).test (.str "1.0") = true ∧
      (Filter.mk "page_title" ">" (.float 1)).test (.str "1.0") = false ∧
      (Filter.mk "page_title" "=" (.float 1)).test (.str "1.0") = false := by
  decide +kernel

end Query

end WikiDump

