import WikiDump.Field.Converter
/-!
# Integer columns hold exactly their range

A column of a fixed-width integer kind reads an integer literal by converting the literal's
64-bit value to the kind and testing the result twice (`IntKind.fits`): widened back to 64
signed bits it must be the literal's value again, and it must be positive exactly when that
value is. The first test alone would let every negative value through the 64-bit unsigned kind,
whose conversion keeps all the bits; the sign test is what refuses them there.

For every kind of 1 to 64 bits the two tests accept exactly the values from the kind's least to
its greatest (`IntKind.fits_eq_holds`), and on those the conversion changes nothing
(`IntKind.wrap_eq_self_iff`). So an integer column reads a literal its kind holds as the
literal's own value, refuses any other integer as out of range, refuses NULL as missing and any
other literal as of the wrong kind, and a nullable one reads NULL as the absent value
(`Converter.integer_conversion_exact`).
-/

namespace WikiDump

namespace IntKind

/-! ## Conversion arithmetic -/

theorem toInt64_range (n : Int64) :
    -9223372036854775808 ≤ n.toInt ∧ n.toInt < 9223372036854775808 :=
  ⟨Int64.le_toInt n, Int64.toInt_lt n⟩

theorem pow_bits {k : IntKind} (positive : 0 < k.bits) :
    Nat.pow 2 k.bits = 2 * Nat.pow 2 (k.bits - 1) := by
  obtain ⟨b, bits⟩ : ∃ b, k.bits = b + 1 := ⟨k.bits - 1, by omega⟩
  rw [bits, Nat.add_sub_cancel]
  exact Nat.mul_comm _ _

theorem pow_le_of_le {b : Nat} (atMost : b ≤ 63) : Nat.pow 2 b ≤ 9223372036854775808 :=
  Nat.pow_le_pow_right (by decide) atMost

theorem wrap_of_signed {k : IntKind} (signed : k.signed = true) (n : Int) :
    k.wrap n = n.bmod (Nat.pow 2 k.bits) := by
  rw [wrap, if_pos signed, BitVec.toInt_ofInt]
  rfl

theorem wrap_of_unsigned {k : IntKind} (unsigned : k.signed = false) (n : Int) :
    k.wrap n = n % ((Nat.pow 2 k.bits : Nat) : Int) := by
  rw [wrap, if_neg (by simp [unsigned]), BitVec.toNat_ofInt, Int.toNat_of_nonneg]
  · rfl
  · exact Int.emod_nonneg _ (by have := Nat.two_pow_pos k.bits; omega)

theorem widen_of_range {x : Int} (low : -9223372036854775808 ≤ x) (high : x < 9223372036854775808) :
    (BitVec.ofInt 64 x).toInt = x := by
  rw [BitVec.toInt_ofInt]
  apply Int.bmod_eq_of_le
  all_goals
    simp only [Nat.reducePow]
    omega

/-! ## The range of a kind -/

theorem holds_iff_of_signed {k : IntKind} (signed : k.signed = true) (n : Int) :
    k.holds n = true ↔ -((Nat.pow 2 (k.bits - 1) : Nat) : Int) ≤ n ∧ n < Nat.pow 2 (k.bits - 1) := by
  have half : 0 < Nat.pow 2 (k.bits - 1) := Nat.two_pow_pos (k.bits - 1)
  have greatest : ((Nat.pow 2 (k.bits - 1) - 1 : Nat) : Int) = ((Nat.pow 2 (k.bits - 1) : Nat) : Int) - 1 := by
    rw [Int.ofNat_sub half]
    rfl
  simp only [holds, min, max, signed, if_true, Bool.and_eq_true, decide_eq_true_eq]
  omega

theorem holds_iff_of_unsigned {k : IntKind} (unsigned : k.signed = false) (n : Int) :
    k.holds n = true ↔ 0 ≤ n ∧ n < Nat.pow 2 k.bits := by
  have whole : 0 < Nat.pow 2 k.bits := Nat.two_pow_pos k.bits
  have greatest : ((Nat.pow 2 k.bits - 1 : Nat) : Int) = ((Nat.pow 2 k.bits : Nat) : Int) - 1 := by
    rw [Int.ofNat_sub whole]
    rfl
  simp only [holds, min, max, unsigned, Bool.false_eq_true, if_false, Bool.and_eq_true,
    decide_eq_true_eq]
  omega

theorem holds_wrap {k : IntKind} (positive : 0 < k.bits) (n : Int) : k.holds (k.wrap n) = true := by
  cases signed : k.signed
  · have whole : 0 < Nat.pow 2 k.bits := Nat.two_pow_pos k.bits
    rw [holds_iff_of_unsigned signed, wrap_of_unsigned signed]
    exact ⟨Int.emod_nonneg _ (by omega), Int.emod_lt_of_pos _ (by omega)⟩
  · have half : 0 < Nat.pow 2 (k.bits - 1) := Nat.two_pow_pos (k.bits - 1)
    rw [holds_iff_of_signed signed, wrap_of_signed signed, pow_bits positive]
    have low := @Int.le_bmod n (2 * Nat.pow 2 (k.bits - 1)) (by omega)
    have high := @Int.bmod_lt n (2 * Nat.pow 2 (k.bits - 1)) (by omega)
    omega

/-- Converting keeps a value exactly when the kind holds it. -/
theorem wrap_eq_self_iff {k : IntKind} (positive : 0 < k.bits) (n : Int) :
    k.wrap n = n ↔ k.holds n = true := by
  constructor
  · intro same
    rw [← same]
    exact holds_wrap positive n
  · intro held
    cases signed : k.signed
    · rw [holds_iff_of_unsigned signed] at held
      rw [wrap_of_unsigned signed]
      exact Int.emod_eq_of_lt held.1 held.2
    · rw [holds_iff_of_signed signed] at held
      rw [wrap_of_signed signed, pow_bits positive]
      apply Int.bmod_eq_of_le <;> omega

/-- The converter's two tests accept exactly the 64-bit values that a kind of 1 to 64 bits
holds. -/
theorem fits_eq_holds {k : IntKind} (positive : 0 < k.bits) (atMost : k.bits ≤ 64) (n : Int64) :
    k.fits n.toInt = k.holds n.toInt := by
  obtain ⟨low, high⟩ := toInt64_range n
  rw [Bool.eq_iff_iff]
  simp only [fits, Bool.and_eq_true, beq_iff_eq]
  constructor
  · rintro ⟨widened, sameSign⟩
    by_cases wide : k.signed = false ∧ k.bits = 64
    · -- The 64-bit unsigned kind: widening undoes the conversion, and the sign test decides.
      obtain ⟨unsigned, bits⟩ := wide
      have wrapped : k.wrap n.toInt = n.toInt % 18446744073709551616 := by
        rw [wrap_of_unsigned unsigned, bits]
        rfl
      rw [wrapped] at sameSign
      rw [holds_iff_of_unsigned unsigned, bits]
      simp only [decide_eq_decide] at sameSign
      constructor
      · omega
      · show n.toInt < 18446744073709551616
        omega
    · -- Every other kind holds only values of 64 signed bits, which widening keeps.
      have inRange := holds_wrap positive n.toInt
      have bounded : -9223372036854775808 ≤ k.wrap n.toInt ∧ k.wrap n.toInt < 9223372036854775808 := by
        cases signed : k.signed
        · rw [holds_iff_of_unsigned signed] at inRange
          have := pow_le_of_le (b := k.bits) (by simp [signed] at wide; omega)
          omega
        · rw [holds_iff_of_signed signed] at inRange
          have := pow_le_of_le (b := k.bits - 1) (by omega)
          omega
      rw [widen_of_range bounded.1 bounded.2] at widened
      exact (wrap_eq_self_iff positive _).1 widened
  · intro held
    have same := (wrap_eq_self_iff positive _).2 held
    rw [same, widen_of_range low high]
    exact ⟨rfl, rfl⟩

/-- `-1` survives the first test for the 64-bit unsigned kind; the sign test refuses it. -/
example : (BitVec.ofInt 64 (uint64.wrap (-1))).toInt = -1 ∧ uint64.fits (-1) = false := by decide

/-- What reading a literal into a column of kind `k` does. An integer literal becomes its own value
when the kind holds it and is refused as out of range otherwise. NULL is refused as missing and
every other kind of literal as of the wrong kind, all three as type conversions. A nullable column
reads NULL as the absent value and every other literal as the column does. -/
structure ConvertsExactly (k : IntKind) : Prop where
  integer : ∀ n : Int64, (Converter.integer k).read (.integer n) =
    if k.min ≤ n.toInt ∧ n.toInt ≤ k.max then .ok (.int k n.toInt)
    else .error ⟨.outOfRange, toString n.toInt ++ " does not fit in " ++ k.name, .typeConversion⟩
  null : (Converter.integer k).read .null = .error ⟨.missing, "", .typeConversion⟩
  wrongKind : ∀ c : Content, c.kind ≠ .integer → c.kind ≠ .null →
    (Converter.integer k).read c =
      .error ⟨.wrongKind, "expected integer, found " ++ c.kind.name, .typeConversion⟩
  nullableNull : (Converter.integer k).convert true .null = .ok .absent
  nullableOther : ∀ c : Content, c.kind ≠ .null →
    (Converter.integer k).convert true c = (Converter.integer k).read c

end IntKind

namespace Converter

theorem holds_eq_true_iff {k : IntKind} {n : Int} : k.holds n = true ↔ k.min ≤ n ∧ n ≤ k.max := by
  simp [IntKind.holds]

theorem read_integer {k : IntKind} (positive : 0 < k.bits) (atMost : k.bits ≤ 64) (n : Int64) :
    (Converter.integer k).read (.integer n) =
      if k.min ≤ n.toInt ∧ n.toInt ≤ k.max then .ok (.int k n.toInt)
      else .error ⟨.outOfRange, toString n.toInt ++ " does not fit in " ++ k.name, .typeConversion⟩ := by
  have decided := IntKind.fits_eq_holds positive atMost n
  simp only [read]
  by_cases held : k.min ≤ n.toInt ∧ n.toInt ≤ k.max
  · have holds := holds_eq_true_iff.2 held
    rw [if_pos (decided.trans holds), if_pos held, (IntKind.wrap_eq_self_iff positive _).2 holds]
  · have refused : k.fits n.toInt = false := by
      rw [decided]
      exact Bool.eq_false_iff.2 (mt holds_eq_true_iff.1 held)
    rw [if_neg (by rw [refused]; decide), if_neg held]

theorem read_integer_other {k : IntKind} (c : Content) (notInteger : c.kind ≠ .integer)
    (notNull : c.kind ≠ .null) :
    (Converter.integer k).read c =
      .error ⟨.wrongKind, "expected integer, found " ++ c.kind.name, .typeConversion⟩ := by
  cases c with
  | null => exact absurd rfl notNull
  | integer n => exact absurd rfl notInteger
  | float x => rfl
  | text t => rfl

theorem convert_nullable_other (conv : Converter) (c : Content) (notNull : c.kind ≠ .null) :
    conv.convert true c = conv.read c := by
  cases c with
  | null => exact absurd rfl notNull
  | integer n => rfl
  | float x => rfl
  | text t => rfl

/-- A column of an integer kind of 1 to 64 bits reads each literal as `IntKind.ConvertsExactly`
says. -/
theorem integer_conversion_exact (k : IntKind) (positive : 0 < k.bits) (atMost : k.bits ≤ 64) :
    k.ConvertsExactly where
  integer := read_integer positive atMost
  null := rfl
  wrongKind := read_integer_other
  nullableNull := rfl
  nullableOther := convert_nullable_other _

theorem uint64_converts_exactly :
    0 < IntKind.uint64.bits ∧ IntKind.uint64.bits ≤ 64 ∧ IntKind.uint64.ConvertsExactly :=
  ⟨by decide, by decide, integer_conversion_exact _ (by decide) (by decide)⟩

end Converter

end WikiDump

