import WikiDump.Proofs.NumberGrammar
/-!
# Hexadecimal literals

A dump may write a byte string as `0x` followed by two hexadecimal digits a byte, or as the
digits quoted after `X`. `Literal.Spells` says which digits spell which bytes: two a byte, high
half first, each digit of either case (`Literal.digitValue?`). The reader decodes such digits to
the bytes they spell (`Literal.decodeHex_spells`), an odd number of digits as if a `0` came first
(`Literal.decodeHex_pad`), and the quoted form to the same bytes as the bare one
(`Literal.hex_literals_read`).

The bare form needs at least one digit: `0x` alone is refused as an invalid number
(`Literal.read_bare_hex_refused`), since the reader takes a literal that stops right after `0x`
for a malformed number.
-/

namespace WikiDump

open Bytes

namespace Literal

/-- The value of a hexadecimal digit of either case. -/
def digitValue? (c : UInt8) : Option Nat :=
  if 0x30 ≤ c ∧ c ≤ 0x39 then some (c.toNat - 0x30)
  else if 0x61 ≤ c ∧ c ≤ 0x66 then some (c.toNat - 0x61 + 10)
  else if 0x41 ≤ c ∧ c ≤ 0x46 then some (c.toNat - 0x41 + 10)
  else none

/-- Hexadecimal digits that spell bytes: two digits a byte, the high half first, each digit in
either case. -/
inductive Spells : List UInt8 → List UInt8 → Prop
  | nil : Spells [] []
  | cons {hi lo b : UInt8} {digits bytes : List UInt8} :
      digitValue? hi = some (b.toNat / 16) → digitValue? lo = some (b.toNat % 16) →
      Spells digits bytes → Spells (hi :: lo :: digits) (b :: bytes)

/-! ## Digits -/

set_option maxRecDepth 8000 in
theorem digitValue_table : ∀ n, n < 256 →
    (isHexDigit (UInt8.ofNat n) == (digitValue? (UInt8.ofNat n)).isSome &&
      (digitValue? (UInt8.ofNat n)).all (fun v =>
        isWordByte (UInt8.ofNat n) && nibble (UInt8.ofNat n) == UInt8.ofNat v)) = true := by
  decide

theorem isHexDigit_eq (c : UInt8) : isHexDigit c = (digitValue? c).isSome := by
  have entry := digitValue_table c.toNat c.toNat_lt
  rw [UInt8.ofNat_toNat, Bool.and_eq_true, beq_iff_eq] at entry
  exact entry.1

theorem digit_facts {c : UInt8} {v : Nat} (value : digitValue? c = some v) :
    isWordByte c = true ∧ nibble c = UInt8.ofNat v := by
  have entry := digitValue_table c.toNat c.toNat_lt
  rw [UInt8.ofNat_toNat, value] at entry
  have facts : isHexDigit c = true ∧ isWordByte c = true ∧ nibble c = UInt8.ofNat v := by
    simpa [Bool.and_eq_true, beq_iff_eq] using entry
  exact facts.2

theorem isWordByte_of_isHexDigit {c : UInt8} (digit : isHexDigit c = true) : isWordByte c = true := by
  rw [isHexDigit_eq, Option.isSome_iff_exists] at digit
  obtain ⟨v, value⟩ := digit
  exact (digit_facts value).1

set_option maxRecDepth 8000 in
theorem halves_table : ∀ n, n < 256 →
    (UInt8.ofNat (n / 16) <<< 4) ||| UInt8.ofNat (n % 16) = UInt8.ofNat n := by
  decide

theorem join_halves (b : UInt8) : (UInt8.ofNat (b.toNat / 16) <<< 4) ||| UInt8.ofNat (b.toNat % 16) = b := by
  have entry := halves_table b.toNat b.toNat_lt
  rwa [UInt8.ofNat_toNat] at entry

theorem Spells.length_eq {digits bytes : List UInt8} (spells : Spells digits bytes) :
    digits.length = 2 * bytes.length := by
  induction spells with
  | nil => rfl
  | cons _ _ _ ih =>
      simp only [List.length_cons, ih]
      omega

theorem Spells.digits {digits bytes : List UInt8} (spells : Spells digits bytes) :
    ∀ d ∈ digits, (digitValue? d).isSome = true := by
  induction spells with
  | nil => simp
  | cons high low _ ih =>
      intro d member
      rcases List.mem_cons.1 member with rfl | member
      · simp [high]
      · rcases List.mem_cons.1 member with rfl | later
        · simp [low]
        · exact ih d later

/-! ## Decoding -/

theorem decodeHexPairs_spells {digits bytes : List UInt8} (spells : Spells digits bytes)
    (out : ByteArray) : decodeHexPairs digits out = out ++ ⟨bytes.toArray⟩ := by
  induction spells generalizing out with
  | nil => exact (append_mk_nil out).symm
  | @cons hi lo b _ _ high low _ ih =>
      rw [decodeHexPairs, (digit_facts high).2, (digit_facts low).2, join_halves, ih,
        push_append_mk]

theorem decodeHex_even {digits : List UInt8} (even : digits.length % 2 = 0) :
    decodeHex digits = decodeHexPairs digits ByteArray.empty := by
  unfold decodeHex
  split
  · rw [if_neg (by omega)]
  · rfl

theorem decodeHex_odd {d : UInt8} {rest : List UInt8} (odd : (d :: rest).length % 2 = 1) :
    decodeHex (d :: rest) = decodeHexPairs rest (ByteArray.empty.push (nibble d)) := by
  unfold decodeHex
  exact if_pos odd

/-- Digits spelling bytes decode to those bytes. -/
theorem decodeHex_spells {digits bytes : List UInt8} (spells : Spells digits bytes) :
    decodeHex digits = ⟨bytes.toArray⟩ := by
  rw [decodeHex_even (by rw [spells.length_eq]; omega), decodeHexPairs_spells spells]
  apply ByteArray.ext
  simp

/-- An odd number of digits decodes as if a `0` came first. -/
theorem decodeHex_pad {digits : List UInt8} (odd : digits.length % 2 = 1) :
    decodeHex (0x30 :: digits) = decodeHex digits := by
  obtain ⟨d, rest, rfl⟩ := List.exists_cons_of_ne_nil (List.ne_nil_of_length_pos (by omega : 0 < digits.length))
  have zero : nibble 0x30 = 0 := by decide
  have zeroHigh : (nibble 0x30 <<< 4) ||| nibble d = nibble d := by
    rw [zero, UInt8.zero_shiftLeft, UInt8.zero_or]
  rw [decodeHex_even (by simp only [List.length_cons] at odd ⊢; omega), decodeHexPairs, zeroHigh,
    decodeHex_odd odd]

/-! ## Reading -/

theorem atIs_false_of_imp {buf : ByteArray} {i : Nat} {P Q : UInt8 → Bool} (fails : atIs buf i P = false)
    (implies : ∀ c, Q c = true → P c = true) : atIs buf i Q = false := by
  unfold atIs at fails ⊢
  cases found : at? buf i with
  | none => rfl
  | some c =>
      rw [found] at fails
      dsimp only at fails ⊢
      cases holds : Q c
      · rfl
      · rw [implies c holds] at fails
        cases fails

theorem atIs_mk_append {l rest : List UInt8} {P : UInt8 → Bool} (ends : ∀ c ∈ rest.head?, P c = false) :
    atIs ⟨(l ++ rest).toArray⟩ l.length P = false := by
  unfold atIs
  rw [at_mk, List.getElem?_append_right (Nat.le_refl _), Nat.sub_self]
  cases rest with
  | nil => rfl
  | cons c rest => exact ends c rfl

theorem readHex_digits {buf : ByteArray} {p : Nat} {digits : List UInt8}
    (occ : Occurs buf (p + 2) digits) (hex : ∀ d ∈ digits, (digitValue? d).isSome = true)
    (nonempty : digits ≠ []) (ends : atIs buf (p + 2 + digits.length) isWordByte = false) :
    readHex buf p = .ok (⟨.text { bytes := decodeHex digits }, p⟩, 2 + digits.length) := by
  have passed : ∀ d ∈ digits, isHexDigit d = true := by
    intro d member
    rw [isHexDigit_eq]
    exact hex d member
  have stops := atIs_false_of_imp ends (fun _ digit => isWordByte_of_isHexDigit digit)
  have run := skipWhile_of_run occ passed stops
  have positive := List.length_pos_iff.2 nonempty
  unfold readHex
  simp only [run, ends, Bool.or_false]
  rw [if_neg (by simp only [decide_eq_true_eq]; omega), occ.extract_eq, toList_mk]
  congr 2
  omega

theorem readQuotedHex_digits {buf : ByteArray} {p : Nat} {digits : List UInt8}
    (occ : Occurs buf (p + 2) (digits ++ [singleQuote])) (hex : ∀ d ∈ digits, (digitValue? d).isSome = true) :
    readQuotedHex buf p = .ok (⟨.text { bytes := decodeHex digits }, p⟩, digits.length + 3) := by
  have passed : ∀ d ∈ digits, isHexDigit d = true := by
    intro d member
    rw [isHexDigit_eq]
    exact hex d member
  have run := skipWhile_before occ passed (by decide)
  have closing : at? buf (p + 2 + digits.length) = some singleQuote := occ.right.head
  have inside := Statement.lt_size_of_at closing
  unfold readQuotedHex
  simp only [run]
  rw [if_neg (by omega), atEq_of_at closing]
  simp only [Bool.not_true, Bool.false_eq_true, if_false]
  rw [occ.left.extract_eq, toList_mk]
  congr 2
  omega

theorem read_quotedHex {buf : ByteArray} {p : Nat} (found : at? buf p = some 0x58)
    (quote : at? buf (p + 1) = some singleQuote) : read buf p = readQuotedHex buf p := by
  have quoted : atEq buf (p + 1) 0x27 = true := atEq_of_at quote
  unfold read
  rw [found]
  simp [quoted, singleQuote]

theorem read_hexDigits {digits rest : List UInt8} (hex : ∀ d ∈ digits, (digitValue? d).isSome = true)
    (nonempty : digits ≠ []) (ends : ∀ c ∈ rest.head?, isWordByte c = false) :
    read ⟨(0x30 :: 0x78 :: (digits ++ rest)).toArray⟩ 0 =
      .ok (⟨.text { bytes := decodeHex digits }, 0⟩, 2 + digits.length) := by
  have occ := Occurs.self (0x30 :: 0x78 :: (digits ++ rest))
  have stops : atIs ⟨(0x30 :: 0x78 :: (digits ++ rest)).toArray⟩ (0 + 2 + digits.length) isWordByte = false := by
    have after := atIs_mk_append (l := 0x30 :: 0x78 :: digits) ends
    rwa [List.length_cons, List.length_cons, List.cons_append, List.cons_append,
      show digits.length + 1 + 1 = 0 + 2 + digits.length by omega] at after
  rw [read_hex occ.head occ.tail.head]
  exact readHex_digits occ.tail.tail.left hex nonempty stops

/-- How hexadecimal literals read. -/
structure HexLiteralsRead : Prop where
  /-- `0x` and the digits spelling a non-empty byte string, in any case, followed by a byte that is
  no word byte or by nothing, read as that byte string, taking two bytes and two for each byte. -/
  spelled : ∀ bytes digits rest : List UInt8, bytes ≠ [] → Spells digits bytes →
    (∀ c ∈ rest.head?, isWordByte c = false) →
    read ⟨(0x30 :: 0x78 :: (digits ++ rest)).toArray⟩ 0 =
      .ok (⟨.text { bytes := ⟨bytes.toArray⟩ }, 0⟩, 2 + 2 * bytes.length)
  /-- An odd number of digits reads as the same bytes as with a `0` written before them. -/
  padded : ∀ digits rest : List UInt8, digits.length % 2 = 1 →
    (∀ d ∈ digits, (digitValue? d).isSome = true) → (∀ c ∈ rest.head?, isWordByte c = false) →
    ∃ b : ByteArray,
      read ⟨(0x30 :: 0x78 :: (digits ++ rest)).toArray⟩ 0 =
        .ok (⟨.text { bytes := b }, 0⟩, 2 + digits.length) ∧
      read ⟨(0x30 :: 0x78 :: 0x30 :: (digits ++ rest)).toArray⟩ 0 =
        .ok (⟨.text { bytes := b }, 0⟩, 3 + digits.length)
  /-- `X'…'` around non-empty digits reads as the same bytes as `0x` before them, taking the digits
  and three bytes. -/
  quoted : ∀ digits : List UInt8, digits ≠ [] → (∀ d ∈ digits, (digitValue? d).isSome = true) →
    ∃ b : ByteArray,
      read ⟨(0x58 :: 0x27 :: (digits ++ [0x27])).toArray⟩ 0 =
        .ok (⟨.text { bytes := b }, 0⟩, digits.length + 3) ∧
      read ⟨(0x30 :: 0x78 :: digits).toArray⟩ 0 = .ok (⟨.text { bytes := b }, 0⟩, 2 + digits.length)

theorem read_spelled (bytes digits rest : List UInt8) (nonempty : bytes ≠ []) (spells : Spells digits bytes)
    (ends : ∀ c ∈ rest.head?, isWordByte c = false) :
    read ⟨(0x30 :: 0x78 :: (digits ++ rest)).toArray⟩ 0 =
      .ok (⟨.text { bytes := ⟨bytes.toArray⟩ }, 0⟩, 2 + 2 * bytes.length) := by
  have written : digits ≠ [] := by
    intro empty
    have length := spells.length_eq
    rw [empty, List.length_nil] at length
    exact nonempty (List.eq_nil_of_length_eq_zero (by omega))
  rw [read_hexDigits spells.digits written ends, decodeHex_spells spells, spells.length_eq]

theorem read_padded (digits rest : List UInt8) (odd : digits.length % 2 = 1)
    (hex : ∀ d ∈ digits, (digitValue? d).isSome = true) (ends : ∀ c ∈ rest.head?, isWordByte c = false) :
    ∃ b : ByteArray,
      read ⟨(0x30 :: 0x78 :: (digits ++ rest)).toArray⟩ 0 =
        .ok (⟨.text { bytes := b }, 0⟩, 2 + digits.length) ∧
      read ⟨(0x30 :: 0x78 :: 0x30 :: (digits ++ rest)).toArray⟩ 0 =
        .ok (⟨.text { bytes := b }, 0⟩, 3 + digits.length) := by
  have written : digits ≠ [] := List.ne_nil_of_length_pos (by omega)
  have zero : (digitValue? 0x30).isSome = true := by decide
  have padded : ∀ d ∈ 0x30 :: digits, (digitValue? d).isSome = true := by
    intro d member
    rcases List.mem_cons.1 member with rfl | later
    · exact zero
    · exact hex d later
  refine ⟨decodeHex digits, read_hexDigits hex written ends, ?_⟩
  rw [show 0x30 :: (digits ++ rest) = (0x30 :: digits) ++ rest from rfl,
    read_hexDigits padded (List.cons_ne_nil _ _) ends, decodeHex_pad odd, List.length_cons,
    show 2 + (digits.length + 1) = 3 + digits.length by omega]

theorem read_quoted (digits : List UInt8) (nonempty : digits ≠ [])
    (hex : ∀ d ∈ digits, (digitValue? d).isSome = true) :
    ∃ b : ByteArray,
      read ⟨(0x58 :: 0x27 :: (digits ++ [0x27])).toArray⟩ 0 =
        .ok (⟨.text { bytes := b }, 0⟩, digits.length + 3) ∧
      read ⟨(0x30 :: 0x78 :: digits).toArray⟩ 0 = .ok (⟨.text { bytes := b }, 0⟩, 2 + digits.length) := by
  have occ := Occurs.self (0x58 :: 0x27 :: (digits ++ [0x27]))
  refine ⟨decodeHex digits, ?_, ?_⟩
  · rw [read_quotedHex occ.head occ.tail.head]
    exact readQuotedHex_digits occ.tail.tail hex
  · -- Nothing follows the digits of the bare form.
    have bare := @read_hexDigits digits [] hex nonempty (by simp)
    rwa [List.append_nil] at bare

/-- Hexadecimal literals read as `HexLiteralsRead` says. -/
theorem hex_literals_read : HexLiteralsRead where
  spelled := read_spelled
  padded := read_padded
  quoted := read_quoted

/-- `0x` with no digit after it is refused as an invalid number. -/
theorem read_bare_hex_refused :
    read ⟨[0x30, 0x78].toArray⟩ 0 = .error (numberError ⟨[0x30, 0x78].toArray⟩ 0 2) := by
  have occ := Occurs.self [0x30, 0x78]
  have ended : atIs ⟨[0x30, 0x78].toArray⟩ 2 isHexDigit = false :=
    @atIs_mk_append [0x30, 0x78] [] isHexDigit (by simp)
  rw [read_hex occ.head occ.tail.head]
  unfold readHex
  simp only [skipWhile_of_atIs ended]
  rfl

end Literal

end WikiDump

