import WikiDump.Field.Instant
/-!
# The digits of an instant's fields

An instant is written with each field in a fixed number of decimal places (`Instant.padded`): four
for the year and two for every other field. `digitsOf w n` is the last `w` digits of `n`; a field
below `10 ^ w` is written as exactly those digits (`padded_toList`), and they read back as the
field (`digitsValue_digitsOf`). Conversely every group of digits is the `digitsOf` of its own value
(`digitsOf_digitsValue`).

`Instant.Valid` says which instants a timestamp can name, and the field check accepts exactly
those (`ofFields_eq_ok_iff`). Six digit groups laid out in the compact or the spaced shape are read
by `ofDigits` as the instant of their six values (`ofDigits_compactText`, `ofDigits_spacedText`).
-/

namespace WikiDump.Instant

/-- The last `w` decimal digits of `n`, most significant first. -/
def digitsOf : Nat → Nat → List Char
  | 0, _ => []
  | w + 1, n => digitsOf w (n / 10) ++ [Nat.digitChar (n % 10)]

theorem length_digitsOf (w n : Nat) : (digitsOf w n).length = w := by
  induction w generalizing n with
  | zero => rfl
  | succ w ih => simp [digitsOf, ih]

theorem isDigit_digitsOf (w n : Nat) : ∀ c ∈ digitsOf w n, c.isDigit = true := by
  induction w generalizing n with
  | zero => simp [digitsOf]
  | succ w ih =>
      intro c member
      simp only [digitsOf, List.mem_append, List.mem_singleton] at member
      rcases member with earlier | rfl
      · exact ih (n / 10) c earlier
      · simp [Nat.mod_lt n (by decide : 10 > 0)]

theorem digitsOf_zero (w : Nat) : digitsOf w 0 = List.replicate w '0' := by
  induction w with
  | zero => rfl
  | succ w ih => simp [digitsOf, ih, List.replicate_succ']

theorem digitsValue_append (xs : List Char) (c : Char) :
    digitsValue (xs ++ [c]) = digitsValue xs * 10 + (c.toNat - '0'.toNat) := by
  simp [digitsValue, List.foldl_append]

theorem digitsValue_digitsOf {w n : Nat} (small : n < Nat.pow 10 w) : digitsValue (digitsOf w n) = n := by
  induction w generalizing n with
  | zero =>
      have : n = 0 := by simp [Nat.pow] at small; omega
      subst this
      rfl
  | succ w ih =>
      have below : n / 10 < Nat.pow 10 w := by
        have : Nat.pow 10 (w + 1) = Nat.pow 10 w * 10 := rfl
        omega
      have digit := Nat.toNat_digitChar_of_lt_ten (Nat.mod_lt n (by decide : 10 > 0))
      have zero : '0'.toNat = 48 := rfl
      rw [digitsOf, digitsValue_append, ih below, digit, zero]
      omega


theorem toNat_of_isDigit {c : Char} (digit : c.isDigit = true) : 48 ≤ c.toNat ∧ c.toNat ≤ 57 := by
  simp only [Char.isDigit, Bool.and_eq_true, decide_eq_true_eq] at digit
  exact ⟨digit.1, digit.2⟩

theorem digitChar_of_isDigit {c : Char} (digit : c.isDigit = true) :
    Nat.digitChar (c.toNat - '0'.toNat) = c := by
  have bounds := toNat_of_isDigit digit
  have zero : '0'.toNat = 48 := rfl
  have written := Nat.toNat_digitChar_of_lt_ten (n := c.toNat - '0'.toNat) (by omega)
  apply Char.toNat_inj.1
  omega

/-- Digits read back and written in as many places give the same digits. -/
theorem digitsOf_digitsValue {ds : List Char} (digits : ∀ c ∈ ds, c.isDigit = true) :
    digitsOf ds.length (digitsValue ds) = ds := by
  -- The last digit is the one `digitsOf` writes first, so the induction runs from the end.
  obtain ⟨rs, rfl⟩ : ∃ rs, ds = rs.reverse := ⟨ds.reverse, (List.reverse_reverse ds).symm⟩
  induction rs with
  | nil => rfl
  | cons c rs ih =>
      rw [List.reverse_cons] at digits ⊢
      have last := digits c (by simp)
      have bounds := toNat_of_isDigit last
      have zero : '0'.toNat = 48 := rfl
      rw [List.length_append, List.length_singleton, digitsOf, digitsValue_append,
        show (digitsValue rs.reverse * 10 + (c.toNat - '0'.toNat)) / 10 = digitsValue rs.reverse by omega,
        show (digitsValue rs.reverse * 10 + (c.toNat - '0'.toNat)) % 10 = c.toNat - '0'.toNat by omega,
        ih (fun d member => digits d (by simp [member])), digitChar_of_isDigit last]

theorem digitsValue_lt {ds : List Char} (digits : ∀ c ∈ ds, c.isDigit = true) :
    digitsValue ds < Nat.pow 10 ds.length := by
  obtain ⟨rs, rfl⟩ : ∃ rs, ds = rs.reverse := ⟨ds.reverse, (List.reverse_reverse ds).symm⟩
  induction rs with
  | nil => decide
  | cons c rs ih =>
      rw [List.reverse_cons] at digits ⊢
      have bounds := toNat_of_isDigit (digits c (by simp))
      have zero : '0'.toNat = 48 := rfl
      have earlier := ih (fun d member => digits d (by simp [member]))
      rw [List.length_append, List.length_singleton, digitsValue_append]
      show _ < Nat.pow 10 rs.reverse.length * 10
      omega


theorem padded_toList_eq (w n : Nat) :
    (padded w n).toList = List.replicate (w - (Nat.toDigits 10 n).length) '0' ++ Nat.toDigits 10 n := by
  simp only [padded, String.toList_append, String.toList_ofList, Nat.toString_eq_ofList_toDigits,
    String.length_ofList]

/-- A number below `10 ^ w` is written in `w` places as its last `w` digits. -/
theorem padded_toList {w n : Nat} (positive : 0 < w) (small : n < Nat.pow 10 w) :
    (padded w n).toList = digitsOf w n := by
  induction w generalizing n with
  | zero => omega
  | succ w ih =>
      rw [padded_toList_eq]
      by_cases single : n < 10
      · rw [Nat.toDigits_of_lt_base single, digitsOf, Nat.div_eq_of_lt single, Nat.mod_eq_of_lt single,
          digitsOf_zero]
        rfl
      · have below : n / 10 < Nat.pow 10 w := by
          have : Nat.pow 10 (w + 1) = Nat.pow 10 w * 10 := rfl
          omega
        have wide : 0 < w := by
          cases w with
          | zero => simp [Nat.pow] at small; omega
          | succ w => omega
        have earlier := ih wide below
        rw [padded_toList_eq] at earlier
        rw [Nat.toDigits_of_base_le (by decide) (by omega), digitsOf, ← earlier, List.length_append,
          List.length_singleton, ← List.append_assoc, Nat.add_sub_add_right]


/-- A second that a timestamp can name: a year of four digits, a month of the year, a day of that
month, an hour, a minute and a second of the day. -/
structure Valid (t : Instant) : Prop where
  year : t.year ≤ 9999
  month : 1 ≤ t.month ∧ t.month ≤ 12
  day : 1 ≤ t.day ∧ t.day ≤ daysIn t.month t.year
  hour : t.hour ≤ 23
  minute : t.minute ≤ 59
  second : t.second ≤ 59

def spaced (t : Instant) : String :=
  padded 4 t.year ++ "-" ++ padded 2 t.month ++ "-" ++ padded 2 t.day ++ " " ++ padded 2 t.hour ++
    ":" ++ padded 2 t.minute ++ ":" ++ padded 2 t.second

theorem daysIn_le (month year : Nat) : daysIn month year ≤ 31 := by
  unfold daysIn
  split
  · split <;> decide
  · split <;> decide

theorem padded_fields {t : Instant} (valid : t.Valid) :
    (padded 4 t.year).toList = digitsOf 4 t.year ∧ (padded 2 t.month).toList = digitsOf 2 t.month ∧
      (padded 2 t.day).toList = digitsOf 2 t.day ∧ (padded 2 t.hour).toList = digitsOf 2 t.hour ∧
      (padded 2 t.minute).toList = digitsOf 2 t.minute ∧
      (padded 2 t.second).toList = digitsOf 2 t.second := by
  have days := daysIn_le t.month t.year
  have day := valid.day
  have month := valid.month
  exact ⟨padded_toList (by decide) (show t.year < 10000 by have := valid.year; omega),
    padded_toList (by decide) (show t.month < 100 by omega),
    padded_toList (by decide) (show t.day < 100 by omega),
    padded_toList (by decide) (show t.hour < 100 by have := valid.hour; omega),
    padded_toList (by decide) (show t.minute < 100 by have := valid.minute; omega),
    padded_toList (by decide) (show t.second < 100 by have := valid.second; omega)⟩

theorem compact_toList {t : Instant} (valid : t.Valid) :
    t.compact.toList = digitsOf 4 t.year ++ digitsOf 2 t.month ++ digitsOf 2 t.day ++
      digitsOf 2 t.hour ++ digitsOf 2 t.minute ++ digitsOf 2 t.second := by
  obtain ⟨year, month, day, hour, minute, second⟩ := padded_fields valid
  simp only [compact, String.toList_append, year, month, day, hour, minute, second]

theorem ofFields_eq_ok_iff {y mo d h mi s : Nat} {t : Instant} :
    ofFields y mo d h mi s = .ok t ↔
      t = ⟨y, mo, d, h, mi, s⟩ ∧ 1 ≤ mo ∧ mo ≤ 12 ∧ 1 ≤ d ∧ d ≤ daysIn mo y ∧ h ≤ 23 ∧ mi ≤ 59 ∧
        s ≤ 59 := by
  unfold ofFields
  -- The checks in the order they are made: each that fails is an error, where a field is out of
  -- range; once all pass, the instant is the fields.
  split
  · simp only [reduceCtorEq, false_iff]
    omega
  split
  · simp only [reduceCtorEq, false_iff]
    omega
  split
  · simp only [reduceCtorEq, false_iff]
    omega
  split
  · simp only [reduceCtorEq, false_iff]
    omega
  split
  · simp only [reduceCtorEq, false_iff]
    omega
  simp only [Except.ok.injEq]
  constructor
  · rintro rfl
    exact ⟨rfl, by omega⟩
  · rintro ⟨rfl, -⟩
    rfl

theorem spaced_toList {t : Instant} (valid : t.Valid) :
    t.spaced.toList = digitsOf 4 t.year ++ ['-'] ++ digitsOf 2 t.month ++ ['-'] ++ digitsOf 2 t.day ++
      [' '] ++ digitsOf 2 t.hour ++ [':'] ++ digitsOf 2 t.minute ++ [':'] ++ digitsOf 2 t.second := by
  obtain ⟨year, month, day, hour, minute, second⟩ := padded_fields valid
  simp only [spaced, String.toList_append, year, month, day, hour, minute, second]
  rfl

def fieldAt (cs : List Char) (at_ len : Nat) : Nat := digitsValue ((cs.drop at_).take len)

theorem ofDigits_compact {text : String} {t : Instant} :
    ofDigits text false = .ok t ↔
      ofFields (fieldAt text.toList 0 4) (fieldAt text.toList 4 2) (fieldAt text.toList 6 2)
        (fieldAt text.toList 8 2) (fieldAt text.toList 10 2) (fieldAt text.toList 12 2) = .ok t := by
  simp only [ofDigits, Bool.false_eq_true, if_false]
  split <;> simp_all [fieldAt]

theorem ofDigits_spaced {text : String} {t : Instant} :
    ofDigits text true = .ok t ↔
      ofFields (fieldAt text.toList 0 4) (fieldAt text.toList 5 2) (fieldAt text.toList 8 2)
        (fieldAt text.toList 11 2) (fieldAt text.toList 14 2) (fieldAt text.toList 17 2) = .ok t := by
  simp only [ofDigits, if_true]
  split <;> simp_all [fieldAt]

/-! ## Text of six digit groups -/

def compactText (y mo d h mi s : List Char) : List Char := y ++ mo ++ d ++ h ++ mi ++ s

def spacedText (y mo d h mi s : List Char) : List Char :=
  y ++ ['-'] ++ mo ++ ['-'] ++ d ++ [' '] ++ h ++ [':'] ++ mi ++ [':'] ++ s

theorem fieldAt_append {a b : List Char} {at_ len : Nat} (before : a.length ≤ at_) :
    fieldAt (a ++ b) at_ len = fieldAt b (at_ - a.length) len := by
  obtain ⟨k, rfl⟩ : ∃ k, at_ = a.length + k := ⟨at_ - a.length, by omega⟩
  rw [fieldAt, fieldAt, List.drop_append, Nat.add_sub_cancel_left,
    List.drop_eq_nil_of_le (by omega), List.nil_append]

theorem fieldAt_cons (c : Char) (cs : List Char) (at_ len : Nat) :
    fieldAt (c :: cs) (at_ + 1) len = fieldAt cs at_ len := rfl

theorem fieldAt_head {g q : List Char} {n : Nat} (width : g.length = n) :
    fieldAt (g ++ q) 0 n = digitsValue g := by
  subst width
  rw [fieldAt, List.drop_zero, List.take_left]

theorem fieldAt_whole {g : List Char} {n : Nat} (width : g.length = n) :
    fieldAt g 0 n = digitsValue g := by
  have whole := fieldAt_head (q := []) width
  rwa [List.append_nil] at whole

/-- Six digit groups: four digits for the year, two for each other field. -/
structure DigitGroups (y mo d h mi s : List Char) : Prop where
  year : y.length = 4
  month : mo.length = 2
  day : d.length = 2
  hour : h.length = 2
  minute : mi.length = 2
  second : s.length = 2
  digits : ∀ c ∈ compactText y mo d h mi s, c.isDigit = true

section Groups

variable {y mo d h mi s : List Char} (groups : DigitGroups y mo d h mi s)
include groups

theorem ofDigits_compactText {t : Instant} :
    ofDigits (String.ofList (compactText y mo d h mi s)) false = .ok t ↔
      ofFields (digitsValue y) (digitsValue mo) (digitsValue d) (digitsValue h) (digitsValue mi)
        (digitsValue s) = .ok t := by
  rw [ofDigits_compact, String.toList_ofList]
  -- Each field is read past the groups before it.
  simp only [compactText, List.append_assoc, fieldAt_append, fieldAt_head, fieldAt_whole, groups.year,
    groups.month, groups.day, groups.hour, groups.minute, groups.second, Nat.reduceLeDiff,
    Nat.reduceSub]

theorem ofDigits_spacedText {t : Instant} :
    ofDigits (String.ofList (spacedText y mo d h mi s)) true = .ok t ↔
      ofFields (digitsValue y) (digitsValue mo) (digitsValue d) (digitsValue h) (digitsValue mi)
        (digitsValue s) = .ok t := by
  rw [ofDigits_spaced, String.toList_ofList]
  -- Each field is read past the groups and the separators before it.
  simp only [spacedText, List.append_assoc, List.cons_append, List.nil_append, fieldAt_append,
    fieldAt_cons,
    fieldAt_head, fieldAt_whole, groups.year, groups.month, groups.day, groups.hour, groups.minute,
    groups.second, Nat.reduceLeDiff, Nat.reduceSub]

theorem DigitGroups.written :
    digitsOf 4 (digitsValue y) = y ∧ digitsOf 2 (digitsValue mo) = mo ∧
      digitsOf 2 (digitsValue d) = d ∧ digitsOf 2 (digitsValue h) = h ∧
      digitsOf 2 (digitsValue mi) = mi ∧ digitsOf 2 (digitsValue s) = s := by
  have back : ∀ {g : List Char} {n : Nat}, g.length = n → (∀ c ∈ g, c ∈ compactText y mo d h mi s) →
      digitsOf n (digitsValue g) = g := by
    intro g n width within
    rw [← width]
    exact digitsOf_digitsValue (fun c member => groups.digits c (within c member))
  exact ⟨back groups.year (fun c m => by simp [compactText, m]),
    back groups.month (fun c m => by simp [compactText, m]),
    back groups.day (fun c m => by simp [compactText, m]),
    back groups.hour (fun c m => by simp [compactText, m]),
    back groups.minute (fun c m => by simp [compactText, m]),
    back groups.second (fun c m => by simp [compactText, m])⟩

end Groups

end WikiDump.Instant

