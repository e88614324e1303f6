import WikiDump.Proofs.InstantFields
import WikiDump.Proofs.ScanErrors
import WikiDump.Proofs.ValueTyping
/-!
# Timestamp and expiry columns

A timestamp column reads a text literal as an instant when its bytes are fourteen ASCII digits
`YYYYMMDDhhmmss` or have the shape `YYYY-MM-DD hh:mm:ss`, and its six fields name a second of the
calendar. Both directions are proved on bytes. Bytes of either shape split into six digit groups
(`compact_groups`, `spaced_groups`), and the groups of a valid instant are written back in either
shape (`groups_of_instant`). Together they give `readInstant_eq_ok_iff`: the bytes read are exactly
the two forms of a valid instant. An instant is shown in its compact form, which reads back as the
same instant.

An expiry column reads the text `infinity` as the expiry that never comes, and every other literal
as a timestamp column does (`timestamps_read_exactly`).
-/

namespace WikiDump.Converter

open Instant

def digitByte (x : UInt8) : Bool := 0x30 ≤ x && x ≤ 0x39

def spacedByte (p : UInt8 × Nat) : Bool :=
  if p.2 = 4 ∨ p.2 = 7 then p.1 == 0x2D
  else if p.2 = 10 then p.1 == 0x20
  else if p.2 = 13 ∨ p.2 = 16 then p.1 == 0x3A
  else digitByte p.1

theorem allDigits_eq (b : ByteArray) : allDigits b = b.toList.all digitByte := rfl

theorem isSpacedShape_eq (b : ByteArray) :
    isSpacedShape b = (b.size == 19 && b.toList.zipIdx.all spacedByte) := rfl

def byteChar (x : UInt8) : Char := Char.ofNat x.toNat

theorem toNat_byteChar {x : UInt8} (small : x.toNat < 128) : (byteChar x).toNat = x.toNat := by
  unfold byteChar Char.ofNat
  rw [dif_pos (by simp only [Nat.isValidChar]; omega)]
  rfl

theorem digitByte_toNat {x : UInt8} (digit : digitByte x = true) : 48 ≤ x.toNat ∧ x.toNat ≤ 57 := by
  simp only [digitByte, Bool.and_eq_true, decide_eq_true_eq, UInt8.le_iff_toNat_le] at digit
  exact digit

theorem isDigit_byteChar {x : UInt8} (digit : digitByte x = true) : (byteChar x).isDigit = true := by
  have bounds := digitByte_toNat digit
  have same := toNat_byteChar (x := x) (by omega)
  simp only [Char.isDigit, Bool.and_eq_true, decide_eq_true_eq]
  exact ⟨show 48 ≤ (byteChar x).toNat by omega, show (byteChar x).toNat ≤ 57 by omega⟩

theorem digitByte_of_isDigit {c : Char} (digit : c.isDigit = true) : digitByte c.toNat.toUInt8 = true := by
  have bounds := toNat_of_isDigit digit
  have small : c.toNat.toUInt8.toNat = c.toNat := by
    rw [Nat.toUInt8, UInt8.toNat_ofNat', Nat.mod_eq_of_lt (by omega)]
  simp only [digitByte, Bool.and_eq_true, decide_eq_true_eq, UInt8.le_iff_toNat_le, small]
  exact ⟨by simpa using bounds.1, by simpa using bounds.2⟩

theorem toUTF8_map_byteChar {l : List UInt8} (ascii : ∀ x ∈ l, x.toNat < 128) :
    (String.ofList (l.map byteChar)).toUTF8 = ⟨l.toArray⟩ := by
  have chars : ∀ c ∈ l.map byteChar, c.toNat < 128 := by
    intro c member
    obtain ⟨x, inList, rfl⟩ := List.mem_map.1 member
    rw [toNat_byteChar (ascii x inList)]
    exact ascii x inList
  rw [toUTF8_ascii chars, List.map_map]
  congr
  conv => rhs; rw [← List.map_id l]
  apply List.map_congr_left
  intro x member
  simp only [Function.comp_apply, id_eq, toNat_byteChar (ascii x member), Nat.toUInt8, UInt8.ofNat_toNat]


theorem readInstant_of_compact {b : ByteArray} (size : b.size = 14) (digits : allDigits b = true)
    {t : Instant} : readInstant b = .ok t ↔ ofDigits (Utf8.decodeLossy b) false = .ok t := by
  simp only [readInstant, size, digits, beq_self_eq_true, Bool.and_self, if_true]
  split <;> simp_all

theorem readInstant_of_spaced {b : ByteArray} (shape : isSpacedShape b = true) {t : Instant} :
    readInstant b = .ok t ↔ ofDigits (Utf8.decodeLossy b) true = .ok t := by
  have size : b.size = 19 := by
    rw [isSpacedShape_eq, Bool.and_eq_true, beq_iff_eq] at shape
    exact shape.1
  simp only [readInstant, size, shape, Nat.reduceBEq, Bool.false_and, Bool.false_eq_true, if_false,
    if_true]
  split <;> simp_all

theorem readInstant_cases {b : ByteArray} {t : Instant} (read : readInstant b = .ok t) :
    (b.size = 14 ∧ allDigits b = true ∧ ofDigits (Utf8.decodeLossy b) false = .ok t) ∨
      (isSpacedShape b = true ∧ ofDigits (Utf8.decodeLossy b) true = .ok t) := by
  by_cases compact : b.size = 14 ∧ allDigits b = true
  · exact .inl ⟨compact.1, compact.2, (readInstant_of_compact compact.1 compact.2).1 read⟩
  · by_cases shape : isSpacedShape b = true
    · exact .inr ⟨shape, (readInstant_of_spaced shape).1 read⟩
    · have refused : readInstant b = .error (timestampError b "unrecognized layout") := by
        simp only [readInstant]
        rw [if_neg (by simpa using compact), if_neg shape]
      rw [refused] at read
      cases read


theorem ascii_of_isDigit {cs : List Char} (digits : ∀ c ∈ cs, c.isDigit = true) :
    ∀ c ∈ cs, c.toNat < 128 := by
  intro c member
  have := toNat_of_isDigit (digits c member)
  omega

theorem mem_spacedText {y mo d h mi s : List Char} {c : Char} (member : c ∈ spacedText y mo d h mi s) :
    c ∈ compactText y mo d h mi s ∨ c = '-' ∨ c = ' ' ∨ c = ':' := by
  simp only [spacedText, compactText, List.mem_append, List.mem_singleton] at member ⊢
  grind

theorem ascii_spacedText {y mo d h mi s : List Char} (groups : DigitGroups y mo d h mi s) :
    ∀ c ∈ spacedText y mo d h mi s, c.toNat < 128 := by
  intro c member
  rcases mem_spacedText member with digit | rfl | rfl | rfl
  · exact ascii_of_isDigit groups.digits c digit
  all_goals decide

theorem all_zipIdx_digits {g : List Char} {k : Nat} (digits : ∀ c ∈ g, c.isDigit = true)
    (plain : ∀ j < g.length, k + j ≠ 4 ∧ k + j ≠ 7 ∧ k + j ≠ 10 ∧ k + j ≠ 13 ∧ k + j ≠ 16) :
    ((g.map fun c => c.toNat.toUInt8).zipIdx k).all spacedByte = true := by
  induction g generalizing k with
  | nil => rfl
  | cons c g ih =>
      have here := plain 0 (by simp)
      rw [List.map_cons, List.zipIdx_cons, List.all_cons, Bool.and_eq_true]
      constructor
      · simp only [spacedByte]
        rw [if_neg (by omega), if_neg (by omega), if_neg (by omega)]
        exact digitByte_of_isDigit (digits c List.mem_cons_self)
      · apply ih (fun x member => digits x (List.mem_cons_of_mem c member))
        intro j short
        have := plain (j + 1) (by simp; omega)
        omega

section Groups

variable {y mo d h mi s : List Char} (groups : DigitGroups y mo d h mi s)
include groups

theorem size_compactText : (String.ofList (compactText y mo d h mi s)).toUTF8.size = 14 := by
  rw [toUTF8_size_ascii (ascii_of_isDigit groups.digits)]
  simp [compactText, groups.year, groups.month, groups.day, groups.hour, groups.minute, groups.second]

theorem allDigits_compactText : allDigits (String.ofList (compactText y mo d h mi s)).toUTF8 = true := by
  rw [allDigits_eq, toUTF8_ascii (ascii_of_isDigit groups.digits), Bytes.toList_mk, List.all_map,
    List.all_eq_true]
  intro c member
  exact digitByte_of_isDigit (groups.digits c member)

theorem readInstant_compactText {t : Instant} :
    readInstant (String.ofList (compactText y mo d h mi s)).toUTF8 = .ok t ↔
      ofFields (digitsValue y) (digitsValue mo) (digitsValue d) (digitsValue h) (digitsValue mi)
        (digitsValue s) = .ok t := by
  rw [readInstant_of_compact (size_compactText groups) (allDigits_compactText groups),
    decodeLossy_ascii (ascii_of_isDigit groups.digits), ofDigits_compactText groups]

theorem size_spacedText : (String.ofList (spacedText y mo d h mi s)).toUTF8.size = 19 := by
  rw [toUTF8_size_ascii (ascii_spacedText groups)]
  simp [spacedText, groups.year, groups.month, groups.day, groups.hour, groups.minute, groups.second]

theorem isSpacedShape_spacedText :
    isSpacedShape (String.ofList (spacedText y mo d h mi s)).toUTF8 = true := by
  -- Each group passes the test at its own offset, and each separator at its position.
  have group : ∀ {g : List Char} {k : Nat}, (∀ c ∈ g, c ∈ compactText y mo d h mi s) →
      (∀ j < g.length, k + j ≠ 4 ∧ k + j ≠ 7 ∧ k + j ≠ 10 ∧ k + j ≠ 13 ∧ k + j ≠ 16) →
      ((g.map fun c => c.toNat.toUInt8).zipIdx k).all spacedByte = true :=
    fun within plain => all_zipIdx_digits (fun c member => groups.digits c (within c member)) plain
  have py := @group y 0 (fun c member => by simp [compactText, member]) (by rw [groups.year]; omega)
  have pmo := @group mo 5 (fun c member => by simp [compactText, member]) (by rw [groups.month]; omega)
  have pd := @group d 8 (fun c member => by simp [compactText, member]) (by rw [groups.day]; omega)
  have ph := @group h 11 (fun c member => by simp [compactText, member]) (by rw [groups.hour]; omega)
  have pmi := @group mi 14 (fun c member => by simp [compactText, member])
    (by rw [groups.minute]; omega)
  have ps := @group s 17 (fun c member => by simp [compactText, member])
    (by rw [groups.second]; omega)
  rw [isSpacedShape_eq, size_spacedText groups, toUTF8_ascii (ascii_spacedText groups),
    Bytes.toList_mk]
  simp [spacedText, List.zipIdx_append, groups.year, groups.month, groups.day, groups.hour,
    groups.minute, py, pmo, pd, ph, pmi, ps]
  decide

theorem readInstant_spacedText {t : Instant} :
    readInstant (String.ofList (spacedText y mo d h mi s)).toUTF8 = .ok t ↔
      ofFields (digitsValue y) (digitsValue mo) (digitsValue d) (digitsValue h) (digitsValue mi)
        (digitsValue s) = .ok t := by
  rw [readInstant_of_spaced (isSpacedShape_spacedText groups),
    decodeLossy_ascii (ascii_spacedText groups), ofDigits_spacedText groups]

end Groups


/-! ## Which bytes have a timestamp's shape -/

theorem spacedByte_ascii {p : UInt8 × Nat} (ok : spacedByte p = true) : p.1.toNat < 128 := by
  unfold spacedByte at ok
  -- A separator position holds its one ASCII byte, and every other position a digit.
  split at ok
  · rw [beq_iff_eq.1 ok]
    decide
  split at ok
  · rw [beq_iff_eq.1 ok]
    decide
  split at ok
  · rw [beq_iff_eq.1 ok]
    decide
  have := digitByte_toNat ok
  omega

theorem spacedByte_digit {p : UInt8 × Nat} (ok : spacedByte p = true)
    (plain : p.2 ≠ 4 ∧ p.2 ≠ 7 ∧ p.2 ≠ 10 ∧ p.2 ≠ 13 ∧ p.2 ≠ 16) : digitByte p.1 = true := by
  unfold spacedByte at ok
  rwa [if_neg (by omega), if_neg (by omega), if_neg (by omega)] at ok

section Positions

variable {l : List UInt8} (at_ : ∀ i (h : i < l.length), spacedByte (l[i], i) = true)
include at_

theorem slice_digits {a n : Nat}
    (plain : ∀ j < n, a + j ≠ 4 ∧ a + j ≠ 7 ∧ a + j ≠ 10 ∧ a + j ≠ 13 ∧ a + j ≠ 16) :
    ∀ c ∈ ((l.map byteChar).drop a).take n, c.isDigit = true := by
  intro c member
  obtain ⟨j, inside, rfl⟩ := List.mem_iff_getElem.1 member
  simp only [List.length_take, List.length_drop, List.length_map, Nat.lt_min] at inside
  simp only [List.getElem_take, List.getElem_drop, List.getElem_map]
  exact isDigit_byteChar (spacedByte_digit (at_ (a + j) (by omega)) (plain j inside.1))

theorem separator_at {i : Nat} (inside : i < l.length) {x : UInt8} {c : Char}
    (only : ∀ z : UInt8, spacedByte (z, i) = true → z = x) (char : byteChar x = c) :
    ((l.map byteChar).drop i).take 1 = [c] := by
  have bound : i < (l.map byteChar).length := by simpa using inside
  have found : (l.map byteChar)[i] = c := by
    rw [List.getElem_map, only _ (at_ i inside), char]
  rw [List.drop_eq_getElem_cons bound, found]
  rfl

end Positions

/-- Fourteen digit bytes are the compact text of their six digit groups. -/
theorem compact_groups {b : ByteArray} (size : b.size = 14) (digits : allDigits b = true) :
    ∃ y mo d h mi s, DigitGroups y mo d h mi s ∧
      b = (String.ofList (compactText y mo d h mi s)).toUTF8 := by
  rcases b with ⟨⟨l⟩⟩
  have bytes : ({ data := { toList := l } } : ByteArray).toList = l := Bytes.toList_mk l
  have length : l.length = 14 := size
  rw [allDigits_eq, bytes] at digits
  have byteDigits : ∀ x ∈ l, digitByte x = true := List.all_eq_true.1 digits
  have ascii : ∀ x ∈ l, x.toNat < 128 := fun x member => by
    have := digitByte_toNat (byteDigits x member)
    omega
  have charDigits : ∀ c ∈ l.map byteChar, c.isDigit = true := by
    intro c member
    obtain ⟨x, inList, rfl⟩ := List.mem_map.1 member
    exact isDigit_byteChar (byteDigits x inList)
  have whole : compactText ((l.map byteChar).take 4) (((l.map byteChar).drop 4).take 2)
      (((l.map byteChar).drop 6).take 2) (((l.map byteChar).drop 8).take 2)
      (((l.map byteChar).drop 10).take 2) (((l.map byteChar).drop 12).take 2) = l.map byteChar := by
    simp only [compactText, ← List.take_add, Nat.reduceAdd]
    exact List.take_of_length_le (by simp [length])
  refine ⟨(l.map byteChar).take 4, ((l.map byteChar).drop 4).take 2, ((l.map byteChar).drop 6).take 2,
    ((l.map byteChar).drop 8).take 2, ((l.map byteChar).drop 10).take 2,
    ((l.map byteChar).drop 12).take 2, ⟨by simp [length], by simp [length], by simp [length],
    by simp [length], by simp [length], by simp [length], by rw [whole]; exact charDigits⟩, ?_⟩
  rw [whole, toUTF8_map_byteChar ascii]

/-- Bytes of the spaced shape are the spaced text of their six digit groups. -/
theorem spaced_groups {b : ByteArray} (shape : isSpacedShape b = true) :
    ∃ y mo d h mi s, DigitGroups y mo d h mi s ∧
      b = (String.ofList (spacedText y mo d h mi s)).toUTF8 := by
  rcases b with ⟨⟨l⟩⟩
  have bytes : ({ data := { toList := l } } : ByteArray).toList = l := Bytes.toList_mk l
  rw [isSpacedShape_eq, bytes, Bool.and_eq_true, beq_iff_eq] at shape
  obtain ⟨size, positions⟩ := shape
  have length : l.length = 19 := size
  have at_ : ∀ i (h : i < l.length), spacedByte (l[i], i) = true := fun i h =>
    List.all_eq_true.1 positions _ (List.mem_zipIdx_iff_getElem?.2 (by simp))
  have ascii : ∀ x ∈ l, x.toNat < 128 := by
    intro x member
    obtain ⟨i, inside, rfl⟩ := List.mem_iff_getElem.1 member
    exact spacedByte_ascii (at_ i inside)
  have chain : (l.map byteChar).take 4 ++ ((l.map byteChar).drop 4).take 1 ++
      ((l.map byteChar).drop 5).take 2 ++ ((l.map byteChar).drop 7).take 1 ++
      ((l.map byteChar).drop 8).take 2 ++ ((l.map byteChar).drop 10).take 1 ++
      ((l.map byteChar).drop 11).take 2 ++ ((l.map byteChar).drop 13).take 1 ++
      ((l.map byteChar).drop 14).take 2 ++ ((l.map byteChar).drop 16).take 1 ++
      ((l.map byteChar).drop 17).take 2 = l.map byteChar := by
    simp only [← List.take_add, Nat.reduceAdd]
    exact List.take_of_length_le (by simp [length])
  rw [separator_at at_ (i := 4) (x := 0x2D) (c := '-') (by omega)
      (fun z ok => by simpa [spacedByte] using ok) rfl,
    separator_at at_ (i := 7) (x := 0x2D) (c := '-') (by omega)
      (fun z ok => by simpa [spacedByte] using ok) rfl,
    separator_at at_ (i := 10) (x := 0x20) (c := ' ') (by omega)
      (fun z ok => by simpa [spacedByte] using ok) rfl,
    separator_at at_ (i := 13) (x := 0x3A) (c := ':') (by omega)
      (fun z ok => by simpa [spacedByte] using ok) rfl,
    separator_at at_ (i := 16) (x := 0x3A) (c := ':') (by omega)
      (fun z ok => by simpa [spacedByte] using ok) rfl] at chain
  refine ⟨(l.map byteChar).take 4, ((l.map byteChar).drop 5).take 2, ((l.map byteChar).drop 8).take 2,
    ((l.map byteChar).drop 11).take 2, ((l.map byteChar).drop 14).take 2,
    ((l.map byteChar).drop 17).take 2, ⟨by simp [length], by simp [length], by simp [length],
    by simp [length], by simp [length], by simp [length], ?_⟩, ?_⟩
  · intro c member
    simp only [compactText, List.mem_append] at member
    rcases member with ((((inY | inMo) | inD) | inH) | inMi) | inS
    · exact slice_digits at_ (a := 0) (n := 4) (by omega) c (by simpa using inY)
    · exact slice_digits at_ (a := 5) (n := 2) (by omega) c inMo
    · exact slice_digits at_ (a := 8) (n := 2) (by omega) c inD
    · exact slice_digits at_ (a := 11) (n := 2) (by omega) c inH
    · exact slice_digits at_ (a := 14) (n := 2) (by omega) c inMi
    · exact slice_digits at_ (a := 17) (n := 2) (by omega) c inS
  · rw [spacedText, chain, toUTF8_map_byteChar ascii]


/-! ## Timestamps read back -/

theorem fields_of_groups {y mo d h mi s : List Char} (groups : DigitGroups y mo d h mi s) {t : Instant}
    (read : ofFields (digitsValue y) (digitsValue mo) (digitsValue d) (digitsValue h) (digitsValue mi)
      (digitsValue s) = .ok t) :
    t.Valid ∧ t.compact = String.ofList (compactText y mo d h mi s) ∧
      t.spaced = String.ofList (spacedText y mo d h mi s) := by
  obtain ⟨rfl, month1, month12, day1, dayMax, hour, minute, second⟩ := ofFields_eq_ok_iff.1 read
  obtain ⟨wy, wmo, wd, wh, wmi, ws⟩ := groups.written
  have yearDigits : ∀ c ∈ y, c.isDigit = true := fun c m => groups.digits c (by simp [compactText, m])
  have year : digitsValue y < 10000 := by
    have fourDigits := digitsValue_lt yearDigits
    rwa [groups.year] at fourDigits
  have valid : Instant.Valid ⟨digitsValue y, digitsValue mo, digitsValue d, digitsValue h,
      digitsValue mi, digitsValue s⟩ :=
    ⟨by dsimp only; omega, ⟨month1, month12⟩, ⟨day1, dayMax⟩, hour, minute, second⟩
  refine ⟨valid, ?_, ?_⟩
  · apply String.toList_inj.1
    rw [compact_toList valid, String.toList_ofList]
    dsimp only
    rw [wy, wmo, wd, wh, wmi, ws]
    rfl
  · apply String.toList_inj.1
    rw [spaced_toList valid, String.toList_ofList]
    dsimp only
    rw [wy, wmo, wd, wh, wmi, ws]
    rfl

/-- The digit groups a valid instant is written with. -/
theorem groups_of_instant (t : Instant) :
    DigitGroups (digitsOf 4 t.year) (digitsOf 2 t.month) (digitsOf 2 t.day) (digitsOf 2 t.hour)
      (digitsOf 2 t.minute) (digitsOf 2 t.second) where
  year := length_digitsOf 4 t.year
  month := length_digitsOf 2 t.month
  day := length_digitsOf 2 t.day
  hour := length_digitsOf 2 t.hour
  minute := length_digitsOf 2 t.minute
  second := length_digitsOf 2 t.second
  digits := by
    intro c member
    simp only [compactText, List.mem_append] at member
    rcases member with ((((inY | inMo) | inD) | inH) | inMi) | inS
    · exact isDigit_digitsOf _ _ c inY
    · exact isDigit_digitsOf _ _ c inMo
    · exact isDigit_digitsOf _ _ c inD
    · exact isDigit_digitsOf _ _ c inH
    · exact isDigit_digitsOf _ _ c inMi
    · exact isDigit_digitsOf _ _ c inS

theorem read_groups_of_valid {t : Instant} (valid : t.Valid) :
    ofFields (digitsValue (digitsOf 4 t.year)) (digitsValue (digitsOf 2 t.month))
      (digitsValue (digitsOf 2 t.day)) (digitsValue (digitsOf 2 t.hour))
      (digitsValue (digitsOf 2 t.minute)) (digitsValue (digitsOf 2 t.second)) = .ok t := by
  have days := daysIn_le t.month t.year
  obtain ⟨year, month, day, hour, minute, second⟩ := valid
  rw [digitsValue_digitsOf (show t.year < 10000 by omega), digitsValue_digitsOf (show t.month < 100 by omega),
    digitsValue_digitsOf (show t.day < 100 by omega), digitsValue_digitsOf (show t.hour < 100 by omega),
    digitsValue_digitsOf (show t.minute < 100 by omega), digitsValue_digitsOf (show t.second < 100 by omega)]
  exact ofFields_eq_ok_iff.2 ⟨rfl, month.1, month.2, day.1, day.2, hour, minute, second⟩

theorem compact_eq_text {t : Instant} (valid : t.Valid) :
    t.compact = String.ofList (compactText (digitsOf 4 t.year) (digitsOf 2 t.month) (digitsOf 2 t.day)
      (digitsOf 2 t.hour) (digitsOf 2 t.minute) (digitsOf 2 t.second)) := by
  apply String.toList_inj.1
  rw [compact_toList valid, String.toList_ofList]
  rfl

theorem spaced_eq_text {t : Instant} (valid : t.Valid) :
    t.spaced = String.ofList (spacedText (digitsOf 4 t.year) (digitsOf 2 t.month) (digitsOf 2 t.day)
      (digitsOf 2 t.hour) (digitsOf 2 t.minute) (digitsOf 2 t.second)) := by
  apply String.toList_inj.1
  rw [spaced_toList valid, String.toList_ofList]
  rfl

/-- A timestamp's bytes read as an instant exactly when they are the compact or the spaced form of
a valid instant, and then they read as that instant. -/
theorem readInstant_eq_ok_iff (b : ByteArray) (t : Instant) :
    readInstant b = .ok t ↔ t.Valid ∧ (b = t.compact.toUTF8 ∨ b = t.spaced.toUTF8) := by
  constructor
  · intro read
    rcases readInstant_cases read with ⟨size, digits, _⟩ | ⟨shape, _⟩
    · obtain ⟨y, mo, d, h, mi, s, groups, rfl⟩ := compact_groups size digits
      obtain ⟨valid, compact, _⟩ := fields_of_groups groups ((readInstant_compactText groups).1 read)
      exact ⟨valid, .inl (by rw [compact])⟩
    · obtain ⟨y, mo, d, h, mi, s, groups, rfl⟩ := spaced_groups shape
      obtain ⟨valid, _, spaced⟩ := fields_of_groups groups ((readInstant_spacedText groups).1 read)
      exact ⟨valid, .inr (by rw [spaced])⟩
  · rintro ⟨valid, written | written⟩
    · rw [written, compact_eq_text valid, readInstant_compactText (groups_of_instant t)]
      exact read_groups_of_valid valid
    · rw [written, spaced_eq_text valid, readInstant_spacedText (groups_of_instant t)]
      exact read_groups_of_valid valid

theorem compact_bytes {t : Instant} (valid : t.Valid) :
    t.compact.toUTF8.size = 14 ∧ allDigits t.compact.toUTF8 = true := by
  rw [compact_eq_text valid]
  exact ⟨size_compactText (groups_of_instant t), allDigits_compactText (groups_of_instant t)⟩

theorem spaced_size {t : Instant} (valid : t.Valid) : t.spaced.toUTF8.size = 19 := by
  rw [spaced_eq_text valid]
  exact size_spacedText (groups_of_instant t)


/-! ## Timestamp and expiry columns -/

theorem toList_inj_bytes {a b : ByteArray} : a.toList = b.toList ↔ a = b := by
  constructor
  · intro same
    apply ByteArray.ext
    apply Array.toList_inj.1
    rw [ByteArray.toList, Bytes.toList_loop, ByteArray.toList, Bytes.toList_loop] at same
    simpa using same
  · rintro rfl
    rfl

theorem read_timestamp_text (tx : Text) :
    Converter.timestamp.read (.text tx) = (readInstant tx.bytes).map .instant := rfl

theorem read_expiry_infinity {tx : Text} (infinity : tx.bytes = "infinity".toUTF8) :
    Converter.expiry.read (.text tx) = .ok (.expiry none) := by
  have same : (tx.bytes.toList == "infinity".toUTF8.toList) = true :=
    beq_iff_eq.2 (congrArg ByteArray.toList infinity)
  simp only [read, same, if_true]

theorem read_expiry_instant {tx : Text} (finite : tx.bytes ≠ "infinity".toUTF8) :
    Converter.expiry.read (.text tx) = (readInstant tx.bytes).map (fun i => .expiry (some i)) := by
  have differ : (tx.bytes.toList == "infinity".toUTF8.toList) = false :=
    beq_eq_false_iff_ne.2 (fun same => finite (toList_inj_bytes.1 same))
  simp only [read, differ, Bool.false_eq_true, if_false]

theorem read_expiry_other {c : Content} (notText : c.kind ≠ .text) :
    Converter.expiry.read c = Converter.timestamp.read c := by
  cases c with
  | text tx => exact absurd rfl notText
  | null => rfl
  | integer n => rfl
  | float x => rfl

theorem map_eq_ok_iff {α β : Type} {x : Except ConversionError α} {f : α → β} {b : β} :
    x.map f = .ok b ↔ ∃ a, x = .ok a ∧ f a = b := by
  constructor
  · intro mapped
    cases x with
    | error e => cases mapped
    | ok a => exact ⟨a, rfl, Except.ok.inj mapped⟩
  · rintro ⟨a, rfl, rfl⟩
    rfl

theorem map_eq_error_iff {α β : Type} {x : Except ConversionError α} {f : α → β}
    {err : ConversionError} : x.map f = .error err ↔ x = .error err := by
  refine ⟨map_eq_error, ?_⟩
  rintro rfl
  rfl

/-- How a timestamp column and an expiry column read their literals. -/
structure ReadsTimestamps : Prop where
  /-- Text is read exactly when its bytes are the compact or the spaced form of a valid instant,
  and it is read as that instant. -/
  accepts : ∀ (tx : Text) (d : Datum), Converter.timestamp.read (.text tx) = .ok d ↔
    ∃ t : Instant, d = .instant t ∧ t.Valid ∧ (tx.bytes = t.compact.toUTF8 ∨ tx.bytes = t.spaced.toUTF8)
  /-- A read instant is shown as fourteen digits, which read back as the same instant; text in the
  compact form is shown as it was written. -/
  shown : ∀ (tx : Text) (t : Instant), Converter.timestamp.read (.text tx) = .ok (.instant t) →
    (Datum.instant t).display.size = 14 ∧ allDigits (Datum.instant t).display = true ∧
      readInstant (Datum.instant t).display = .ok t ∧
      (tx.bytes.size = 14 → (Datum.instant t).display = tx.bytes)
  /-- Refused text is an invalid timestamp. -/
  refusedText : ∀ (tx : Text) (err : ConversionError),
    Converter.timestamp.read (.text tx) = .error err → err.cause = .invalidTimestamp
  /-- Every other literal is refused as a type conversion. -/
  refusedKind : ∀ c : Content, c.kind ≠ .text →
    ∃ err : ConversionError, Converter.timestamp.read c = .error err ∧ err.cause = .typeConversion
  /-- An expiry is never exactly when its literal is the text \"infinity\". -/
  infinite : ∀ c : Content, Converter.expiry.read c = .ok (.expiry none) ↔
    ∃ tx : Text, c = .text tx ∧ tx.bytes = "infinity".toUTF8
  /-- Any other literal is read as an expiry exactly as a timestamp column reads it, and refused
  with the same error. -/
  finite : ∀ c : Content, (∀ tx : Text, c = .text tx → tx.bytes ≠ "infinity".toUTF8) →
    (∀ t : Instant, Converter.expiry.read c = .ok (.expiry (some t)) ↔
      Converter.timestamp.read c = .ok (.instant t)) ∧
    (∀ err : ConversionError, Converter.expiry.read c = .error err ↔
      Converter.timestamp.read c = .error err)
  /-- An expiry column reads only expiries. -/
  expiries : ∀ (c : Content) (d : Datum), Converter.expiry.read c = .ok d → ∃ o, d = .expiry o

theorem read_timestamp_eq_ok (tx : Text) (d : Datum) :
    Converter.timestamp.read (.text tx) = .ok d ↔
      ∃ t : Instant, d = .instant t ∧ t.Valid ∧ (tx.bytes = t.compact.toUTF8 ∨ tx.bytes = t.spaced.toUTF8) := by
  rw [read_timestamp_text, map_eq_ok_iff]
  constructor
  · rintro ⟨t, read, rfl⟩
    exact ⟨t, rfl, (readInstant_eq_ok_iff _ _).1 read⟩
  · rintro ⟨t, rfl, written⟩
    exact ⟨t, (readInstant_eq_ok_iff _ _).2 written, rfl⟩

theorem read_timestamp_shown (tx : Text) (t : Instant)
    (read : Converter.timestamp.read (.text tx) = .ok (.instant t)) :
    (Datum.instant t).display.size = 14 ∧ allDigits (Datum.instant t).display = true ∧
      readInstant (Datum.instant t).display = .ok t ∧
      (tx.bytes.size = 14 → (Datum.instant t).display = tx.bytes) := by
  obtain ⟨_, same, valid, written⟩ := (read_timestamp_eq_ok tx _).1 read
  cases same
  obtain ⟨size, digits⟩ := compact_bytes valid
  refine ⟨size, digits, (readInstant_eq_ok_iff _ _).2 ⟨valid, .inl rfl⟩, fun fourteen => ?_⟩
  rcases written with compact | spaced
  · exact compact.symm
  · -- The spaced form has nineteen bytes, so fourteen bytes are the compact form.
    have := spaced_size valid
    rw [← spaced] at this
    omega

theorem read_timestamp_refused_text (tx : Text) (err : ConversionError)
    (refused : Converter.timestamp.read (.text tx) = .error err) : err.cause = .invalidTimestamp :=
  readInstant_cause (map_eq_error refused)

theorem read_timestamp_refused_kind (c : Content) (notText : c.kind ≠ .text) :
    ∃ err : ConversionError, Converter.timestamp.read c = .error err ∧ err.cause = .typeConversion := by
  refine ⟨kindError c "timestamp string", ?_, kindError_cause c _⟩
  cases c with
  | text tx => exact absurd rfl notText
  | null => rfl
  | integer n => rfl
  | float x => rfl

theorem read_expiry_infinite (c : Content) :
    Converter.expiry.read c = .ok (.expiry none) ↔
      ∃ tx : Text, c = .text tx ∧ tx.bytes = "infinity".toUTF8 := by
  constructor
  · intro read
    cases c with
    | text tx =>
        refine ⟨tx, rfl, Classical.byContradiction fun finite => ?_⟩
        rw [read_expiry_instant finite] at read
        obtain ⟨_, _, never⟩ := map_eq_ok_iff.1 read
        cases never
    | null => cases read
    | integer n => cases read
    | float x => cases read
  · rintro ⟨tx, rfl, infinity⟩
    exact read_expiry_infinity infinity

theorem read_expiry_finite (c : Content) (finite : ∀ tx : Text, c = .text tx → tx.bytes ≠ "infinity".toUTF8) :
    (∀ t : Instant, Converter.expiry.read c = .ok (.expiry (some t)) ↔
      Converter.timestamp.read c = .ok (.instant t)) ∧
    (∀ err : ConversionError, Converter.expiry.read c = .error err ↔
      Converter.timestamp.read c = .error err) := by
  by_cases text : c.kind = .text
  · obtain ⟨tx, rfl⟩ : ∃ tx, c = .text tx := by
      cases c with
      | text tx => exact ⟨tx, rfl⟩
      | _ => cases text
    rw [read_expiry_instant (finite tx rfl), read_timestamp_text]
    refine ⟨fun t => ?_, fun err => ?_⟩
    · simp only [map_eq_ok_iff, Datum.expiry.injEq, Option.some.injEq, Datum.instant.injEq]
    · rw [map_eq_error_iff, map_eq_error_iff]
  · -- Both columns refuse any other literal with one error.
    obtain ⟨err, refused, _⟩ := read_timestamp_refused_kind c text
    rw [read_expiry_other text, refused]
    refine ⟨fun _ => ⟨?_, ?_⟩, fun _ => .rfl⟩ <;> intro never <;> cases never

theorem read_expiry_expiries (c : Content) (d : Datum) (read : Converter.expiry.read c = .ok d) :
    ∃ o, d = .expiry o := by
  cases c with
  | text tx =>
      rcases Classical.em (tx.bytes = "infinity".toUTF8) with infinity | finite
      · rw [read_expiry_infinity infinity] at read
        exact ⟨none, (Except.ok.inj read).symm⟩
      · rw [read_expiry_instant finite] at read
        obtain ⟨t, _, rfl⟩ := map_eq_ok_iff.1 read
        exact ⟨some t, rfl⟩
  | null => cases read
  | integer n => cases read
  | float x => cases read

/-- Timestamp and expiry columns read literals as `ReadsTimestamps` says. -/
theorem timestamps_read_exactly : ReadsTimestamps where
  accepts := read_timestamp_eq_ok
  shown := read_timestamp_shown
  refusedText := read_timestamp_refused_text
  refusedKind := read_timestamp_refused_kind
  infinite := read_expiry_infinite
  finite := read_expiry_finite
  expiries := read_expiry_expiries

end WikiDump.Converter

