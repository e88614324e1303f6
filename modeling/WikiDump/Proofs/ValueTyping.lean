import WikiDump.Command.Arguments
import WikiDump.Proofs.LiteralText
/-!
# A value text, typed three ways

The value of a condition is given as text, and three readers type it. A command-line argument is
read as JSON (`Command.argumentValue`): a number, `true`, `false` or `null` when the whole text is
one. The value of a written comparison is read by `Query.typedLiteral`: a numeral, or `true`,
`false` or `null` in any case. A text literal of a query stays text.

For a value made of ASCII letters and digits, `.`, `_` and `-` (`ValueText`), the three readers
agree on the number the value stands for (`asNumber_argumentValue`, `asNumber_typedLiteral`), and
they all keep the text when it is no numeral and spells none of `true`, `false` and `null`
(`argumentValue_text`, `typedLiteral_text`). JSON is stricter than the numeral reader, so `014`
is a number to one and a text to the other, and it does not fold case, so `TRUE` is a boolean to
the numeral reader only (`argumentValue_plain`).
-/

namespace WikiDump

open Query

/-! ## ASCII text -/

def valueChar (x : Char) : Bool := x.isAlphanum || x = '.' || x = '_' || x = '-'

/-- A value text: non-empty, and made of the characters `valueChar` allows. -/
def ValueText (v : String) : Prop := v ≠ "" ∧ ∀ x ∈ v.toList, valueChar x = true

theorem valueChar_toNat {x : Char} (h : valueChar x = true) :
    x.toNat < 128 ∧ x.toNat ≠ 0x20 ∧ x.toNat ≠ 0x09 ∧ x.toNat ≠ 0x0A ∧ x.toNat ≠ 0x0D ∧
      x.toNat ≠ 0x7B ∧ x.toNat ≠ 0x5B ∧ x.toNat ≠ 0x22 := by
  -- The letter classes are opened by their definitions, not by their equation lemmas.
  change ((((decide (x.val ≥ 'A'.val ∧ x.val ≤ 'Z'.val) || (x.val ≥ 'a'.val && x.val ≤ 'z'.val)) ||
      x.isDigit) || decide (x = '.')) || decide (x = '_') || decide (x = '-')) = true at h
  simp only [Char.isDigit, Bool.or_eq_true, Bool.and_eq_true, decide_eq_true_eq,
    UInt32.le_iff_toNat_le, ge_iff_le] at h
  rcases h with (((alnum | rfl) | rfl) | rfl)
  · change ((65 ≤ x.toNat ∧ x.toNat ≤ 90) ∨ (97 ≤ x.toNat ∧ x.toNat ≤ 122)) ∨
      (48 ≤ x.toNat ∧ x.toNat ≤ 57) at alnum
    omega
  all_goals decide

theorem utf8EncodeChar_ascii {c : Char} (small : c.toNat < 128) :
    String.utf8EncodeChar c = [c.toNat.toUInt8] := by
  simp only [String.utf8EncodeChar, Char.toNat_val]
  rw [if_pos (by omega)]

theorem toUTF8_ascii {cs : List Char} (ascii : ∀ c ∈ cs, c.toNat < 128) :
    (String.ofList cs).toUTF8 = ⟨(cs.map fun c => c.toNat.toUInt8).toArray⟩ := by
  induction cs with
  | nil => rfl
  | cons c rest ih =>
      have restAscii : ∀ d ∈ rest, d.toNat < 128 := fun d member => ascii d (List.mem_cons_of_mem c member)
      simp only [String.toUTF8_eq_toByteArray, String.toByteArray_ofList] at ih ⊢
      rw [List.utf8Encode_cons, List.utf8Encode_singleton, ih restAscii,
        utf8EncodeChar_ascii (ascii c List.mem_cons_self)]
      apply ByteArray.ext
      simp [List.data_toByteArray]

theorem toUInt8_toNat_ascii {c : Char} (small : c.toNat < 128) : c.toNat.toUInt8.toNat = c.toNat := by
  rw [Nat.toUInt8, UInt8.toNat_ofNat', Nat.mod_eq_of_lt (by omega)]

theorem toUTF8_getElem?_ascii {cs : List Char} (ascii : ∀ c ∈ cs, c.toNat < 128) (k : Nat) :
    (String.ofList cs).toUTF8[k]? = cs[k]?.map fun c => c.toNat.toUInt8 := by
  rw [toUTF8_ascii ascii, Bytes.getElem?_eq_at, Bytes.at_eq_data]
  simp

theorem toUTF8_size_ascii {cs : List Char} (ascii : ∀ c ∈ cs, c.toNat < 128) :
    (String.ofList cs).toUTF8.size = cs.length := by
  rw [toUTF8_ascii ascii]
  simp [ByteArray.size]

theorem decodeAt?_ascii_text {cs : List Char} (ascii : ∀ c ∈ cs, c.toNat < 128) {k : Nat} {x : Char}
    (found : cs[k]? = some x) : Utf8.decodeAt? (String.ofList cs).toUTF8 k = some (x, 1) := by
  have small := ascii x (List.mem_of_getElem? found)
  have byte : Bytes.at? (String.ofList cs).toUTF8 k = some x.toNat.toUInt8 := by
    rw [← Bytes.getElem?_eq_at, toUTF8_getElem?_ascii ascii, found]
    rfl
  rw [Utf8.decodeAt?_ascii byte (by rw [UInt8.lt_iff_toNat_lt, toUInt8_toNat_ascii small]; exact small),
    toUInt8_toNat_ascii small, Char.ofNat_toNat]

theorem decodeLossy_ascii {cs : List Char} (ascii : ∀ c ∈ cs, c.toNat < 128) :
    Utf8.decodeLossy (String.ofList cs).toUTF8 = String.ofList cs := by
  apply String.toList_inj.1
  rw [toUTF8_ascii ascii, Utf8.decodeLossy, decodeLossyFrom_ascii]
  · simp only [String.toList_empty, List.nil_append, List.drop_zero, String.toList_ofList,
      List.map_map]
    conv => rhs; rw [← List.map_id cs]
    apply List.map_congr_left
    intro c member
    have small := ascii c member
    simp only [Function.comp_apply, id_eq]
    rw [Nat.toUInt8, UInt8.toNat_ofNat', Nat.mod_eq_of_lt (by omega), Char.ofNat_toNat]
  · intro b member
    simp only [List.mem_map] at member
    obtain ⟨c, inText, rfl⟩ := member
    have small := ascii c inText
    rw [Nat.toUInt8, UInt8.lt_iff_toNat_lt, UInt8.toNat_ofNat', Nat.mod_eq_of_lt (by omega)]
    exact small

theorem bytes_ext {a b : ByteArray} (same : ∀ k : Nat, a[k]? = b[k]?) : a = b := by
  apply ByteArray.ext
  apply Array.toList_inj.1
  apply List.ext_getElem?
  intro k
  rw [← Bytes.at_eq_data, ← Bytes.at_eq_data, ← Bytes.getElem?_eq_at, ← Bytes.getElem?_eq_at]
  exact same k

theorem extract_zero_of_size_le {buf : ByteArray} {j : Nat} (h : buf.size ≤ j) :
    buf.extract 0 j = buf := by
  apply ByteArray.ext
  rw [ByteArray.data_extract, Array.extract_eq_self_of_le (by simpa using h)]

theorem valueText_bytes {v : String} (hv : ValueText v) (k : Nat) :
    v.toUTF8[k]? = v.toList[k]?.map fun c => c.toNat.toUInt8 := by
  have ascii : ∀ c ∈ v.toList, c.toNat < 128 := fun c member => (valueChar_toNat (hv.2 c member)).1
  have bytes := toUTF8_getElem?_ascii ascii k
  rwa [String.ofList_toList] at bytes

theorem decodeLossy_valueText {v : String} (hv : ValueText v) : Utf8.decodeLossy v.toUTF8 = v := by
  have ascii : ∀ c ∈ v.toList, c.toNat < 128 := fun c member => (valueChar_toNat (hv.2 c member)).1
  have text := decodeLossy_ascii ascii
  rwa [String.ofList_toList] at text

/-! ## JSON texts that hold one scalar -/

namespace Json

theorem expectAt_ok {buf : ByteArray} {i : Nat} {b : UInt8} (h : expectAt buf i = .ok b) :
    buf[i]? = some b := by
  unfold expectAt at h
  split at h
  · rename_i inside
    cases h
    exact getElem?_pos buf i inside
  · cases h

theorem expectAt_of_getElem? {buf : ByteArray} {i : Nat} {b : UInt8} (h : buf[i]? = some b) :
    expectAt buf i = .ok b := by
  unfold expectAt
  split
  · rename_i inside
    rw [getElem?_pos buf i inside, Option.some.injEq] at h
    rw [h]
  · rename_i past
    rw [getElem?_neg buf i past] at h
    cases h

theorem exists_of_map_eq_ok {α β : Type} {x : Except ReadError α} {f : α → β} {y : β}
    (h : x.map f = .ok y) : ∃ a, x = .ok a ∧ f a = y := by
  cases x with
  | error e => cases h
  | ok a => exact ⟨a, rfl, Except.ok.inj h⟩

theorem skipBlanks_of_clear {buf : ByteArray}
    (clear : ∀ (k : Nat) (b : UInt8), buf[k]? = some b → isBlank b = false)
    (i : Nat) : skipBlanks buf i = i := by
  unfold skipBlanks
  split
  · rename_i inside
    rw [clear i buf[i] (getElem?_pos buf i inside)]
    rfl
  · rfl

theorem continues_of_bind {ε α β : Type} {x : Except ε α} {k : α → Except ε β} {r : β}
    (h : x >>= k = .ok r) : ∃ a, k a = .ok r :=
  (bind_eq_ok.1 h).imp fun _ step => step.2

theorem readNumber_text {buf : ByteArray} {i j : Nat} {t : String} (h : readNumber buf i = .ok (t, j)) :
    t = Utf8.decodeLossy (buf.extract i j) := by
  unfold readNumber at h
  extract_lets start signed finish exponent fraction at h
  -- Each part of the number fails or hands the position after it to the next part, and the text
  -- is cut once, after the last.
  obtain ⟨b, -, h⟩ := bind_eq_ok.1 h
  obtain ⟨i1, h⟩ : ∃ i1, fraction i1 = .ok (t, j) := by
    split at h
    · exact continues_of_bind h
    · split at h <;> exact continues_of_bind h
  obtain ⟨i2, h⟩ : ∃ i2, exponent i2 = .ok (t, j) := by
    simp -zeta only [fraction] at h
    split at h
    · obtain ⟨b, -, h⟩ := bind_eq_ok.1 h
      split at h <;> exact continues_of_bind h
    · exact continues_of_bind h
  obtain ⟨i3, h⟩ : ∃ i3, finish i3 = .ok (t, j) := by
    simp -zeta only [exponent] at h
    split at h
    · obtain ⟨b, -, h⟩ := bind_eq_ok.1 h
      split at h <;> exact continues_of_bind h
    · exact continues_of_bind h
  cases h
  rfl

theorem readWord_ok {buf : ByteArray} {i j : Nat} {w : String} (h : readWord buf i w = .ok j) :
    j = i + w.utf8ByteSize ∧ ∀ k, 0 < k → k < w.utf8ByteSize → buf[i + k]? = some w.toUTF8[k]! := by
  simp only [readWord, Std.Legacy.Range.forIn_eq_forIn_range', bind, Except.bind] at h
  split at h
  · cases h
  · rename_i u loop
    cases h
    refine ⟨by simp, fun k pos lt => ?_⟩
    have member : k ∈ List.range' 1 [1:w.toUTF8.size].size := by
      simp [List.mem_range'_1, Std.Legacy.Range.size]
      omega
    -- Every step of the loop checked one byte of the word and went on.
    generalize List.range' 1 [1:w.toUTF8.size].size = l at loop member
    induction l generalizing u with
    | nil => cases member
    | cons a rest ih =>
        simp only [List.forIn_cons, bind, Except.bind] at loop
        cases found : expectAt buf (i + a) with
        | error e => simp [found] at loop
        | ok b =>
            by_cases differs : (b != w.toUTF8[a]!) = true
            · have mismatch : b ≠ w.toByteArray[a]! := by simpa using differs
              simp [found, mismatch, throw, throwThe, MonadExceptOf.throw] at loop
            · simp only [found, differs, pure, Except.pure] at loop
              rcases List.mem_cons.1 member with rfl | later
              · simpa using (expectAt_ok found).trans (congrArg some (by simpa using differs))
              · exact ih u loop later

theorem eq_of_readWord {buf : ByteArray} {w : String} {j : Nat} (first : buf[0]? = w.toUTF8[0]?)
    (word : readWord buf 0 w = .ok j) (atEnd : buf[j]? = none) : buf = w.toUTF8 := by
  obtain ⟨rfl, rest⟩ := readWord_ok word
  have short : buf.size ≤ w.utf8ByteSize := by
    rw [Nat.zero_add] at atEnd
    exact Nat.le_of_not_lt fun inside => by rw [getElem?_pos buf _ inside] at atEnd; cases atEnd
  apply bytes_ext
  intro k
  by_cases start : k = 0
  · rw [start, first]
  by_cases inside : k < w.utf8ByteSize
  · have inWord : k < w.toUTF8.size := by simpa using inside
    rw [show k = 0 + k by omega, rest k (by omega) inside, Nat.zero_add,
      getElem!_pos w.toUTF8 k inWord, getElem?_pos w.toUTF8 k inWord]
  · rw [getElem?_neg buf k (by omega), getElem?_neg w.toUTF8 k (by simp; omega)]

theorem read_ok {buf : ByteArray} {v : Json} (h : read buf = .ok v) :
    ∃ j, readValue buf 0 (buf.size + 1) = .ok (v, j) ∧ buf[skipBlanks buf j]? = none := by
  unfold read at h
  split at h
  · cases h
  · rename_i v' j found
    dsimp only at h
    split at h
    · cases h
    · rename_i atEnd
      cases h
      exact ⟨j, found, atEnd⟩

theorem readValue_scalar {buf : ByteArray} {i fuel j : Nat} {v : Json} {b : UInt8}
    (h : readValue buf i fuel = .ok (v, j)) (first : buf[skipBlanks buf i]? = some b)
    (flat : b ≠ 0x7B ∧ b ≠ 0x5B ∧ b ≠ 0x22) :
    (∃ t, v = .number t ∧ readNumber buf (skipBlanks buf i) = .ok (t, j)) ∨
    (v = .bool true ∧ b = 0x74 ∧ readWord buf (skipBlanks buf i) "true" = .ok j) ∨
    (v = .bool false ∧ b = 0x66 ∧ readWord buf (skipBlanks buf i) "false" = .ok j) ∨
    (v = .null ∧ b = 0x6E ∧ readWord buf (skipBlanks buf i) "null" = .ok j) := by
  cases fuel with
  | zero => simp [readValue] at h
  | succ fuel =>
      simp only [readValue, expectAt_of_getElem? first] at h
      obtain ⟨notObject, notArray, notString⟩ := flat
      rw [if_neg (by simpa using notObject), if_neg (by simpa using notArray),
        if_neg (by simpa using notString)] at h
      split at h
      · obtain ⟨⟨t, j'⟩, read, same⟩ := exists_of_map_eq_ok h
        cases same
        exact .inl ⟨t, rfl, read⟩
      · split at h
        · rename_i isTrue
          obtain ⟨j', read, same⟩ := exists_of_map_eq_ok h
          cases same
          exact .inr (.inl ⟨rfl, by simpa using isTrue, read⟩)
        · split at h
          · rename_i isFalse
            obtain ⟨j', read, same⟩ := exists_of_map_eq_ok h
            cases same
            exact .inr (.inr (.inl ⟨rfl, by simpa using isFalse, read⟩))
          · split at h
            · rename_i isNull
              obtain ⟨j', read, same⟩ := exists_of_map_eq_ok h
              cases same
              exact .inr (.inr (.inr ⟨rfl, by simpa using isNull, read⟩))
            · cases h

end Json

theorem valueChar_byte {x : Char} (h : valueChar x = true) :
    Json.isBlank x.toNat.toUInt8 = false ∧ x.toNat.toUInt8 ≠ 0x7B ∧ x.toNat.toUInt8 ≠ 0x5B ∧
      x.toNat.toUInt8 ≠ 0x22 := by
  obtain ⟨small, space, tab, lf, cr, brace, bracket, quote⟩ := valueChar_toNat h
  have byte : x.toNat.toUInt8.toNat = x.toNat := toUInt8_toNat_ascii small
  simp only [Json.isBlank, Bool.or_eq_false_iff, beq_eq_false_iff_ne, ne_eq, ← UInt8.toNat_inj, byte]
  simp
  omega

theorem readString_valueText {v : String} (hv : ValueText v) {json : Json}
    (h : Json.readString v = .ok json) :
    json = .number v ∨ (json = .bool true ∧ v = "true") ∨ (json = .bool false ∧ v = "false") ∨
      (json = .null ∧ v = "null") := by
  obtain ⟨j, value, atEnd⟩ := Json.read_ok h
  have clear : ∀ (k : Nat) (b : UInt8), v.toUTF8[k]? = some b → Json.isBlank b = false := by
    intro k b found
    rw [valueText_bytes hv, Option.map_eq_some_iff] at found
    obtain ⟨x, member, rfl⟩ := found
    exact (valueChar_byte (hv.2 x (List.mem_of_getElem? member))).1
  obtain ⟨x, rest, chars⟩ : ∃ x rest, v.toList = x :: rest := by
    cases text : v.toList with
    | nil => exact absurd (String.toList_eq_nil_iff.1 text) hv.1
    | cons x rest => exact ⟨x, rest, rfl⟩
  have xByte := valueChar_byte (hv.2 x (chars ▸ List.mem_cons_self))
  have first : v.toUTF8[Json.skipBlanks v.toUTF8 0]? = some x.toNat.toUInt8 := by
    rw [Json.skipBlanks_of_clear clear, valueText_bytes hv, chars]
    rfl
  rw [Json.skipBlanks_of_clear clear] at atEnd
  have whole : v.toUTF8.size ≤ j :=
    Nat.le_of_not_lt fun inside => by rw [getElem?_pos v.toUTF8 j inside] at atEnd; cases atEnd
  -- A word read to the end of the text is the whole text.
  have wordText : ∀ w : String, v.toUTF8[0]? = w.toUTF8[0]? →
      Json.readWord v.toUTF8 (Json.skipBlanks v.toUTF8 0) w = .ok j → v = w := by
    intro w same word
    rw [Json.skipBlanks_of_clear clear] at word
    apply String.toByteArray_inj.1
    simpa only [String.toUTF8_eq_toByteArray] using Json.eq_of_readWord same word atEnd
  have startsAt : v.toUTF8[0]? = some x.toNat.toUInt8 := by
    rwa [Json.skipBlanks_of_clear clear] at first
  rcases Json.readValue_scalar value first ⟨xByte.2.1, xByte.2.2.1, xByte.2.2.2⟩ with
    ⟨t, rfl, number⟩ | ⟨rfl, isT, word⟩ | ⟨rfl, isF, word⟩ | ⟨rfl, isN, word⟩
  · rw [Json.readNumber_text number, Json.skipBlanks_of_clear clear, extract_zero_of_size_le whole,
      decodeLossy_valueText hv]
    exact .inl rfl
  · exact .inr (.inl ⟨rfl, wordText "true" (by rw [startsAt, isT]; decide) word⟩)
  · exact .inr (.inr (.inl ⟨rfl, wordText "false" (by rw [startsAt, isF]; decide) word⟩))
  · exact .inr (.inr (.inr ⟨rfl, wordText "null" (by rw [startsAt, isN]; decide) word⟩))

/-! ## The number a typed value stands for -/

theorem lowerText_eq_self {s : String} (h : ∀ c ∈ s.toList, CaseMap.lower c = c) :
    CaseMap.lowerText s = s := by
  apply String.toList_inj.1
  rw [CaseMap.lowerText, String.toList_map]
  conv => rhs; rw [← List.map_id s.toList]
  exact List.map_congr_left h

namespace Variant

@[simp] theorem asNumber_float (x : Float) : (Variant.float x).asNumber? = some x := rfl

@[simp] theorem asNumber_str (s : String) :
    (Variant.str s).asNumber? = (Numeral.readFloat s).toOption := rfl

@[simp] theorem asNumber_null : Variant.null.asNumber? = none := rfl

/-- `true` and `false` are no numerals. -/
@[simp] theorem asNumber_bool (b : Bool) : (Variant.bool b).asNumber? = none := by
  cases b <;> decide +kernel

end Variant

theorem asNumber_typedLiteral (v : String) :
    (typedLiteral v).asNumber? = (Numeral.readFloat v).toOption := by
  unfold typedLiteral
  cases read : Numeral.readFloat v with
  | ok x => rfl
  | error e =>
      dsimp only
      repeat' split
      all_goals simp [Except.toOption, read]

theorem typedLiteral_text {v : String} (noNumeral : (Numeral.readFloat v).toOption = none)
    (notTrue : CaseMap.lowerText v ≠ "true") (notFalse : CaseMap.lowerText v ≠ "false")
    (notNull : CaseMap.lowerText v ≠ "null") : typedLiteral v = .str v := by
  unfold typedLiteral
  cases read : Numeral.readFloat v with
  | ok x => rw [read] at noNumeral; cases noNumeral
  | error e => simp [notTrue, notFalse, notNull]

theorem asNumber_argumentValue {v : String} (hv : ValueText v) :
    (Command.argumentValue v).asNumber? = (Numeral.readFloat v).toOption := by
  unfold Command.argumentValue
  cases read : Json.readString v with
  | error e => rfl
  | ok json =>
      rcases readString_valueText hv read with rfl | ⟨rfl, rfl⟩ | ⟨rfl, rfl⟩ | ⟨rfl, rfl⟩
      · cases number : Numeral.readFloat v <;> simp [number, Except.toOption]
      all_goals
        dsimp only
        simp only [Variant.asNumber_bool, Variant.asNumber_null]
        decide

/-- JSON keeps a value text as text unless it is a numeral or exactly `true`, `false` or `null`:
unlike the numeral reader, it does not fold case. -/
theorem argumentValue_plain {v : String} (hv : ValueText v)
    (noNumeral : (Numeral.readFloat v).toOption = none) (notWord : v ∉ ["true", "false", "null"]) :
    Command.argumentValue v = .str v := by
  unfold Command.argumentValue
  cases read : Json.readString v with
  | error e => rfl
  | ok json =>
      rcases readString_valueText hv read with rfl | ⟨rfl, rfl⟩ | ⟨rfl, rfl⟩ | ⟨rfl, rfl⟩
      · cases number : Numeral.readFloat v with
        | ok x => rw [number] at noNumeral; cases noNumeral
        | error e => simp only [number]
      all_goals simp at notWord

theorem argumentValue_text {v : String} (hv : ValueText v)
    (noNumeral : (Numeral.readFloat v).toOption = none) (notTrue : CaseMap.lowerText v ≠ "true")
    (notFalse : CaseMap.lowerText v ≠ "false") (notNull : CaseMap.lowerText v ≠ "null") :
    Command.argumentValue v = .str v := by
  apply argumentValue_plain hv noNumeral
  -- The three words are their own lower case.
  simp only [List.mem_cons, List.not_mem_nil, or_false]
  rintro (rfl | rfl | rfl)
  · exact notTrue (lowerText_eq_self (by simp [CaseMap.lower]))
  · exact notFalse (lowerText_eq_self (by simp [CaseMap.lower]))
  · exact notNull (lowerText_eq_self (by simp [CaseMap.lower]))

/-! ## Conditions that differ only in their value -/

namespace Query

def orderOperators : List String := [">", ">=", "<", "<="]

section

variable {f g : Filter}

mutual

theorem Filter.test_congr (same : ∀ x, testScalar f.operator x f.value = testScalar g.operator x g.value) :
    ∀ v, f.test v = g.test v
  | .map entries => by simp only [Filter.test]; exact Filter.testAny_congr same entries
  | .null | .int _ | .count _ | .float _ | .str _ | .raw _ | .bool _ | .bytes _ | .time _ | .record _
  | .list _ => by
      simp only [Filter.test]; exact same _

theorem Filter.testAny_congr (same : ∀ x, testScalar f.operator x f.value = testScalar g.operator x g.value) :
    ∀ entries, f.testAny entries = g.testAny entries
  | [] => rfl
  | (_, v) :: rest => by
      simp only [Filter.testAny]
      rw [Filter.test_congr same v, Filter.testAny_congr same rest]

end

theorem Filter.passes_congr (field : f.field = g.field) (tests : ∀ v, f.test v = g.test v)
    (r : Variant) : f.passes r = g.passes r := by
  simp only [Filter.passes, filterPasses, field, tests]

end

theorem testScalar_order {op : String} (order : op ∈ orderOperators) {a b : Variant}
    (same : a.asNumber? = b.asNumber?) (x : Variant) : testScalar op x a = testScalar op x b := by
  simp only [orderOperators, List.mem_cons, List.not_mem_nil, or_false] at order
  rcases order with rfl | rfl | rfl | rfl <;> simp [testScalar, compareNumbers, same]

theorem eval_order_congr {field op : String} (order : op ∈ orderOperators) {a b : Variant}
    (same : a.asNumber? = b.asNumber?) (r : Variant) :
    (Expression.condition (Filter.make field op a)).eval r =
      (Expression.condition (Filter.make field op b)).eval r := by
  have lower : CaseMap.lowerText op = op := by
    simp only [orderOperators, List.mem_cons, List.not_mem_nil, or_false] at order
    apply lowerText_eq_self
    rcases order with rfl | rfl | rfl | rfl <;> simp [CaseMap.lower]
  simp only [Expression.eval]
  apply Filter.passes_congr (f := Filter.make field op a) (g := Filter.make field op b) rfl
  apply Filter.test_congr
  simp only [Filter.make, lower]
  exact testScalar_order order same

end Query

end WikiDump

