import WikiDump.Proofs.LiteralText
/-!
# Numbers are read by their grammar

A decimal number is written `[+-]?D+(.D+)?([eE][+-]?D+)?` (`NumberText`). A literal that starts
with a sign or a digit, and is no hexadecimal text `0x…`, is read by that grammar alone. It
reads exactly when a number text stands at its position with no byte after it that would
continue a number (a word byte, `.`, `+` or `-`), which makes the text the longest one there,
and when the text holds a value (`NumberText.content?`): the exact integer of a text with
neither fraction nor exponent, when it lies within 64 bits, and otherwise the double that the
decimal reading of the text gives. The literal is then that value, at its position, and takes
the whole text. Every other number fails as an invalid number, except a lone sign at the end of
the buffer, which is the end of the input (`Literal.read_number_grammar`).

The reader goes through the text in stages: sign, integer digits, fraction, exponent, and the
byte after the text. `Literal.readNumber_of_ahead` follows a number text through them, and
`Literal.readNumber_sound` finds the number text behind every reading.
-/

namespace WikiDump

open Bytes Script

/-- The sign written before digits. -/
inductive NumberSign where
  | unsigned
  | plus
  | minus
  deriving DecidableEq, Repr

namespace NumberSign

/-- The bytes of a sign. -/
def bytes : NumberSign → List UInt8
  | .unsigned => []
  | .plus => [Bytes.plus]
  | .minus => [Bytes.minus]

def apply (s : NumberSign) (n : Nat) : Int := if s = .minus then -(n : Int) else n

@[simp] theorem apply_unsigned (n : Nat) : unsigned.apply n = n := rfl

@[simp] theorem apply_plus (n : Nat) : plus.apply n = n := rfl

@[simp] theorem apply_minus (n : Nat) : minus.apply n = -(n : Int) := rfl

end NumberSign

/-- The exponent of a decimal number: `e` or `E`, a sign, and at least one digit. -/
structure NumberExponent where
  capital : Bool
  sign : NumberSign
  digits : List UInt8
  nonempty : digits ≠ []
  numeral : ∀ d ∈ digits, isDigit d = true

namespace NumberExponent

def letter (e : NumberExponent) : UInt8 := if e.capital then 0x45 else 0x65

/-- The text of an exponent. -/
def render (e : NumberExponent) : List UInt8 := e.letter :: (e.sign.bytes ++ e.digits)

theorem letter_cases (e : NumberExponent) : e.letter = 0x65 ∨ e.letter = 0x45 := by
  unfold letter
  cases e.capital
  · exact .inl rfl
  · exact .inr rfl

theorem letter_facts (e : NumberExponent) :
    isDigit e.letter = false ∧ e.letter ≠ dot ∧ isWordByte e.letter = true := by
  rcases e.letter_cases with same | same <;> (rw [same]; decide)

def text : Option NumberExponent → List UInt8
  | none => []
  | some e => e.render

end NumberExponent

/-- A decimal number as a dump writes it, `[+-]?D+(.D+)?([eE][+-]?D+)?`: a sign, the integer
digits, the digits after the point (none when there is no point) and an optional exponent. -/
structure NumberText where
  sign : NumberSign
  whole : List UInt8
  nonempty : whole ≠ []
  numeral : ∀ d ∈ whole, isDigit d = true
  fraction : List UInt8
  fractionNumeral : ∀ d ∈ fraction, isDigit d = true
  exponent : Option NumberExponent

def continuesNumber (c : UInt8) : Bool := isWordByte c || c == dot || c == minus || c == plus

namespace NumberText

/-- The text of a number. -/
def render (t : NumberText) : List UInt8 :=
  t.sign.bytes ++ (t.whole ++ (fractionText t.fraction ++ NumberExponent.text t.exponent))

def integral (t : NumberText) : Bool := t.fraction.isEmpty && t.exponent.isNone

def value (t : NumberText) : Int := t.sign.apply (digitsValue t.whole)

/-- What a number holds: an integer exactly, when it lies within 64 bits (from `-2^63` to
`2^63 - 1`), or the double that the decimal reading of its text gives; nothing when the integer
is out of range or the reading refuses the text. -/
def content? (t : NumberText) : Option Content :=
  if t.integral then
    if -9223372036854775808 ≤ t.value ∧ t.value < 9223372036854775808 then
      some (.integer (Int64.ofInt t.value))
    else none
  else
    match Numeral.readFloat (asciiString t.render) with
    | .ok x => some (.float x)
    | .error _ => none

/-- What reading a number text gives: what it holds, at `pos`, with the length of the text; or
an invalid number when it holds nothing. -/
def result (t : NumberText) (buf : ByteArray) (pos : Nat) : Except ScanError (Value × Nat) :=
  match t.content? with
  | some content => .ok (⟨content, pos⟩, t.render.length)
  | none => .error (Literal.numberError buf pos pos)

def LongestAt (t : NumberText) (buf : ByteArray) (pos : Nat) : Prop :=
  Occurs buf pos t.render ∧ ∀ t' : NumberText, Occurs buf pos t'.render → t'.render.length ≤ t.render.length

/-- The literal at `pos` reads as the number text `t` holding `content`: `t` is the longest
number text there, no byte after it would continue it, and it holds `content`. -/
structure ReadsAs (t : NumberText) (buf : ByteArray) (pos : Nat) (content : Content) : Prop where
  longest : t.LongestAt buf pos
  ends : atIs buf (pos + t.render.length) continuesNumber = false
  holds : t.content? = some content

theorem result_eq_ok {t : NumberText} {buf : ByteArray} {pos : Nat} {v : Value} {n : Nat} :
    t.result buf pos = .ok (v, n) ↔ t.content? = some v.content ∧ v.offset = pos ∧ n = t.render.length := by
  unfold result
  cases held : t.content? with
  | none => simp
  | some content =>
      rcases v with ⟨content', offset⟩
      constructor
      · intro same
        cases same
        exact ⟨rfl, rfl, rfl⟩
      · rintro ⟨same, rfl, rfl⟩
        cases same
        rfl

end NumberText

/-! ## The bytes of a number -/

def numberByte (b : UInt8) : Bool :=
  isDigit b || b == dot || b == plus || b == minus || b == 0x65 || b == 0x45

set_option maxRecDepth 8000 in
theorem numberByte_continues {b : UInt8} (number : numberByte b = true) :
    continuesNumber b = true ∧ b < 0x80 := by
  have table : ∀ n, n < 256 → numberByte (UInt8.ofNat n) = true →
      continuesNumber (UInt8.ofNat n) = true ∧ UInt8.ofNat n < 0x80 := by
    decide
  simpa using table b.toNat b.toNat_lt (by simpa using number)

theorem digit_continues (c : UInt8) (digit : isDigit c = true) : continuesNumber c = true :=
  (numberByte_continues (by simp [numberByte, digit])).1

theorem digit_ne_sign {d : UInt8} (digit : isDigit d = true) : d ≠ minus ∧ d ≠ plus := by
  constructor
  · rintro rfl
    exact absurd digit (by decide)
  · rintro rfl
    exact absurd digit (by decide)

theorem NumberSign.numberByte_bytes (s : NumberSign) : ∀ b ∈ s.bytes, numberByte b = true := by
  cases s <;> simp [NumberSign.bytes, numberByte]

theorem numberByte_of_digits {digits : List UInt8} (numeral : ∀ d ∈ digits, isDigit d = true) :
    ∀ b ∈ digits, numberByte b = true :=
  fun b member => by simp [numberByte, numeral b member]

theorem NumberExponent.numberByte_text (e? : Option NumberExponent) :
    ∀ b ∈ NumberExponent.text e?, numberByte b = true := by
  intro b member
  cases e? with
  | none => cases member
  | some e =>
      simp only [NumberExponent.text, NumberExponent.render, List.mem_cons, List.mem_append] at member
      rcases member with letter | sign | digit
      · subst letter
        rcases e.letter_cases with same | same <;> (rw [same]; decide)
      · exact e.sign.numberByte_bytes b sign
      · exact numberByte_of_digits e.numeral b digit

theorem NumberText.numberByte_render (t : NumberText) : ∀ b ∈ t.render, numberByte b = true := by
  intro b member
  simp only [NumberText.render, List.mem_append] at member
  rcases member with sign | whole | fraction | exponent
  · exact t.sign.numberByte_bytes b sign
  · exact numberByte_of_digits t.numeral b whole
  · unfold fractionText at fraction
    split at fraction
    · cases fraction
    · rcases List.mem_cons.1 fraction with point | digit
      · subst point
        decide
      · exact numberByte_of_digits t.fractionNumeral b digit
  · exact NumberExponent.numberByte_text t.exponent b exponent

theorem NumberText.longestAt_of_ends {t : NumberText} {buf : ByteArray} {pos : Nat}
    (occurs : Occurs buf pos t.render)
    (ends : atIs buf (pos + t.render.length) continuesNumber = false) : t.LongestAt buf pos := by
  refine ⟨occurs, fun t' other => Nat.le_of_not_lt fun longer => ?_⟩
  have byte := other.get longer
  have continues := (numberByte_continues (t'.numberByte_render _ (List.getElem_mem longer))).1
  unfold atIs at ends
  rw [byte] at ends
  dsimp only at ends
  rw [continues] at ends
  cases ends

/-! ## What stands ahead -/

/-- From `q` on the buffer holds `rest`, and after it no byte that would continue a number. -/
structure Ahead (buf : ByteArray) (q : Nat) (rest : List UInt8) : Prop where
  occurs : Occurs buf q rest
  stops : atIs buf (q + rest.length) continuesNumber = false

namespace Ahead

variable {buf : ByteArray} {q : Nat}

theorem drop {a b : List UInt8} (ahead : Ahead buf q (a ++ b)) : Ahead buf (q + a.length) b where
  occurs := ahead.occurs.right
  stops := by
    have stops := ahead.stops
    rwa [List.length_append, ← Nat.add_assoc] at stops

theorem tail {x : UInt8} {rest : List UInt8} (ahead : Ahead buf q (x :: rest)) :
    Ahead buf (q + 1) rest :=
  drop (a := [x]) ahead

theorem atIs_false {P : UInt8 → Bool} {rest : List UInt8} (ahead : Ahead buf q rest)
    (weaker : ∀ c, P c = true → continuesNumber c = true) (head : ∀ b ∈ rest.head?, P b = false) :
    atIs buf q P = false := by
  cases rest with
  | nil =>
      have stops := ahead.stops
      rw [List.length_nil, Nat.add_zero] at stops
      unfold atIs at stops ⊢
      cases found : at? buf q with
      | none => rfl
      | some c =>
          rw [found] at stops
          dsimp only at stops ⊢
          cases holds : P c
          · rfl
          · rw [weaker c holds] at stops
            cases stops
  | cons x rest =>
      unfold atIs
      rw [ahead.occurs.head]
      exact head x rfl

end Ahead

namespace Literal

variable {buf : ByteArray} {pos : Nat}

/-! ## Runs of bytes -/

theorem skipWhile_of_atIs {P : UInt8 → Bool} {i : Nat} (stops : atIs buf i P = false) :
    skipWhile P buf i = i := by
  cases found : at? buf i with
  | none =>
      unfold at? at found
      split at found
      · cases found
      · rename_i outside
        unfold skipWhile
        rw [dif_neg outside]
  | some c =>
      unfold atIs at stops
      rw [found] at stops
      exact skipWhile_stop found stops

theorem skipWhile_spec (P : UInt8 → Bool) (buf : ByteArray) (i : Nat) :
    ∃ run : List UInt8, Occurs buf i run ∧ (∀ b ∈ run, P b = true) ∧
      skipWhile P buf i = i + run.length ∧ atIs buf (i + run.length) P = false := by
  fun_induction skipWhile P buf i with
  | case1 i inside holds ih =>
      obtain ⟨run, occ, all, skipped, stops⟩ := ih
      have first : at? buf i = some buf[i] := by
        unfold at?
        rw [dif_pos inside]
      refine ⟨buf[i] :: run, Occurs.append (a := [buf[i]]) (Occurs.singleton first) occ, ?_, ?_, ?_⟩
      · intro b member
        rcases List.mem_cons.1 member with same | later
        · rw [same]
          exact holds
        · exact all b later
      · rw [skipped, List.length_cons]
        omega
      · rwa [List.length_cons, ← Nat.add_comm 1, ← Nat.add_assoc]
  | case2 i inside fails =>
      refine ⟨[], Occurs.nil, by simp, rfl, ?_⟩
      unfold atIs at?
      rw [List.length_nil, Nat.add_zero, dif_pos inside]
      simpa using fails
  | case3 i outside =>
      refine ⟨[], Occurs.nil, by simp, rfl, ?_⟩
      unfold atIs at?
      rw [List.length_nil, Nat.add_zero, dif_neg outside]

theorem skipWhile_of_run {P : UInt8 → Bool} {run : List UInt8} (occ : Occurs buf pos run)
    (all : ∀ b ∈ run, P b = true) (stops : atIs buf (pos + run.length) P = false) :
    skipWhile P buf pos = pos + run.length := by
  rw [skipWhile_run occ all, skipWhile_of_atIs stops]

theorem skipWhile_ahead {q : Nat} {run rest : List UInt8} (ahead : Ahead buf q (run ++ rest))
    (numeral : ∀ b ∈ run, isDigit b = true) (head : ∀ b ∈ rest.head?, isDigit b = false) :
    skipWhile isDigit buf q = q + run.length :=
  skipWhile_of_run ahead.occurs.left numeral (ahead.drop.atIs_false digit_continues head)

/-! ## Signs -/

theorem sign_spec (buf : ByteArray) (q : Nat) :
    ∃ s : NumberSign, Occurs buf q s.bytes ∧
      (if atEq buf q minus || atEq buf q plus then q + 1 else q) = q + s.bytes.length := by
  by_cases isMinus : atEq buf q minus = true
  · refine ⟨.minus, Occurs.singleton (at_of_atEq isMinus), ?_⟩
    simp [isMinus, NumberSign.bytes]
  · by_cases isPlus : atEq buf q plus = true
    · refine ⟨.plus, Occurs.singleton (at_of_atEq isPlus), ?_⟩
      simp [isPlus, NumberSign.bytes]
    · refine ⟨.unsigned, Occurs.nil, ?_⟩
      simp [isMinus, isPlus, NumberSign.bytes]

theorem sign_ahead {q : Nat} {s : NumberSign} {d : UInt8} {rest : List UInt8}
    (occ : Occurs buf q (s.bytes ++ d :: rest)) (digit : isDigit d = true) :
    (if atEq buf q minus || atEq buf q plus then q + 1 else q) = q + s.bytes.length := by
  cases s with
  | unsigned =>
      have first : at? buf q = some d := occ.head
      have notSign := digit_ne_sign digit
      rw [atEq_of_ne (by rw [first]; exact fun same => notSign.1 (Option.some.inj same)),
        atEq_of_ne (by rw [first]; exact fun same => notSign.2 (Option.some.inj same))]
      rfl
  | plus =>
      have first : at? buf q = some plus := occ.head
      rw [atEq_of_ne (by rw [first]; decide), atEq_of_at first]
      rfl
  | minus =>
      have first : at? buf q = some minus := occ.head
      rw [atEq_of_at first]
      rfl

/-! ## A number text, stage by stage -/

theorem fractionPart_ahead {d : Nat} {fraction rest : List UInt8}
    (ahead : Ahead buf d (fractionText fraction ++ rest)) (numeral : ∀ b ∈ fraction, isDigit b = true)
    (head : ∀ b ∈ rest.head?, isDigit b = false ∧ b ≠ dot) :
    fractionPart buf pos d = .ok (d + (fractionText fraction).length, !fraction.isEmpty) := by
  unfold fractionPart
  by_cases empty : fraction = []
  · subst empty
    have noPoint : atEq buf d dot = false :=
      ahead.atIs_false (fun c isPoint => by rw [beq_iff_eq.1 isPoint]; decide)
        (fun b member => by simpa using (head b member).2)
    rw [noPoint]
    rfl
  · have point : fractionText fraction = dot :: fraction := if_neg empty
    rw [point, List.cons_append] at ahead
    have digitsEnd := skipWhile_ahead ahead.tail numeral fun b member => (head b member).1
    obtain ⟨b, bs, rfl⟩ := List.exists_cons_of_ne_nil empty
    rw [atEq_of_at ahead.occurs.head, if_pos rfl]
    simp only [digitsEnd, point, List.length_cons, List.isEmpty_cons, Bool.not_false]
    rw [if_neg (by omega)]
    congr 2
    omega

theorem exponentPart_ahead {i : Nat} {e? : Option NumberExponent}
    (ahead : Ahead buf i (NumberExponent.text e?)) :
    exponentPart buf pos i = .ok (i + (NumberExponent.text e?).length, e?.isSome) := by
  unfold exponentPart
  cases e? with
  | none =>
      have noLetter : ∀ letter : UInt8, continuesNumber letter = true → atEq buf i letter = false :=
        fun letter continues => ahead.atIs_false
          (fun c same => by rw [beq_iff_eq.1 same]; exact continues) (fun b member => by cases member)
      rw [noLetter 0x65 (by decide), noLetter 0x45 (by decide)]
      rfl
  | some e =>
      obtain ⟨capital, sign, digits, nonempty, numeral⟩ := e
      simp only [NumberExponent.text, NumberExponent.render] at ahead ⊢
      have letter : (atEq buf i 0x65 || atEq buf i 0x45) = true := by
        have first := ahead.occurs.head
        rcases NumberExponent.letter_cases ⟨capital, sign, digits, nonempty, numeral⟩ with same | same
        · rw [same] at first
          rw [atEq_of_at first, Bool.true_or]
        · rw [same] at first
          rw [atEq_of_at first, Bool.or_true]
      obtain ⟨d, ds, rfl⟩ := List.exists_cons_of_ne_nil nonempty
      have signed : (if atEq buf (i + 1) minus || atEq buf (i + 1) plus then i + 2 else i + 1) =
          i + 1 + sign.bytes.length :=
        sign_ahead ahead.tail.occurs (numeral d List.mem_cons_self)
      have digitsEnd := @skipWhile_ahead _ _ _ []
        (by simpa only [List.append_nil] using ahead.tail.drop) numeral (fun b member => by cases member)
      rw [letter, if_pos rfl]
      simp only [signed, digitsEnd, List.length_cons, List.length_append]
      rw [if_neg (by omega)]
      simp only [Option.isSome_some]
      congr 2
      omega

/-! ## Integers -/

theorem unsignedDigits_eq {limit : Nat} {digits : List UInt8} {acc : Nat}
    (numeral : ∀ d ∈ digits, isDigit d = true) (start : acc ≤ limit) :
    Numeral.unsignedDigits limit (digits.map fun d => Char.ofNat d.toNat) acc =
      if digits.foldl (fun n d => n * 10 + (d - 0x30).toNat) acc ≤ limit then
        .ok (digits.foldl (fun n d => n * 10 + (d - 0x30).toNat) acc)
      else .error .outOfRange := by
  induction digits generalizing acc with
  | nil => simp [Numeral.unsignedDigits, start]
  | cons d rest ih =>
      have next := le_foldl_digits rest (acc * 10 + (d - 0x30).toNat)
      have step : (d :: rest).foldl (fun n d => n * 10 + (d - 0x30).toNat) acc =
          rest.foldl (fun n d => n * 10 + (d - 0x30).toNat) (acc * 10 + (d - 0x30).toNat) := rfl
      rw [List.map_cons, Numeral.unsignedDigits, decimalDigit_ofNat (numeral d List.mem_cons_self), step]
      dsimp only
      by_cases exceeds : acc * 10 + (d - 0x30).toNat > limit
      · rw [if_pos exceeds, if_neg (by omega)]
      · rw [if_neg exceeds]
        exact ih (fun d' member => numeral d' (List.mem_cons_of_mem d member)) (by omega)

theorem readInt_signed (s : NumberSign) {whole : List UInt8} (nonempty : whole ≠ [])
    (numeral : ∀ d ∈ whole, isDigit d = true) :
    Numeral.readInt (asciiString (s.bytes ++ whole)) 64 =
      if -9223372036854775808 ≤ s.apply (digitsValue whole) ∧
          s.apply (digitsValue whole) < 9223372036854775808 then
        .ok (s.apply (digitsValue whole))
      else .error ⟨"ParseInt", asciiString (s.bytes ++ whole), .outOfRange⟩ := by
  have limit : Nat.pow 2 64 - 1 = 18446744073709551615 := by decide
  have cutoff : Nat.pow 2 (64 - 1) = 9223372036854775808 := by decide
  obtain ⟨d, rest, rfl⟩ := List.exists_cons_of_ne_nil nonempty
  have digits : Numeral.unsignedDigits 18446744073709551615
      (Char.ofNat d.toNat :: rest.map fun b => Char.ofNat b.toNat) 0 =
      if digitsValue (d :: rest) ≤ 18446744073709551615 then .ok (digitsValue (d :: rest))
      else .error .outOfRange := by
    have general := unsignedDigits_eq numeral (Nat.zero_le (Nat.pow 2 64 - 1))
    rw [limit, List.map_cons] at general
    exact general
  obtain ⟨notPlus, notDash⟩ := ofNat_ne_sign (numeral d List.mem_cons_self)
  generalize digitsValue (d :: rest) = magnitude at digits ⊢
  unfold Numeral.readInt
  simp only [cutoff, limit]
  -- Each sign leaves the digits to read, and their value to check against the sign's range.
  cases s with
  | unsigned =>
      rw [NumberSign.apply_unsigned]
      have chars : (asciiString (NumberSign.unsigned.bytes ++ d :: rest)).toList =
          Char.ofNat d.toNat :: rest.map fun b => Char.ofNat b.toNat := by
        simp [asciiString, NumberSign.bytes]
      simp only [chars]
      split
      · rename_i body same
        exact absurd (List.cons.inj same).1 notPlus
      · rename_i body same
        exact absurd (List.cons.inj same).1 notDash
      · simp only [List.isEmpty_cons, Bool.false_eq_true, or_self, if_false, digits]
        rcases Nat.lt_or_ge 18446744073709551615 magnitude with huge | small
        · rw [if_neg (Nat.not_le.2 huge)]
          simp (disch := omega) only [if_neg]
        · rw [if_pos small]
          rcases Nat.lt_trichotomy magnitude 9223372036854775808 with below | edge | above <;>
            simp (disch := omega) only [not_false_eq_true, true_and, false_and, ↓reduceIte,
              if_pos, if_neg]
  | plus =>
      rw [NumberSign.apply_plus]
      have chars : (asciiString (NumberSign.plus.bytes ++ d :: rest)).toList =
          '+' :: Char.ofNat d.toNat :: rest.map fun b => Char.ofNat b.toNat := by
        simp [asciiString, NumberSign.bytes]
        rfl
      simp only [chars, List.isEmpty_cons, Bool.false_eq_true, or_self, if_false, digits]
      rcases Nat.lt_or_ge 18446744073709551615 magnitude with huge | small
      · rw [if_neg (Nat.not_le.2 huge)]
        simp (disch := omega) only [if_neg]
      · rw [if_pos small]
        rcases Nat.lt_trichotomy magnitude 9223372036854775808 with below | edge | above <;>
          simp (disch := omega) only [not_false_eq_true, true_and, false_and, ↓reduceIte,
            if_pos, if_neg]
  | minus =>
      rw [NumberSign.apply_minus]
      have chars : (asciiString (NumberSign.minus.bytes ++ d :: rest)).toList =
          '-' :: Char.ofNat d.toNat :: rest.map fun b => Char.ofNat b.toNat := by
        simp [asciiString, NumberSign.bytes]
        rfl
      simp only [chars, List.isEmpty_cons, Bool.false_eq_true, or_self, if_false, digits]
      rcases Nat.lt_or_ge 18446744073709551615 magnitude with huge | small
      · rw [if_neg (Nat.not_le.2 huge)]
        simp (disch := omega) only [if_neg]
      · rw [if_pos small]
        rcases Nat.lt_trichotomy magnitude 9223372036854775808 with below | edge | above <;>
          simp (disch := omega) only [not_true_eq_false, true_and, false_and, ↓reduceIte,
            if_pos, if_neg]

/-! ## The value of a number text -/

theorem integral_eq (t : NumberText) :
    t.integral = !(!t.fraction.isEmpty || t.exponent.isSome) := by
  unfold NumberText.integral
  cases t.fraction.isEmpty <;> cases t.exponent <;> rfl

theorem numberValue_ahead (t : NumberText) (ahead : Ahead buf pos t.render) :
    numberValue buf pos (pos + t.render.length) (!t.fraction.isEmpty) t.exponent.isSome =
      t.result buf pos := by
  have ascii : ∀ b ∈ t.render, b < 0x80 := fun b member =>
    (numberByte_continues (t.numberByte_render b member)).2
  have stops : atIs buf (pos + t.render.length)
      (fun c => isWordByte c || c == dot || c == minus || c == plus) = false := ahead.stops
  unfold numberValue NumberText.result NumberText.content?
  rw [stops, if_neg (by decide), ahead.occurs.extract_eq, asciiText_mk ascii, Nat.add_sub_cancel_left,
    integral_eq]
  cases decimal : (!t.fraction.isEmpty || t.exponent.isSome)
  · -- an integer: the text is the sign and the integer digits
    have bare : t.fraction = [] ∧ t.exponent = none := by
      cases fraction : t.fraction <;> cases exponent : t.exponent <;>
        simp_all
    have text : t.render = t.sign.bytes ++ t.whole := by
      simp [NumberText.render, bare.1, bare.2, fractionText, NumberExponent.text]
    simp only [Bool.false_eq_true, if_false, Bool.not_false, if_true]
    rw [text, readInt_signed t.sign t.nonempty t.numeral]
    unfold NumberText.value
    by_cases range : -9223372036854775808 ≤ t.sign.apply (digitsValue t.whole) ∧
        t.sign.apply (digitsValue t.whole) < 9223372036854775808
    · rw [if_pos range, if_pos range]
    · rw [if_neg range, if_neg range]
  · simp only [if_true, Bool.not_true, Bool.false_eq_true, if_false]
    cases Numeral.readFloat (asciiString t.render) <;> rfl

/-- A number text that stands at `pos`, with nothing after it that would continue it, is read as
what it holds. -/
theorem readNumber_of_ahead (t : NumberText) (ahead : Ahead buf pos t.render) :
    readNumber buf pos = t.result buf pos := by
  obtain ⟨sign, whole, nonempty, numeral, fraction, fractionNumeral, exponent⟩ := t
  have pieces := ahead
  simp only [NumberText.render] at pieces
  obtain ⟨d, ds, rfl⟩ := List.exists_cons_of_ne_nil nonempty
  -- After the fraction comes an exponent's letter or nothing, and after the integer digits a
  -- point or that.
  have afterFraction : ∀ b ∈ (NumberExponent.text exponent).head?, isDigit b = false ∧ b ≠ dot := by
    intro b first
    cases exponent with
    | none => cases first
    | some e =>
        cases first
        exact ⟨e.letter_facts.1, e.letter_facts.2.1⟩
  have afterWhole : ∀ b ∈ (fractionText fraction ++ NumberExponent.text exponent).head?,
      isDigit b = false := by
    intro b first
    unfold fractionText at first
    split at first
    · exact (afterFraction b first).1
    · cases first
      decide
  have signed : (if atEq buf pos minus || atEq buf pos plus then pos + 1 else pos) =
      pos + sign.bytes.length :=
    sign_ahead (by simpa only [List.cons_append] using pieces.occurs) (numeral d List.mem_cons_self)
  have wholeEnd := skipWhile_ahead pieces.drop numeral afterWhole
  have fractionEnd :=
    @fractionPart_ahead buf pos _ _ _ pieces.drop.drop fractionNumeral afterFraction
  have exponentEnd := @exponentPart_ahead buf pos _ _ pieces.drop.drop.drop
  have total : pos + sign.bytes.length + (d :: ds).length + (fractionText fraction).length +
      (NumberExponent.text exponent).length =
      pos + (NumberText.render ⟨sign, d :: ds, nonempty, numeral, fraction, fractionNumeral,
        exponent⟩).length := by
    simp only [NumberText.render, List.length_append]
    omega
  rw [readNumber_eq]
  simp only [signed, wholeEnd]
  rw [if_neg (by simp only [List.length_cons]; omega), fractionEnd]
  dsimp only
  rw [exponentEnd]
  dsimp only
  rw [total]
  exact numberValue_ahead _ ahead

/-! ## The number text behind a reading -/

theorem fractionPart_sound {d i : Nat} {hasFraction : Bool}
    (found : fractionPart buf pos d = .ok (i, hasFraction)) :
    ∃ fraction : List UInt8, (∀ b ∈ fraction, isDigit b = true) ∧ Occurs buf d (fractionText fraction) ∧
      i = d + (fractionText fraction).length ∧ hasFraction = !fraction.isEmpty := by
  unfold fractionPart at found
  by_cases point : atEq buf d dot = true
  · rw [if_pos point] at found
    obtain ⟨run, occ, digits, skipped, _⟩ := skipWhile_spec isDigit buf (d + 1)
    simp only [skipped] at found
    by_cases empty : run = []
    · subst empty
      simp at found
    · rw [if_neg (by have := List.length_pos_iff.2 empty; omega)] at found
      cases found
      have text : fractionText run = dot :: run := if_neg empty
      refine ⟨run, digits, ?_, ?_, ?_⟩
      · rw [text]
        exact Occurs.append (a := [dot]) (Occurs.singleton (at_of_atEq point)) occ
      · rw [text, List.length_cons]
        omega
      · simp [empty]
  · rw [if_neg point] at found
    cases found
    exact ⟨[], by simp, Occurs.nil, rfl, rfl⟩

theorem exponentPart_sound {i i' : Nat} {hasExponent : Bool}
    (found : exponentPart buf pos i = .ok (i', hasExponent)) :
    ∃ e? : Option NumberExponent, Occurs buf i (NumberExponent.text e?) ∧
      i' = i + (NumberExponent.text e?).length ∧ hasExponent = e?.isSome := by
  unfold exponentPart at found
  by_cases marked : (atEq buf i 0x65 || atEq buf i 0x45) = true
  · rw [if_pos marked] at found
    obtain ⟨s, signOcc, signEnd⟩ := sign_spec buf (i + 1)
    have signed : (if atEq buf (i + 1) minus || atEq buf (i + 1) plus then i + 2 else i + 1) =
        i + 1 + s.bytes.length := signEnd
    obtain ⟨run, occ, digits, skipped, _⟩ := skipWhile_spec isDigit buf (i + 1 + s.bytes.length)
    simp only [signed, skipped] at found
    by_cases empty : run = []
    · subst empty
      simp at found
    · rw [if_neg (by have := List.length_pos_iff.2 empty; omega)] at found
      cases found
      -- The letter is `e` or `E`.
      obtain ⟨capital, letter⟩ : ∃ capital : Bool, at? buf i = some (if capital then 0x45 else 0x65) := by
        cases small : atEq buf i 0x65
        · rw [small, Bool.false_or] at marked
          exact ⟨true, at_of_atEq marked⟩
        · exact ⟨false, at_of_atEq small⟩
      refine ⟨some ⟨capital, s, run, empty, digits⟩, ?_, ?_, rfl⟩
      · exact Occurs.append (a := [_]) (Occurs.singleton letter) (Occurs.append signOcc occ)
      · simp only [NumberExponent.text, NumberExponent.render, List.length_cons, List.length_append]
        omega
  · rw [if_neg marked] at found
    cases found
    exact ⟨none, Occurs.nil, rfl, rfl⟩

theorem numberValue_stops {i : Nat} {hasFraction hasExponent : Bool} {r : Value × Nat}
    (found : numberValue buf pos i hasFraction hasExponent = .ok r) :
    atIs buf i continuesNumber = false := by
  unfold numberValue at found
  cases stops : atIs buf i continuesNumber
  · rfl
  · have runsOn : atIs buf i (fun c => isWordByte c || c == dot || c == minus || c == plus) = true :=
      stops
    rw [runsOn, if_pos rfl] at found
    cases found

/-- Behind every reading of a number stands a number text with nothing after it that would
continue it. -/
theorem readNumber_sound {r : Value × Nat} (read : readNumber buf pos = .ok r) :
    ∃ t : NumberText, Ahead buf pos t.render := by
  obtain ⟨s, signOcc, signEnd⟩ := sign_spec buf pos
  obtain ⟨whole, wholeOcc, numeral, wholeEnd, _⟩ := skipWhile_spec isDigit buf (pos + s.bytes.length)
  rw [readNumber_eq] at read
  simp only [signEnd, wholeEnd] at read
  by_cases empty : whole = []
  · subst empty
    simp only [List.length_nil, Nat.add_zero, if_true] at read
    split at read <;> cases read
  · rw [if_neg (by have := List.length_pos_iff.2 empty; omega)] at read
    cases fraction : fractionPart buf pos (pos + s.bytes.length + whole.length) with
    | error e =>
        rw [fraction] at read
        cases read
    | ok reached =>
        obtain ⟨i, hasFraction⟩ := reached
        rw [fraction] at read
        dsimp only at read
        cases exponent : exponentPart buf pos i with
        | error e =>
            rw [exponent] at read
            cases read
        | ok reached' =>
            obtain ⟨i', hasExponent⟩ := reached'
            rw [exponent] at read
            dsimp only at read
            obtain ⟨f, fractionNumeral, fractionOcc, rfl, -⟩ := fractionPart_sound fraction
            obtain ⟨e?, exponentOcc, rfl, -⟩ := exponentPart_sound exponent
            refine ⟨⟨s, whole, empty, numeral, f, fractionNumeral, e?⟩, ?_, ?_⟩
            · exact signOcc.append (wholeOcc.append (fractionOcc.append exponentOcc))
            · have stops := numberValue_stops read
              simp only [NumberText.render, List.length_append, ← Nat.add_assoc]
              exact stops

/-! ## Errors -/

theorem lone_sign_iff {c : UInt8} (found : at? buf pos = some c) {s : NumberSign}
    (signOcc : Occurs buf pos s.bytes)
    (signEnd : (if atEq buf pos minus || atEq buf pos plus then pos + 1 else pos) = pos + s.bytes.length) :
    ((c = plus ∨ c = minus) ∧ buf.size = pos + 1) ↔ buf.size ≤ pos + s.bytes.length := by
  have inside := (at_eq_some found).1
  constructor
  · rintro ⟨sign, ends⟩
    have marked : (atEq buf pos minus || atEq buf pos plus) = true := by
      rcases sign with rfl | rfl <;> simp [atEq_of_at found]
    rw [if_pos marked] at signEnd
    omega
  · intro past
    cases s with
    | unsigned =>
        simp only [NumberSign.bytes, List.length_nil] at past
        omega
    | plus =>
        have first : at? buf pos = some plus := signOcc.head
        simp only [NumberSign.bytes, List.length_cons, List.length_nil] at past
        exact ⟨.inl (Option.some.inj (found.symm.trans first)), by omega⟩
    | minus =>
        have first : at? buf pos = some minus := signOcc.head
        simp only [NumberSign.bytes, List.length_cons, List.length_nil] at past
        exact ⟨.inr (Option.some.inj (found.symm.trans first)), by omega⟩

theorem fractionPart_error_eq {d : Nat} {e : ScanError} (failed : fractionPart buf pos d = .error e) :
    ∃ k, e = numberError buf pos k := by
  simp only [fractionPart] at failed
  split at failed
  · split at failed
    · cases failed
      exact ⟨_, rfl⟩
    · cases failed
  · cases failed

theorem exponentPart_error_eq {i : Nat} {e : ScanError} (failed : exponentPart buf pos i = .error e) :
    ∃ k, e = numberError buf pos k := by
  simp only [exponentPart] at failed
  split at failed
  · generalize (if atEq buf (i + 1) minus || atEq buf (i + 1) plus then i + 2 else i + 1) = j at failed
    split at failed
    · cases failed
      exact ⟨_, rfl⟩
    · cases failed
  · cases failed

theorem numberValue_error_eq {i : Nat} {hasFraction hasExponent : Bool} {e : ScanError}
    (failed : numberValue buf pos i hasFraction hasExponent = .error e) :
    ∃ k, e = numberError buf pos k := by
  simp only [numberValue] at failed
  split at failed
  · cases failed
    exact ⟨_, rfl⟩
  · split at failed
    · split at failed
      · cases failed
      · cases failed
        exact ⟨_, rfl⟩
    · split at failed
      · cases failed
      · cases failed
        exact ⟨_, rfl⟩

theorem readNumber_error_cause {c : UInt8} (found : at? buf pos = some c) {e : ScanError}
    (failed : readNumber buf pos = .error e) :
    e.cause = if (c = plus ∨ c = minus) ∧ buf.size = pos + 1 then .unexpectedEnd else .invalidNumber := by
  obtain ⟨s, signOcc, signEnd⟩ := sign_spec buf pos
  have lone := lone_sign_iff found signOcc signEnd
  obtain ⟨whole, wholeOcc, _, wholeEnd, _⟩ := skipWhile_spec isDigit buf (pos + s.bytes.length)
  rw [readNumber_eq] at failed
  simp only [signEnd, wholeEnd] at failed
  by_cases empty : whole = []
  · subst empty
    simp only [List.length_nil, Nat.add_zero, if_true] at failed
    by_cases past : pos + s.bytes.length ≥ buf.size
    · rw [if_pos past] at failed
      cases failed
      rw [if_pos (lone.2 past)]
      rfl
    · rw [if_neg past] at failed
      cases failed
      rw [if_neg (fun sign => past (lone.1 sign))]
      rfl
  · -- Digits stand after the sign, so it is no lone sign, and every failure is a number's.
    have within := wholeOcc.lt_size (k := 0) (List.length_pos_iff.2 empty)
    rw [if_neg (fun sign => by have := lone.1 sign; omega)]
    rw [if_neg (by have := List.length_pos_iff.2 empty; omega)] at failed
    have invalid : ∃ k, e = numberError buf pos k := by
      split at failed
      · rename_i err fraction
        cases failed
        exact fractionPart_error_eq fraction
      · split at failed
        · rename_i err exponent
          cases failed
          exact exponentPart_error_eq exponent
        · exact numberValue_error_eq failed
    obtain ⟨k, rfl⟩ := invalid
    rfl

/-! ## Reading a literal by the grammar of numbers -/

/-- How the literal at `pos`, whose first byte is `c`, reads by the grammar of numbers: it reads
as `(v, n)` exactly when `v` holds, at `pos`, what the number text there holds and `n` is the
length of that text; and it fails at the end of the input for a lone sign at the end of the
buffer, and as an invalid number otherwise. -/
structure ReadsByGrammar (buf : ByteArray) (pos : Nat) (c : UInt8) : Prop where
  ok_iff : ∀ v n, read buf pos = .ok (v, n) ↔
    ∃ t : NumberText, t.ReadsAs buf pos v.content ∧ v.offset = pos ∧ n = t.render.length
  error_cause : ∀ e, read buf pos = .error e →
    e.cause = if (c = plus ∨ c = minus) ∧ buf.size = pos + 1 then .unexpectedEnd else .invalidNumber

/-- A literal that starts with a sign or a digit, and is no hexadecimal text `0x…`, reads by the
grammar of numbers. -/
theorem read_number_grammar (buf : ByteArray) (pos : Nat) {c : UInt8} (found : at? buf pos = some c)
    (lead : c = plus ∨ c = minus ∨ isDigit c = true)
    (notHex : c = 0x30 → at? buf (pos + 1) ≠ some 0x78 ∧ at? buf (pos + 1) ≠ some 0x58) :
    ReadsByGrammar buf pos c := by
  have sign : c = minus ∨ c = plus ∨ isDigit c = true := by
    rcases lead with same | same | digit
    · exact .inr (.inl same)
    · exact .inl same
    · exact .inr (.inr digit)
  have number : read buf pos = readNumber buf pos := read_number found sign notHex
  refine ⟨fun v n => ?_, fun e failed => readNumber_error_cause found (number ▸ failed)⟩
  rw [number]
  constructor
  · -- A reading has a number text behind it, and the text reads as what it holds.
    intro reads
    obtain ⟨t, ahead⟩ := readNumber_sound reads
    rw [readNumber_of_ahead t ahead, NumberText.result_eq_ok] at reads
    obtain ⟨holds, offset, length⟩ := reads
    exact ⟨t, ⟨NumberText.longestAt_of_ends ahead.occurs ahead.stops, ahead.stops, holds⟩, offset,
      length⟩
  · rintro ⟨t, readsAs, offset, length⟩
    rw [readNumber_of_ahead t ⟨readsAs.longest.1, readsAs.ends⟩, NumberText.result_eq_ok]
    exact ⟨readsAs.holds, offset, length⟩

/-- A signed float with a capital exponent letter, before a comma. -/
theorem read_number_grammar_signed_float :
    at? "+1.5E-3,".toUTF8 0 = some plus ∧ (plus = plus ∨ plus = minus ∨ isDigit plus = true) ∧
      (plus = 0x30 → at? "+1.5E-3,".toUTF8 1 ≠ some 0x78 ∧ at? "+1.5E-3,".toUTF8 1 ≠ some 0x58) ∧
      ReadsByGrammar "+1.5E-3,".toUTF8 0 plus :=
  ⟨by decide, by decide, by decide, read_number_grammar _ _ (by decide) (by decide) (by decide)⟩

end Literal

end WikiDump

