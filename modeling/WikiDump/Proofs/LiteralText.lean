import WikiDump.Proofs.KnownBytes
import WikiDump.Proofs.TupleLocality
import WikiDump.Proofs.ScanRows
/-!
# Literals and tuples read back

Every literal a dump writer writes reads back as what it holds: `NULL`, a decimal integer of
64 bits, a float with its fraction or exponent, a string with the writer's escapes, hexadecimal
text, and a `_binary` string (`Literal.read_lit`). A tuple of them reads back as its values
(`Tuple.read_tuple`), and the tuples of an insert as its rows, up to the byte after its `;`
(`statementRows_body`).
-/

namespace WikiDump

open Bytes Statement Script

theorem Bytes.toList_loop (b : ByteArray) (i : Nat) (r : List UInt8) :
    ByteArray.toList.loop b i r = r.reverse ++ b.data.toList.drop i := by
  fun_induction ByteArray.toList.loop b i r with
  | case1 i r inside ih =>
      rw [ih, List.reverse_cons, List.append_assoc]
      congr 1
      have inList : i < b.data.toList.length := by simpa using inside
      conv => rhs; rw [List.drop_eq_getElem_cons inList]
      simp [ByteArray.get!, getElem!_pos b.data i inside]
  | case2 i r past =>
      rw [List.drop_eq_nil_of_le (by simp; omega), List.append_nil]

theorem Bytes.toList_mk (l : List UInt8) : (⟨l.toArray⟩ : ByteArray).toList = l := by
  rw [ByteArray.toList, toList_loop]
  simp

theorem Bytes.mk_append (a b : List UInt8) :
    (⟨a.toArray⟩ : ByteArray) ++ ⟨b.toArray⟩ = ⟨(a ++ b).toArray⟩ := by
  apply ByteArray.ext
  simp [ByteArray.data_append]

/-! ## ASCII text -/

section Ascii

theorem Utf8.decodeAt?_ascii {bytes : ByteArray} {i : Nat} {b : UInt8} (found : at? bytes i = some b)
    (small : b < 0x80) : Utf8.decodeAt? bytes i = some (Char.ofNat b.toNat, 1) := by
  have byte : Utf8.byteAt? bytes i = some b := found
  simp [Utf8.decodeAt?, byte, Utf8.sequenceLength, small, pure]

theorem decodeLossyFrom_ascii {bytes : ByteArray} {i : Nat} {acc : String}
    (ascii : ∀ b ∈ bytes.data.toList, b < 0x80) :
    (Utf8.decodeLossyFrom bytes i acc).toList =
      acc.toList ++ (bytes.data.toList.drop i).map fun b => Char.ofNat b.toNat := by
  fun_induction Utf8.decodeLossyFrom bytes i acc with
  | case1 i acc inside c w decoded positive ih =>
      have inList : i < bytes.data.toList.length := by simpa using inside
      have small := ascii _ (List.getElem_mem inList)
      have found : at? bytes i = some bytes.data.toList[i] := by
        rw [at_eq_data, List.getElem?_eq_getElem inList]
      rw [Utf8.decodeAt?_ascii found small, Option.some.injEq, Prod.mk.injEq] at decoded
      obtain ⟨rfl, rfl⟩ := decoded
      rw [ih, List.drop_eq_getElem_cons inList]
      simp
  | case2 i acc inside failed =>
      have inList : i < bytes.data.toList.length := by simpa using inside
      have found : at? bytes i = some bytes.data.toList[i] := by
        rw [at_eq_data, List.getElem?_eq_getElem inList]
      rw [Utf8.decodeAt?_ascii found (ascii _ (List.getElem_mem inList))] at failed
      cases failed
  | case3 i acc past =>
      rw [List.drop_eq_nil_of_le (by simp; omega)]
      simp

theorem asciiText_mk {l : List UInt8} (ascii : ∀ b ∈ l, b < 0x80) :
    Literal.asciiText ⟨l.toArray⟩ = asciiString l := by
  apply String.toList_inj.1
  rw [Literal.asciiText, Utf8.decodeLossy, decodeLossyFrom_ascii (by simpa using ascii)]
  simp [asciiString]

end Ascii

/-! ## Integers -/

section Integers

theorem le_foldl_digits (digits : List UInt8) (acc : Nat) :
    acc ≤ digits.foldl (fun n d => n * 10 + (d - 0x30).toNat) acc := by
  induction digits generalizing acc with
  | nil => exact Nat.le_refl acc
  | cons d rest ih =>
      refine Nat.le_trans ?_ (ih _)
      show acc ≤ acc * 10 + (d - 0x30).toNat
      omega

set_option maxRecDepth 8000 in
theorem decimalDigit_ofNat {d : UInt8} (digit : isDigit d = true) :
    Numeral.decimalDigit? (Char.ofNat d.toNat) = some (d - 0x30).toNat := by
  have table : ∀ n, n < 256 → isDigit (UInt8.ofNat n) = true →
      Numeral.decimalDigit? (Char.ofNat n) = some (UInt8.ofNat n - 0x30).toNat := by
    decide
  simpa using table d.toNat d.toNat_lt (by simpa using digit)

theorem unsignedDigits_digits {limit : Nat} {digits : List UInt8} {acc : Nat}
    (numeral : ∀ d ∈ digits, isDigit d = true)
    (fits : digits.foldl (fun n d => n * 10 + (d - 0x30).toNat) acc ≤ limit) :
    Numeral.unsignedDigits limit (digits.map fun d => Char.ofNat d.toNat) acc =
      .ok (digits.foldl (fun n d => n * 10 + (d - 0x30).toNat) acc) := by
  induction digits generalizing acc with
  | nil => rfl
  | cons d rest ih =>
      have next := le_foldl_digits rest (acc * 10 + (d - 0x30).toNat)
      simp only [List.foldl_cons] at fits next ⊢
      rw [List.map_cons, Numeral.unsignedDigits, decimalDigit_ofNat (numeral d List.mem_cons_self)]
      simp only [show ¬(acc * 10 + (d - 0x30).toNat > limit) by omega, if_false]
      exact ih (fun d' member => numeral d' (List.mem_cons_of_mem d member)) fits

theorem ofNat_ne_sign {d : UInt8} (digit : isDigit d = true) :
    Char.ofNat d.toNat ≠ '+' ∧ Char.ofNat d.toNat ≠ '-' := by
  have read := decimalDigit_ofNat digit
  constructor
  · intro plus
    rw [plus, show Numeral.decimalDigit? '+' = none by decide] at read
    cases read
  · intro dash
    rw [dash, show Numeral.decimalDigit? '-' = none by decide] at read
    cases read

theorem readInt_digits {negative : Bool} {digits : List UInt8}
    (numeral : digits ≠ [] ∧ ∀ d ∈ digits, isDigit d = true)
    (fits : if negative then digitsValue digits ≤ 9223372036854775808 else digitsValue digits < 9223372036854775808) :
    Numeral.readInt (asciiString (signText negative ++ digits)) 64 =
      .ok (if negative then -(digitsValue digits : Int) else digitsValue digits) := by
  have bounded : digitsValue digits ≤ Nat.pow 2 64 - 1 := by
    have : (9223372036854775808 : Nat) ≤ Nat.pow 2 64 - 1 := by decide
    split at fits <;> omega
  obtain ⟨d, rest, rfl⟩ := List.exists_cons_of_ne_nil numeral.1
  have value : Numeral.unsignedDigits (Nat.pow 2 64 - 1)
      (Char.ofNat d.toNat :: rest.map fun b => Char.ofNat b.toNat) 0 = .ok (digitsValue (d :: rest)) :=
    unsignedDigits_digits numeral.2 bounded
  obtain ⟨notPlus, notDash⟩ := ofNat_ne_sign (numeral.2 d List.mem_cons_self)
  unfold Numeral.readInt
  cases negative with
  | true =>
      have chars : (asciiString (signText true ++ d :: rest)).toList =
          '-' :: Char.ofNat d.toNat :: rest.map fun b => Char.ofNat b.toNat := by
        simp [asciiString, signText]
        rfl
      simp only [if_true] at fits
      simp [chars, value]
      omega
  | false =>
      have chars : (asciiString (signText false ++ d :: rest)).toList =
          Char.ofNat d.toNat :: rest.map fun b => Char.ofNat b.toNat := by
        simp [asciiString, signText]
      simp only [Bool.false_eq_true, if_false] at fits
      simp only [chars]
      split
      · rename_i body same
        exact absurd (List.cons.inj same).1 notPlus
      · rename_i body same
        exact absurd (List.cons.inj same).1 notDash
      · simp [value]
        omega

end Integers

/-! ## Numbers -/

section Numbers

variable {buf : ByteArray} {p : Nat}

theorem fractionText_head (fraction : List UInt8) (exponent : Option (Bool × List UInt8)) {c : UInt8}
    (ends : c = comma ∨ c = closeParen) :
    ∃ x xs, fractionText fraction ++ exponentText exponent ++ [c] = x :: xs ∧ isDigit x = false := by
  unfold fractionText
  split
  · cases exponent with
    | none => exact ⟨c, [], rfl, by rcases ends with rfl | rfl <;> decide⟩
    | some e => exact ⟨0x65, _, rfl, by decide⟩
  · exact ⟨dot, _, rfl, by decide⟩

theorem exponentText_head (exponent : Option (Bool × List UInt8)) {c : UInt8}
    (ends : c = comma ∨ c = closeParen) :
    ∃ x xs, exponentText exponent ++ [c] = x :: xs ∧ isDigit x = false ∧ x ≠ dot := by
  cases exponent with
  | none => exact ⟨c, [], rfl, by rcases ends with rfl | rfl <;> decide⟩
  | some e => exact ⟨0x65, _, rfl, by decide, by decide⟩

theorem fractionPart_none {d : Nat} {c : UInt8} (found : at? buf d = some c) (notDot : c ≠ dot) :
    Literal.fractionPart buf p d = .ok (d, false) := by
  unfold Literal.fractionPart
  rw [atEq_of_ne fun same => notDot (Option.some.inj (found.symm.trans same))]
  rfl

theorem fractionPart_digits {d : Nat} {fraction rest : List UInt8} {c : UInt8}
    (occ : Occurs buf d (dot :: fraction ++ c :: rest)) (nonempty : fraction ≠ [])
    (digits : ∀ x ∈ fraction, isDigit x = true) (stop : isDigit c = false) :
    Literal.fractionPart buf p d = .ok (d + 1 + fraction.length, true) := by
  have run := skipWhile_before (P := isDigit) occ.tail digits stop
  have positive := List.length_pos_iff.2 nonempty
  unfold Literal.fractionPart
  rw [atEq_of_at occ.head, if_pos rfl]
  simp only [run]
  rw [if_neg (by omega)]

theorem exponentPart_none {i : Nat} {c : UInt8} (found : at? buf i = some c)
    (notE : c ≠ 0x65 ∧ c ≠ 0x45) : Literal.exponentPart buf p i = .ok (i, false) := by
  unfold Literal.exponentPart
  rw [atEq_of_ne fun same => notE.1 (Option.some.inj (found.symm.trans same)),
    atEq_of_ne fun same => notE.2 (Option.some.inj (found.symm.trans same))]
  rfl

theorem exponentPart_digits {i : Nat} {negative : Bool} {digits : List UInt8} {c : UInt8}
    (occ : Occurs buf i (exponentText (some (negative, digits)) ++ [c])) (nonempty : digits ≠ [])
    (all : ∀ x ∈ digits, isDigit x = true) (stop : isDigit c = false) :
    Literal.exponentPart buf p i =
      .ok (i + (exponentText (some (negative, digits))).length, true) := by
  have positive := List.length_pos_iff.2 nonempty
  simp only [exponentText, List.cons_append, List.append_assoc] at occ ⊢
  have signed : (if atEq buf (i + 1) minus || atEq buf (i + 1) plus then i + 2 else i + 1) =
      i + 1 + (signText negative).length := by
    cases negative with
    | true =>
        simp [signText, atEq_of_at occ.tail.head]
    | false =>
        obtain ⟨d, rest, rfl⟩ := List.exists_cons_of_ne_nil nonempty
        have first : at? buf (i + 1) = some d := occ.tail.head
        have digit := all d List.mem_cons_self
        have notMinus : d ≠ minus := fun same => by rw [same] at digit; exact absurd digit (by decide)
        have notPlus : d ≠ plus := fun same => by rw [same] at digit; exact absurd digit (by decide)
        simp [signText, atEq_of_ne fun same => notMinus (Option.some.inj (first.symm.trans same)),
          atEq_of_ne fun same => notPlus (Option.some.inj (first.symm.trans same))]
  have run := skipWhile_before (P := isDigit) occ.tail.right all stop
  unfold Literal.exponentPart
  rw [atEq_of_at occ.head, Bool.true_or, if_pos rfl]
  simp only [signed, run]
  rw [if_neg (by omega)]
  simp only [List.length_cons, List.length_append]
  congr 2
  omega

theorem numberValue_float {text : List UInt8} {c : UInt8} {x : Float}
    (occ : Occurs buf p (text ++ [c])) (ends : c = comma ∨ c = closeParen)
    (ascii : ∀ b ∈ text, b < 0x80) (reads : Numeral.readFloat (asciiString text) = .ok x)
    {hasFraction hasExponent : Bool} (decimal : (hasFraction || hasExponent) = true) :
    Literal.numberValue buf p (p + text.length) hasFraction hasExponent =
      .ok (⟨.float x, p⟩, text.length) := by
  have after : at? buf (p + text.length) = some c := occ.right.head
  have stops : atIs buf (p + text.length)
      (fun c => isWordByte c || c == dot || c == minus || c == plus) = false := by
    rcases ends with rfl | rfl <;> simp [atIs, after] <;> decide
  unfold Literal.numberValue
  rw [stops, if_neg (by decide), occ.left.extract_eq, asciiText_mk ascii, if_pos decimal, reads]
  simp

theorem numberValue_integer {text : List UInt8} {c : UInt8} {n : Int}
    (occ : Occurs buf p (text ++ [c])) (ends : c = comma ∨ c = closeParen)
    (ascii : ∀ b ∈ text, b < 0x80) (reads : Numeral.readInt (asciiString text) 64 = .ok n) :
    Literal.numberValue buf p (p + text.length) false false =
      .ok (⟨.integer (Int64.ofInt n), p⟩, text.length) := by
  have after : at? buf (p + text.length) = some c := occ.right.head
  have stops : atIs buf (p + text.length)
      (fun c => isWordByte c || c == dot || c == minus || c == plus) = false := by
    rcases ends with rfl | rfl <;> simp [atIs, after] <;> decide
  unfold Literal.numberValue
  rw [stops, if_neg (by decide), occ.left.extract_eq, asciiText_mk ascii, if_neg (by decide), reads]
  simp

theorem readNumber_floatText {negative : Bool} {whole fraction : List UInt8}
    {exponent : Option (Bool × List UInt8)} {c : UInt8}
    (occ : Occurs buf p (floatText negative whole fraction exponent ++ [c]))
    (ends : c = comma ∨ c = closeParen) (wholeDigits : whole ≠ [] ∧ ∀ d ∈ whole, isDigit d = true)
    (fractionDigits : ∀ d ∈ fraction, isDigit d = true)
    (exponentDigits : ∀ e ∈ exponent, e.2 ≠ [] ∧ ∀ d ∈ e.2, isDigit d = true) :
    Literal.readNumber buf p =
      Literal.numberValue buf p (p + (floatText negative whole fraction exponent).length)
        (!fraction.isEmpty) exponent.isSome := by
  simp only [floatText, List.append_assoc] at occ
  have positive := List.length_pos_iff.2 wholeDigits.1
  obtain ⟨d, rest, rfl⟩ := List.exists_cons_of_ne_nil wholeDigits.1
  have digit := wholeDigits.2 d List.mem_cons_self
  -- the sign
  have signed : (if atEq buf p minus || atEq buf p plus then p + 1 else p) =
      p + (signText negative).length := by
    cases negative with
    | true => simp [signText, atEq_of_at occ.head]
    | false =>
        have first : at? buf p = some d := occ.head
        have notMinus : d ≠ minus := fun same => by rw [same] at digit; exact absurd digit (by decide)
        have notPlus : d ≠ plus := fun same => by rw [same] at digit; exact absurd digit (by decide)
        simp [signText, atEq_of_ne fun same => notMinus (Option.some.inj (first.symm.trans same)),
          atEq_of_ne fun same => notPlus (Option.some.inj (first.symm.trans same))]
  -- the integer digits
  have afterWhole := occ.right.right
  obtain ⟨x, xs, tail, notDigit⟩ := fractionText_head fraction exponent ends
  rw [← List.append_assoc, tail] at afterWhole
  have wholeEnd := skipWhile_before (P := isDigit) (p := p + (signText negative).length)
    (by rw [← tail]; simpa only [List.append_assoc] using occ.right) wholeDigits.2 notDigit
  -- the fraction
  have fractionEnd : Literal.fractionPart buf p (p + (signText negative).length + (d :: rest).length) =
      .ok (p + (signText negative).length + (d :: rest).length + (fractionText fraction).length,
        !fraction.isEmpty) := by
    obtain ⟨y, ys, expTail, notDigit', notDot⟩ := exponentText_head exponent ends
    unfold fractionText at occ ⊢
    split
    · rename_i empty
      simp only [empty, List.isEmpty_nil, Bool.not_true, List.length_nil, Nat.add_zero]
      have next := occ.right.right
      simp only [empty, expTail] at next
      exact fractionPart_none next.head notDot
    · rename_i nonempty
      have next := occ.right.right
      simp only [if_neg nonempty, expTail] at next
      rw [fractionPart_digits (by simpa using next) nonempty fractionDigits notDigit']
      simp [nonempty]
      omega
  -- the exponent
  have exponentEnd : Literal.exponentPart buf p
      (p + (signText negative).length + (d :: rest).length + (fractionText fraction).length) =
      .ok (p + (signText negative).length + (d :: rest).length + (fractionText fraction).length +
        (exponentText exponent).length, exponent.isSome) := by
    have next := occ.right.right.right
    cases exponent with
    | none =>
        have found : at? buf _ = some c := next.head
        rw [exponentPart_none found (by rcases ends with rfl | rfl <;> decide)]
        rfl
    | some e =>
        obtain ⟨nonempty, all⟩ := exponentDigits e rfl
        rw [exponentPart_digits next nonempty all (by rcases ends with rfl | rfl <;> decide)]
        rfl
  rw [Literal.readNumber_eq]
  simp only [signed, wholeEnd]
  rw [if_neg (by omega), fractionEnd]
  dsimp only
  rw [exponentEnd]
  dsimp only
  rw [show (floatText negative (d :: rest) fraction exponent).length =
      (signText negative).length + (d :: rest).length + (fractionText fraction).length +
        (exponentText exponent).length by simp [floatText]; omega]
  simp only [Nat.add_assoc]

end Numbers

/-! ## Strings -/

section Strings

variable {buf : ByteArray} {start : Nat}

theorem Bytes.push_append_mk (out : ByteArray) (b : UInt8) (rest : List UInt8) :
    out.push b ++ ⟨rest.toArray⟩ = out ++ ⟨(b :: rest).toArray⟩ := by
  apply ByteArray.ext
  simp [ByteArray.data_append, ByteArray.data_push]

theorem Bytes.append_mk_nil (out : ByteArray) : out ++ ⟨([] : List UInt8).toArray⟩ = out := by
  apply ByteArray.ext
  simp [ByteArray.data_append]

theorem escapeCode_cases {b e : UInt8} (escaped : escapeCode b = some e) :
    (b, e) ∈ [(0, 0x30), (newline, 0x6E), (0x0D, 0x72), (backslash, backslash),
      (singleQuote, singleQuote), (doubleQuote, doubleQuote), (0x1A, 0x5A)] := by
  -- Each arm of the definition that answers is one pair of the list; the last answers nothing.
  revert escaped
  fun_cases escapeCode b
  case case8 => intro escaped; cases escaped
  all_goals
    rename_i same
    rintro ⟨⟩
    subst same
    simp

theorem appendEscape_escapeCode {b e : UInt8} (escaped : escapeCode b = some e) (out : ByteArray) :
    Literal.appendEscape out e = out.push b := by
  have pairs := escapeCode_cases escaped
  simp only [List.mem_cons, Prod.mk.injEq, List.mem_nil_iff, or_false] at pairs
  rcases pairs with ⟨rfl, rfl⟩ | ⟨rfl, rfl⟩ | ⟨rfl, rfl⟩ | ⟨rfl, rfl⟩ | ⟨rfl, rfl⟩ | ⟨rfl, rfl⟩ |
    ⟨rfl, rfl⟩ <;> rfl

theorem unescapeFrom_string {bytes : List UInt8} {i e : Nat} {out : ByteArray}
    (occ : Occurs buf i ((bytes.map stringUnit).flatMap (·.render singleQuote) ++ [singleQuote]))
    (atEnd : i + ((bytes.map stringUnit).flatMap (·.render singleQuote)).length + 1 = e)
    (after : at? buf e ≠ some singleQuote) :
    Literal.unescapeFrom buf start i out =
      .ok (⟨.text { bytes := out ++ ⟨bytes.toArray⟩ }, start⟩, e - start) := by
  induction bytes generalizing i out with
  | nil =>
      simp only [List.map_nil, List.flatMap_nil, List.nil_append, List.length_nil, Nat.add_zero]
        at occ atEnd
      subst atEnd
      obtain ⟨inside, byte⟩ := at_eq_some occ.head
      rw [Literal.unescapeFrom, dif_pos inside]
      simp only [byte, (by decide : (singleQuote == backslash) = false), Bool.false_eq_true,
        if_false, beq_self_eq_true, if_true, atEq_of_ne after, append_mk_nil]
  | cons b rest ih =>
      simp only [List.map_cons, List.flatMap_cons, List.append_assoc, List.length_append] at occ atEnd
      cases coded : escapeCode b with
      | some x =>
          have unit : stringUnit b = .escaped x := by simp [stringUnit, coded]
          rw [unit, show (QuoteUnit.escaped x).render singleQuote = [backslash, x] from rfl] at occ atEnd
          simp only [List.cons_append, List.nil_append, List.length_cons, List.length_nil] at occ atEnd
          obtain ⟨inside, byte⟩ := at_eq_some occ.head
          rw [Literal.unescapeFrom, dif_pos inside]
          simp only [byte, beq_self_eq_true, if_true]
          split
          · rename_i y found
            rw [occ.tail.head, Option.some.injEq] at found
            subst found
            rw [appendEscape_escapeCode coded, ih occ.tail.tail (by omega), push_append_mk]
          · rename_i absent
            rw [occ.tail.head] at absent
            cases absent
      | none =>
          obtain ⟨notQuote, notBackslash⟩ := escapeCode_none coded
          have unit : stringUnit b = .plain b := by simp [stringUnit, coded]
          rw [unit, show (QuoteUnit.plain b).render singleQuote = [b] from rfl] at occ atEnd
          simp only [List.cons_append, List.nil_append, List.length_cons, List.length_nil] at occ atEnd
          obtain ⟨inside, byte⟩ := at_eq_some occ.head
          rw [Literal.unescapeFrom, dif_pos inside]
          simp only [byte, beq_false_of_ne notBackslash, beq_false_of_ne notQuote, Bool.false_eq_true,
            if_false]
          rw [ih occ.tail (by omega), push_append_mk]

theorem stringFrom_string {opening : Nat} {done bytes : List UInt8} {i e : Nat}
    (scanned : Occurs buf (opening + 1) done) (position : i = opening + 1 + done.length)
    (occ : Occurs buf i ((bytes.map stringUnit).flatMap (·.render singleQuote) ++ [singleQuote]))
    (atEnd : i + ((bytes.map stringUnit).flatMap (·.render singleQuote)).length + 1 = e)
    (after : at? buf e ≠ some singleQuote) :
    ∃ t : Text, Literal.stringFrom buf start opening i = .ok (⟨.text t, start⟩, e - start) ∧
      t.bytes = ⟨(done ++ bytes).toArray⟩ := by
  induction bytes generalizing i done with
  | nil =>
      simp only [List.map_nil, List.flatMap_nil, List.nil_append, List.length_nil, Nat.add_zero]
        at occ atEnd
      subst atEnd
      obtain ⟨inside, byte⟩ := at_eq_some occ.head
      have body : buf.extract (opening + 1) i = ⟨done.toArray⟩ := by
        rw [position]
        exact scanned.extract_eq
      rw [Literal.stringFrom, dif_pos inside]
      simp only [byte, (by decide : (singleQuote == backslash) = false), Bool.false_eq_true,
        if_false, beq_self_eq_true, if_true, atEq_of_ne after, body, List.append_nil]
      refine ⟨_, rfl, ?_⟩
      split <;> rfl
  | cons b rest ih =>
      cases coded : escapeCode b with
      | some x =>
          have unit : stringUnit b = .escaped x := by simp [stringUnit, coded]
          have first : at? buf i = some backslash := by
            have opened := occ
            simp only [List.map_cons, List.flatMap_cons, unit, List.append_assoc] at opened
            exact opened.head
          have body : buf.extract (opening + 1) i = ⟨done.toArray⟩ := by
            rw [position]
            exact scanned.extract_eq
          obtain ⟨inside, byte⟩ := at_eq_some first
          rw [Literal.stringFrom, dif_pos inside]
          simp only [byte, beq_self_eq_true, if_true, body]
          exact ⟨_, unescapeFrom_string occ atEnd after, mk_append done (b :: rest)⟩
      | none =>
          obtain ⟨notQuote, notBackslash⟩ := escapeCode_none coded
          have unit : stringUnit b = .plain b := by simp [stringUnit, coded]
          simp only [List.map_cons, List.flatMap_cons, unit, List.append_assoc, List.length_append]
            at occ atEnd
          rw [show (QuoteUnit.plain b).render singleQuote = [b] from rfl] at occ atEnd
          simp only [List.cons_append, List.nil_append, List.length_cons, List.length_nil] at occ atEnd
          obtain ⟨inside, byte⟩ := at_eq_some occ.head
          rw [Literal.stringFrom, dif_pos inside]
          simp only [byte, beq_false_of_ne notBackslash, beq_false_of_ne notQuote, Bool.false_eq_true,
            if_false]
          have scanned' : Occurs buf (opening + 1) (done ++ [b]) :=
            scanned.append (by rw [← position]; exact Occurs.singleton occ.head)
          obtain ⟨t, read, bytes⟩ := ih scanned' (by simp [position]; omega) occ.tail (by omega)
          exact ⟨t, read, by rw [bytes, List.append_assoc, List.singleton_append]⟩

theorem readString_token {q : Nat} (bytes : List UInt8) (occ : Occurs buf q (stringToken bytes).render)
    (after : at? buf (q + (stringToken bytes).render.length) ≠ some singleQuote) :
    ∃ t : Text, Literal.readString buf start q =
        .ok (⟨.text t, start⟩, q + (stringToken bytes).render.length - start) ∧
      t.bytes = ⟨bytes.toArray⟩ := by
  have length : (stringToken bytes).render.length =
      ((bytes.map stringUnit).flatMap (·.render singleQuote)).length + 2 := by
    simp [stringToken, Quoted.render, Quoted.body]
  rw [length] at after ⊢
  exact stringFrom_string (show Occurs buf (q + 1) ([] : List UInt8) from Occurs.nil) (by simp) occ.tail
    (by omega) after

end Strings

/-! ## Hexadecimal text -/

section Hex

variable {buf : ByteArray} {p : Nat}

set_option maxRecDepth 8000 in
theorem nibble_hexPair (b : UInt8) :
    (Literal.nibble (hexDigit (b >>> 4)) <<< 4) ||| Literal.nibble (hexDigit (b &&& 0x0F)) = b := by
  have table : ∀ n, n < 256 → (Literal.nibble (hexDigit (UInt8.ofNat n >>> 4)) <<< 4) |||
      Literal.nibble (hexDigit (UInt8.ofNat n &&& 0x0F)) = UInt8.ofNat n := by
    decide
  simpa using table b.toNat b.toNat_lt

theorem shiftRight_four_lt (b : UInt8) : b >>> 4 < 16 := by
  rw [UInt8.lt_iff_toNat_lt, UInt8.toNat_shiftRight]
  have := b.toNat_lt
  simp only [UInt8.reduceToNat, Nat.reduceMod, Nat.shiftRight_eq_div_pow]
  omega

theorem and_fifteen_lt (b : UInt8) : b &&& 0x0F < 16 := by
  rw [UInt8.lt_iff_toNat_lt, UInt8.toNat_and]
  exact Nat.lt_of_le_of_lt Nat.and_le_right (by decide)

theorem isHexDigit_hexDigit {n : UInt8} (small : n < 16) : isHexDigit (hexDigit n) = true := by
  have table : ∀ k : Fin 16, isHexDigit (hexDigit (UInt8.ofNat k)) = true := by decide
  have bound : n.toNat < 16 := by simpa [UInt8.lt_iff_toNat_lt] using small
  simpa using table ⟨n.toNat, bound⟩

theorem isHexDigit_hexPair (b : UInt8) : ∀ x ∈ hexPair b, isHexDigit x = true := by
  intro x member
  simp only [hexPair, List.mem_cons, List.mem_nil_iff, or_false] at member
  rcases member with rfl | rfl
  · exact isHexDigit_hexDigit (shiftRight_four_lt b)
  · exact isHexDigit_hexDigit (and_fifteen_lt b)

theorem length_hexPairs (bytes : List UInt8) : (bytes.flatMap hexPair).length = 2 * bytes.length := by
  induction bytes with
  | nil => rfl
  | cons b rest ih =>
      rw [List.flatMap_cons, List.length_append, ih, List.length_cons]
      simp only [hexPair, List.length_cons, List.length_nil]
      omega

theorem decodeHexPairs_hexPairs (bytes : List UInt8) (out : ByteArray) :
    Literal.decodeHexPairs (bytes.flatMap hexPair) out = out ++ ⟨bytes.toArray⟩ := by
  induction bytes generalizing out with
  | nil => exact (append_mk_nil out).symm
  | cons b rest ih =>
      simp only [List.flatMap_cons, hexPair, List.cons_append, List.nil_append]
      rw [Literal.decodeHexPairs, nibble_hexPair, ih, push_append_mk]

theorem decodeHex_hexPairs {bytes : List UInt8} (nonempty : bytes ≠ []) :
    Literal.decodeHex (bytes.flatMap hexPair) = ⟨bytes.toArray⟩ := by
  have even : (bytes.flatMap hexPair).length % 2 = 0 := by
    rw [length_hexPairs]
    omega
  have whole := decodeHexPairs_hexPairs bytes ByteArray.empty
  unfold Literal.decodeHex
  split
  · rename_i d digits same
    rw [if_neg (by omega), whole]
    apply ByteArray.ext
    simp
  · rename_i empty
    obtain ⟨b, rest, rfl⟩ := List.exists_cons_of_ne_nil nonempty
    simp [hexPair] at empty

theorem readHex_hexPairs {bytes : List UInt8} {c : UInt8}
    (occ : Occurs buf p (0x30 :: 0x78 :: bytes.flatMap hexPair ++ [c])) (nonempty : bytes ≠ [])
    (ends : c = comma ∨ c = closeParen) :
    Literal.readHex buf p = .ok (⟨.text { bytes := ⟨bytes.toArray⟩ }, p⟩, 2 + 2 * bytes.length) := by
  have digits : ∀ x ∈ bytes.flatMap hexPair, isHexDigit x = true := by
    intro x member
    obtain ⟨b, _, inPair⟩ := List.mem_flatMap.1 member
    exact isHexDigit_hexPair b x inPair
  have length := length_hexPairs bytes
  have positive := List.length_pos_iff.2 nonempty
  have run := skipWhile_before (P := isHexDigit) occ.tail.tail digits
    (by rcases ends with rfl | rfl <;> decide)
  have after : at? buf (p + 2 + (bytes.flatMap hexPair).length) = some c := occ.tail.tail.right.head
  have notWord : isWordByte c = false := by rcases ends with rfl | rfl <;> decide
  unfold Literal.readHex
  simp only [run]
  rw [if_neg]
  · rw [occ.tail.tail.left.extract_eq, toList_mk, decodeHex_hexPairs nonempty]
    congr 2
    omega
  · intro ended
    simp only [Bool.or_eq_true, decide_eq_true_eq, atIs, after, notWord] at ended
    rcases ended with short | word
    · omega
    · cases word

end Hex

/-! ## Literals -/

section Literals

variable {buf : ByteArray} {p : Nat}

theorem readIntroduced_binary {bytes : List UInt8} {c : UInt8}
    (occ : Occurs buf p (word "_binary " ++ (stringToken bytes).render ++ [c]))
    (ends : c = comma ∨ c = closeParen) :
    ∃ t : Text, Literal.readIntroduced buf p =
        .ok (⟨.text t, p⟩, 8 + (stringToken bytes).render.length) ∧ t.bytes = ⟨bytes.toArray⟩ := by
  have introducer : word "_binary " = [0x5F, 0x62, 0x69, 0x6E, 0x61, 0x72, 0x79, 0x20] := by decide
  rw [introducer, List.append_assoc] at occ
  have letters := skipWhile_before (P := isWordByte)
    (show Occurs buf (p + 1) ([0x62, 0x69, 0x6E, 0x61, 0x72, 0x79] ++ 0x20 :: ((stringToken bytes).render ++ [c]))
      from occ.tail) (List.all_eq_true.1 rfl) (by decide)
  have token : Occurs buf (p + 8) ((stringToken bytes).render ++ [c]) := occ.right
  have opened : at? buf (p + 8) = some singleQuote := token.head
  have space : at? buf (p + 7) = some 0x20 := occ.get (k := 7) (by simp)
  have blank : skipSpace buf (p + 7) = p + 8 := by
    unfold skipSpace
    rw [skipWhile_run (Occurs.singleton space) (List.all_eq_true.1 rfl)]
    exact skipWhile_stop opened (by decide)
  have after : at? buf (p + 8 + (stringToken bytes).render.length) ≠ some singleQuote := by
    rw [token.right.head]
    rcases ends with rfl | rfl <;> decide
  obtain ⟨t, read, text⟩ := @readString_token buf p (p + 8) bytes token.left after
  have wordEnd : skipWhile isWordByte buf (p + 1) = p + 7 := letters
  unfold Literal.readIntroduced
  simp only [wordEnd, blank]
  rw [if_neg (by omega), if_neg (by have := lt_size_of_at opened; omega), atEq_of_at opened]
  simp only [Bool.not_true, Bool.false_eq_true, if_false, read]
  exact ⟨t, by congr 2; omega, text⟩

theorem read_quote (found : at? buf p = some singleQuote) :
    Literal.read buf p = Literal.readString buf p p := by
  unfold Literal.read
  rw [found]
  simp

theorem read_hex (found : at? buf p = some 0x30) (x : at? buf (p + 1) = some 0x78) :
    Literal.read buf p = Literal.readHex buf p := by
  unfold Literal.read
  rw [found]
  simp [atEq_of_at x, singleQuote]

theorem read_underscore (found : at? buf p = some underscore) :
    Literal.read buf p = Literal.readIntroduced buf p := by
  unfold Literal.read
  rw [found]
  simp [underscore, singleQuote, minus, plus, isDigit]

theorem read_null {c : UInt8} (occ : Occurs buf p (word "NULL" ++ [c])) (ends : isWordByte c = false) :
    Literal.read buf p = .ok (⟨.null, p⟩, 4) := by
  have first : at? buf p = some 0x4E := by
    rw [show word "NULL" = [0x4E, 0x55, 0x4C, 0x4C] by decide] at occ
    exact occ.head
  unfold Literal.read
  rw [first]
  simp [matchWord_of_occurs occ ends, singleQuote]

theorem read_number {c : UInt8} (found : at? buf p = some c)
    (sign : c = minus ∨ c = plus ∨ isDigit c = true)
    (notHex : c = 0x30 → at? buf (p + 1) ≠ some 0x78 ∧ at? buf (p + 1) ≠ some 0x58) :
    Literal.read buf p = Literal.readNumber buf p := by
  have other : ∀ d, isDigit d = false → d ≠ minus → d ≠ plus → c ≠ d := by
    intro d notDigit notMinus notPlus same
    subst same
    rcases sign with rfl | rfl | digit
    · exact notMinus rfl
    · exact notPlus rfl
    · rw [notDigit] at digit
      cases digit
  have numberStart : (c == minus || c == plus || isDigit c) = true := by
    rcases sign with rfl | rfl | digit <;> simp [*]
  have noHex : (c == 0x30 && (atEq buf (p + 1) 0x78 || atEq buf (p + 1) 0x58)) = false := by
    by_cases zero : c = 0x30
    · rw [atEq_of_ne (notHex zero).1, atEq_of_ne (notHex zero).2, Bool.or_false, Bool.and_false]
    · rw [beq_false_of_ne zero, Bool.false_and]
  unfold Literal.read
  rw [found]
  simp only [beq_false_of_ne (other singleQuote (by decide) (by decide) (by decide)),
    beq_false_of_ne (other 0x4E (by decide) (by decide) (by decide)),
    beq_false_of_ne (other 0x6E (by decide) (by decide) (by decide)),
    beq_false_of_ne (other 0x78 (by decide) (by decide) (by decide)),
    beq_false_of_ne (other 0x58 (by decide) (by decide) (by decide)), noHex, Bool.or_false,
    Bool.false_and, Bool.false_eq_true, if_false, numberStart, if_true]

theorem floatText_bytes {negative : Bool} {whole fraction : List UInt8}
    {exponent : Option (Bool × List UInt8)} (wholeDigits : ∀ d ∈ whole, isDigit d = true)
    (fractionDigits : ∀ d ∈ fraction, isDigit d = true)
    (exponentDigits : ∀ e ∈ exponent, ∀ d ∈ e.2, isDigit d = true) :
    ∀ b ∈ floatText negative whole fraction exponent,
      isDigit b = true ∨ b = minus ∨ b = dot ∨ b = 0x65 := by
  intro b member
  simp only [floatText, List.mem_append] at member
  rcases member with ((sign | digit) | point) | power
  · simp only [signText] at sign
    split at sign
    · simp at sign
      exact .inr (.inl sign)
    · cases sign
  · exact .inl (wholeDigits b digit)
  · simp only [fractionText] at point
    split at point
    · cases point
    · rcases List.mem_cons.1 point with isDot | digit
      · exact .inr (.inr (.inl isDot))
      · exact .inl (fractionDigits b digit)
  · cases exponent with
    | none => cases power
    | some e =>
        simp only [exponentText, List.cons_append, List.mem_cons, List.mem_append, signText] at power
        rcases power with isE | sign | digit
        · exact .inr (.inr (.inr isE))
        · split at sign
          · simp at sign
            exact .inr (.inl sign)
          · cases sign
        · exact .inl (exponentDigits e rfl b digit)

set_option maxRecDepth 8000 in
theorem numberByte_facts {b : UInt8} (number : isDigit b = true ∨ b = minus ∨ b = dot ∨ b = 0x65) :
    b < 0x80 ∧ b ≠ 0x78 ∧ b ≠ 0x58 := by
  have table : ∀ n, n < 256 → (isDigit (UInt8.ofNat n) = true ∨ UInt8.ofNat n = minus ∨
      UInt8.ofNat n = dot ∨ UInt8.ofNat n = 0x65) →
      UInt8.ofNat n < 0x80 ∧ UInt8.ofNat n ≠ 0x78 ∧ UInt8.ofNat n ≠ 0x58 := by
    decide
  simpa using table b.toNat b.toNat_lt (by simpa using number)

theorem read_floatText {negative : Bool} {whole fraction : List UInt8}
    {exponent : Option (Bool × List UInt8)} {c : UInt8}
    (occ : Occurs buf p (floatText negative whole fraction exponent ++ [c]))
    (ends : c = comma ∨ c = closeParen) (wholeDigits : whole ≠ [] ∧ ∀ d ∈ whole, isDigit d = true)
    (bytes : ∀ b ∈ floatText negative whole fraction exponent,
      isDigit b = true ∨ b = minus ∨ b = dot ∨ b = 0x65) :
    Literal.read buf p = Literal.readNumber buf p := by
  obtain ⟨d, rest, rfl⟩ := List.exists_cons_of_ne_nil wholeDigits.1
  have firstDigit := wholeDigits.2 d List.mem_cons_self
  have first : ∃ x, at? buf p = some x ∧ (x = minus ∨ isDigit x = true) := by
    cases negative with
    | true => exact ⟨minus, occ.head, .inl rfl⟩
    | false => exact ⟨d, occ.head, .inr firstDigit⟩
  obtain ⟨x, found, sign⟩ := first
  have long : 1 < (floatText negative (d :: rest) fraction exponent ++ [c]).length := by
    simp [floatText]
    omega
  have second := occ.get long
  have notX : (floatText negative (d :: rest) fraction exponent ++ [c])[1] ≠ 0x78 ∧
      (floatText negative (d :: rest) fraction exponent ++ [c])[1] ≠ 0x58 := by
    rcases List.mem_append.1 (List.getElem_mem long) with inText | last
    · exact (numberByte_facts (bytes _ inText)).2
    · rw [List.mem_singleton.1 last]
      rcases ends with rfl | rfl <;> decide
  exact read_number found (sign.imp_right .inr) fun _ =>
    ⟨fun same => notX.1 (Option.some.inj (second.symm.trans same)),
      fun same => notX.2 (Option.some.inj (second.symm.trans same))⟩

/-- Every literal a dump writer writes reads back as what it holds, up to the `,` or `)` that
follows it. -/
theorem read_lit (l : Lit) {c : UInt8} (occ : Occurs buf p (l.render ++ [c]))
    (ends : c = comma ∨ c = closeParen) :
    ∃ v : Value, Literal.read buf p = .ok (v, l.render.length) ∧ v.content.erase = l.content := by
  have notWord : isWordByte c = false := by rcases ends with rfl | rfl <;> decide
  cases l with
  | null =>
      refine ⟨⟨.null, p⟩, ?_, rfl⟩
      rw [read_null occ notWord]
      rfl
  | integer negative digits numeral fits =>
      have text : Lit.render (.integer negative digits numeral fits) = floatText negative digits [] none := by
        simp [Lit.render, floatText, fractionText, exponentText]
      rw [text] at occ ⊢
      have bytes := @floatText_bytes negative digits [] none numeral.2 (by simp) (by simp)
      refine ⟨⟨.integer (Int64.ofInt (if negative then -(digitsValue digits : Int) else digitsValue digits)), p⟩,
        ?_, rfl⟩
      rw [read_floatText occ ends numeral bytes, readNumber_floatText occ ends numeral (by simp) (by simp)]
      have reads := readInt_digits numeral fits
      rw [show signText negative ++ digits = floatText negative digits [] none by
        simp [floatText, fractionText, exponentText]] at reads
      exact numberValue_integer occ ends (fun b member => (numberByte_facts (bytes b member)).1) reads
  | float negative whole fraction exponent value numeral reads =>
      obtain ⟨wholeNonempty, wholeDigits, fractionDigits, exponentDigits, decimal⟩ := numeral
      have bytes := @floatText_bytes negative whole fraction exponent wholeDigits fractionDigits
        (fun e member => (exponentDigits e member).2)
      refine ⟨⟨.float value, p⟩, ?_, rfl⟩
      simp only [Lit.render] at occ ⊢
      rw [read_floatText occ ends ⟨wholeNonempty, wholeDigits⟩ bytes,
        readNumber_floatText occ ends ⟨wholeNonempty, wholeDigits⟩ fractionDigits exponentDigits]
      refine numberValue_float occ ends (fun b member => (numberByte_facts (bytes b member)).1) reads ?_
      rcases decimal with fractional | exponential
      · simp [fractional]
      · simp [exponential]
  | string bytes =>
      simp only [Lit.render] at occ ⊢
      have after : at? buf (p + (stringToken bytes).render.length) ≠ some singleQuote := by
        rw [occ.right.head]
        rcases ends with rfl | rfl <;> decide
      obtain ⟨t, read, text⟩ := @readString_token buf p p bytes occ.left after
      refine ⟨⟨.text t, p⟩, ?_, by simp [Content.erase, Lit.content, text]⟩
      rw [read_quote occ.head, read]
      simp
  | hex bytes nonempty =>
      refine ⟨⟨.text { bytes := ⟨bytes.toArray⟩ }, p⟩, ?_, rfl⟩
      simp only [Lit.render] at occ ⊢
      rw [read_hex occ.head occ.tail.head, readHex_hexPairs occ nonempty ends, List.length_cons,
        List.length_cons, length_hexPairs]
      congr 2
      omega
  | binary bytes =>
      simp only [Lit.render] at occ ⊢
      obtain ⟨t, read, text⟩ := readIntroduced_binary occ ends
      have first : at? buf p = some underscore := by
        rw [show word "_binary " = [0x5F, 0x62, 0x69, 0x6E, 0x61, 0x72, 0x79, 0x20] by decide] at occ
        exact occ.head
      refine ⟨⟨.text t, p⟩, ?_, by simp [Content.erase, Lit.content, text]⟩
      rw [read_underscore first, read]
      simp [show (word "_binary ").length = 8 by decide]

end Literals

/-! ## Tuples -/

section Tuples

variable {buf : ByteArray} {p : Nat}

set_option maxRecDepth 8000 in
theorem Script.Lit.render_head (l : Lit) : ∃ b rest, l.render = b :: rest ∧ isSpace b = false ∧ b ≠ closeParen := by
  have ofDigit : ∀ d, isDigit d = true → isSpace d = false ∧ d ≠ closeParen := by
    have table : ∀ n, n < 256 → isDigit (UInt8.ofNat n) = true →
        isSpace (UInt8.ofNat n) = false ∧ UInt8.ofNat n ≠ closeParen := by
      decide
    intro d digit
    simpa using table d.toNat d.toNat_lt (by simpa using digit)
  cases l with
  | null => exact ⟨0x4E, [0x55, 0x4C, 0x4C], by decide, by decide, by decide⟩
  | integer negative digits numeral fits =>
      cases negative with
      | true => exact ⟨minus, digits, rfl, by decide, by decide⟩
      | false =>
          obtain ⟨d, rest, rfl⟩ := List.exists_cons_of_ne_nil numeral.1
          exact ⟨d, rest, rfl, ofDigit d (numeral.2 d List.mem_cons_self)⟩
  | float negative whole fraction exponent value numeral reads =>
      cases negative with
      | true => exact ⟨minus, _, rfl, by decide, by decide⟩
      | false =>
          obtain ⟨d, rest, rfl⟩ := List.exists_cons_of_ne_nil numeral.1
          exact ⟨d, _, rfl, ofDigit d (numeral.2.1 d List.mem_cons_self)⟩
  | string bytes => exact ⟨singleQuote, _, rfl, by decide, by decide⟩
  | hex bytes nonempty => exact ⟨0x30, _, rfl, by decide, by decide⟩
  | binary bytes =>
      refine ⟨0x5F, [0x62, 0x69, 0x6E, 0x61, 0x72, 0x79, 0x20] ++ (stringToken bytes).render, ?_,
        by decide, by decide⟩
      simp only [Lit.render, show word "_binary " = [0x5F, 0x62, 0x69, 0x6E, 0x61, 0x72, 0x79, 0x20] by
        decide]
      rfl

theorem renderItems_cons (l : Lit) (rest : List Lit) :
    ∃ more, renderItems (l :: rest) = l.render ++ more := by
  cases rest with
  | nil => exact ⟨[], by simp [renderItems]⟩
  | cons _ _ => exact ⟨_, rfl⟩

theorem readItems_items {start : Nat} {width : Int} {items : List Lit} (nonempty : items ≠ [])
    {i : Nat} {values : Array Value} (occ : Occurs buf i (renderItems items ++ [closeParen]))
    (count : (values.size : Int) + items.length = width) :
    ∃ read : List Value, Tuple.readItems buf start width i values =
        ⟨values ++ read.toArray, i + (renderItems items).length + 1, none⟩ ∧
      read.map (·.content.erase) = items.map Lit.content := by
  induction items generalizing i values with
  | nil => exact absurd rfl nonempty
  | cons l rest ih =>
      have inside : i < buf.size := by simpa using occ.lt_size (k := 0) (by simp)
      cases rest with
      | nil =>
          simp only [renderItems] at occ ⊢
          obtain ⟨v, read, content⟩ := read_lit l occ (.inr rfl)
          have after : at? buf (i + l.render.length) = some closeParen := occ.right.head
          have spaced : skipSpace buf (i + l.render.length) = i + l.render.length :=
            skipWhile_stop after (by decide)
          rw [Tuple.readItems, if_neg (by omega), read]
          simp only [spaced]
          split
          · rename_i found
            rw [spaced, after] at found
            cases found
          · rename_i c found
            rw [spaced, after, Option.some.injEq] at found
            subst found
            have sized : ((values.push v).size : Int) = width := by
              simp only [Array.size_push]
              simp at count
              omega
            simp only [(by decide : (closeParen == comma) = false), Bool.false_eq_true, if_false,
              beq_self_eq_true, if_true, sized]
            exact ⟨[v], by simp, by simp [content]⟩
      | cons l' rest' =>
          have text : renderItems (l :: l' :: rest') = l.render ++ comma :: renderItems (l' :: rest') := rfl
          rw [text, List.append_assoc, List.cons_append] at occ
          have after : at? buf (i + l.render.length) = some comma := occ.right.head
          obtain ⟨v, read, content⟩ := read_lit l (occ.left.append (Occurs.singleton after)) (.inl rfl)
          have spaced : skipSpace buf (i + l.render.length) = i + l.render.length :=
            skipWhile_stop after (by decide)
          have nextOcc : Occurs buf (i + l.render.length + 1) (renderItems (l' :: rest') ++ [closeParen]) :=
            occ.right.tail
          obtain ⟨b, bs, head, notBlank, _⟩ := l'.render_head
          obtain ⟨more, whole⟩ := renderItems_cons l' rest'
          have nextSpaced : skipSpace buf (i + l.render.length + 1) = i + l.render.length + 1 := by
            have first : Occurs buf (i + l.render.length + 1) (b :: (bs ++ more ++ [closeParen])) := by
              rw [whole, head] at nextOcc
              simpa using nextOcc
            exact skipWhile_stop first.head notBlank
          obtain ⟨read', readRest, contentRest⟩ := @ih (by simp) (i + l.render.length + 1) (values.push v)
            nextOcc (by simp at count ⊢; omega)
          rw [Tuple.readItems, if_neg (by omega), read]
          simp only [spaced]
          split
          · rename_i found
            rw [spaced, after] at found
            cases found
          · rename_i c found
            rw [spaced, after, Option.some.injEq] at found
            subst found
            simp only [beq_self_eq_true, if_true, nextSpaced, readRest]
            refine ⟨v :: read', ?_, by simp [content, contentRest]⟩
            rw [text]
            simp
            omega

/-- A tuple of a script reads back as its values, up to the byte after its `)`. -/
theorem read_tuple (t : Tuple) {width : Nat} (occ : Occurs buf p t.render)
    (count : t.items.length = width) :
    ∃ read : List Value, Tuple.read buf p width = ⟨read.toArray, p + t.render.length, none⟩ ∧
      read.map (·.content.erase) = t.items.map Lit.content := by
  obtain ⟨items⟩ := t
  have inner : Occurs buf (p + 1) (renderItems items ++ [closeParen]) := occ.tail
  unfold Tuple.read
  rw [occ.head]
  simp only [bne_self_eq_false, Bool.false_eq_true, if_false]
  cases items with
  | nil =>
      have closing : at? buf (p + 1) = some closeParen := inner.head
      have spaced : skipSpace buf (p + 1) = p + 1 := skipWhile_stop closing (by decide)
      subst count
      simp only [spaced, atEq_of_at closing, if_true]
      exact ⟨[], by simp [Tuple.render, renderItems], rfl⟩
  | cons l rest =>
      obtain ⟨b, bs, head, notBlank, notClose⟩ := l.render_head
      obtain ⟨more, whole⟩ := renderItems_cons l rest
      have first : at? buf (p + 1) = some b := by
        rw [whole, head] at inner
        exact inner.head
      have spaced : skipSpace buf (p + 1) = p + 1 := skipWhile_stop first notBlank
      simp only [spaced, atEq_of_ne fun same => notClose (Option.some.inj (first.symm.trans same)),
        Bool.false_eq_true, if_false]
      obtain ⟨read, readItems, content⟩ := @readItems_items buf p (width : Int) (l :: rest) (by simp)
        (p + 1) #[] inner (by simp [← count])
      refine ⟨read, ?_, content⟩
      rw [readItems]
      simp [Tuple.render]
      omega

end Tuples

/-! ## The tuples of an insert -/

namespace Scan

variable {R : Type} {buf : ByteArray}

theorem afterRows_comma {dec : Decoder R} {next : Nat} {before rest : List UInt8}
    (occ : Occurs buf next (before ++ comma :: rest)) (blank : ∀ b ∈ before, isSpace b = true) :
    afterRows dec buf next = statementRows dec buf (skipSpace buf (next + before.length + 1)) := by
  have spaced : skipSpace buf next = next + before.length := skipWhile_before occ blank (by decide)
  simp [afterRows, spaced, occ.right.head]

theorem afterRows_semicolon {dec : Decoder R} {next : Nat} {before : List UInt8}
    (occ : Occurs buf next (before ++ [semicolon])) (blank : ∀ b ∈ before, isSpace b = true) :
    afterRows dec buf next = ([], .ok (next + before.length + 1)) := by
  have spaced : skipSpace buf next = next + before.length := skipWhile_before occ blank (by decide)
  simp [afterRows, spaced, occ.right.head, (by decide : (semicolon == comma) = false)]

theorem statementRows_raw {table : String} {width pos next : Nat} {read : List Value}
    (tuple : Tuple.read buf pos width = ⟨read.toArray, next, none⟩) :
    statementRows (Decoder.raw table width) buf pos =
      (read.toArray :: (afterRows (Decoder.raw table width) buf next).1,
        (afterRows (Decoder.raw table width) buf next).2) := by
  have clean : (Tuple.read buf pos (Decoder.raw table width).width).error = none := by
    rw [show (Decoder.raw table width).width = width from rfl, tuple]
  have decoded : (Decoder.raw table width).decodeRow
      (Tuple.read buf pos (Decoder.raw table width).width).values = .ok read.toArray := by
    rw [show (Decoder.raw table width).width = width from rfl, tuple]
    rfl
  rw [statementRows_of_row clean decoded, show (Decoder.raw table width).width = width from rfl, tuple]

theorem statementRows_tuples {table : String} {width : Nat} {first : Tuple}
    {rest : List (Blanks × Blanks × Tuple)} {final : Blanks} {pos : Nat}
    (occ : Occurs buf pos (first.render ++ (Insert.restText rest ++ (final.bytes ++ [semicolon]))))
    (widths : ∀ t ∈ first :: rest.map (·.2.2), t.items.length = width) :
    ∃ rows : List (Array Value), statementRows (Decoder.raw table width) buf pos =
        (rows, .ok (pos + (first.render ++ (Insert.restText rest ++ (final.bytes ++ [semicolon]))).length)) ∧
      rows.map (fun row => row.toList.map (·.content.erase)) =
        (first :: rest.map (·.2.2)).map (·.items.map Lit.content) := by
  induction rest generalizing pos first with
  | nil =>
      obtain ⟨read, tuple, content⟩ := read_tuple first occ.left (widths first List.mem_cons_self)
      have afterFirst := occ.right
      simp only [Insert.restText, List.nil_append] at afterFirst ⊢
      rw [statementRows_raw tuple, afterRows_semicolon afterFirst final.blank]
      refine ⟨[read.toArray], ?_, by simp [content]⟩
      simp only [List.length_append, List.length_singleton]
      congr 2
      omega
  | cons entry rest ih =>
      obtain ⟨before, after, t⟩ := entry
      obtain ⟨read, tuple, content⟩ := read_tuple first occ.left (widths first List.mem_cons_self)
      have afterFirst := occ.right
      simp only [Insert.restText, List.append_assoc, List.cons_append] at afterFirst ⊢
      rw [statementRows_raw tuple, afterRows_comma afterFirst before.blank]
      have tupleOcc := afterFirst.right.tail
      have spaced : skipSpace buf (pos + first.render.length + before.bytes.length + 1) =
          pos + first.render.length + before.bytes.length + 1 + after.bytes.length :=
        skipWhile_before (c := openParen) tupleOcc after.blank (by decide)
      obtain ⟨rows, later, contents⟩ := @ih t _ tupleOcc.right
        (fun u member => widths u (List.mem_cons_of_mem first member))
      rw [spaced, later]
      refine ⟨read.toArray :: rows, ?_, by simp [content, ← contents]⟩
      simp only [List.length_append, List.length_cons]
      congr 2
      omega

/-- The tuples of an insert statement read back as its rows, up to the byte after its `;`. -/
theorem statementRows_body {table : String} {width : Nat} (s : Insert) {pos : Nat}
    (occ : Occurs buf pos s.body) (widths : ∀ t ∈ s.tuples, t.items.length = width) :
    ∃ rows : List (Array Value), statementRows (Decoder.raw table width) buf pos =
        (rows, .ok (pos + s.body.length)) ∧
      rows.map (fun row => row.toList.map (·.content.erase)) = s.tuples.map (·.items.map Lit.content) := by
  have shape : s.body = s.first.render ++ (Insert.restText s.rest ++ (s.final.bytes ++ [semicolon])) := by
    simp [Insert.body]
  rw [shape] at occ ⊢
  exact statementRows_tuples occ widths

end Scan

end WikiDump

