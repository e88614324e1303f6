import WikiDump.Proofs.Locality
/-!
# Literals and tuples read the same up to where they end

A literal is read from its first byte up to the byte after it, which every reader inspects to
be sure the literal does not run on (a doubled quote, a digit, a word byte). A tuple is read up to
its `)`. So a literal that ends, one byte of lookahead included, before `m` is the same literal in
two buffers that agree below `m` (`Literal.read_agree`), and so is a tuple whose `)` comes before
`m` (`Tuple.read_agree`), with the same values, the same end and no error.

A number is read in four steps: its sign, its integer digits, an optional fraction and exponent,
and the check that nothing runs on after it. `Literal.readNumber_eq` names the steps, so that each
is carried over on its own.
-/

namespace WikiDump

open Bytes

namespace Literal

variable {u v : ByteArray} {m : Nat}

/-! ## Strings -/

theorem unescapeFrom_lt_end {buf out : ByteArray} {start i : Nat} {val : Value} {n : Nat}
    (read : unescapeFrom buf start i out = .ok (val, n)) (started : start ≤ i) : i < start + n := by
  revert read started
  fun_induction unescapeFrom buf start i out with
  | case1 _ _ _ _ _ _ _ ih => intro read started; have := ih read (by omega); omega
  | case2 => intro read; cases read
  | case3 _ _ _ _ _ _ _ ih => intro read started; have := ih read (by omega); omega
  | case4 => intro read started; cases read; omega
  | case5 _ _ _ _ _ _ ih => intro read started; have := ih read (by omega); omega
  | case6 => intro read; cases read

theorem stringFrom_lt_end {buf : ByteArray} {start opening i : Nat} {val : Value} {n : Nat}
    (read : stringFrom buf start opening i = .ok (val, n)) (started : start ≤ i) :
    i < start + n := by
  revert read started
  fun_induction stringFrom buf start opening i with
  | case1 => intro read started; exact unescapeFrom_lt_end read started
  | case2 => intro read started; exact unescapeFrom_lt_end read started
  | case3 => intro read started; cases read; omega
  | case4 _ _ _ _ _ ih => intro read started; have := ih read (by omega); omega
  | case5 => intro read; cases read

theorem unescapeFrom_agree (agree : Agree u v m) {start i : Nat} {out : ByteArray} {val : Value}
    {n : Nat} (read : unescapeFrom u start i out = .ok (val, n)) (started : start ≤ i)
    (stops : start + n < m) : unescapeFrom v start i out = .ok (val, n) := by
  revert read started
  fun_induction unescapeFrom u start i out with
  | case1 i out inU c escape e next ih =>
      intro read started
      have far := unescapeFrom_lt_end read (by omega)
      have inV : i < v.size := (agree.lt_size_iff (by omega)).1 inU
      have escape : (u[i] == backslash) = true := escape
      rw [unescapeFrom, dif_pos inV]
      simp only [← agree.getElem_eq (by omega) inU inV, escape, if_true]
      split
      · rename_i e' nextV
        rw [← agree (i + 1) (by omega), next, Option.some.injEq] at nextV
        subst nextV
        exact ih read (by omega)
      · rename_i nextV
        rw [← agree (i + 1) (by omega), next] at nextV
        cases nextV
  | case2 => intro read; cases read
  | case3 i out inU c plain isQuote doubled ih =>
      intro read started
      have far := unescapeFrom_lt_end read (by omega)
      have inV : i < v.size := (agree.lt_size_iff (by omega)).1 inU
      have plain : ¬ (u[i] == backslash) = true := plain
      have isQuote : (u[i] == singleQuote) = true := isQuote
      rw [unescapeFrom, dif_pos inV]
      simp only [← agree.getElem_eq (by omega) inU inV, plain, isQuote, if_true,
        ← agree.atEq_eq (show i + 1 < m by omega), doubled]
      exact ih read (by omega)
  | case4 i out inU c plain isQuote single =>
      intro read started
      cases read
      have inV : i < v.size := (agree.lt_size_iff (by omega)).1 inU
      have plain : ¬ (u[i] == backslash) = true := plain
      have isQuote : (u[i] == singleQuote) = true := isQuote
      rw [unescapeFrom, dif_pos inV]
      simp only [← agree.getElem_eq (by omega) inU inV, plain, isQuote, if_true,
        ← agree.atEq_eq (show i + 1 < m by omega), single, Bool.false_eq_true, if_false]
  | case5 i out inU c plain other ih =>
      intro read started
      have far := unescapeFrom_lt_end read (by omega)
      have inV : i < v.size := (agree.lt_size_iff (by omega)).1 inU
      have plain : ¬ (u[i] == backslash) = true := plain
      have other : ¬ (u[i] == singleQuote) = true := other
      rw [unescapeFrom, dif_pos inV]
      simp only [← agree.getElem_eq (by omega) inU inV, plain, other]
      exact ih read (by omega)
  | case6 => intro read; cases read

theorem stringFrom_agree (agree : Agree u v m) {start opening i : Nat} {val : Value} {n : Nat}
    (read : stringFrom u start opening i = .ok (val, n)) (started : start ≤ i)
    (stops : start + n < m) : stringFrom v start opening i = .ok (val, n) := by
  revert read started
  fun_induction stringFrom u start opening i with
  | case1 i inU c escape =>
      intro read started
      have far := unescapeFrom_lt_end read started
      have inV : i < v.size := (agree.lt_size_iff (by omega)).1 inU
      have escape : (u[i] == backslash) = true := escape
      rw [stringFrom, dif_pos inV]
      simp only [← agree.getElem_eq (by omega) inU inV, escape, if_true,
        ← agree.extract_eq (show i ≤ m by omega)]
      exact unescapeFrom_agree agree read started stops
  | case2 i inU c plain isQuote doubled =>
      intro read started
      have far := unescapeFrom_lt_end read started
      have inV : i < v.size := (agree.lt_size_iff (by omega)).1 inU
      have plain : ¬ (u[i] == backslash) = true := plain
      have isQuote : (u[i] == singleQuote) = true := isQuote
      rw [stringFrom, dif_pos inV]
      simp only [← agree.getElem_eq (by omega) inU inV, plain, isQuote, if_true,
        ← agree.atEq_eq (show i + 1 < m by omega), doubled, ← agree.extract_eq (show i ≤ m by omega)]
      exact unescapeFrom_agree agree read started stops
  | case3 i inU c plain isQuote single =>
      intro read started
      cases read
      have inV : i < v.size := (agree.lt_size_iff (by omega)).1 inU
      have plain : ¬ (u[i] == backslash) = true := plain
      have isQuote : (u[i] == singleQuote) = true := isQuote
      rw [stringFrom, dif_pos inV]
      simp only [← agree.getElem_eq (by omega) inU inV, plain, isQuote, if_true,
        ← agree.atEq_eq (show i + 1 < m by omega), single, Bool.false_eq_true, if_false,
        ← agree.extract_eq (show i ≤ m by omega)]
      rfl
  | case4 i inU c plain other ih =>
      intro read started
      have far := stringFrom_lt_end read (by omega)
      have inV : i < v.size := (agree.lt_size_iff (by omega)).1 inU
      have plain : ¬ (u[i] == backslash) = true := plain
      have other : ¬ (u[i] == singleQuote) = true := other
      rw [stringFrom, dif_pos inV]
      simp only [← agree.getElem_eq (by omega) inU inV, plain, other]
      exact ih read (by omega)
  | case5 => intro read; cases read

theorem readString_agree (agree : Agree u v m) {start opening : Nat} {val : Value} {n : Nat}
    (read : readString u start opening = .ok (val, n)) (started : start ≤ opening + 1)
    (stops : start + n < m) : readString v start opening = .ok (val, n) :=
  stringFrom_agree agree read started stops

/-! ## Numbers -/

/-- The fraction of a number that began at `pos`, after integer digits that end at
`digitsEnd`: where the number has been read to, and whether it had a fraction. -/
def fractionPart (buf : ByteArray) (pos digitsEnd : Nat) : Except ScanError (Nat × Bool) :=
  if atEq buf digitsEnd dot then
    let e := skipWhile isDigit buf (digitsEnd + 1)
    if e = digitsEnd + 1 then .error (numberError buf pos (digitsEnd + 1)) else .ok (e, true)
  else .ok (digitsEnd, false)

def exponentPart (buf : ByteArray) (pos i : Nat) : Except ScanError (Nat × Bool) :=
  if atEq buf i 0x65 || atEq buf i 0x45 then
    let j := if atEq buf (i + 1) minus || atEq buf (i + 1) plus then i + 2 else i + 1
    let e := skipWhile isDigit buf j
    if e = j then .error (numberError buf pos j) else .ok (e, true)
  else .ok (i, false)

def numberValue (buf : ByteArray) (pos i : Nat) (hasFraction hasExponent : Bool) :
    Except ScanError (Value × Nat) :=
  if atIs buf i (fun c => isWordByte c || c == dot || c == minus || c == plus) then
    .error (numberError buf pos i)
  else
    let text := asciiText (buf.extract pos i)
    if hasFraction || hasExponent then
      match Numeral.readFloat text with
      | .ok x => .ok (⟨.float x, pos⟩, i - pos)
      | .error _ => .error (numberError buf pos pos)
    else
      match Numeral.readInt text 64 with
      | .ok n => .ok (⟨.integer (Int64.ofInt n), pos⟩, i - pos)
      | .error _ => .error (numberError buf pos pos)

theorem readNumber_eq (buf : ByteArray) (pos : Nat) :
    readNumber buf pos =
      let afterSign := if atEq buf pos minus || atEq buf pos plus then pos + 1 else pos
      let digitsEnd := skipWhile isDigit buf afterSign
      if digitsEnd = afterSign then
        if afterSign ≥ buf.size then .error (ScanError.endOfInput afterSign "digits")
        else .error (numberError buf pos afterSign)
      else
        match fractionPart buf pos digitsEnd with
        | .error err => .error err
        | .ok (i, hasFraction) =>
          match exponentPart buf pos i with
          | .error err => .error err
          | .ok (i, hasExponent) => numberValue buf pos i hasFraction hasExponent :=
  rfl

theorem fractionPart_le {buf : ByteArray} {pos digitsEnd i : Nat} {hasFraction : Bool}
    (fraction : fractionPart buf pos digitsEnd = .ok (i, hasFraction)) : digitsEnd ≤ i := by
  simp only [fractionPart] at fraction
  split at fraction
  · split at fraction
    · cases fraction
    · cases fraction
      exact Nat.le_trans (Nat.le_succ _) (le_skipWhile _ _ _)
  · cases fraction
    exact Nat.le_refl _

theorem exponentPart_le {buf : ByteArray} {pos i i' : Nat} {hasExponent : Bool}
    (exponent : exponentPart buf pos i = .ok (i', hasExponent)) : i ≤ i' := by
  simp only [exponentPart] at exponent
  split at exponent
  · generalize sign : (if atEq buf (i + 1) minus || atEq buf (i + 1) plus then i + 2 else i + 1) = j
      at exponent
    have signed : i + 1 ≤ j := by rw [← sign]; split <;> omega
    split at exponent
    · cases exponent
    · cases exponent
      exact Nat.le_trans (by omega) (le_skipWhile _ _ _)
  · cases exponent
    exact Nat.le_refl _

theorem numberValue_size {buf : ByteArray} {pos i : Nat} {hasFraction hasExponent : Bool}
    {val : Value} {n : Nat} (value : numberValue buf pos i hasFraction hasExponent = .ok (val, n)) :
    n = i - pos := by
  simp only [numberValue] at value
  split at value
  · cases value
  · split at value
    · split at value
      · cases value; rfl
      · cases value
    · split at value
      · cases value; rfl
      · cases value

theorem fractionPart_agree (agree : Agree u v m) {pos digitsEnd i : Nat} {hasFraction : Bool}
    (fraction : fractionPart u pos digitsEnd = .ok (i, hasFraction)) (stops : i < m) :
    fractionPart v pos digitsEnd = .ok (i, hasFraction) := by
  have le := fractionPart_le fraction
  simp only [fractionPart] at fraction ⊢
  rw [← agree.atEq_eq (show digitsEnd < m by omega)]
  split at fraction
  · rename_i isDot
    rw [if_pos isDot]
    split at fraction
    · cases fraction
    · rename_i moved
      cases fraction
      rw [skipWhile_agree agree isDigit stops, if_neg moved]
  · rename_i noDot
    rw [if_neg noDot]
    exact fraction

theorem exponentPart_agree (agree : Agree u v m) {pos i i' : Nat} {hasExponent : Bool}
    (exponent : exponentPart u pos i = .ok (i', hasExponent)) (stops : i' < m) :
    exponentPart v pos i = .ok (i', hasExponent) := by
  have le := exponentPart_le exponent
  simp only [exponentPart] at exponent ⊢
  simp only [← agree.atEq_eq (show i < m by omega)]
  split at exponent
  · rename_i isExponent
    rw [if_pos isExponent]
    -- the exponent's digits begin at `j`, after its sign
    generalize sign : (if atEq u (i + 1) minus || atEq u (i + 1) plus then i + 2 else i + 1) = j
      at exponent
    have signed : i + 1 ≤ j := by rw [← sign]; split <;> omega
    split at exponent
    · cases exponent
    · rename_i moved
      cases exponent
      have far : j < skipWhile isDigit u j := Nat.lt_of_le_of_ne (le_skipWhile _ _ _) (Ne.symm moved)
      simp only [← agree.atEq_eq (show i + 1 < m by omega), sign,
        skipWhile_agree agree isDigit stops, moved, if_false]
  · rename_i noExponent
    rw [if_neg noExponent]
    exact exponent

theorem numberValue_agree (agree : Agree u v m) {pos i : Nat} {hasFraction hasExponent : Bool}
    {r : Value × Nat} (value : numberValue u pos i hasFraction hasExponent = .ok r) (stops : i < m) :
    numberValue v pos i hasFraction hasExponent = .ok r := by
  simp only [numberValue] at value ⊢
  rw [← agree.atIs_eq stops, ← agree.extract_eq (Nat.le_of_lt stops)]
  split at value
  · cases value
  · rename_i ends
    rw [if_neg ends]
    split at value
    · rename_i fractional
      rw [if_pos fractional]
      split at value
      · exact value
      · cases value
    · rename_i integral
      rw [if_neg integral]
      split at value
      · exact value
      · cases value

theorem readNumber_agree (agree : Agree u v m) {pos : Nat} {val : Value} {n : Nat}
    (read : readNumber u pos = .ok (val, n)) (stops : pos + n < m) :
    readNumber v pos = .ok (val, n) := by
  rw [readNumber_eq] at read ⊢
  simp only [← agree.atEq_eq (show pos < m by omega)] at ⊢
  generalize (if atEq u pos minus || atEq u pos plus then pos + 1 else pos) = afterSign at read ⊢
  simp only at read ⊢
  split at read
  · split at read <;> cases read
  · rename_i moved
    split at read
    · cases read
    · rename_i i hasFraction fraction
      split at read
      · cases read
      · rename_i i' hasExponent exponent
        -- the number ends at `i'`, which bounds every position it looked at
        have size := numberValue_size read
        have fractionLe := fractionPart_le fraction
        have exponentLe := exponentPart_le exponent
        have ends : i' < m := by omega
        rw [skipWhile_agree agree isDigit (show skipWhile isDigit u afterSign < m by omega),
          if_neg moved, fractionPart_agree agree fraction (by omega)]
        dsimp only
        rw [exponentPart_agree agree exponent ends]
        exact numberValue_agree agree read ends

theorem readNumber_pos {buf : ByteArray} {pos : Nat} {val : Value} {n : Nat}
    (read : readNumber buf pos = .ok (val, n)) : 0 < n := by
  rw [readNumber_eq] at read
  generalize sign : (if atEq buf pos minus || atEq buf pos plus then pos + 1 else pos) = afterSign
    at read
  have signed : pos ≤ afterSign := by rw [← sign]; split <;> omega
  simp only at read
  split at read
  · split at read <;> cases read
  · rename_i moved
    split at read
    · cases read
    · rename_i i hasFraction fraction
      split at read
      · cases read
      · rename_i i' hasExponent exponent
        have digits : afterSign < skipWhile isDigit buf afterSign :=
          Nat.lt_of_le_of_ne (le_skipWhile _ _ _) (Ne.symm moved)
        have size := numberValue_size read
        have fractionLe := fractionPart_le fraction
        have exponentLe := exponentPart_le exponent
        omega

/-! ## Hexadecimal and introduced text -/

theorem readHex_pos {buf : ByteArray} {pos : Nat} {val : Value} {n : Nat}
    (read : readHex buf pos = .ok (val, n)) : 0 < n := by
  simp only [readHex] at read
  split at read
  · cases read
  · rename_i digits
    cases read
    simp only [Bool.or_eq_true, decide_eq_true_eq, not_or] at digits
    have := le_skipWhile isHexDigit buf (pos + 2)
    omega

theorem readHex_agree (agree : Agree u v m) {pos : Nat} {val : Value} {n : Nat}
    (read : readHex u pos = .ok (val, n)) (stops : pos + n < m) :
    readHex v pos = .ok (val, n) := by
  have long := readHex_pos read
  simp only [readHex] at read ⊢
  split at read
  · cases read
  · rename_i digits
    cases read
    have ends : skipWhile isHexDigit u (pos + 2) < m := by omega
    rw [skipWhile_agree agree isHexDigit ends, ← agree.atIs_eq ends,
      ← agree.extract_eq (Nat.le_of_lt ends), if_neg digits]

theorem readQuotedHex_pos {buf : ByteArray} {pos : Nat} {val : Value} {n : Nat}
    (read : readQuotedHex buf pos = .ok (val, n)) : 0 < n := by
  simp only [readQuotedHex] at read
  split at read
  · cases read
  · split at read
    · cases read
    · cases read
      have := le_skipWhile isHexDigit buf (pos + 2)
      omega

theorem readQuotedHex_agree (agree : Agree u v m) {pos : Nat} {val : Value} {n : Nat}
    (read : readQuotedHex u pos = .ok (val, n)) (stops : pos + n < m) :
    readQuotedHex v pos = .ok (val, n) := by
  have long := readQuotedHex_pos read
  simp only [readQuotedHex] at read ⊢
  split at read
  · cases read
  · rename_i inside
    split at read
    · cases read
    · rename_i closed
      cases read
      have ends : skipWhile isHexDigit u (pos + 2) < m := by omega
      have insideV := (agree.lt_size_iff ends).1 (Nat.lt_of_not_le inside)
      rw [skipWhile_agree agree isHexDigit ends, if_neg (Nat.not_le_of_lt insideV),
        ← agree.atEq_eq ends, ← agree.extract_eq (Nat.le_of_lt ends), if_neg closed]

theorem readIntroduced_quote {buf : ByteArray} {pos : Nat} {val : Value} {n : Nat}
    (read : readIntroduced buf pos = .ok (val, n)) :
    pos + 1 < skipWhile isWordByte buf (pos + 1) ∧
      skipWhile isWordByte buf (pos + 1) ≤ skipSpace buf (skipWhile isWordByte buf (pos + 1)) ∧
      skipSpace buf (skipWhile isWordByte buf (pos + 1)) + 1 < pos + n := by
  simp only [readIntroduced] at read
  split at read
  · cases read
  · rename_i named
    have word : pos + 1 < skipWhile isWordByte buf (pos + 1) :=
      Nat.lt_of_le_of_ne (le_skipWhile _ _ _) (Ne.symm named)
    have spaced : skipWhile isWordByte buf (pos + 1) ≤
        skipSpace buf (skipWhile isWordByte buf (pos + 1)) := le_skipWhile _ _ _
    split at read
    · cases read
    · split at read
      · cases read
      · exact ⟨word, spaced, stringFrom_lt_end read (by omega)⟩

theorem readIntroduced_agree (agree : Agree u v m) {pos : Nat} {val : Value} {n : Nat}
    (read : readIntroduced u pos = .ok (val, n)) (stops : pos + n < m) :
    readIntroduced v pos = .ok (val, n) := by
  obtain ⟨word, spaced, far⟩ := readIntroduced_quote read
  have wordV := skipWhile_agree agree isWordByte (show skipWhile isWordByte u (pos + 1) < m by omega)
  have spaceV : skipSpace v (skipWhile isWordByte u (pos + 1)) =
      skipSpace u (skipWhile isWordByte u (pos + 1)) :=
    skipWhile_agree agree isSpace (show skipSpace u (skipWhile isWordByte u (pos + 1)) < m by omega)
  simp only [readIntroduced] at read ⊢
  rw [wordV, spaceV]
  split at read
  · cases read
  · rename_i named
    rw [if_neg named]
    split at read
    · cases read
    · rename_i inside
      have insideV := (agree.lt_size_iff (show skipSpace u (skipWhile isWordByte u (pos + 1)) < m
        by omega)).1 (Nat.lt_of_not_le inside)
      rw [if_neg (Nat.not_le_of_lt insideV)]
      split at read
      · cases read
      · rename_i quoted
        rw [← agree.atEq_eq (by omega), if_neg quoted]
        exact readString_agree agree read (by omega) stops

/-! ## Literals -/

theorem read_pos {buf : ByteArray} {pos : Nat} {val : Value} {n : Nat}
    (read : Literal.read buf pos = .ok (val, n)) : 0 < n := by
  unfold Literal.read at read
  split at read
  · cases read
  · split at read
    · have := stringFrom_lt_end read (Nat.le_succ pos)
      omega
    · split at read
      · cases read
        decide
      · split at read
        · exact readHex_pos read
        · split at read
          · exact readQuotedHex_pos read
          · split at read
            · exact readNumber_pos read
            · split at read
              · obtain ⟨word, spaced, far⟩ := readIntroduced_quote read
                omega
              · cases read

/-- A literal whose bytes and the byte after it lie before `m` reads the same in both buffers. -/
theorem read_agree (agree : Agree u v m) {pos : Nat} {val : Value} {n : Nat}
    (read : Literal.read u pos = .ok (val, n)) (stops : pos + n < m) :
    Literal.read v pos = .ok (val, n) := by
  have long := read_pos read
  unfold Literal.read at read ⊢
  rw [← agree pos (by omega)]
  simp only [← agree.atEq_eq (show pos + 1 < m by omega)]
  split at read
  · cases read
  · rename_i c present
    by_cases quote : (c == singleQuote) = true
    · simp only [quote, if_true] at read ⊢
      exact readString_agree agree read (Nat.le_succ pos) stops
    · simp only [quote, Bool.false_eq_true, if_false] at read ⊢
      by_cases nullByte : (c == 0x4E || c == 0x6E) = true
      · -- after an `N`, only the word `NULL` reads as a literal
        have word : matchWord u pos "NULL" = true := by
          cases absent : matchWord u pos "NULL"
          · simp only [nullByte, absent, Bool.and_false, Bool.false_eq_true, if_false] at read
            simp only [Bool.or_eq_true, beq_iff_eq] at nullByte
            rcases nullByte with rfl | rfl <;> simp [isDigit, minus, plus, underscore] at read
          · rfl
        simp only [nullByte, word, Bool.and_true, if_true] at read
        cases read
        have fits : "NULL".toUTF8.size = 4 := by decide
        rw [← matchWord_agree agree (by rw [fits]; exact stops)]
        simp [nullByte, word]
      · simp only [nullByte, Bool.false_and, Bool.false_eq_true, if_false] at read ⊢
        split at read
        · rename_i hex
          rw [if_pos hex]
          exact readHex_agree agree read stops
        · rename_i notHex
          rw [if_neg notHex]
          split at read
          · rename_i quotedHex
            rw [if_pos quotedHex]
            exact readQuotedHex_agree agree read stops
          · rename_i notQuotedHex
            rw [if_neg notQuotedHex]
            split at read
            · rename_i number
              rw [if_pos number]
              exact readNumber_agree agree read stops
            · rename_i notNumber
              rw [if_neg notNumber]
              split at read
              · rename_i introduced
                rw [if_pos introduced]
                exact readIntroduced_agree agree read stops
              · cases read

end Literal

namespace Tuple

variable {u v : ByteArray} {m : Nat}

theorem readItems_lt_next {buf : ByteArray} {start : Nat} {width : Int} {i : Nat}
    {values : Array Value} (clean : (readItems buf start width i values).error = none) :
    i < (readItems buf start width i values).next := by
  revert clean
  fun_induction readItems buf start width i values with
  | case1 => intro clean; cases clean
  | case2 => intro clean; cases clean
  | case3 => intro clean; cases clean
  | case4 i values _ val n literal _ j c found isComma _ _ _ _ ih =>
      intro clean
      have long := Literal.read_pos literal
      have spaced : i + n ≤ j := le_skipWhile _ _ _
      have next : j + 1 ≤ skipSpace buf (j + 1) := le_skipWhile _ _ _
      have rest := ih clean
      omega
  | case5 i values _ val n literal _ j c found _ _ _ =>
      intro _
      have long := Literal.read_pos literal
      have spaced : i + n ≤ j := le_skipWhile _ _ _
      dsimp only
      omega
  | case6 => intro clean; cases clean
  | case7 => intro clean; cases clean

theorem readItems_agree (agree : Agree u v m) {start : Nat} {width : Int} {i : Nat}
    {values : Array Value} (clean : (readItems u start width i values).error = none)
    (stops : (readItems u start width i values).next ≤ m) :
    readItems v start width i values = readItems u start width i values := by
  revert clean stops
  fun_induction readItems u start width i values with
  | case1 => intro clean; cases clean
  | case2 => intro clean; cases clean
  | case3 => intro clean; cases clean
  | case4 i values inU val n literal _ j c found isComma _ _ _ _ ih =>
      intro clean stops
      have long := Literal.read_pos literal
      have spaced : i + n ≤ j := le_skipWhile _ _ _
      have next : j + 1 ≤ skipSpace u (j + 1) := le_skipWhile _ _ _
      have far := readItems_lt_next clean
      have inV : i < v.size := (agree.lt_size_iff (by omega)).1 (Nat.lt_of_not_le inU)
      have spaceV : skipSpace v (i + n) = j :=
        skipWhile_agree agree isSpace (show skipSpace u (i + n) < m by omega)
      have nextV : skipSpace v (j + 1) = skipSpace u (j + 1) :=
        skipWhile_agree agree isSpace (show skipSpace u (j + 1) < m by omega)
      rw [← ih clean stops, readItems, if_neg (Nat.not_le_of_lt inV),
        Literal.read_agree agree literal (by omega)]
      dsimp only
      split
      · rename_i absent
        rw [spaceV, ← agree j (by omega), found] at absent
        cases absent
      · rename_i c' present
        rw [spaceV, ← agree j (by omega), found, Option.some.injEq] at present
        subst present
        rw [if_pos isComma, spaceV, nextV]
  | case5 i values inU val n literal _ j c found notComma isClose complete =>
      intro _ stops
      have spaced : i + n ≤ j := le_skipWhile _ _ _
      dsimp only at stops
      have inV : i < v.size := (agree.lt_size_iff (by omega)).1 (Nat.lt_of_not_le inU)
      have spaceV : skipSpace v (i + n) = j :=
        skipWhile_agree agree isSpace (show skipSpace u (i + n) < m by omega)
      rw [readItems, if_neg (Nat.not_le_of_lt inV), Literal.read_agree agree literal (by omega)]
      dsimp only
      split
      · rename_i absent
        rw [spaceV, ← agree j (by omega), found] at absent
        cases absent
      · rename_i c' present
        rw [spaceV, ← agree j (by omega), found, Option.some.injEq] at present
        subst present
        rw [if_neg notComma, if_pos isClose, if_pos complete, spaceV]
  | case6 => intro clean; cases clean
  | case7 => intro clean; cases clean

/-- A tuple read without fault, whose `)` lies before `m`, reads the same in both buffers. -/
theorem read_agree (agree : Agree u v m) {pos : Nat} {width : Int}
    (clean : (read u pos width).error = none) (stops : (read u pos width).next ≤ m) :
    read v pos width = read u pos width := by
  have opened := (read_offsets clean).1
  have below : pos < m := by omega
  unfold read at clean stops ⊢
  rw [← agree pos below]
  cases present : at? u pos with
  | none => simp [present] at clean
  | some c =>
      simp only [present] at clean stops ⊢
      by_cases isOpen : (c != openParen) = true
      · simp [isOpen] at clean
      · simp only [isOpen, Bool.false_eq_true, if_false] at clean stops ⊢
        have first : pos + 1 ≤ skipSpace u (pos + 1) := le_skipWhile _ _ _
        -- the blanks after the `(` end before `m`, at the `)` or at the first item
        have inside : skipSpace u (pos + 1) < m := by
          by_cases closing : atEq u (skipSpace u (pos + 1)) closeParen = true
          · by_cases empty : width ≠ 0
            · simp [closing, empty] at clean
            · simp only [closing, empty, if_true, if_false] at stops
              omega
          · simp only [closing, Bool.false_eq_true, if_false] at clean stops
            have far := readItems_lt_next clean
            omega
        have spaceV : skipSpace v (pos + 1) = skipSpace u (pos + 1) :=
          skipWhile_agree agree isSpace inside
        rw [spaceV, ← agree.atEq_eq inside]
        split
        · rfl
        · rename_i items
          simp only [items, Bool.false_eq_true, if_false] at clean stops
          exact readItems_agree agree clean stops

end Tuple

end WikiDump

