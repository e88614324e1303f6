import WikiDump.Proofs.Truncation
/-!
# Where the readers of a dump fail

Every reader of dump text (quoted tokens, comments, trivia, statements, column lists, the
`VALUES` clause, literals and tuples) either moves forward to a position inside the buffer or
fails with an error that says where. Such an error is *lexical*: it reports the end of input, an
unexpected token, an invalid escape or an invalid number, at an offset between where the reader
started and the end of the buffer, and an unexpected end is always reported at the end of the
buffer (`ScanError.LexicalIn`).

`ReadsWithin buf lo r` says this of a reading `r` that returns a position, and it composes
through `>>=` (`ReadsWithin.bind`), so the `VALUES` clause is covered step by step;
`LiteralWithin` says it of a literal, which also ends inside the buffer. A tuple may fail in one
more way: it holds the wrong number of values, and that error points at its `(`
(`Tuple.read_error`).
-/

namespace WikiDump

open Bytes

/-- The causes the readers of dump text report: the end of input, an unexpected token, an
invalid escape and an invalid number. -/
def Cause.isLexical : Cause → Bool
  | .unexpectedEnd | .unexpectedToken | .invalidEscape | .invalidNumber => true
  | _ => false

theorem Bytes.size_le_of_at_none {buf : ByteArray} {i : Nat} (absent : at? buf i = none) :
    buf.size ≤ i := by
  unfold at? at absent
  split at absent
  · cases absent
  · omega

theorem Bytes.skipWhile_le_size_of_moved {p : UInt8 → Bool} {buf : ByteArray} {i : Nat}
    (moved : skipWhile p buf i ≠ i) : skipWhile p buf i ≤ buf.size := by
  unfold skipWhile at moved ⊢
  split
  · rename_i inBuffer
    split
    · exact skipWhile_le_size p buf (i + 1) inBuffer
    · exact Nat.le_of_lt inBuffer
  · rename_i past
    rw [dif_neg past] at moved
    exact absurd rfl moved

theorem Bytes.matchWord_fits {buf : ByteArray} {pos : Nat} {word : String}
    (found : matchWord buf pos word = true) : pos + word.toUTF8.size ≤ buf.size := by
  unfold matchWord at found
  simp only [Bool.and_eq_true, decide_eq_true_eq] at found
  exact found.1.1

namespace ScanError

/-- A lexical error of a reader that started at `lo` in `buf`: it points between `lo` and the
end of the buffer, reports a lexical cause, and an unexpected end points at the end itself. -/
def LexicalIn (buf : ByteArray) (lo : Nat) : ScanError → Prop
  | .lexical cause offset _ _ =>
    lo ≤ offset ∧ offset ≤ buf.size ∧ cause.isLexical = true ∧
      (cause = .unexpectedEnd → offset = buf.size)
  | _ => False

variable {buf : ByteArray} {lo : Nat}

theorem LexicalIn.mono {e : ScanError} {lo' : Nat} (placed : e.LexicalIn buf lo)
    (earlier : lo' ≤ lo) : e.LexicalIn buf lo' := by
  cases e with
  | lexical cause offset expected found => exact ⟨Nat.le_trans earlier placed.1, placed.2⟩
  | columnCount => exact placed.elim
  | rowDecode => exact placed.elim

theorem LexicalIn.inTable {e : ScanError} (placed : e.LexicalIn buf lo) (table : String) :
    e.inTable table = e := by
  cases e with
  | lexical => rfl
  | columnCount => exact placed.elim
  | rowDecode => exact placed.elim

theorem endOfInput_lexicalIn {i : Nat} {expected : String} (after : lo ≤ i) (atEnd : i = buf.size) :
    (endOfInput i expected).LexicalIn buf lo :=
  ⟨after, Nat.le_of_eq atEnd, rfl, fun _ => atEnd⟩

theorem unexpected_lexicalIn {i : Nat} {expected : String} (after : lo ≤ i)
    (inside : i ≤ buf.size) : (unexpected buf i expected).LexicalIn buf lo :=
  ⟨after, inside, rfl, fun wrong => by cases wrong⟩

theorem trailingBackslash_lexicalIn {i : Nat} (after : lo ≤ i) (inside : i ≤ buf.size) :
    (ScanError.lexical .invalidEscape i "" "trailing backslash").LexicalIn buf lo :=
  ⟨after, inside, rfl, fun wrong => by cases wrong⟩

end ScanError

theorem Literal.numberError_lexicalIn {buf : ByteArray} {lo start : Nat} (stop : Nat)
    (after : lo ≤ start) (inside : start ≤ buf.size) :
    (Literal.numberError buf start stop).LexicalIn buf lo :=
  ⟨after, inside, rfl, fun wrong => by cases wrong⟩

/-- A reading from `lo` on that returns a position: the position lies between `lo` and the end
of the buffer, and a failure is a lexical error from `lo` on. -/
def ReadsWithin (buf : ByteArray) (lo : Nat) : Except ScanError Nat → Prop
  | .ok j => lo ≤ j ∧ j ≤ buf.size
  | .error e => e.LexicalIn buf lo

namespace ReadsWithin

variable {buf : ByteArray} {lo : Nat}

theorem mono {r : Except ScanError Nat} {lo' : Nat} (reads : ReadsWithin buf lo r)
    (earlier : lo' ≤ lo) : ReadsWithin buf lo' r := by
  cases r with
  | ok j => exact ⟨Nat.le_trans earlier reads.1, reads.2⟩
  | error e => exact ScanError.LexicalIn.mono reads earlier

/-- A reading followed by a step that reads within the buffer from wherever the first stopped. -/
theorem bind {r : Except ScanError Nat} {f : Nat → Except ScanError Nat}
    (first : ReadsWithin buf lo r) (rest : ∀ j, lo ≤ j → j ≤ buf.size → ReadsWithin buf j (f j)) :
    ReadsWithin buf lo (r >>= f) := by
  cases r with
  | error e => exact first
  | ok j => exact (rest j first.1 first.2).mono first.1

theorem of_error {e : ScanError} (placed : e.LexicalIn buf lo) : ReadsWithin buf lo (.error e) :=
  placed

theorem lexicalIn_of_error {r : Except ScanError Nat} {e : ScanError} (reads : ReadsWithin buf lo r)
    (failed : r = .error e) : e.LexicalIn buf lo := by
  subst failed
  exact reads

end ReadsWithin

/-- A literal that began at `start`, read from `lo` on: it ends inside the buffer, and a failure
is a lexical error from `lo` on. -/
def LiteralWithin (buf : ByteArray) (start lo : Nat) : Except ScanError (Value × Nat) → Prop
  | .ok (_, n) => start + n ≤ buf.size
  | .error e => e.LexicalIn buf lo

theorem LiteralWithin.of_error {buf : ByteArray} {start lo : Nat} {e : ScanError}
    (placed : e.LexicalIn buf lo) : LiteralWithin buf start lo (.error e) :=
  placed

theorem LiteralWithin.of_ok {buf : ByteArray} {start lo n : Nat} {v : Value}
    (fits : start + n ≤ buf.size) : LiteralWithin buf start lo (.ok (v, n)) :=
  fits

theorem LiteralWithin.lexicalIn_of_error {buf : ByteArray} {start lo : Nat}
    {r : Except ScanError (Value × Nat)} {e : ScanError} (reads : LiteralWithin buf start lo r)
    (failed : r = .error e) : e.LexicalIn buf lo := by
  subst failed
  exact reads

theorem LiteralWithin.end_le {buf : ByteArray} {start lo n : Nat} {v : Value}
    {r : Except ScanError (Value × Nat)} (reads : LiteralWithin buf start lo r)
    (read : r = .ok (v, n)) : start + n ≤ buf.size := by
  subst read
  exact reads

theorem LiteralWithin.mono {buf : ByteArray} {start lo lo' : Nat} {r : Except ScanError (Value × Nat)}
    (reads : LiteralWithin buf start lo r) (earlier : lo' ≤ lo) : LiteralWithin buf start lo' r := by
  cases r with
  | ok read => exact reads
  | error e => exact ScanError.LexicalIn.mono reads earlier

/-! ## Quoted tokens, comments and statements -/

namespace Literal

variable {buf : ByteArray}

theorem skipQuotedFrom_reads {quote : UInt8} {i : Nat} (inside : i ≤ buf.size) :
    ReadsWithin buf i (skipQuotedFrom buf quote i) := by
  revert inside
  fun_induction skipQuotedFrom buf quote i with
  | case1 i _ _ _ escaped ih => intro _; exact (ih (by omega)).mono (by omega)
  | case2 i inBuffer _ _ _ =>
      intro _
      exact .of_error <| ScanError.trailingBackslash_lexicalIn (Nat.le_refl i) (Nat.le_of_lt inBuffer)
  | case3 i _ _ _ _ doubled ih =>
      intro _
      have more := Statement.lt_size_of_atEq doubled
      exact (ih (by omega)).mono (by omega)
  | case4 i inBuffer _ _ _ _ => intro _; exact ⟨Nat.le_succ i, inBuffer⟩
  | case5 i inBuffer _ _ _ ih => intro _; exact (ih inBuffer).mono (Nat.le_succ i)
  | case6 i _ => intro inside; exact .of_error <| ScanError.endOfInput_lexicalIn (Nat.le_refl i) (by omega)

theorem skipQuoted_reads {pos : Nat} (inside : pos ≤ buf.size) :
    ReadsWithin buf pos (skipQuoted buf pos) := by
  unfold skipQuoted
  cases found : at? buf pos with
  | none =>
      have past := size_le_of_at_none found
      exact .of_error <| ScanError.endOfInput_lexicalIn (Nat.le_refl pos) (by omega)
  | some quote =>
      exact (skipQuotedFrom_reads (Statement.lt_size_of_at found)).mono (Nat.le_succ pos)

end Literal

namespace Statement

variable {buf : ByteArray}

theorem commentEnd_error {i : Nat} {e : ScanError} (failed : commentEnd buf i = .error e)
    (inside : i ≤ buf.size) : e.LexicalIn buf i := by
  unfold commentEnd at failed
  split at failed
  · split at failed
    · cases failed
    · split at failed
      · cases failed
      · split at failed
        · split at failed
          · cases failed
          · cases failed
            exact ScanError.endOfInput_lexicalIn inside rfl
        · cases failed
  · cases failed

theorem skipTrivia_reads {i : Nat} (inside : i ≤ buf.size) :
    ReadsWithin buf i (skipTrivia buf i) := by
  revert inside
  fun_induction skipTrivia buf i with
  | case1 i j inBuffer e unclosed =>
      intro _
      exact (commentEnd_error unclosed (Nat.le_of_lt inBuffer)).mono (le_skipWhile _ _ _)
  | case2 i j inBuffer _ => intro _; exact ⟨le_skipWhile _ _ _, Nat.le_of_lt inBuffer⟩
  | case3 i j _ k closes spaced _ _ ih =>
      intro _
      exact (ih (commentEnd_bounds closes).2).mono (by omega)
  | case4 i j _ => intro inside; exact ⟨le_skipWhile _ _ _, skipWhile_le_size _ _ _ inside⟩

theorem skipStatement_reads {i : Nat} (inside : i ≤ buf.size) :
    ReadsWithin buf i (skipStatement buf i) := by
  revert inside
  fun_induction skipStatement buf i with
  | case1 i inBuffer _ => intro _; exact ⟨Nat.le_succ i, inBuffer⟩
  | case2 i _ _ _ next closed _ ih =>
      intro _
      have bounds := Literal.skipQuoted_bounds closed
      exact (ih bounds.2).mono (Nat.le_of_lt bounds.1)
  | case3 i inBuffer _ _ e unclosed =>
      intro _
      exact (Literal.skipQuoted_reads (Nat.le_of_lt inBuffer)).lexicalIn_of_error unclosed
  | case4 i inBuffer _ _ _ e unclosed =>
      intro _
      exact commentEnd_error unclosed (Nat.le_of_lt inBuffer)
  | case5 i inBuffer _ _ _ _ ih => intro _; exact (ih inBuffer).mono (Nat.le_succ i)
  | case6 i _ _ _ _ k closes _ ih =>
      intro _
      have bounds := commentEnd_bounds closes
      exact (ih bounds.2).mono (Nat.le_of_lt bounds.1)
  | case7 i inBuffer _ _ _ ih => intro _; exact (ih inBuffer).mono (Nat.le_succ i)
  | case8 i _ => intro inside; exact .of_error <| ScanError.endOfInput_lexicalIn (Nat.le_refl i) (by omega)

theorem skipParens_reads {i : Nat} {depth : Int} (inside : i ≤ buf.size) :
    ReadsWithin buf i (skipParens buf i depth) := by
  revert inside
  fun_induction skipParens buf i depth with
  | case1 i _ inBuffer _ ih => intro _; exact (ih inBuffer).mono (Nat.le_succ i)
  | case2 i _ inBuffer _ _ _ => intro _; exact ⟨Nat.le_succ i, inBuffer⟩
  | case3 i _ inBuffer _ _ _ ih => intro _; exact (ih inBuffer).mono (Nat.le_succ i)
  | case4 i _ _ _ _ _ next closed _ ih =>
      intro _
      have bounds := Literal.skipQuoted_bounds closed
      exact (ih bounds.2).mono (Nat.le_of_lt bounds.1)
  | case5 i _ inBuffer _ _ _ e unclosed =>
      intro _
      exact (Literal.skipQuoted_reads (Nat.le_of_lt inBuffer)).lexicalIn_of_error unclosed
  | case6 i _ inBuffer _ _ _ ih => intro _; exact (ih inBuffer).mono (Nat.le_succ i)
  | case7 i _ _ => intro inside; exact .of_error <| ScanError.endOfInput_lexicalIn (Nat.le_refl i) (by omega)

theorem columnsEnd_reads {i : Nat} (inside : i ≤ buf.size) :
    ReadsWithin buf i (columnsEnd buf i) := by
  unfold columnsEnd
  split
  · exact (skipParens_reads inside).bind fun j _ within => skipTrivia_reads within
  · exact ⟨Nat.le_refl i, inside⟩

theorem keywordAt_reads {i : Nat} (inside : i ≤ buf.size) :
    ReadsWithin buf i (keywordAt buf i) := by
  unfold keywordAt
  split
  · exact .of_error <| ScanError.endOfInput_lexicalIn (Nat.le_refl i) (by omega)
  · rename_i inBuffer
    split
    · rename_i plural
      have fits := matchWord_fits plural
      have length : "VALUES".toUTF8.size = 6 := by decide
      exact ⟨by omega, by omega⟩
    · split
      · rename_i singular
        have fits := matchWord_fits singular
        have length : "VALUE".toUTF8.size = 5 := by decide
        exact ⟨by omega, by omega⟩
      · exact .of_error <| ScanError.unexpected_lexicalIn (Nat.le_refl i) inside

theorem openTuple_reads {i : Nat} (inside : i ≤ buf.size) :
    ReadsWithin buf i (openTuple buf i) := by
  unfold openTuple
  split
  · exact .of_error <| ScanError.endOfInput_lexicalIn (Nat.le_refl i) (by omega)
  · split
    · exact .of_error <| ScanError.unexpected_lexicalIn (Nat.le_refl i) inside
    · exact ⟨Nat.le_refl i, inside⟩

theorem valuesClause_reads {i : Nat} (inside : i ≤ buf.size) :
    ReadsWithin buf i (valuesClause buf i) := by
  rw [valuesClause_eq]
  exact ((((skipTrivia_reads inside).bind fun _ _ within => columnsEnd_reads within).bind
    fun _ _ within => keywordAt_reads within).bind fun _ _ within => skipTrivia_reads within).bind
    fun _ _ within => openTuple_reads within

end Statement

/-! ## Literals -/

namespace Literal

variable {buf : ByteArray}

theorem unescapeFrom_within {start i : Nat} {out : ByteArray} (started : start ≤ i)
    (inside : i ≤ buf.size) : LiteralWithin buf start i (unescapeFrom buf start i out) := by
  revert started inside
  fun_induction unescapeFrom buf start i out with
  | case1 i _ _ _ _ _ escaped ih =>
      intro started _
      have more := Statement.lt_size_of_at escaped
      exact (ih (by omega) (by omega)).mono (by omega)
  | case2 i _ inBuffer _ _ _ =>
      intro _ _
      exact .of_error <|
        ScanError.trailingBackslash_lexicalIn (Nat.le_refl i) (Nat.le_of_lt inBuffer)
  | case3 i _ _ _ _ _ doubled ih =>
      intro started _
      have more := Statement.lt_size_of_atEq doubled
      exact (ih (by omega) (by omega)).mono (by omega)
  | case4 i _ inBuffer _ _ _ _ => intro started _; exact .of_ok (by omega)
  | case5 i _ inBuffer _ _ _ ih =>
      intro started _
      exact (ih (by omega) inBuffer).mono (Nat.le_succ i)
  | case6 i _ _ =>
      intro _ inside
      exact .of_error <| ScanError.endOfInput_lexicalIn (Nat.le_refl i) (by omega)

theorem stringFrom_within {start opening i : Nat} (started : start ≤ i) (inside : i ≤ buf.size) :
    LiteralWithin buf start i (stringFrom buf start opening i) := by
  revert started inside
  fun_induction stringFrom buf start opening i with
  | case1 i => intro started inside; exact unescapeFrom_within started inside
  | case2 i => intro started inside; exact unescapeFrom_within started inside
  | case3 i inBuffer => intro started _; exact .of_ok (by omega)
  | case4 i inBuffer _ _ _ ih =>
      intro started _
      exact (ih (by omega) inBuffer).mono (Nat.le_succ i)
  | case5 i _ =>
      intro _ inside
      exact .of_error <| ScanError.endOfInput_lexicalIn (Nat.le_refl i) (by omega)

theorem readString_within {start opening : Nat} (quoteAt : opening < buf.size)
    (started : start ≤ opening) :
    LiteralWithin buf start (opening + 1) (readString buf start opening) :=
  stringFrom_within (by omega) quoteAt

theorem fractionPart_le_size {pos digitsEnd i : Nat} {hasFraction : Bool}
    (within : digitsEnd ≤ buf.size)
    (fraction : fractionPart buf pos digitsEnd = .ok (i, hasFraction)) : i ≤ buf.size := by
  simp only [fractionPart] at fraction
  split at fraction
  · split at fraction
    · cases fraction
    · rename_i moved
      cases fraction
      exact skipWhile_le_size_of_moved moved
  · cases fraction
    exact within

theorem fractionPart_error {pos digitsEnd : Nat} {e : ScanError} (inside : pos ≤ buf.size)
    (failed : fractionPart buf pos digitsEnd = .error e) : e.LexicalIn buf pos := by
  simp only [fractionPart] at failed
  split at failed
  · split at failed
    · cases failed
      exact numberError_lexicalIn _ (Nat.le_refl pos) inside
    · cases failed
  · cases failed

theorem exponentPart_le_size {pos i i' : Nat} {hasExponent : Bool} (within : i ≤ buf.size)
    (exponent : exponentPart buf pos i = .ok (i', hasExponent)) : i' ≤ buf.size := by
  simp only [exponentPart] at exponent
  split at exponent
  · generalize (if atEq buf (i + 1) minus || atEq buf (i + 1) plus then i + 2 else i + 1) = j
      at exponent
    split at exponent
    · cases exponent
    · rename_i moved
      cases exponent
      exact skipWhile_le_size_of_moved moved
  · cases exponent
    exact within

theorem exponentPart_error {pos i : Nat} {e : ScanError} (inside : pos ≤ buf.size)
    (failed : exponentPart buf pos i = .error e) : e.LexicalIn buf pos := by
  simp only [exponentPart] at failed
  split at failed
  · generalize (if atEq buf (i + 1) minus || atEq buf (i + 1) plus then i + 2 else i + 1) = j
      at failed
    split at failed
    · cases failed
      exact numberError_lexicalIn _ (Nat.le_refl pos) inside
    · cases failed
  · cases failed

theorem numberValue_error {pos i : Nat} {hasFraction hasExponent : Bool} {e : ScanError}
    (inside : pos ≤ buf.size) (failed : numberValue buf pos i hasFraction hasExponent = .error e) :
    e.LexicalIn buf pos := by
  simp only [numberValue] at failed
  split at failed
  · cases failed
    exact numberError_lexicalIn _ (Nat.le_refl pos) inside
  · split at failed
    · split at failed
      · cases failed
      · cases failed
        exact numberError_lexicalIn _ (Nat.le_refl pos) inside
    · split at failed
      · cases failed
      · cases failed
        exact numberError_lexicalIn _ (Nat.le_refl pos) inside

theorem readNumber_within {pos : Nat} (inBuffer : pos < buf.size) :
    LiteralWithin buf pos pos (readNumber buf pos) := by
  rw [readNumber_eq]
  generalize sign : (if atEq buf pos minus || atEq buf pos plus then pos + 1 else pos) = afterSign
  have signed : pos ≤ afterSign ∧ afterSign ≤ pos + 1 := by rw [← sign]; split <;> omega
  simp only
  split
  · split
    · exact .of_error <| ScanError.endOfInput_lexicalIn signed.1 (by omega)
    · exact .of_error <| numberError_lexicalIn _ (Nat.le_refl pos) (Nat.le_of_lt inBuffer)
  · rename_i moved
    have digits := skipWhile_le_size_of_moved moved
    cases fraction : fractionPart buf pos (skipWhile isDigit buf afterSign) with
    | error e => exact .of_error (fractionPart_error (Nat.le_of_lt inBuffer) fraction)
    | ok part =>
        obtain ⟨i, hasFraction⟩ := part
        dsimp only
        have fractionEnd := fractionPart_le_size digits fraction
        cases exponent : exponentPart buf pos i with
        | error e => exact .of_error (exponentPart_error (Nat.le_of_lt inBuffer) exponent)
        | ok part =>
            obtain ⟨i', hasExponent⟩ := part
            dsimp only
            have exponentEnd := exponentPart_le_size fractionEnd exponent
            cases value : numberValue buf pos i' hasFraction hasExponent with
            | error e => exact .of_error (numberValue_error (Nat.le_of_lt inBuffer) value)
            | ok read =>
                obtain ⟨v, n⟩ := read
                have length := numberValue_size value
                exact .of_ok (by omega)

theorem readHex_within {pos : Nat} (inside : pos ≤ buf.size) :
    LiteralWithin buf pos pos (readHex buf pos) := by
  simp only [readHex]
  split
  · exact .of_error (numberError_lexicalIn _ (Nat.le_refl pos) inside)
  · rename_i digits
    simp only [Bool.or_eq_true, decide_eq_true_eq, not_or] at digits
    have ends := skipWhile_le_size_of_moved digits.1
    have started := le_skipWhile isHexDigit buf (pos + 2)
    exact .of_ok (by omega)

theorem readQuotedHex_within {pos : Nat} (fits : pos + 2 ≤ buf.size) :
    LiteralWithin buf pos pos (readQuotedHex buf pos) := by
  simp only [readQuotedHex]
  have started := le_skipWhile isHexDigit buf (pos + 2)
  have ends := skipWhile_le_size isHexDigit buf (pos + 2) fits
  split
  · exact .of_error <| ScanError.endOfInput_lexicalIn (by omega) (by omega)
  · split
    · exact .of_error (numberError_lexicalIn _ (Nat.le_refl pos) (by omega))
    · exact .of_ok (by omega)

theorem readIntroduced_within {pos : Nat} (inBuffer : pos < buf.size) :
    LiteralWithin buf pos pos (readIntroduced buf pos) := by
  simp only [readIntroduced]
  have wordEnd := skipWhile_le_size isWordByte buf (pos + 1) inBuffer
  have named := le_skipWhile isWordByte buf (pos + 1)
  have spaced : skipWhile isWordByte buf (pos + 1) ≤
      skipSpace buf (skipWhile isWordByte buf (pos + 1)) := le_skipWhile _ _ _
  have spaceEnd : skipSpace buf (skipWhile isWordByte buf (pos + 1)) ≤ buf.size :=
    skipWhile_le_size _ _ _ wordEnd
  split
  · exact .of_error <| ScanError.unexpected_lexicalIn (Nat.le_refl pos) (Nat.le_of_lt inBuffer)
  · split
    · exact .of_error <| ScanError.endOfInput_lexicalIn (by omega) (by omega)
    · split
      · exact .of_error <| ScanError.unexpected_lexicalIn (by omega) spaceEnd
      · rename_i _ inside _
        exact (readString_within (Nat.lt_of_not_le inside) (by omega)).mono (by omega)

theorem read_within {pos : Nat} (inside : pos ≤ buf.size) :
    LiteralWithin buf pos pos (read buf pos) := by
  unfold read
  cases found : at? buf pos with
  | none =>
      have past := size_le_of_at_none found
      exact .of_error <| ScanError.endOfInput_lexicalIn (Nat.le_refl pos) (by omega)
  | some c =>
      have inBuffer := Statement.lt_size_of_at found
      dsimp only
      split
      · exact (readString_within inBuffer (Nat.le_refl pos)).mono (Nat.le_succ pos)
      · split
        · rename_i isNull
          simp only [Bool.and_eq_true] at isNull
          have fits := matchWord_fits isNull.2
          have length : "NULL".toUTF8.size = 4 := by decide
          exact .of_ok (by omega)
        · split
          · exact readHex_within (Nat.le_of_lt inBuffer)
          · split
            · rename_i quoted
              simp only [Bool.and_eq_true] at quoted
              have more := Statement.lt_size_of_atEq quoted.2
              exact readQuotedHex_within (by omega)
            · split
              · exact readNumber_within inBuffer
              · split
                · exact readIntroduced_within inBuffer
                · exact .of_error <|
                    ScanError.unexpected_lexicalIn (Nat.le_refl pos) (Nat.le_of_lt inBuffer)

end Literal

/-! ## Tuples -/

namespace Tuple

variable {buf : ByteArray}

theorem readItems_error {start : Nat} {width : Int} {i : Nat} {values : Array Value}
    {e : ScanError} (inside : i ≤ buf.size)
    (failed : (readItems buf start width i values).error = some e) :
    e.LexicalIn buf i ∨
      ∃ found : Nat, e = .columnCount "" start width found ∧ (found : Int) ≠ width := by
  revert inside failed
  fun_induction readItems buf start width i values with
  | case1 i _ past =>
      intro inside failed
      cases failed
      exact .inl (ScanError.endOfInput_lexicalIn (Nat.le_refl i) (by omega))
  | case2 i _ inBuffer e' unread =>
      intro inside failed
      cases failed
      exact .inl ((Literal.read_within inside).lexicalIn_of_error unread)
  | case3 i _ inBuffer v n literal _ j absent =>
      intro inside failed
      cases failed
      have ends := (Literal.read_within inside).end_le literal
      have spaced : i + n ≤ skipSpace buf (i + n) := le_skipWhile _ _ _
      have within : skipSpace buf (i + n) ≤ buf.size := skipWhile_le_size _ _ _ ends
      have past := size_le_of_at_none absent
      exact .inl (ScanError.endOfInput_lexicalIn (by omega) (by omega))
  | case4 i _ _ v n literal _ j c found _ _ _ _ _ ih =>
      intro _ failed
      have inBuffer := Statement.lt_size_of_at found
      have spaced : i + n ≤ j := le_skipWhile _ _ _
      have next : j + 1 ≤ skipSpace buf (j + 1) := le_skipWhile _ _ _
      have within : skipSpace buf (j + 1) ≤ buf.size := skipWhile_le_size _ _ _ inBuffer
      rcases ih within failed with placed | counted
      · exact .inl (placed.mono (by omega))
      · exact .inr counted
  | case5 => intro _ failed; cases failed
  | case6 i values _ v n _ _ j c _ _ _ miscounted =>
      intro _ failed
      cases failed
      exact .inr ⟨_, rfl, miscounted⟩
  | case7 i _ _ v n _ _ j c found _ _ =>
      intro _ failed
      cases failed
      have inBuffer := Statement.lt_size_of_at found
      have spaced : i + n ≤ j := le_skipWhile _ _ _
      exact .inl (ScanError.unexpected_lexicalIn (by omega) (Nat.le_of_lt inBuffer))

/-- A tuple fails with a lexical error from its start on, or, when it opens with `(`, with the
wrong number of values reported at the `(`. -/
theorem read_error {pos : Nat} {width : Int} {e : ScanError} (inside : pos ≤ buf.size)
    (failed : (read buf pos width).error = some e) :
    e.LexicalIn buf pos ∨
      ∃ found : Nat, e = .columnCount "" pos width found ∧ at? buf pos = some openParen ∧
        (found : Int) ≠ width := by
  unfold read at failed
  cases found : at? buf pos with
  | none =>
      rw [found] at failed
      cases failed
      have past := size_le_of_at_none found
      exact .inl (ScanError.endOfInput_lexicalIn (Nat.le_refl pos) (by omega))
  | some c =>
      rw [found] at failed
      have inBuffer := Statement.lt_size_of_at found
      dsimp only at failed
      by_cases isOpen : (c != openParen) = true
      · rw [if_pos isOpen] at failed
        cases failed
        exact .inl (ScanError.unexpected_lexicalIn (Nat.le_refl pos) (Nat.le_of_lt inBuffer))
      · rw [if_neg isOpen] at failed
        have paren : c = openParen := by simpa using isOpen
        subst paren
        have spaced : pos + 1 ≤ skipSpace buf (pos + 1) := le_skipWhile _ _ _
        have within : skipSpace buf (pos + 1) ≤ buf.size := skipWhile_le_size _ _ _ inBuffer
        by_cases empty : atEq buf (skipSpace buf (pos + 1)) closeParen = true
        · rw [if_pos empty] at failed
          by_cases nonzero : width ≠ 0
          · rw [if_pos nonzero] at failed
            cases failed
            exact .inr ⟨0, rfl, rfl, fun same => nonzero (by simpa using same.symm)⟩
          · rw [if_neg nonzero] at failed
            cases failed
        · rw [if_neg empty] at failed
          rcases readItems_error within failed with placed | ⟨count, counted, miscounted⟩
          · exact .inl (placed.mono (by omega))
          · exact .inr ⟨count, counted, rfl, miscounted⟩

theorem readItems_values_size {start : Nat} {width : Int} {i : Nat} {values : Array Value}
    (clean : (readItems buf start width i values).error = none) :
    ((readItems buf start width i values).values.size : Int) = width := by
  revert clean
  fun_induction readItems buf start width i values with
  | case1 => intro clean; cases clean
  | case2 => intro clean; cases clean
  | case3 => intro clean; cases clean
  | case4 _ _ _ _ _ _ _ _ _ _ _ _ _ _ _ ih => exact ih
  | case5 _ _ _ _ _ _ _ _ _ _ _ _ counted => intro _; exact counted
  | case6 => intro clean; cases clean
  | case7 => intro clean; cases clean

theorem read_values_size {pos : Nat} {width : Int} (clean : (read buf pos width).error = none) :
    ((read buf pos width).values.size : Int) = width := by
  unfold read at clean ⊢
  cases found : at? buf pos with
  | none => simp [found] at clean
  | some c =>
      simp only [found] at clean ⊢
      by_cases isOpen : (c != openParen) = true
      · simp [isOpen] at clean
      · simp only [isOpen, Bool.false_eq_true, if_false] at clean ⊢
        by_cases empty : atEq buf (skipSpace buf (pos + 1)) closeParen = true
        · simp only [empty, if_true] at clean ⊢
          by_cases nonzero : width ≠ 0
          · simp [nonzero] at clean
          · simp only [nonzero, if_false]
            simp only [ne_eq, Decidable.not_not] at nonzero
            simp [nonzero]
        · simp only [empty, Bool.false_eq_true, if_false] at clean ⊢
          exact readItems_values_size clean

end Tuple

end WikiDump

