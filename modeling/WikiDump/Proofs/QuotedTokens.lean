import WikiDump.Proofs.LiteralText
import WikiDump.Proofs.ReadErrors
/-!
# Quoted tokens: the skipper, the string reader and the identifier reader

A quoted token is read unit by unit after its opening quote: a backslash and the byte after it
(only outside backticks), the quote written twice, or a byte on its own; the first quote that
is not doubled closes it. `ClosedBody` says this of a list of units declaratively, and the
three readers of quoted tokens are measured against it.

* The statement scanner's skipper ends just past the closing quote exactly when the units
  close (`skipQuotedFrom_ok_iff`); otherwise it fails at a trailing backslash or at the end of
  the buffer (`skipQuotedFrom_error_cases`).
* The string reader runs in step with the skipper, so the two end at the same byte or fail with
  the same cause at the same offset (`stringFrom_outcome`). On success its text is the units
  decoded by the escape rules of MySQL (`QuoteUnit.decode`), and it is the buffer's own bytes
  exactly when no unit was an escape or a doubled quote and the body is UTF-8
  (`stringFrom_closed`).
* The identifier reader gives the units between backticks decoded, each doubled backtick
  written once (`readIdent_closed`).
-/

namespace WikiDump

open Bytes Statement Script

theorem Occurs.pair {buf : ByteArray} {p : Nat} {a b : UInt8} (first : at? buf p = some a)
    (second : at? buf (p + 1) = some b) : Occurs buf p [a, b] :=
  (Occurs.singleton first).append (Occurs.singleton second)

/-! ## The units of a quoted body -/

namespace Script

/-- What an escape sequence `\e` of a string stands for: `\0 \b \n \r \t \Z` are NUL,
backspace, line feed, carriage return, tab and control-Z; `\%` and `\_` keep their backslash,
since they mean something only in patterns; any other byte stands for itself. -/
def escapeValue (e : UInt8) : List UInt8 :=
  if e = 0x30 then [0]
  else if e = 0x62 then [0x08]
  else if e = 0x6E then [0x0A]
  else if e = 0x72 then [0x0D]
  else if e = 0x74 then [0x09]
  else if e = 0x5A then [0x1A]
  else if e = 0x25 ∨ e = underscore then [backslash, e]
  else [e]

/-- The bytes a unit of a body quoted by `quote` stands for. -/
def QuoteUnit.decode (quote : UInt8) : QuoteUnit → List UInt8
  | .escaped e => escapeValue e
  | .doubled => [quote]
  | .plain b => [b]

def QuoteUnit.isPlain : QuoteUnit → Bool
  | .plain _ => true
  | _ => false

end Script

/-- The units of a token quoted by `quote` whose body starts at `i`: they fit the quote, stand
in the buffer from `i` on, and are followed by the closing quote, which no second quote
follows. -/
structure ClosedBody (buf : ByteArray) (quote : UInt8) (i : Nat) (units : List QuoteUnit) : Prop where
  fits : ∀ u ∈ units, u.Fits quote
  occurs : Occurs buf i (units.flatMap (·.render quote) ++ [quote])
  closes : at? buf (i + (units.flatMap (·.render quote)).length + 1) ≠ some quote

namespace ClosedBody

variable {buf : ByteArray} {quote : UInt8} {i : Nat}

theorem tail {u : QuoteUnit} {units : List QuoteUnit} (closed : ClosedBody buf quote i (u :: units)) :
    ClosedBody buf quote (i + (u.render quote).length) units where
  fits := fun v member => closed.fits v (List.mem_cons_of_mem u member)
  occurs := by
    have occ := closed.occurs
    simp only [List.flatMap_cons, List.append_assoc] at occ
    exact occ.right
  closes := by
    have after := closed.closes
    simp only [List.flatMap_cons, List.length_append] at after
    rwa [Nat.add_assoc i]

theorem nil (found : at? buf i = some quote) (after : at? buf (i + 1) ≠ some quote) :
    ClosedBody buf quote i [] where
  fits := fun _ member => absurd member List.not_mem_nil
  occurs := by simpa using Occurs.singleton found
  closes := by simpa using after

theorem cons {u : QuoteUnit} {units : List QuoteUnit} (fits : u.Fits quote)
    (first : Occurs buf i (u.render quote))
    (rest : ClosedBody buf quote (i + (u.render quote).length) units) :
    ClosedBody buf quote i (u :: units) where
  fits := by
    intro v member
    rcases List.mem_cons.1 member with rfl | later
    · exact fits
    · exact rest.fits v later
  occurs := by
    simp only [List.flatMap_cons, List.append_assoc]
    exact first.append rest.occurs
  closes := by
    have after := rest.closes
    simp only [List.flatMap_cons, List.length_append]
    rwa [Nat.add_assoc i] at after

end ClosedBody

/-! ## The skipper -/

namespace Literal

variable {buf : ByteArray}

section Steps

variable {quote : UInt8} {i : Nat}

theorem skipQuotedFrom_escaped {e : UInt8} (found : at? buf i = some backslash) (unquoted : quote ≠ backtick)
    (next : at? buf (i + 1) = some e) : skipQuotedFrom buf quote i = skipQuotedFrom buf quote (i + 2) := by
  obtain ⟨inside, byte⟩ := at_eq_some found
  rw [skipQuotedFrom, dif_pos inside]
  simp [byte, unquoted, lt_size_of_at next]

theorem skipQuotedFrom_trailing (found : at? buf i = some backslash) (unquoted : quote ≠ backtick)
    (last : at? buf (i + 1) = none) :
    skipQuotedFrom buf quote i = .error (.lexical .invalidEscape i "" "trailing backslash") := by
  obtain ⟨inside, byte⟩ := at_eq_some found
  have past : ¬i + 1 < buf.size := fun more => by simp [at?, more] at last
  rw [skipQuotedFrom, dif_pos inside]
  simp [byte, unquoted, past]

theorem skipQuotedFrom_doubled (notBackslash : quote ≠ backslash) (found : at? buf i = some quote)
    (second : at? buf (i + 1) = some quote) :
    skipQuotedFrom buf quote i = skipQuotedFrom buf quote (i + 2) := by
  obtain ⟨inside, byte⟩ := at_eq_some found
  rw [skipQuotedFrom, dif_pos inside]
  simp [byte, notBackslash, atEq_of_at second]

theorem skipQuotedFrom_closing (notBackslash : quote ≠ backslash) (found : at? buf i = some quote)
    (single : at? buf (i + 1) ≠ some quote) : skipQuotedFrom buf quote i = .ok (i + 1) := by
  obtain ⟨inside, byte⟩ := at_eq_some found
  rw [skipQuotedFrom, dif_pos inside]
  simp [byte, notBackslash, atEq_of_ne single]

theorem skipQuotedFrom_plain {b : UInt8} (found : at? buf i = some b) (notQuote : b ≠ quote)
    (notEscape : quote ≠ backtick → b ≠ backslash) :
    skipQuotedFrom buf quote i = skipQuotedFrom buf quote (i + 1) := by
  obtain ⟨inside, byte⟩ := at_eq_some found
  have noEscape : (b == backslash && quote != backtick) = false := by
    by_cases ticks : quote = backtick
    · simp [ticks]
    · simp [notEscape ticks]
  rw [skipQuotedFrom, dif_pos inside]
  simp only [byte, noEscape, beq_false_of_ne notQuote, Bool.false_eq_true, if_false]

theorem skipQuotedFrom_end (past : buf.size ≤ i) :
    skipQuotedFrom buf quote i = .error (ScanError.endOfInput i ("closing " ++ (Char.ofNat quote.toNat).toString)) := by
  rw [skipQuotedFrom, dif_neg (by omega)]

end Steps

theorem skipQuotedFrom_sound {quote : UInt8} {i e : Nat} (skipped : skipQuotedFrom buf quote i = .ok e) :
    ∃ units, ClosedBody buf quote i units ∧
      e = i + (units.flatMap (·.render quote)).length + 1 := by
  revert skipped
  fun_induction skipQuotedFrom buf quote i with
  | case1 i inside c escapes more ih =>
      intro skipped
      obtain ⟨units, closed, stop⟩ := ih skipped
      obtain ⟨isBackslash, unquoted⟩ : c = backslash ∧ quote ≠ backtick := by simpa using escapes
      refine ⟨.escaped buf[i + 1] :: units, .cons unquoted ?_ closed, ?_⟩
      · exact .pair (by simp [at?, inside, ← isBackslash, c]) (by simp [at?, more])
      · simp only [List.flatMap_cons, List.length_append, stop]
        simp [QuoteUnit.render]
        omega
  | case2 => intro skipped; cases skipped
  | case3 i inside c escapes closes doubled ih =>
      intro skipped
      obtain ⟨units, closed, stop⟩ := ih skipped
      have isQuote : c = quote := by simpa using closes
      obtain ⟨more, second⟩ := at_eq_some (at_of_atEq doubled)
      refine ⟨.doubled :: units, .cons trivial ?_ closed, ?_⟩
      · exact .pair (by simp [at?, inside, ← isQuote, c]) (by simp [at?, more, second])
      · simp only [List.flatMap_cons, List.length_append, stop]
        simp [QuoteUnit.render]
        omega
  | case4 i inside c escapes closes single =>
      intro skipped
      cases skipped
      have isQuote : c = quote := by simpa using closes
      have after : at? buf (i + 1) ≠ some quote := by
        intro found
        rw [atEq_of_at found] at single
        exact single rfl
      exact ⟨[], .nil (by simp [at?, inside, ← isQuote, c]) after, rfl⟩
  | case5 i inside c escapes other ih =>
      intro skipped
      obtain ⟨units, closed, stop⟩ := ih skipped
      have notQuote : c ≠ quote := by simpa using other
      have plain : c ≠ quote ∧ (quote ≠ backtick → c ≠ backslash) := by
        refine ⟨notQuote, fun unquoted same => escapes ?_⟩
        simp [same, unquoted]
      refine ⟨.plain c :: units, .cons plain (Occurs.singleton (by simp [at?, inside, c])) closed, ?_⟩
      simp only [List.flatMap_cons, List.length_append, stop]
      simp [QuoteUnit.render]
      omega
  | case6 => intro skipped; cases skipped

/-- The skipper ends just past a quote exactly when the units before it close the body. -/
theorem skipQuotedFrom_ok_iff {quote : UInt8}
    (isQuote : quote = singleQuote ∨ quote = doubleQuote ∨ quote = backtick) {i e : Nat} :
    skipQuotedFrom buf quote i = .ok e ↔
      ∃ units, ClosedBody buf quote i units ∧ e = i + (units.flatMap (·.render quote)).length + 1 := by
  constructor
  · exact skipQuotedFrom_sound
  · rintro ⟨units, closed, rfl⟩
    exact skipQuotedFrom_units isQuote closed.fits closed.occurs rfl closed.closes

/-- A failed skip from inside the buffer stops at a backslash that is the last byte of the
buffer, which escapes nothing, or at the end of the buffer. -/
theorem skipQuotedFrom_error_cases {quote : UInt8} {i : Nat} {e : ScanError} (inside : i ≤ buf.size)
    (failed : skipQuotedFrom buf quote i = .error e) :
    (e.cause = .invalidEscape ∧ e.offset + 1 = buf.size ∧ at? buf e.offset = some backslash) ∨
      (e.cause = .unexpectedEnd ∧ e.offset = buf.size) := by
  revert inside failed
  fun_induction skipQuotedFrom buf quote i with
  | case1 i _ _ _ more ih => intro _; exact ih (by omega)
  | case2 i inBuffer c escapes last =>
      intro _ failed
      cases failed
      have isBackslash : c = backslash := (by simpa using escapes : c = backslash ∧ _).1
      left
      exact ⟨rfl, by simp only [ScanError.offset]; omega,
        by simp [ScanError.offset, at?, inBuffer, ← isBackslash, c]⟩
  | case3 i _ _ _ _ doubled ih =>
      intro _
      have more := lt_size_of_atEq doubled
      exact ih (by omega)
  | case4 => intro _ failed; cases failed
  | case5 i inBuffer _ _ _ ih => intro _; exact ih inBuffer
  | case6 i past =>
      intro inside failed
      cases failed
      right
      exact ⟨rfl, by simp only [ScanError.endOfInput, ScanError.offset]; omega⟩

end Literal

def skipOutcome : Except ScanError Nat → Except (Cause × Nat) Nat
  | .ok e => .ok e
  | .error err => .error (err.cause, err.offset)

def readOutcome (start : Nat) : Except ScanError (Value × Nat) → Except (Cause × Nat) Nat
  | .ok r => .ok (start + r.2)
  | .error err => .error (err.cause, err.offset)

namespace Literal

variable {buf : ByteArray}

theorem unescapeFrom_outcome {start i : Nat} {out : ByteArray} (started : start ≤ i) :
    readOutcome start (unescapeFrom buf start i out) = skipOutcome (skipQuotedFrom buf singleQuote i) := by
  revert started
  fun_induction unescapeFrom buf start i out with
  | case1 i out inside c isBackslash e escaped ih =>
      intro started
      have found : at? buf i = some backslash := by simpa [at?, inside, c] using isBackslash
      rw [ih (by omega), skipQuotedFrom_escaped found (by decide) escaped]
  | case2 i out inside c isBackslash last =>
      intro started
      have found : at? buf i = some backslash := by simpa [at?, inside, c] using isBackslash
      rw [skipQuotedFrom_trailing found (by decide) last]
      rfl
  | case3 i out inside c notBackslash isQuote doubled ih =>
      intro started
      have found : at? buf i = some singleQuote := by simpa [at?, inside, c] using isQuote
      rw [ih (by omega), skipQuotedFrom_doubled (by decide) found (at_of_atEq doubled)]
  | case4 i out inside c notBackslash isQuote single =>
      intro started
      have found : at? buf i = some singleQuote := by simpa [at?, inside, c] using isQuote
      rw [skipQuotedFrom_closing (by decide) found fun second => by simp [atEq_of_at second] at single]
      simp only [readOutcome, skipOutcome]
      congr 1
      omega
  | case5 i out inside c notBackslash notQuote ih =>
      intro started
      rw [ih (by omega), skipQuotedFrom_plain (i := i) (b := c) (by simp [at?, inside, c])
        (by simpa using notQuote) (fun _ => by simpa using notBackslash)]
  | case6 i out past =>
      intro started
      rw [skipQuotedFrom_end (by omega)]
      rfl

theorem stringFrom_outcome {start opening i : Nat} (started : start ≤ i) :
    readOutcome start (stringFrom buf start opening i) = skipOutcome (skipQuotedFrom buf singleQuote i) := by
  revert started
  fun_induction stringFrom buf start opening i with
  | case1 i inside c isBackslash => exact unescapeFrom_outcome
  | case2 i inside c notBackslash isQuote doubled => exact unescapeFrom_outcome
  | case3 i inside c notBackslash isQuote single =>
      intro started
      have found : at? buf i = some singleQuote := by simpa [at?, inside, c] using isQuote
      rw [skipQuotedFrom_closing (by decide) found fun second => by simp [atEq_of_at second] at single]
      simp only [readOutcome, skipOutcome]
      congr 1
      omega
  | case4 i inside c notBackslash notQuote ih =>
      intro started
      rw [ih (by omega), skipQuotedFrom_plain (i := i) (b := c) (by simp [at?, inside, c])
        (by simpa using notQuote) (fun _ => by simpa using notBackslash)]
  | case5 i past =>
      intro started
      rw [skipQuotedFrom_end (by omega)]
      rfl

/-! ## What the string reader reads -/

theorem singleQuote_ne_backslash : singleQuote ≠ backslash := by decide

section Steps

variable {start opening i : Nat} {out : ByteArray}

theorem unescapeFrom_escaped {e : UInt8} (found : at? buf i = some backslash) (next : at? buf (i + 1) = some e) :
    unescapeFrom buf start i out = unescapeFrom buf start (i + 2) (appendEscape out e) := by
  obtain ⟨inside, byte⟩ := at_eq_some found
  rw [unescapeFrom, dif_pos inside]
  simp only [byte, beq_self_eq_true, if_true]
  split
  · rename_i e' again
    rw [next, Option.some.injEq] at again
    rw [again]
  · rename_i absent
    rw [next] at absent
    cases absent

theorem unescapeFrom_doubled (found : at? buf i = some singleQuote) (second : at? buf (i + 1) = some singleQuote) :
    unescapeFrom buf start i out = unescapeFrom buf start (i + 2) (out.push singleQuote) := by
  obtain ⟨inside, byte⟩ := at_eq_some found
  rw [unescapeFrom, dif_pos inside]
  simp [byte, atEq_of_at second, singleQuote_ne_backslash]

theorem unescapeFrom_closing (found : at? buf i = some singleQuote) (single : at? buf (i + 1) ≠ some singleQuote) :
    unescapeFrom buf start i out = .ok (⟨.text { bytes := out }, start⟩, i + 1 - start) := by
  obtain ⟨inside, byte⟩ := at_eq_some found
  rw [unescapeFrom, dif_pos inside]
  simp [byte, atEq_of_ne single, singleQuote_ne_backslash]

theorem unescapeFrom_plain {b : UInt8} (found : at? buf i = some b) (notQuote : b ≠ singleQuote)
    (notBackslash : b ≠ backslash) : unescapeFrom buf start i out = unescapeFrom buf start (i + 1) (out.push b) := by
  obtain ⟨inside, byte⟩ := at_eq_some found
  rw [unescapeFrom, dif_pos inside]
  simp [byte, notQuote, notBackslash]

theorem stringFrom_escaped (found : at? buf i = some backslash) :
    stringFrom buf start opening i = unescapeFrom buf start i (buf.extract (opening + 1) i) := by
  obtain ⟨inside, byte⟩ := at_eq_some found
  rw [stringFrom, dif_pos inside]
  simp [byte]

theorem stringFrom_doubled (found : at? buf i = some singleQuote) (second : at? buf (i + 1) = some singleQuote) :
    stringFrom buf start opening i = unescapeFrom buf start i (buf.extract (opening + 1) i) := by
  obtain ⟨inside, byte⟩ := at_eq_some found
  rw [stringFrom, dif_pos inside]
  simp [byte, atEq_of_at second]

theorem stringFrom_closing (found : at? buf i = some singleQuote) (single : at? buf (i + 1) ≠ some singleQuote) :
    stringFrom buf start opening i =
      .ok (⟨.text (if Utf8.isValid (buf.extract (opening + 1) i) then
          { bytes := buf.extract (opening + 1) i, origin := some (opening + 1) }
        else { bytes := buf.extract (opening + 1) i }), start⟩, i + 1 - start) := by
  obtain ⟨inside, byte⟩ := at_eq_some found
  rw [stringFrom, dif_pos inside]
  simp [byte, atEq_of_ne single, singleQuote_ne_backslash]

theorem stringFrom_plain {b : UInt8} (found : at? buf i = some b) (notQuote : b ≠ singleQuote)
    (notBackslash : b ≠ backslash) : stringFrom buf start opening i = stringFrom buf start opening (i + 1) := by
  obtain ⟨inside, byte⟩ := at_eq_some found
  rw [stringFrom, dif_pos inside]
  simp [byte, notQuote, notBackslash]

end Steps

theorem Bytes.push_eq_append (out : ByteArray) (b : UInt8) : out.push b = out ++ ⟨[b].toArray⟩ := by
  apply ByteArray.ext
  simp [ByteArray.data_append, ByteArray.data_push]

theorem Bytes.append_mk_append (out : ByteArray) (a b : List UInt8) :
    out ++ ⟨a.toArray⟩ ++ ⟨b.toArray⟩ = out ++ ⟨(a ++ b).toArray⟩ := by
  apply ByteArray.ext
  simp [ByteArray.data_append]

theorem appendEscape_eq (out : ByteArray) (e : UInt8) :
    appendEscape out e = out ++ ⟨(escapeValue e).toArray⟩ := by
  simp only [appendEscape, escapeValue, beq_iff_eq, Bool.or_eq_true]
  by_cases nul : e = 0x30
  · simp [nul, Bytes.push_eq_append]
  by_cases backspace : e = 0x62
  · simp [backspace, Bytes.push_eq_append]
  by_cases lineFeed : e = 0x6E
  · simp [lineFeed, Bytes.push_eq_append]
  by_cases carriageReturn : e = 0x72
  · simp [carriageReturn, Bytes.push_eq_append]
  by_cases tab : e = 0x74
  · simp [tab, Bytes.push_eq_append]
  by_cases controlZ : e = 0x5A
  · simp [controlZ, Bytes.push_eq_append]
  simp only [nul, backspace, lineFeed, carriageReturn, tab, controlZ, if_false]
  split
  · rw [Bytes.push_eq_append, Bytes.push_eq_append]
    exact Bytes.append_mk_append out [backslash] [e]
  · exact Bytes.push_eq_append out e

theorem unescapeFrom_closed {start i : Nat} {out : ByteArray} {units : List QuoteUnit}
    (closed : ClosedBody buf singleQuote i units) :
    unescapeFrom buf start i out =
      .ok (⟨.text { bytes := out ++ ⟨(units.flatMap (·.decode singleQuote)).toArray⟩ }, start⟩,
        i + (units.flatMap (·.render singleQuote)).length + 1 - start) := by
  induction units generalizing i out with
  | nil =>
      have occ := closed.occurs
      have after := closed.closes
      simp only [List.flatMap_nil, List.nil_append, List.length_nil, Nat.add_zero] at occ after
      rw [unescapeFrom_closing occ.head after]
      simp [Bytes.append_mk_nil]
  | cons u rest ih =>
      have occ := closed.occurs
      simp only [List.flatMap_cons, List.append_assoc, List.length_append] at occ ⊢
      cases u with
      | escaped e =>
          have next := @ih _ (appendEscape out e) closed.tail
          simp only [QuoteUnit.render, List.cons_append, List.nil_append, List.length_cons,
            List.length_nil] at occ next ⊢
          rw [unescapeFrom_escaped occ.head occ.tail.head, next, appendEscape_eq, Bytes.append_mk_append]
          simp only [QuoteUnit.decode]
          congr 3
          omega
      | doubled =>
          have next := @ih _ (out.push singleQuote) closed.tail
          simp only [QuoteUnit.render, List.cons_append, List.nil_append, List.length_cons,
            List.length_nil] at occ next ⊢
          rw [unescapeFrom_doubled occ.head occ.tail.head, next, Bytes.push_append_mk]
          simp only [QuoteUnit.decode, List.cons_append, List.nil_append]
          congr 3
          omega
      | plain b =>
          obtain ⟨notQuote, notBackslash⟩ := closed.fits _ List.mem_cons_self
          have next := @ih _ (out.push b) closed.tail
          simp only [QuoteUnit.render, List.cons_append, List.nil_append, List.length_cons,
            List.length_nil] at occ next ⊢
          rw [unescapeFrom_plain occ.head notQuote (notBackslash (by decide)), next, Bytes.push_append_mk]
          simp only [QuoteUnit.decode, List.cons_append, List.nil_append]
          congr 3
          omega

/-- A closed body is read to its closing quote. The text stays the buffer's own bytes while
the units are plain; the first escape or doubled quote starts a rebuild, whose text is not. -/
theorem stringFrom_closed {start opening i : Nat} {done : List UInt8} {units : List QuoteUnit}
    (scanned : Occurs buf (opening + 1) done) (position : i = opening + 1 + done.length)
    (closed : ClosedBody buf singleQuote i units) :
    ∃ t : Text, stringFrom buf start opening i =
        .ok (⟨.text t, start⟩, i + (units.flatMap (·.render singleQuote)).length + 1 - start) ∧
      t.bytes = ⟨(done ++ units.flatMap (·.decode singleQuote)).toArray⟩ ∧
      t.origin = if units.all QuoteUnit.isPlain &&
          Utf8.isValid ⟨(done ++ units.flatMap (·.render singleQuote)).toArray⟩ then some (opening + 1)
        else none := by
  have body : buf.extract (opening + 1) i = ⟨done.toArray⟩ := by
    rw [position]
    exact scanned.extract_eq
  induction units generalizing i done with
  | nil =>
      have occ := closed.occurs
      have after := closed.closes
      simp only [List.flatMap_nil, List.nil_append, List.length_nil, Nat.add_zero, List.append_nil,
        List.all_nil, Bool.true_and] at occ after ⊢
      rw [stringFrom_closing occ.head after, body]
      refine ⟨_, rfl, ?_, ?_⟩ <;> split <;> rfl
  | cons u rest ih =>
      have occ := closed.occurs
      simp only [List.flatMap_cons, List.append_assoc] at occ
      cases u with
      | escaped e =>
          have first : at? buf i = some backslash := occ.head
          rw [stringFrom_escaped first, body, unescapeFrom_closed closed]
          exact ⟨_, rfl, mk_append _ _, by simp [QuoteUnit.isPlain]⟩
      | doubled =>
          have first : at? buf i = some singleQuote := occ.head
          rw [stringFrom_doubled first occ.tail.head, body, unescapeFrom_closed closed]
          exact ⟨_, rfl, mk_append _ _, by simp [QuoteUnit.isPlain]⟩
      | plain b =>
          obtain ⟨notQuote, notBackslash⟩ := closed.fits _ List.mem_cons_self
          have first : at? buf i = some b := occ.head
          have scanned' : Occurs buf (opening + 1) (done ++ [b]) :=
            scanned.append (by rw [← position]; exact Occurs.singleton first)
          have body' : buf.extract (opening + 1) (i + 1) = ⟨(done ++ [b]).toArray⟩ := by
            rw [position, Nat.add_assoc, show done.length + 1 = (done ++ [b]).length by simp]
            exact scanned'.extract_eq
          have tail : ClosedBody buf singleQuote (i + 1) rest := closed.tail
          obtain ⟨t, read, bytes, origin⟩ := ih scanned' (by simp [position]; omega) tail body'
          rw [stringFrom_plain first notQuote (notBackslash (by decide))]
          refine ⟨t, ?_, ?_, ?_⟩
          · rw [read]
            simp only [QuoteUnit.render, List.flatMap_cons, List.length_append, List.length_cons,
              List.length_nil]
            congr 3
            omega
          · simp [bytes, QuoteUnit.decode]
          · simp [origin, QuoteUnit.isPlain, QuoteUnit.render]

theorem all_isPlain_iff {units : List QuoteUnit} (fits : ∀ u ∈ units, u.Fits singleQuote) :
    units.all QuoteUnit.isPlain = true ↔
      backslash ∉ units.flatMap (·.render singleQuote) ∧
        ¬[singleQuote, singleQuote] <:+: units.flatMap (·.render singleQuote) := by
  induction units with
  | nil => simp
  | cons u rest ih =>
      have restFits := ih fun v member => fits v (List.mem_cons_of_mem u member)
      cases u with
      | escaped e => simp [QuoteUnit.isPlain, QuoteUnit.render]
      | doubled =>
          simp only [List.all_cons, QuoteUnit.isPlain, Bool.false_and, Bool.false_eq_true, false_iff,
            not_and, Decidable.not_not]
          intro _
          rw [List.flatMap_cons]
          exact (List.prefix_append _ _).isInfix
      | plain b =>
          obtain ⟨notQuote, notBackslash⟩ := fits _ List.mem_cons_self
          have notBackslash := notBackslash (by decide)
          simp only [List.all_cons, QuoteUnit.isPlain, Bool.true_and, restFits, List.flatMap_cons,
            QuoteUnit.render, List.cons_append, List.nil_append, List.mem_cons, not_or]
          constructor
          · rintro ⟨noBackslash, noDoubled⟩
            refine ⟨⟨Ne.symm notBackslash, noBackslash⟩, fun doubled => ?_⟩
            -- A doubled quote does not start at `b`, so it lies in the rest.
            rcases List.infix_cons_iff.1 doubled with first | later
            · exact notQuote (List.cons_prefix_cons.1 first).1.symm
            · exact noDoubled later
          · rintro ⟨⟨_, noBackslash⟩, noDoubled⟩
            exact ⟨noBackslash, fun doubled => noDoubled (doubled.trans (List.suffix_cons _ _).isInfix)⟩

theorem decode_stringUnit (b : UInt8) : (stringUnit b).decode singleQuote = [b] := by
  unfold stringUnit
  cases coded : escapeCode b with
  | none => rfl
  | some e =>
      have pairs := escapeCode_cases coded
      simp only [List.mem_cons, Prod.mk.injEq, List.mem_nil_iff, or_false] at pairs
      rcases pairs with ⟨rfl, rfl⟩ | ⟨rfl, rfl⟩ | ⟨rfl, rfl⟩ | ⟨rfl, rfl⟩ | ⟨rfl, rfl⟩ | ⟨rfl, rfl⟩ |
        ⟨rfl, rfl⟩ <;> rfl

theorem undoubleBackticks_units {units : List QuoteUnit} (fits : ∀ u ∈ units, u.Fits backtick) :
    undoubleBackticks (units.flatMap (·.render backtick)) = units.flatMap (·.decode backtick) := by
  induction units with
  | nil => rfl
  | cons u rest ih =>
      have restDecoded := ih fun v member => fits v (List.mem_cons_of_mem u member)
      have first := fits u List.mem_cons_self
      cases u with
      | escaped e => exact absurd rfl first
      | doubled =>
          rw [List.flatMap_cons, List.flatMap_cons,
            show QuoteUnit.doubled.render backtick = [backtick, backtick] from rfl,
            show QuoteUnit.doubled.decode backtick = [backtick] from rfl]
          simp only [List.cons_append, List.nil_append]
          rw [undoubleBackticks, if_pos (by simp), restDecoded]
      | plain b =>
          have notTick : (b == backtick) = false := beq_false_of_ne first.1
          rw [List.flatMap_cons, List.flatMap_cons, show (QuoteUnit.plain b).render backtick = [b] from rfl,
            show (QuoteUnit.plain b).decode backtick = [b] from rfl, ← restDecoded]
          simp only [List.cons_append, List.nil_append]
          cases rendered : rest.flatMap (·.render backtick) with
          | nil => rfl
          | cons x xs => simp [undoubleBackticks, notTick]

/-- A name quoted by backticks is read as its units decoded, each doubled backtick written
once, and ends just past the closing backtick. -/
theorem readIdent_closed {pos : Nat} {units : List QuoteUnit} (found : at? buf pos = some backtick)
    (closed : ClosedBody buf backtick (pos + 1) units) :
    readIdent buf pos = some (⟨(units.flatMap (·.decode backtick)).toArray⟩,
      pos + 1 + (units.flatMap (·.render backtick)).length + 1) := by
  have skipped : skipQuoted buf pos = .ok (pos + 1 + (units.flatMap (·.render backtick)).length + 1) := by
    unfold skipQuoted
    rw [found]
    exact skipQuotedFrom_units (.inr (.inr rfl)) closed.fits closed.occurs rfl closed.closes
  have name : buf.extract (pos + 1) (pos + 1 + (units.flatMap (·.render backtick)).length) =
      ⟨(units.flatMap (·.render backtick)).toArray⟩ :=
    closed.occurs.left.extract_eq
  unfold readIdent
  rw [found]
  simp only [beq_self_eq_true, if_true, skipped, Nat.add_sub_cancel, name, Bytes.toList_mk,
    undoubleBackticks_units closed.fits]

/-! ## Where a string literal opens -/

/-- Where the quote of a string literal at `pos` stands: at `pos` itself, or after a charset
introducer (`_` and a name of word bytes) and blanks. -/
inductive StringOpening (buf : ByteArray) (pos : Nat) : Nat → Prop where
  | quote (found : at? buf pos = some singleQuote) : StringOpening buf pos pos
  | introduced {charset blanks : List UInt8} (named : charset ≠ [])
      (word : ∀ b ∈ charset, isWordByte b = true) (blank : ∀ b ∈ blanks, isSpace b = true)
      (occurs : Occurs buf pos (underscore :: (charset ++ blanks ++ [singleQuote]))) :
      StringOpening buf pos (pos + 1 + charset.length + blanks.length)

theorem isWordByte_of_isSpace {b : UInt8} (blank : isSpace b = true) : isWordByte b = false := by
  simp only [isSpace, Bool.or_eq_true, beq_iff_eq] at blank
  rcases blank with ((((rfl | rfl) | rfl) | rfl) | rfl) | rfl <;> decide

namespace StringOpening

variable {pos opening : Nat}

theorem quote_at (opens : StringOpening buf pos opening) : at? buf opening = some singleQuote := by
  cases opens with
  | quote found => exact found
  | introduced _ _ _ occurs =>
      have last := occurs.tail.right
      simp only [List.length_append] at last
      rw [← Nat.add_assoc] at last
      exact last.head

theorem le (opens : StringOpening buf pos opening) : pos ≤ opening := by
  cases opens with
  | quote => exact Nat.le_refl pos
  | introduced => omega

theorem read_eq (opens : StringOpening buf pos opening) : read buf pos = readString buf pos opening := by
  cases opens with
  | quote found => exact read_quote found
  | @introduced charset blanks named word blank occurs =>
      have opened := (introduced named word blank occurs).quote_at
      have after : Occurs buf (pos + 1) (charset ++ (blanks ++ [singleQuote])) := by
        simpa using occurs.tail
      -- The name ends at the first blank, or at the quote when there are none.
      have wordEnd : skipWhile isWordByte buf (pos + 1) = pos + 1 + charset.length := by
        cases blanks with
        | nil =>
            exact skipWhile_before (show Occurs buf (pos + 1) (charset ++ [singleQuote]) by simpa using after)
              word (by decide)
        | cons b rest =>
            have first := blank b List.mem_cons_self
            exact skipWhile_before
              (show Occurs buf (pos + 1) (charset ++ b :: (rest ++ [singleQuote])) by simpa using after) word
              (isWordByte_of_isSpace first)
      have spaces : skipSpace buf (pos + 1 + charset.length) = pos + 1 + charset.length + blanks.length :=
        skipWhile_before (show Occurs buf (pos + 1 + charset.length) (blanks ++ [singleQuote]) from after.right)
          blank (by decide)
      have inside := lt_size_of_at opened
      have nonempty : 0 < charset.length := List.length_pos_iff.2 named
      rw [read_underscore occurs.head]
      unfold readIntroduced
      simp only [wordEnd, spaces]
      rw [if_neg (by omega), if_neg (by omega), atEq_of_at opened]
      rfl

end StringOpening

/-! ## The readers agree -/

theorem decode_eq_render_of_plain {quote : UInt8} {units : List QuoteUnit}
    (plain : units.all QuoteUnit.isPlain = true) :
    units.flatMap (·.decode quote) = units.flatMap (·.render quote) := by
  induction units with
  | nil => rfl
  | cons u rest ih =>
      cases u with
      | plain b =>
          simp only [List.all_cons, QuoteUnit.isPlain, Bool.true_and] at plain
          simp only [List.flatMap_cons, ih plain]
          rfl
      | escaped e => simp [QuoteUnit.isPlain] at plain
      | doubled => simp [QuoteUnit.isPlain] at plain

theorem agree_of_outcome {pos : Nat} {x : Except ScanError Nat} {y : Except ScanError (Value × Nat)}
    (same : readOutcome pos y = skipOutcome x) :
    (∀ n, x = .ok (pos + n) ↔ ∃ v, y = .ok (v, n)) ∧
    (∀ e, x = .error e → ∃ e', y = .error e' ∧ e'.cause = e.cause ∧ e'.offset = e.offset) ∧
    (∀ e', y = .error e' → ∃ e, x = .error e ∧ e.cause = e'.cause ∧ e.offset = e'.offset) := by
  cases x with
  | ok m =>
      cases y with
      | ok r =>
          obtain ⟨v, k⟩ := r
          have ends : pos + k = m := Except.ok.inj same
          refine ⟨fun n => ⟨?_, ?_⟩, fun e failed => (by cases failed), fun e failed => (by cases failed)⟩
          · intro skipped
            cases skipped
            exact ⟨v, by rw [show k = n by omega]⟩
          · rintro ⟨w, read⟩
            cases read
            rw [← ends]
      | error e' => simp [readOutcome, skipOutcome] at same
  | error e =>
      cases y with
      | ok r => simp [readOutcome, skipOutcome] at same
      | error e' =>
          have loci : (e'.cause, e'.offset) = (e.cause, e.offset) := Except.error.inj same
          simp only [Prod.mk.injEq] at loci
          refine ⟨fun n => ⟨fun skipped => (by cases skipped), fun found => ?_⟩, ?_, ?_⟩
          · obtain ⟨v, read⟩ := found
            cases read
          · intro d failed
            cases failed
            exact ⟨e', rfl, loci⟩
          · intro d failed
            cases failed
            exact ⟨e, rfl, loci.1.symm, loci.2.symm⟩

/-- A string literal, quoted or after a charset introducer, reads exactly when its body
closes. Its text is then the body with the escapes decoded, and it takes the bytes up to just
past the closing quote. The text is the buffer's own bytes, from the body's start, exactly when
the body holds no backslash and no quote and is UTF-8. The escapes a dump writer writes decode
to the bytes it escaped. -/
theorem read_quoted_string {pos opening : Nat} (opens : StringOpening buf pos opening) :
    ((∃ r, read buf pos = .ok r) ↔ ∃ units, ClosedBody buf singleQuote (opening + 1) units) ∧
    (∀ units, ClosedBody buf singleQuote (opening + 1) units →
      ∃ t : Text,
        read buf pos = .ok (⟨.text t, pos⟩,
          opening + 1 + (units.flatMap (·.render singleQuote)).length + 1 - pos) ∧
        t.bytes.toList = units.flatMap (·.decode singleQuote) ∧
        t.isUtf8 = Utf8.isValid t.bytes ∧
        (t.isBorrowed = true ↔ backslash ∉ units.flatMap (·.render singleQuote) ∧
          ¬[singleQuote, singleQuote] <:+: units.flatMap (·.render singleQuote) ∧
          Utf8.isValid ⟨(units.flatMap (·.render singleQuote)).toArray⟩ = true) ∧
        ∀ off, t.origin = some off →
          off = opening + 1 ∧ buf.extract off (off + t.bytes.size) = t.bytes) ∧
    ∀ s : List UInt8, (s.map stringUnit).flatMap (·.decode singleQuote) = s := by
  refine ⟨⟨?_, ?_⟩, ?_, ?_⟩
  · rintro ⟨⟨v, n⟩, readOk⟩
    have same := @stringFrom_outcome buf pos opening (opening + 1) (by have := opens.le; omega)
    rw [← readString, ← opens.read_eq, readOk] at same
    cases skipped : skipQuotedFrom buf singleQuote (opening + 1) with
    | error e =>
        rw [skipped] at same
        cases same
    | ok e =>
        obtain ⟨units, closed, _⟩ := skipQuotedFrom_sound skipped
        exact ⟨units, closed⟩
  · rintro ⟨units, closed⟩
    obtain ⟨t, readOk, _⟩ := @stringFrom_closed buf pos opening (opening + 1) [] units Occurs.nil (by simp) closed
    exact ⟨_, by rw [opens.read_eq]; exact readOk⟩
  · intro units closed
    obtain ⟨t, readOk, bytes, origin⟩ :=
      @stringFrom_closed buf pos opening (opening + 1) [] units Occurs.nil (by simp) closed
    refine ⟨t, by rw [opens.read_eq]; exact readOk, by simp [bytes, Bytes.toList_mk], rfl, ?_, ?_⟩
    · rw [Text.isBorrowed, origin, ← and_assoc, ← all_isPlain_iff closed.fits]
      split
      · rename_i both
        simp only [List.nil_append, Bool.and_eq_true] at both
        simp [both]
      · rename_i notBoth
        simp only [List.nil_append, Bool.and_eq_true] at notBoth
        simpa using notBoth
    · intro off borrowed
      rw [origin] at borrowed
      split at borrowed
      · rename_i both
        cases borrowed
        simp only [List.nil_append, Bool.and_eq_true] at both
        refine ⟨rfl, ?_⟩
        rw [bytes, List.nil_append, decode_eq_render_of_plain both.1]
        exact closed.occurs.left.extract_eq.trans rfl
      · cases borrowed
  · intro s
    simp [List.flatMap_map, decode_stringUnit]

def introducedSample : ByteArray := ⟨#[0x5F, 0x78, 0x20, 0x27, 0x61, 0x27, 0x27, 0x62, 0x27]⟩

theorem read_quoted_string_introduced :
    StringOpening introducedSample 0 3 ∧
    (((∃ r, read introducedSample 0 = .ok r) ↔
        ∃ units, ClosedBody introducedSample singleQuote (3 + 1) units) ∧
      (∀ units, ClosedBody introducedSample singleQuote (3 + 1) units →
        ∃ t : Text,
          read introducedSample 0 = .ok (⟨.text t, 0⟩,
            3 + 1 + (units.flatMap (·.render singleQuote)).length + 1 - 0) ∧
          t.bytes.toList = units.flatMap (·.decode singleQuote) ∧
          t.isUtf8 = Utf8.isValid t.bytes ∧
          (t.isBorrowed = true ↔ backslash ∉ units.flatMap (·.render singleQuote) ∧
            ¬[singleQuote, singleQuote] <:+: units.flatMap (·.render singleQuote) ∧
            Utf8.isValid ⟨(units.flatMap (·.render singleQuote)).toArray⟩ = true) ∧
          ∀ off, t.origin = some off →
            off = 3 + 1 ∧ introducedSample.extract off (off + t.bytes.size) = t.bytes) ∧
      ∀ s : List UInt8, (s.map stringUnit).flatMap (·.decode singleQuote) = s) :=
  have opens : StringOpening introducedSample 0 3 :=
    @StringOpening.introduced introducedSample 0 [0x78] [0x20] (List.cons_ne_nil _ _)
      (fun b member => by rw [List.mem_singleton.1 member]; rfl)
      (fun b member => by rw [List.mem_singleton.1 member]; rfl)
      (Occurs.self ([0x5F, 0x78, 0x20, 0x27] ++ [0x61, 0x27, 0x27, 0x62, 0x27])).left
  ⟨opens, read_quoted_string opens⟩

theorem skipQuoted_at {pos : Nat} {quote : UInt8} (found : at? buf pos = some quote) :
    skipQuoted buf pos = skipQuotedFrom buf quote (pos + 1) := by
  unfold skipQuoted
  rw [found]

/-- The statement scanner's skipper and the tokenizer find the same end of a string: the
skipper ends `n` bytes on exactly when the reader takes `n` bytes, and when one fails the other
fails with the same cause at the same offset, an invalid escape at a backslash that is the last
byte of the buffer or the end of input at the end of the buffer. A name in backticks ends just
past the first backtick that is not doubled, backslashes standing for themselves, and reads as
the bytes between the backticks with each doubled backtick written once. -/
theorem skipQuoted_agrees_with_read (buf : ByteArray) (pos : Nat) :
    (at? buf pos = some singleQuote →
      (∀ n, skipQuoted buf pos = .ok (pos + n) ↔ ∃ v, read buf pos = .ok (v, n)) ∧
      (∀ e, skipQuoted buf pos = .error e →
        ∃ e', read buf pos = .error e' ∧ e'.cause = e.cause ∧ e'.offset = e.offset) ∧
      (∀ e', read buf pos = .error e' →
        ∃ e, skipQuoted buf pos = .error e ∧ e.cause = e'.cause ∧ e.offset = e'.offset) ∧
      ∀ e, skipQuoted buf pos = .error e →
        (e.cause = .invalidEscape ∧ e.offset + 1 = buf.size ∧ at? buf e.offset = some backslash) ∨
          (e.cause = .unexpectedEnd ∧ e.offset = buf.size)) ∧
    (at? buf pos = some backtick →
      (∀ e, skipQuoted buf pos = .ok e ↔ ∃ units, ClosedBody buf backtick (pos + 1) units ∧
        e = pos + 1 + (units.flatMap (·.render backtick)).length + 1) ∧
      ∀ units, ClosedBody buf backtick (pos + 1) units →
        readIdent buf pos = some (⟨(units.flatMap (·.decode backtick)).toArray⟩,
          pos + 1 + (units.flatMap (·.render backtick)).length + 1)) := by
  constructor
  · intro opened
    have same : readOutcome pos (read buf pos) = skipOutcome (skipQuoted buf pos) := by
      rw [read_quote opened, skipQuoted_at opened]
      exact stringFrom_outcome (Nat.le_succ pos)
    obtain ⟨ends, skipFails, readFails⟩ := agree_of_outcome same
    refine ⟨ends, skipFails, readFails, fun e failed => ?_⟩
    rw [skipQuoted_at opened] at failed
    exact skipQuotedFrom_error_cases (lt_size_of_at opened) failed
  · intro opened
    refine ⟨fun e => ?_, fun units closed => readIdent_closed opened closed⟩
    rw [skipQuoted_at opened]
    exact skipQuotedFrom_ok_iff (.inr (.inr rfl))

end Literal

end WikiDump

