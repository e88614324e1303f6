import WikiDump.Proofs.Regions
import WikiDump.Proofs.KnownBytes
/-!
# Where statements start and end

`Statement.next` looks for the statement at or after a position. It passes over blanks,
comments and empty statements, which `Statement.Gap` lays out byte by byte, starts the statement
at the word byte after them, and ends it after the first `;` that stands outside quoted tokens and
comments (`Statement.next_delimits`). So the statements that `Statement.allFrom` finds, each
sought from the end of the one before, lie one after another inside the buffer, and there are at
most as many of them as there are bytes after the first position (`Statement.allFrom_ordered`).

Where the tuples of an insert start is found by other readers, which go over its column list by
brackets alone and pass over a `;` there. The `(` of the first tuple lies before the end of the
statement whenever no `;` outside quoted tokens and comments (`Statement.Unended`) stands between
the statement's start and that `(`; a `;` in the column list puts it past the end
(`Statement.body_past_stop_in_column_list`).
-/

namespace WikiDump

open Bytes Script

namespace Statement

/-- From `p` to `q` the buffer holds blanks, comments and the `;` of empty statements only: what
may stand before a statement. -/
inductive Gap (buf : ByteArray) : Nat → Nat → Prop
  | refl (p : Nat) : Gap buf p p
  | trivia {p q : Nat} (t : Trivia) : Occurs buf p t.render → Gap buf (p + t.render.length) q →
      Gap buf p q
  | empty {p q : Nat} : at? buf p = some semicolon → Gap buf (p + 1) q → Gap buf p q

namespace Gap

variable {buf : ByteArray}

theorem le {p q : Nat} (gap : Gap buf p q) : p ≤ q := by
  induction gap with
  | refl => exact Nat.le_refl _
  | trivia t _ _ ih => omega
  | empty _ _ ih => omega

theorem trans {p q r : Nat} (first : Gap buf p q) (second : Gap buf q r) : Gap buf p r := by
  induction first with
  | refl => exact second
  | trivia t occ _ ih => exact .trivia t occ (ih second)
  | empty found _ ih => exact .empty found (ih second)

end Gap

/-! ## Trivia, read backwards from where the readers stop -/

theorem gap_skipSpace (buf : ByteArray) (p : Nat) : Gap buf p (skipSpace buf p) := by
  unfold skipSpace
  fun_induction skipWhile isSpace buf p with
  | case1 i inside blank ih =>
      exact .trivia (.blank buf[i] blank) (Occurs.singleton (at_of_lt inside)) ih
  | case2 i => exact .refl i
  | case3 i => exact .refl i

theorem skipLine_line {buf : ByteArray} {i : Nat} (inside : skipLine buf i < buf.size) :
    ∃ text, newline ∉ text ∧ Occurs buf i (text ++ [newline]) ∧
      skipLine buf i = i + text.length + 1 := by
  fun_induction skipLine buf i with
  | case1 i inBuffer feed =>
      refine ⟨[], List.not_mem_nil, ?_, rfl⟩
      exact Occurs.singleton (by rw [at_of_lt inBuffer, eq_of_beq feed])
  | case2 i inBuffer other ih =>
      obtain ⟨text, oneLine, occ, ends⟩ := ih inside
      have notFeed : buf[i] ≠ newline := fun same => other (by simp [same])
      refine ⟨buf[i] :: text, ?_, Occurs.singleton (at_of_lt inBuffer) |>.append occ, ?_⟩
      · simp [List.mem_cons, oneLine, Ne.symm notFeed]
      · simp only [ends, List.length_cons]
        omega
  | case3 i past => omega

theorem closeComment_block {buf : ByteArray} {i k : Nat} (closed : closeComment buf i = some k) :
    ∃ text, (∀ m, text[m]? = some Bytes.star → text[m + 1]? ≠ some slash) ∧
      Occurs buf i (text ++ [Bytes.star, slash]) ∧ k = i + text.length + 2 := by
  fun_induction closeComment buf i with
  | case1 i inside closing =>
      simp only [Bool.and_eq_true, beq_iff_eq, getElem?_eq_at] at closing
      cases closed
      refine ⟨[], by simp, ?_, rfl⟩
      exact Occurs.singleton closing.1 |>.append (Occurs.singleton closing.2)
  | case2 i inside open_ ih =>
      obtain ⟨text, unclosed, occ, rfl⟩ := ih closed
      refine ⟨buf[i] :: text, ?_, Occurs.singleton (at_of_lt (by omega)) |>.append occ, by simp; omega⟩
      intro m opens
      cases m with
      | zero =>
          -- The `*` at `i` is not followed by `/`, so the text after it does not start with one.
          have notClosing : at? buf (i + 1) ≠ some slash := by
            simp only [List.getElem?_cons_zero, Option.some.injEq] at opens
            simpa [getElem?_eq_at, at_of_lt (show i < buf.size by omega), opens] using open_
          cases text with
          | nil => simp
          | cons c rest =>
              simpa [occ.head] using notClosing
      | succ m => exact unclosed m opens
  | case3 => cases closed

theorem commentEnd_trivia {buf : ByteArray} {j k : Nat} (ends : commentEnd buf j = .ok (some k))
    (inside : k < buf.size) : ∃ t : Trivia, Occurs buf j t.render ∧ k = j + t.render.length := by
  unfold commentEnd at ends
  split at ends
  · rename_i c found
    split at ends
    · -- A `#` line: its text runs from the `#` to the line feed.
      rename_i isHash
      cases ends
      obtain ⟨text, oneLine, occ, ends⟩ := skipLine_line inside
      cases text with
      | nil =>
          exact absurd ((occ.head.symm.trans found).trans (congrArg some (eq_of_beq isHash)))
            (by decide)
      | cons h rest =>
          obtain rfl : h = hash := (Option.some.inj (occ.head.symm.trans found)).trans (eq_of_beq isHash)
          exact ⟨.hashLine rest (fun member => oneLine (List.mem_cons_of_mem _ member)), occ,
            by simp [ends, Trivia.render]; omega⟩
    · split at ends
      · -- A `--` line: a blank follows the dashes, since the line ends inside the buffer.
        rename_i dashes
        simp only [Bool.and_eq_true, Bool.or_eq_true, beq_iff_eq] at dashes
        obtain ⟨⟨rfl, second⟩, spacedAfter⟩ := dashes
        cases ends
        obtain ⟨text, oneLine, occ, ends⟩ := skipLine_line inside
        have first : at? buf j = some minus := found
        have second := at_of_atEq second
        rcases text with _ | ⟨a, _ | ⟨b, rest⟩⟩
        · exact absurd (occ.head.symm.trans first) (by decide)
        · exact absurd (occ.tail.head.symm.trans second) (by decide)
        · obtain rfl : a = minus := Option.some.inj (occ.head.symm.trans first)
          obtain rfl : b = minus := Option.some.inj (occ.tail.head.symm.trans second)
          have spaced : ∀ x ∈ rest.head?, isSpace x = true := by
            intro x head
            cases rest with
            | nil => cases head
            | cons y more =>
                obtain rfl : y = x := Option.some.inj head
                have third : at? buf (j + 2) = some y := occ.tail.tail.head
                have inBuffer := lt_size_of_at third
                rcases spacedAfter with atEnd | blank
                · omega
                · simpa [atIs, third] using blank
          exact ⟨.dashLine rest (fun member => oneLine (by simp [member])) spaced, occ,
            by simp [ends, Trivia.render]; omega⟩
      · split at ends
        · -- A block comment: its text runs to the first `*/`.
          rename_i opens
          simp only [Bool.and_eq_true, beq_iff_eq] at opens
          obtain ⟨rfl, second⟩ := opens
          split at ends
          · rename_i k' closed
            cases ends
            obtain ⟨text, open_, occ, rfl⟩ := closeComment_block closed
            refine ⟨.block text open_, ?_, by simp [Trivia.render]; omega⟩
            exact Occurs.singleton found |>.append (Occurs.singleton (at_of_atEq second)) |>.append occ
          · cases ends
        · cases ends
  · cases ends

theorem skipTrivia_gap {buf : ByteArray} {p i : Nat} (skipped : skipTrivia buf p = .ok i)
    (inside : i < buf.size) : Gap buf p i := by
  fun_induction skipTrivia buf p with
  | case1 => cases skipped
  | case2 p j _ _ =>
      rw [← Except.ok.inj skipped]
      exact gap_skipSpace buf p
  | case3 p j _ k found _ _ _ ih =>
      have comment := commentEnd_trivia found (Nat.lt_of_le_of_lt (skipTrivia_ge skipped) inside)
      obtain ⟨t, occ, rfl⟩ := comment
      exact (gap_skipSpace buf p).trans (.trivia t occ (ih skipped))
  | case4 p j past =>
      rw [← Except.ok.inj skipped] at inside
      exact absurd inside past

/-! ## One statement -/

theorem skipStatement_last {buf : ByteArray} {i j : Nat} (ended : skipStatement buf i = .ok j) :
    at? buf (j - 1) = some semicolon := by
  fun_induction skipStatement buf i with
  | case1 i inside isSemicolon =>
      cases ended
      rw [Nat.add_sub_cancel, at_of_lt inside, eq_of_beq isSemicolon]
  | case2 _ _ _ _ _ _ _ ih => exact ih ended
  | case3 => cases ended
  | case4 => cases ended
  | case5 _ _ _ _ _ _ ih => exact ih ended
  | case6 _ _ _ _ _ _ _ _ ih => exact ih ended
  | case7 _ _ _ _ _ ih => exact ih ended
  | case8 => cases ended

theorem next_found {buf : ByteArray} {pos : Nat} {st : Statement}
    (found : next buf pos = .ok (some st)) :
    Gap buf pos st.start ∧ st.start < buf.size ∧ atIs buf st.start isWordByte = true ∧
      skipStatement buf st.start = .ok st.stop ∧
      ∀ b, st.body = some b → st.kind = .insert ∧
        ∃ name after, insertHeader buf st.start = some (name, after) ∧ valuesClause buf after = .ok b := by
  fun_induction next buf pos with
  | case1 => cases found
  | case2 pos i trivia inside semicolon _ ih =>
      obtain ⟨gap, rest⟩ := ih found
      exact ⟨(skipTrivia_gap trivia inside).trans
        (.empty (by rw [at_of_lt inside, eq_of_beq semicolon]) gap), rest⟩
  | case3 => cases found
  | case4 => cases found
  | case5 pos i trivia inside notSemicolon word kind table body header stop ended =>
      cases found
      have isWord : isWordByte buf[i] = true := by simpa using word
      refine ⟨skipTrivia_gap trivia inside, inside, by simp [atIs, at_of_lt inside, isWord], ended, ?_⟩
      intro b hasBody
      -- The body comes from the `VALUES` clause after an insert header, and only from there.
      split at header
      · rename_i name after read
        simp only [Prod.mk.injEq] at header
        obtain ⟨rfl, rfl, rfl⟩ := header
        split at hasBody
        · rename_i b' entered
          cases hasBody
          exact ⟨rfl, name, after, read, entered⟩
        · cases hasBody
      · simp only [Prod.mk.injEq] at header
        obtain ⟨rfl, rfl, rfl⟩ := header
        cases hasBody
  | case6 => cases found

/-- A statement found from `pos` starts at a word byte after a gap, ends after a `;` inside the
buffer, and has its tuples, when it has any, start at a `(` after its start. -/
theorem next_delimits {buf : ByteArray} {pos : Nat} {st : Statement}
    (found : next buf pos = .ok (some st)) :
    pos ≤ st.start ∧ st.start < st.stop ∧ st.stop ≤ buf.size ∧
      at? buf (st.stop - 1) = some semicolon ∧ atIs buf st.start isWordByte = true ∧
      Gap buf pos st.start ∧
      ∀ b, st.body = some b →
        st.kind = .insert ∧ st.start < b ∧ b < buf.size ∧ at? buf b = some openParen := by
  obtain ⟨gap, _, word, ended, tuples⟩ := next_found found
  have bounds := skipStatement_bounds ended
  refine ⟨gap.le, bounds.1, bounds.2, skipStatement_last ended, word, gap, ?_⟩
  intro b hasBody
  obtain ⟨insert, name, after, header, entered⟩ := tuples b hasBody
  have named := insertHeader_gt header
  have clause := valuesClause_bounds entered
  exact ⟨insert, by omega, clause.2.1, at_of_atEq clause.2.2⟩

theorem body_lt_stop {buf : ByteArray} {pos b : Nat} {st : Statement}
    (found : next buf pos = .ok (some st)) (hasBody : st.body = some b)
    (unbroken : ∀ k, st.start ≤ k → k < b → at? buf k ≠ some semicolon) : b < st.stop := by
  obtain ⟨_, started, _, last, _, _, tuples⟩ := next_delimits found
  obtain ⟨_, after, _, paren⟩ := tuples b hasBody
  have notBefore : ¬st.stop - 1 < b := fun before => unbroken (st.stop - 1) (by omega) before last
  have notAt : st.stop - 1 ≠ b := by
    intro same
    rw [same, paren] at last
    exact absurd last (by decide)
  omega

/-! ## Text that does not end a statement -/

/-- From `i` to `j` the text holds no `;` outside quoted tokens and comments: it is a run of
bytes that open neither a quoted token nor a comment, of quoted tokens and of blanks and
comments. -/
inductive Unended (buf : ByteArray) : Nat → Nat → Prop
  | refl (i : Nat) : Unended buf i i
  | byte {i j : Nat} {b : UInt8} (found : at? buf i = some b) (outside : (Piece.byte b).Outside)
      (notDash : b = minus → at? buf (i + 1) ≠ some minus)
      (notBlock : b = slash → at? buf (i + 1) ≠ some Bytes.star) (rest : Unended buf (i + 1) j) :
      Unended buf i j
  | quoted {i j : Nat} (t : Quoted) (occ : Occurs buf i t.render)
      (after : at? buf (i + t.render.length) ≠ some t.quote)
      (rest : Unended buf (i + t.render.length) j) : Unended buf i j
  | trivia {i j : Nat} (t : Trivia) (occ : Occurs buf i t.render)
      (rest : Unended buf (i + t.render.length) j) : Unended buf i j

theorem skipStatement_comment {buf : ByteArray} {p k : Nat} {c : UInt8} (found : at? buf p = some c)
    (opener : c = hash ∨ c = minus ∨ c = slash) (closed : commentEnd buf p = .ok (some k)) :
    skipStatement buf p = skipStatement buf k := by
  obtain ⟨inside, byte⟩ := at_eq_some found
  have plain : c ≠ semicolon ∧ c ≠ singleQuote ∧ c ≠ doubleQuote ∧ c ≠ backtick := by
    rcases opener with rfl | rfl | rfl <;> decide
  rw [skipStatement_at_opener inside (by simpa [byte] using plain.1)
    (by simp [byte, plain.2.1, plain.2.2.1, plain.2.2.2]) (by rcases opener with rfl | rfl | rfl <;> simp [byte]),
    closed]
  rfl

theorem skipStatement_trivia {buf : ByteArray} {p : Nat} (t : Trivia) (occ : Occurs buf p t.render) :
    skipStatement buf p = skipStatement buf (p + t.render.length) := by
  cases t with
  | blank b isBlank =>
      obtain ⟨plain, notTick⟩ := plain_of_isSpace isBlank
      simp only [isStopper, Bool.or_eq_false_iff, beq_eq_false_iff_ne] at plain
      obtain ⟨⟨⟨⟨⟨⟨notSemicolon, notSingle⟩, notDouble⟩, notHash⟩, notMinus⟩, notSlash⟩, -⟩ := plain
      exact skipStatement_byte occ.head notSemicolon ⟨notSingle, notDouble, notTick⟩
        (commentEnd_none occ.head notHash (fun dash => absurd dash notMinus)
          (fun isSlash => absurd isSlash notSlash))
  | hashLine text oneLine => exact skipStatement_comment occ.head (.inl rfl) (commentEnd_hashLine occ)
  | dashLine text oneLine spaced =>
      exact skipStatement_comment occ.head (.inr (.inl rfl)) (commentEnd_dashLine occ)
  | block text open_ => exact skipStatement_comment occ.head (.inr (.inr rfl)) (commentEnd_block occ)

/-- Across text that holds no `;` outside quoted tokens and comments, the search for the end of
the statement goes on as it started. -/
theorem Unended.skipStatement_eq {buf : ByteArray} {i j : Nat} (unended : Unended buf i j) :
    skipStatement buf i = skipStatement buf j := by
  induction unended with
  | refl => rfl
  | byte found outside notDash notBlock _ ih =>
      obtain ⟨notSemicolon, notSingle, notDouble, notTick, notHash⟩ := outside
      rw [skipStatement_byte found notSemicolon ⟨notSingle, notDouble, notTick⟩
        (commentEnd_none found notHash notDash notBlock), ih]
  | quoted t occ after _ ih => rw [skipStatement_quoted t occ after, ih]
  | trivia t occ _ ih => rw [skipStatement_trivia t occ, ih]

/-- Text from a statement's start that holds no `;` outside quoted tokens and comments ends
before the statement does. -/
theorem lt_stop_of_unended {buf : ByteArray} {pos j : Nat} {st : Statement}
    (found : next buf pos = .ok (some st)) (unended : Unended buf st.start j) : j < st.stop := by
  obtain ⟨-, -, -, ended, -⟩ := next_found found
  rw [unended.skipStatement_eq] at ended
  exact (skipStatement_bounds ended).1

/-! ## Statements one after another -/

/-- The statements found one after another from `pos` lie inside the buffer after `pos`, each
ending no later than the next one starts, so there are at most as many as bytes after `pos`. -/
theorem allFrom_ordered (buf : ByteArray) (pos : Nat) :
    (∀ st ∈ (allFrom buf pos).1, pos ≤ st.start ∧ st.start < st.stop ∧ st.stop ≤ buf.size) ∧
      (allFrom buf pos).1.Pairwise (fun a b => a.stop ≤ b.start) ∧
      (allFrom buf pos).1.length ≤ buf.size - pos := by
  fun_induction allFrom buf pos with
  | case1 => simp
  | case2 => simp
  | case3 pos st found _ rest err split ih =>
      -- The statements after the first are found from its end, which lies past `pos`.
      rw [split] at ih
      dsimp only at ih
      obtain ⟨within, ordered, count⟩ := ih
      obtain ⟨started, nonempty, inside, -⟩ := next_delimits found
      dsimp only
      refine ⟨?_, List.pairwise_cons.2 ⟨fun later member => (within later member).1, ordered⟩, ?_⟩
      · intro s member
        rcases List.mem_cons.1 member with rfl | later
        · exact ⟨started, nonempty, inside⟩
        · have bounds := within s later
          omega
      · rw [List.length_cons]
        omega

/-- How `next` delimits statements. A statement found from `pos` starts at a word byte after
blanks, comments and empty statements only, and ends after a `;` inside the buffer; the tuples of
an insert start at a `(` after its start, and before its end when no `;` outside quoted tokens and
comments stands between its start and them. So the statements found one after another, each from the end of the last, follow one
another without overlap, at most one for each byte after `pos`. -/
theorem statements_delimited (buf : ByteArray) (pos : Nat) :
    (∀ st, next buf pos = .ok (some st) →
      pos ≤ st.start ∧ st.start < st.stop ∧ st.stop ≤ buf.size ∧
        at? buf (st.stop - 1) = some semicolon ∧ atIs buf st.start isWordByte = true ∧
        Gap buf pos st.start ∧
        ∀ b, st.body = some b →
          st.kind = .insert ∧ st.start < b ∧ b < buf.size ∧ at? buf b = some openParen ∧
            ((∀ k, st.start ≤ k → k < b → at? buf k ≠ some semicolon) → b < st.stop) ∧
            (∀ j, b ≤ j → Unended buf st.start j → b < st.stop)) ∧
      (∀ st ∈ (allFrom buf pos).1, pos ≤ st.start ∧ st.start < st.stop ∧ st.stop ≤ buf.size) ∧
      (allFrom buf pos).1.Pairwise (fun a b => a.stop ≤ b.start) ∧
      (allFrom buf pos).1.length ≤ buf.size - pos := by
  refine ⟨fun st found => ?_, allFrom_ordered buf pos⟩
  obtain ⟨started, nonempty, inside, last, word, gap, tuples⟩ := next_delimits found
  refine ⟨started, nonempty, inside, last, word, gap, fun b hasBody => ?_⟩
  obtain ⟨insert, after, within, paren⟩ := tuples b hasBody
  exact ⟨insert, after, within, paren, body_lt_stop found hasBody,
    fun j reaches unended => Nat.lt_of_le_of_lt reaches (lt_stop_of_unended found unended)⟩

/-- A `;` in the column list of an insert ends the statement there, while its tuples are found
past the column list: the first `(` of the tuples lies after the end of the statement. -/
theorem body_past_stop_in_column_list :
    (next "INSERT INTO t (a;b) VALUES (1);".toUTF8 0).map
        (Option.map fun st => (st.kind, st.start, st.body, st.stop)) =
      .ok (some (.insert, 0, some 27, 17)) := by
  decide +kernel

end Statement

end WikiDump

