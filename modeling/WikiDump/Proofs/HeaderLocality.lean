import WikiDump.Proofs.Locality
/-!
# How far an insert header reads

An insert header (the keyword, its modifiers, the table name and its database) is read from
words, blanks, dots and backtick-quoted names. None of its readers goes past a `;`, a string
quote `'` or `"`, a comment opener `#`, `-` or `/`, or a `(`: these bytes are *stoppers*.
`HeaderRun buf p j` says that from `p`, stepping over single bytes that are neither stoppers nor
backticks and over whole backtick-quoted names, one comes to `j`; `StopsBefore buf p m` says that
such a run from `p` meets a stopper before `m`.

When a stopper lies ahead before `m`, the header from `p` reads the same in two buffers that
agree below `m` (`insertHeader_agree`), whatever it finds: a matching keyword that ends at the
stopper, or a mismatch no later than the stopper. A stopper lies ahead of every statement whose
`;` comes before `m` (`skipStatement_stopsBefore`), and ahead of the header of a target statement
whose first `(` comes before `m` (`valuesClause_stopsBefore`, with `insertHeader_run`). So whether
a statement inserts into a table is decided the same way in a buffer and in any buffer that agrees
with it up to the end of that statement, or of its `VALUES` clause.
-/

namespace WikiDump

open Bytes

namespace Statement

def isStopper (c : UInt8) : Bool :=
  c == semicolon || c == singleQuote || c == doubleQuote || c == hash || c == minus ||
    c == slash || c == openParen

/-- From `p`, header text runs to `j`: single bytes that are neither stoppers nor backticks, and
whole backtick-quoted names. -/
inductive HeaderRun (buf : ByteArray) : Nat → Nat → Prop
  | refl (p : Nat) : HeaderRun buf p p
  | byte {p j : Nat} {c : UInt8} : at? buf p = some c → isStopper c = false → c ≠ backtick →
      HeaderRun buf (p + 1) j → HeaderRun buf p j
  | quoted {p e j : Nat} : at? buf p = some backtick → Literal.skipQuoted buf p = .ok e →
      HeaderRun buf e j → HeaderRun buf p j

def StopsBefore (buf : ByteArray) (p m : Nat) : Prop :=
  ∃ j, j < m ∧ HeaderRun buf p j ∧ ∃ s, at? buf j = some s ∧ isStopper s = true

/-! ## Bytes of header text -/

theorem foldByte_lt_of_stopper {c : UInt8} (special : isStopper c = true ∨ c = backtick) :
    foldByte c < 0x61 := by
  rcases special with stopper | tick
  · simp only [isStopper, Bool.or_eq_true, beq_iff_eq] at stopper
    rcases stopper with ((((((same | same) | same) | same) | same) | same) | same) <;>
      subst same <;> decide
  · subst tick
    decide

theorem plain_of_foldByte {c : UInt8} (letter : 0x61 ≤ foldByte c) :
    isStopper c = false ∧ c ≠ backtick := by
  constructor
  · cases stopper : isStopper c
    · rfl
    · exact absurd letter (UInt8.not_le.2 (foldByte_lt_of_stopper (Or.inl stopper)))
  · intro tick
    exact absurd letter (UInt8.not_le.2 (foldByte_lt_of_stopper (Or.inr tick)))

theorem plain_of_isWordByte {c : UInt8} (word : isWordByte c = true) :
    isStopper c = false ∧ c ≠ backtick := by
  constructor
  · cases stopper : isStopper c
    · rfl
    · simp only [isStopper, Bool.or_eq_true, beq_iff_eq] at stopper
      rcases stopper with ((((((same | same) | same) | same) | same) | same) | same) <;>
        subst same <;> revert word <;> decide
  · intro tick
    subst tick
    revert word
    decide

theorem plain_of_isSpace {c : UInt8} (space : isSpace c = true) :
    isStopper c = false ∧ c ≠ backtick := by
  simp only [isSpace, Bool.or_eq_true, beq_iff_eq] at space
  rcases space with (((((same | same) | same) | same) | same) | same) <;> subst same <;>
    exact ⟨by decide, by decide⟩

def wordLetters (word : String) : Bool :=
  (List.range word.toUTF8.size).all fun k => (at? word.toUTF8 k).all fun b => 0x61 ≤ foldByte b

theorem wordLetters_at {word : String} (letters : wordLetters word = true) {k : Nat} {b : UInt8}
    (present : at? word.toUTF8 k = some b) : 0x61 ≤ foldByte b := by
  unfold wordLetters at letters
  simp only [List.all_eq_true, List.mem_range] at letters
  have byte := letters k (lt_size_of_at present)
  rw [present] at byte
  simpa using byte

/-! ## Runs of header text -/

namespace HeaderRun

variable {buf : ByteArray}

theorem le {p j : Nat} (run : HeaderRun buf p j) : p ≤ j := by
  induction run with
  | refl => exact Nat.le_refl _
  | byte _ _ _ _ ih => omega
  | quoted _ closed _ ih =>
      have := (Literal.skipQuoted_bounds closed).1
      omega

theorem trans {p q j : Nat} (first : HeaderRun buf p q) (second : HeaderRun buf q j) :
    HeaderRun buf p j := by
  induction first with
  | refl => exact second
  | byte present plain notTick _ ih => exact .byte present plain notTick (ih second)
  | quoted tick closed _ ih => exact .quoted tick closed (ih second)

theorem of_plain {p q : Nat} (le : p ≤ q)
    (plain : ∀ i, p ≤ i → i < q → ∃ c, at? buf i = some c ∧ isStopper c = false ∧ c ≠ backtick) :
    HeaderRun buf p q := by
  induction distance : q - p generalizing p with
  | zero =>
      obtain rfl : p = q := by omega
      exact .refl p
  | succ n ih =>
      obtain ⟨c, present, notStopper, notTick⟩ := plain p (Nat.le_refl p) (by omega)
      exact .byte present notStopper notTick
        (ih (by omega) (fun i low high => plain i (by omega) high) (by omega))

theorem rest {p q j : Nat} (run : HeaderRun buf p q) (toStop : HeaderRun buf p j)
    (stopper : ∃ s, at? buf j = some s ∧ isStopper s = true) : HeaderRun buf q j := by
  revert toStop
  induction run with
  | refl => exact id
  | byte present plain notTick _ ih =>
      intro toStop
      cases toStop with
      | refl =>
          obtain ⟨s, atJ, stop⟩ := stopper
          rw [present, Option.some.injEq] at atJ
          subst atJ
          rw [plain] at stop
          cases stop
      | byte _ _ _ next => exact ih next
      | quoted tick _ _ =>
          rw [present, Option.some.injEq] at tick
          exact absurd tick notTick
  | quoted tick closed _ ih =>
      intro toStop
      cases toStop with
      | refl =>
          obtain ⟨s, atJ, stop⟩ := stopper
          rw [tick, Option.some.injEq] at atJ
          subst atJ
          exact absurd stop (by decide)
      | byte present _ notTick _ =>
          rw [tick, Option.some.injEq] at present
          exact absurd present.symm notTick
      | quoted _ closed' next =>
          rw [closed, Except.ok.injEq] at closed'
          subst closed'
          exact ih next

end HeaderRun

namespace StopsBefore

variable {buf : ByteArray} {p m : Nat}

theorem lt (stops : StopsBefore buf p m) : p < m := by
  obtain ⟨j, below, run, _⟩ := stops
  exact Nat.lt_of_le_of_lt run.le below

theorem of_stopper {s : UInt8} (present : at? buf p = some s) (stopper : isStopper s = true)
    (below : p < m) : StopsBefore buf p m :=
  ⟨p, below, .refl p, s, present, stopper⟩

theorem mono (stops : StopsBefore buf p m) {m' : Nat} (le : m ≤ m') : StopsBefore buf p m' := by
  obtain ⟨j, below, run, stopper⟩ := stops
  exact ⟨j, Nat.lt_of_lt_of_le below le, run, stopper⟩

theorem of_run {q : Nat} (run : HeaderRun buf p q) (stops : StopsBefore buf q m) :
    StopsBefore buf p m := by
  obtain ⟨j, below, rest, stopper⟩ := stops
  exact ⟨j, below, run.trans rest, stopper⟩

theorem rest (stops : StopsBefore buf p m) {q : Nat} (run : HeaderRun buf p q) :
    StopsBefore buf q m := by
  obtain ⟨j, below, toStop, stopper⟩ := stops
  exact ⟨j, below, run.rest toStop stopper, stopper⟩

theorem quoted (stops : StopsBefore buf p m) (tick : at? buf p = some backtick) :
    ∃ e, Literal.skipQuoted buf p = .ok e ∧ StopsBefore buf e m := by
  obtain ⟨j, below, run, s, atJ, stop⟩ := stops
  cases run with
  | refl =>
      rw [tick, Option.some.injEq] at atJ
      subst atJ
      exact absurd stop (by decide)
  | byte present _ notTick _ =>
      rw [tick, Option.some.injEq] at present
      exact absurd present.symm notTick
  | quoted _ closed rest => exact ⟨_, closed, j, below, rest, s, atJ, stop⟩

end StopsBefore

/-! ## The readers of a header run over header text -/

theorem at_of_lt {buf : ByteArray} {i : Nat} (inBuffer : i < buf.size) :
    at? buf i = some buf[i] := by
  unfold at?
  rw [dif_pos inBuffer]

theorem skipWhile_run (P : UInt8 → Bool)
    (plainP : ∀ c, P c = true → isStopper c = false ∧ c ≠ backtick) (buf : ByteArray) (p : Nat) :
    HeaderRun buf p (skipWhile P buf p) := by
  fun_induction skipWhile P buf p with
  | case1 i inBuffer holds ih =>
      exact .byte (at_of_lt inBuffer) (plainP _ holds).1 (plainP _ holds).2 ih
  | case2 i => exact .refl i
  | case3 i => exact .refl i

theorem matchWord_run {buf : ByteArray} {p : Nat} {word : String}
    (found : matchWord buf p word = true) (letters : wordLetters word = true) :
    HeaderRun buf p (p + word.toUTF8.size) := by
  apply HeaderRun.of_plain (by omega)
  intro i low high
  obtain ⟨a, b, atBuf, atWord, same⟩ := matchWord_at found (k := i - p) (by omega)
  rw [show p + (i - p) = i by omega] at atBuf
  have letter := wordLetters_at letters atWord
  rw [← same] at letter
  exact ⟨a, atBuf, plain_of_foldByte letter⟩

theorem readIdent_run {buf : ByteArray} {p e : Nat} {name : ByteArray}
    (found : readIdent buf p = some (name, e)) : HeaderRun buf p e := by
  unfold readIdent at found
  split at found
  · cases found
  · rename_i c present
    split at found
    · rename_i tick
      split at found
      · cases found
      · rename_i e' closed
        simp only [Option.some.injEq, Prod.mk.injEq] at found
        rw [← found.2]
        exact .quoted (by rw [present, eq_of_beq tick]) closed (.refl e')
    · simp only at found
      split at found
      · cases found
      · simp only [Option.some.injEq, Prod.mk.injEq] at found
        rw [← found.2]
        exact skipWhile_run isWordByte (fun _ => plain_of_isWordByte) buf p

theorem modifiers_letters : ∀ word ∈ modifiers, wordLetters word = true := by decide

theorem skipModifiers_run (buf : ByteArray) (p : Nat) : HeaderRun buf p (skipModifiers buf p) := by
  unfold skipModifiers
  have letters := modifiers_letters
  generalize modifiers = words at letters
  induction words generalizing p with
  | nil => exact .refl p
  | cons word rest ih =>
      simp only [List.foldl_cons]
      refine HeaderRun.trans ?_ (ih _ fun w mem => letters w (List.mem_cons_of_mem _ mem))
      split
      · rename_i found
        exact (matchWord_run found (letters word List.mem_cons_self)).trans
          (skipWhile_run isSpace (fun _ => plain_of_isSpace) buf _)
      · exact .refl p

theorem keyword_run {buf : ByteArray} {i k : Nat}
    (keyword : (if matchWord buf i "INSERT" then some (i + 6)
      else if matchWord buf i "REPLACE" then some (i + 7) else none) = some k) :
    HeaderRun buf i k := by
  split at keyword
  · cases keyword
    exact matchWord_run ‹_› (by decide)
  · split at keyword
    · cases keyword
      exact matchWord_run ‹_› (by decide)
    · cases keyword

/-- An insert header is header text from its keyword to the end of its table name. -/
theorem insertHeader_run {buf : ByteArray} {i after : Nat} {name : ByteArray}
    (found : insertHeader buf i = some (name, after)) : HeaderRun buf i after := by
  unfold insertHeader at found
  simp only at found
  split at found
  · cases found
  rename_i k keyword
  have toName : HeaderRun buf i (skipModifiers buf (skipSpace buf k)) :=
    (keyword_run keyword).trans ((skipWhile_run isSpace (fun _ => plain_of_isSpace) buf k).trans
      (skipModifiers_run buf _))
  split at found
  · cases found
  rename_i name' next ident
  have toNext := toName.trans (readIdent_run ident)
  split at found
  · rename_i qualified
    exact toNext.trans (.byte (at_of_atEq qualified) (by decide) (by decide) (readIdent_run found))
  · simp only [Option.some.injEq, Prod.mk.injEq] at found
    rw [← found.2]
    exact toNext

theorem keywordAt_run {buf : ByteArray} {c k : Nat} (keyword : keywordAt buf c = .ok k) :
    HeaderRun buf c k := by
  unfold keywordAt at keyword
  split at keyword
  · cases keyword
  · split at keyword
    · cases keyword
      exact matchWord_run ‹_› (by decide)
    · split at keyword
      · cases keyword
        exact matchWord_run ‹_› (by decide)
      · cases keyword

theorem stopper_of_commentEnd {buf : ByteArray} {j k : Nat} (found : commentEnd buf j = .ok (some k)) :
    ∃ c, at? buf j = some c ∧ isStopper c = true := by
  unfold commentEnd at found
  split at found
  · rename_i c present
    refine ⟨c, present, ?_⟩
    split at found
    · rename_i isHash
      simp [isStopper, eq_of_beq isHash]
    · split at found
      · rename_i dashes
        simp only [Bool.and_eq_true, beq_iff_eq] at dashes
        simp [isStopper, dashes.1.1]
      · split at found
        · rename_i slashes
          simp only [Bool.and_eq_true, beq_iff_eq] at slashes
          simp [isStopper, slashes.1]
        · cases found
  · cases found

theorem skipTrivia_run {buf : ByteArray} {p t : Nat} (skipped : skipTrivia buf p = .ok t) :
    HeaderRun buf p t ∨ StopsBefore buf p t := by
  revert skipped
  fun_induction skipTrivia buf p with
  | case1 => intro skipped; cases skipped
  | case2 i j _ _ =>
      intro skipped
      obtain rfl : j = t := Except.ok.inj skipped
      exact .inl (skipWhile_run isSpace (fun _ => plain_of_isSpace) buf i)
  | case3 i j _ k found _ _ _ _ =>
      intro skipped
      have far := skipTrivia_ge skipped
      have bounds := commentEnd_bounds found
      obtain ⟨c, present, stopper⟩ := stopper_of_commentEnd found
      exact .inr ((StopsBefore.of_stopper present stopper (by omega)).of_run
        (skipWhile_run isSpace (fun _ => plain_of_isSpace) buf i))
  | case4 i j _ =>
      intro skipped
      obtain rfl : j = t := Except.ok.inj skipped
      exact .inl (skipWhile_run isSpace (fun _ => plain_of_isSpace) buf i)

/-- A statement meets a stopper no later than its `;`. -/
theorem skipStatement_stopsBefore {buf : ByteArray} {i stop : Nat}
    (ended : skipStatement buf i = .ok stop) : StopsBefore buf i stop := by
  have bounds := skipStatement_bounds ended
  revert ended bounds
  fun_induction skipStatement buf i with
  | case1 i inBuffer isSemicolon =>
      intro _ bounds
      exact .of_stopper (at_of_lt inBuffer) (by simp [isStopper, eq_of_beq isSemicolon]) bounds.1
  | case2 i inBuffer _ isQuote next closed _ ih =>
      intro ended bounds
      simp only [Bool.or_eq_true, beq_iff_eq] at isQuote
      rcases isQuote with (single | double) | tick
      · exact .of_stopper (at_of_lt inBuffer) (by simp [isStopper, single]) bounds.1
      · exact .of_stopper (at_of_lt inBuffer) (by simp [isStopper, double]) bounds.1
      · have rest := ih ended (skipStatement_bounds ended)
        exact .of_run (.quoted (by rw [at_of_lt inBuffer, tick]) closed (.refl next)) rest
  | case3 => intro ended; cases ended
  | case4 => intro ended; cases ended
  | case5 i inBuffer _ _ isOpener _ _ =>
      intro _ bounds
      simp only [Bool.or_eq_true, beq_iff_eq] at isOpener
      exact .of_stopper (at_of_lt inBuffer) (by rcases isOpener with (same | same) | same <;>
        simp [isStopper, same]) bounds.1
  | case6 i inBuffer _ _ isOpener _ _ _ _ =>
      intro _ bounds
      simp only [Bool.or_eq_true, beq_iff_eq] at isOpener
      exact .of_stopper (at_of_lt inBuffer) (by rcases isOpener with (same | same) | same <;>
        simp [isStopper, same]) bounds.1
  | case7 i inBuffer notSemicolon notQuote notOpener ih =>
      intro ended bounds
      by_cases opens : buf[i] = openParen
      · exact .of_stopper (at_of_lt inBuffer) (by simp [isStopper, opens]) bounds.1
      · -- Any other byte is plain, and the statement goes on after it.
        have plain : isStopper buf[i] = false := by
          simp only [Bool.or_eq_true, beq_iff_eq, not_or] at notSemicolon notQuote notOpener
          simp [isStopper, notSemicolon, notQuote, notOpener, opens]
        have notTick : buf[i] ≠ backtick := by
          simp only [Bool.or_eq_true, beq_iff_eq, not_or] at notQuote
          exact notQuote.2
        exact .of_run (.byte (at_of_lt inBuffer) plain notTick (.refl (i + 1)))
          (ih ended (skipStatement_bounds ended))
  | case8 => intro ended; cases ended

/-- A `VALUES` clause meets a stopper no later than the `(` of its first tuple. -/
theorem valuesClause_stopsBefore {buf : ByteArray} {after body : Nat}
    (entered : valuesClause buf after = .ok body) : StopsBefore buf after (body + 1) := by
  obtain ⟨j, c, k, first, columns, keyword, trivia, _, paren⟩ := valuesClause_eq_ok.1 entered
  have ordered := columnsEnd_ge columns
  have advanced := keywordAt_gt keyword
  have last := skipTrivia_ge trivia
  have atBody : StopsBefore buf body (body + 1) :=
    .of_stopper (at_of_atEq paren) (by decide) (Nat.lt_succ_self body)
  rcases skipTrivia_run first with toColumns | commented
  · by_cases listed : atEq buf j openParen = true
    · exact (StopsBefore.of_stopper (at_of_atEq listed) (by decide) (by omega)).of_run toColumns
    · have bare : c = j := by
        unfold columnsEnd at columns
        rw [if_neg listed] at columns
        exact (Except.ok.inj columns).symm
      subst bare
      have toTrivia := toColumns.trans (keywordAt_run keyword)
      rcases skipTrivia_run trivia with toBody | commented
      · exact atBody.of_run (toTrivia.trans toBody)
      · exact (commented.mono (by omega)).of_run toTrivia
  · exact commented.mono (by omega)

/-! ## Reading the same header in two buffers -/

variable {u v : ByteArray} {m : Nat}

theorem skipWhile_stopsBefore_agree (agree : Agree u v m) {P : UInt8 → Bool}
    (plainP : ∀ c, P c = true → isStopper c = false ∧ c ≠ backtick) {p : Nat}
    (stops : StopsBefore u p m) : skipWhile P v p = skipWhile P u p :=
  skipWhile_agree agree P (stops.rest (skipWhile_run P plainP u p)).lt

theorem matchWord_stopsBefore_agree (agree : Agree u v m) {p : Nat} {word : String}
    (stops : StopsBefore u p m) (letters : wordLetters word = true) :
    matchWord u p word = matchWord v p word := by
  by_cases fits : p + word.toUTF8.size < m
  · exact matchWord_agree agree fits
  · obtain ⟨j, below, run, s, atJ, stop⟩ := stops
    have after := run.le
    have mismatch : ∀ w : ByteArray, at? w j = some s → matchWord w p word = false := by
      intro w atW
      cases found : matchWord w p word
      · rfl
      · obtain ⟨a, b, atBuf, atWord, same⟩ := matchWord_at found (k := j - p) (by omega)
        rw [show p + (j - p) = j by omega, atW, Option.some.injEq] at atBuf
        subst atBuf
        have letter := wordLetters_at letters atWord
        rw [← same] at letter
        exact absurd letter (UInt8.not_le.2 (foldByte_lt_of_stopper (Or.inl stop)))
    rw [mismatch u atJ, mismatch v (by rw [← agree j below]; exact atJ)]

theorem readIdent_stopsBefore_agree (agree : Agree u v m) {p : Nat} (stops : StopsBefore u p m) :
    readIdent u p = readIdent v p := by
  unfold readIdent
  rw [← agree p stops.lt]
  cases byte : at? u p with
  | none => rfl
  | some c =>
      simp only
      by_cases tick : c = backtick
      · subst tick
        obtain ⟨e, closed, rest⟩ := stops.quoted byte
        have below := rest.lt
        simp only [beq_self_eq_true, if_true]
        rw [closed, Literal.skipQuoted_agree agree closed below]
        simp only
        rw [agree.extract_eq (show e - 1 ≤ m by omega)]
      · simp only [beq_false_of_ne tick, Bool.false_eq_true, if_false]
        have atEnd := stops.rest (skipWhile_run isWordByte (fun _ => plain_of_isWordByte) u p)
        rw [skipWhile_stopsBefore_agree agree (fun _ => plain_of_isWordByte) stops,
          agree.extract_eq (Nat.le_of_lt atEnd.lt)]

theorem skipModifiers_stopsBefore_agree (agree : Agree u v m) {p : Nat}
    (stops : StopsBefore u p m) : skipModifiers v p = skipModifiers u p := by
  unfold skipModifiers
  have letters := modifiers_letters
  generalize modifiers = words at letters
  induction words generalizing p with
  | nil => rfl
  | cons word rest ih =>
      simp only [List.foldl_cons]
      have restLetters : ∀ w ∈ rest, wordLetters w = true :=
        fun w mem => letters w (List.mem_cons_of_mem _ mem)
      have same := matchWord_stopsBefore_agree agree stops (letters word List.mem_cons_self)
      rw [← same]
      by_cases found : matchWord u p word = true
      · -- The stopper is still ahead after the modifier and its blanks.
        have atWordEnd := stops.rest (matchWord_run found (letters word List.mem_cons_self))
        have space := skipWhile_stopsBefore_agree agree (fun _ => plain_of_isSpace) atWordEnd
        have atSpaceEnd :=
          atWordEnd.rest (skipWhile_run isSpace (fun _ => plain_of_isSpace) u _)
        rw [if_pos found, if_pos found]
        change List.foldl _ (skipWhile isSpace v (p + word.toUTF8.size)) rest =
          List.foldl _ (skipWhile isSpace u (p + word.toUTF8.size)) rest
        rw [space]
        exact ih atSpaceEnd restLetters
      · rw [if_neg found, if_neg found]
        exact ih stops restLetters

theorem insertHeader_stopsBefore_agree (agree : Agree u v m) {i : Nat}
    (stops : StopsBefore u i m) : insertHeader u i = insertHeader v i := by
  unfold insertHeader
  simp only
  rw [← matchWord_stopsBefore_agree agree stops (by decide),
    ← matchWord_stopsBefore_agree agree stops (by decide : wordLetters "REPLACE" = true)]
  split
  · rfl
  rename_i k keyword
  have atKeywordEnd := stops.rest (keyword_run keyword)
  have space : skipSpace v k = skipSpace u k :=
    skipWhile_stopsBefore_agree agree (fun _ => plain_of_isSpace) atKeywordEnd
  have atModifiers : StopsBefore u (skipSpace u k) m :=
    atKeywordEnd.rest (skipWhile_run isSpace (fun _ => plain_of_isSpace) u k)
  have modifiers := skipModifiers_stopsBefore_agree agree atModifiers
  have atName := atModifiers.rest (skipModifiers_run u _)
  rw [space, modifiers, ← readIdent_stopsBefore_agree agree atName]
  split
  · rfl
  rename_i name next found
  have atNext := atName.rest (readIdent_run found)
  rw [← agree.atEq_eq atNext.lt]
  split
  · rename_i qualified
    exact readIdent_stopsBefore_agree agree
      (atNext.rest (.byte (at_of_atEq qualified) (by decide) (by decide) (.refl _)))
  · rfl

end Statement

end WikiDump

