import WikiDump.Dump.Scan
/-!
# Where the scanning steps stop

Every step of the dump scanner moves forward from where it starts and, when it succeeds, stops
inside the buffer. The model's modules prove this for the loops that their own termination needs;
this module adds the bounds that a whole scan needs: trivia and column lists end inside the
buffer, the `VALUES` clause ends at a `(` inside it, and the search for the next target statement
moves forward and stops inside it.

A literal's value records where the literal starts, and a tuple read without fault holds values
whose offsets strictly increase from its `(` to before the position after its `)`
(`Tuple.read_offsets`). These are what make the offsets of a scan's values increase.

The `VALUES` clause is a `do` block; `Statement.valuesClause_eq` cuts it into the three steps it
takes, so that later proofs peel the steps apart with `bind_eq_ok` and never unfold it.
-/

namespace WikiDump

open Bytes

/-- A chain of fallible steps succeeds exactly when its first step does and the rest succeeds
from there. -/
theorem bind_eq_ok {ε α β : Type} {x : Except ε α} {f : α → Except ε β} {b : β} :
    x >>= f = .ok b ↔ ∃ a, x = .ok a ∧ f a = .ok b := by
  cases x <;> simp [bind, Except.bind]

namespace Statement

theorem skipTrivia_le_size {buf : ByteArray} {i j : Nat} (inside : i ≤ buf.size)
    (skipped : skipTrivia buf i = .ok j) : j ≤ buf.size := by
  revert inside skipped
  fun_induction skipTrivia buf i with
  | case1 => intro _ skipped; cases skipped
  | case2 i k inBuffer _ =>
      intro _ skipped
      rw [← Except.ok.inj skipped]
      exact Nat.le_of_lt inBuffer
  | case3 i k inBuffer next closes _ _ _ ih =>
      intro _ skipped
      exact ih (commentEnd_bounds closes).2 skipped
  | case4 i k past =>
      intro inside skipped
      rw [← Except.ok.inj skipped]
      exact skipWhile_le_size _ _ _ inside

theorem skipParens_le_size {buf : ByteArray} {i j : Nat} {depth : Int}
    (closed : skipParens buf i depth = .ok j) : j ≤ buf.size := by
  revert closed
  fun_induction skipParens buf i depth with
  | case1 _ _ _ _ ih => exact ih
  | case2 i _ inBuffer _ _ =>
      intro closed
      cases closed
      exact inBuffer
  | case3 _ _ _ _ _ _ ih => exact ih
  | case4 _ _ _ _ _ _ _ _ _ ih => exact ih
  | case5 => intro closed; cases closed
  | case6 _ _ _ _ _ _ ih => exact ih
  | case7 => intro closed; cases closed

/-! ### One step of `skipStatement`

At a byte inside the buffer, `skipStatement` ends at a `;`, skips a quoted token whole at a quote,
reads a comment at a comment opener, and passes over any other byte. Proofs about statements take
their step from these four equations instead of unfolding the recursion. -/

section skipStatementStep

variable {buf : ByteArray} {i : Nat} (inside : i < buf.size)

theorem skipStatement_at_semicolon (semicolonAt : (buf[i] == semicolon) = true) :
    skipStatement buf i = .ok (i + 1) := by
  rw [skipStatement, dif_pos inside, if_pos semicolonAt]

theorem skipStatement_at_quote (notSemicolon : ¬(buf[i] == semicolon) = true)
    (quote : (buf[i] == singleQuote || buf[i] == doubleQuote || buf[i] == backtick) = true) :
    skipStatement buf i = Literal.skipQuoted buf i >>= skipStatement buf := by
  rw [skipStatement, dif_pos inside, if_neg notSemicolon, if_pos quote]
  -- Both arms of the match are the bind at the answer the match found.
  split <;> rename_i quoted <;> exact (congrArg (· >>= skipStatement buf) quoted).symm

theorem skipStatement_at_opener (notSemicolon : ¬(buf[i] == semicolon) = true)
    (notQuote : ¬(buf[i] == singleQuote || buf[i] == doubleQuote || buf[i] == backtick) = true)
    (opener : (buf[i] == hash || buf[i] == minus || buf[i] == slash) = true) :
    skipStatement buf i =
      commentEnd buf i >>= fun ends => skipStatement buf (ends.getD (i + 1)) := by
  rw [skipStatement, dif_pos inside, if_neg notSemicolon, if_neg notQuote, if_pos opener]
  split <;> rename_i comment <;>
    exact (congrArg (· >>= fun ends => skipStatement buf (ends.getD (i + 1))) comment).symm

theorem skipStatement_at_other (notSemicolon : ¬(buf[i] == semicolon) = true)
    (notQuote : ¬(buf[i] == singleQuote || buf[i] == doubleQuote || buf[i] == backtick) = true)
    (notOpener : ¬(buf[i] == hash || buf[i] == minus || buf[i] == slash) = true) :
    skipStatement buf i = skipStatement buf (i + 1) := by
  rw [skipStatement, dif_pos inside, if_neg notSemicolon, if_neg notQuote, if_neg notOpener]

end skipStatementStep

theorem skipParens_at_quote {buf : ByteArray} {i : Nat} {depth : Int} (inside : i < buf.size)
    (notOpen : ¬(buf[i] == openParen) = true) (notClose : ¬(buf[i] == closeParen) = true)
    (quote : (buf[i] == singleQuote || buf[i] == doubleQuote || buf[i] == backtick) = true) :
    skipParens buf i depth = Literal.skipQuoted buf i >>= fun next => skipParens buf next depth := by
  rw [skipParens, dif_pos inside, if_neg notOpen, if_neg notClose, if_pos quote]
  split <;> rename_i quoted <;>
    exact (congrArg (· >>= fun next => skipParens buf next depth) quoted).symm

def columnsEnd (buf : ByteArray) (i : Nat) : Except ScanError Nat :=
  if atEq buf i openParen then skipParens buf i 0 >>= skipTrivia buf else pure i

def keywordAt (buf : ByteArray) (i : Nat) : Except ScanError Nat :=
  if i ≥ buf.size then .error (ScanError.endOfInput i "VALUES")
  else if matchWord buf i "VALUES" then .ok (i + 6)
  else if matchWord buf i "VALUE" then .ok (i + 5)
  else .error (ScanError.unexpected buf i "VALUES")

def openTuple (buf : ByteArray) (i : Nat) : Except ScanError Nat :=
  if i ≥ buf.size then .error (ScanError.endOfInput i "'('")
  else if !atEq buf i openParen then .error (ScanError.unexpected buf i "'('")
  else .ok i

def keywordEnd (buf : ByteArray) (i : Nat) : Except ScanError Nat := do
  if i ≥ buf.size then throw (ScanError.endOfInput i "VALUES")
  let k ←
    if matchWord buf i "VALUES" then pure (i + 6)
    else if matchWord buf i "VALUE" then pure (i + 5)
    else throw (ScanError.unexpected buf i "VALUES")
  let i ← skipTrivia buf k
  if i ≥ buf.size then throw (ScanError.endOfInput i "'('")
  if !atEq buf i openParen then throw (ScanError.unexpected buf i "'('")
  pure i

theorem keywordEnd_eq (buf : ByteArray) (i : Nat) :
    keywordEnd buf i = keywordAt buf i >>= skipTrivia buf >>= openTuple buf := by
  unfold keywordEnd keywordAt
  by_cases past : i ≥ buf.size
  · simp only [past, if_true]
    rfl
  · simp only [past, if_false]
    by_cases plural : matchWord buf i "VALUES"
    · simp only [plural, if_true, bind, Except.bind, pure, Except.pure, throw, throwThe,
        MonadExceptOf.throw]
      cases trivia : skipTrivia buf (i + 6) <;> simp [openTuple]
    · by_cases singular : matchWord buf i "VALUE"
      · simp only [plural, singular, if_true, bind, Except.bind, pure, Except.pure, throw,
          throwThe, MonadExceptOf.throw]
        cases trivia : skipTrivia buf (i + 5) <;> simp [openTuple, trivia]
      · simp only [plural, singular]
        rfl

/-- The `VALUES` clause is trivia, an optional column list, the keyword with its trivia, and the
`(` of the first tuple. -/
theorem valuesClause_eq (buf : ByteArray) (i : Nat) :
    valuesClause buf i =
      skipTrivia buf i >>= columnsEnd buf >>= keywordAt buf >>= skipTrivia buf >>= openTuple buf := by
  have split : valuesClause buf i = skipTrivia buf i >>= columnsEnd buf >>= keywordEnd buf := by
    unfold valuesClause
    cases skipTrivia buf i with
    | error e => rfl
    | ok j =>
        -- The `do` block joins its two column-list branches before the keyword.
        change (if atEq buf j openParen = true then
            (skipParens buf j 0 >>= skipTrivia buf) >>= keywordEnd buf
          else pure j >>= keywordEnd buf) = (columnsEnd buf j >>= keywordEnd buf)
        by_cases listed : atEq buf j openParen
        · have columns : columnsEnd buf j = skipParens buf j 0 >>= skipTrivia buf := by
            simp only [columnsEnd, listed, if_true]
          rw [if_pos listed, columns]
        · have columns : columnsEnd buf j = pure j := by
            simp only [columnsEnd, listed]
            rfl
          rw [if_neg listed, columns]
  rw [split]
  cases skipTrivia buf i >>= columnsEnd buf with
  | error e => rfl
  | ok c => exact keywordEnd_eq buf c

theorem columnsEnd_ge {buf : ByteArray} {i j : Nat} (skipped : columnsEnd buf i = .ok j) :
    i ≤ j := by
  unfold columnsEnd at skipped
  split at skipped
  · obtain ⟨k, closed, trivia⟩ := bind_eq_ok.1 skipped
    exact Nat.le_trans (skipParens_ge closed) (skipTrivia_ge trivia)
  · cases skipped
    exact Nat.le_refl i

theorem keywordAt_gt {buf : ByteArray} {i k : Nat} (keyword : keywordAt buf i = .ok k) : i < k := by
  unfold keywordAt at keyword
  split at keyword
  · cases keyword
  · split at keyword
    · cases keyword
      omega
    · split at keyword
      · cases keyword
        omega
      · cases keyword

theorem openTuple_eq_ok {buf : ByteArray} {i j : Nat} :
    openTuple buf i = .ok j ↔ j = i ∧ i < buf.size ∧ atEq buf i openParen = true := by
  unfold openTuple
  by_cases past : i ≥ buf.size
  · simp only [past, if_true, reduceCtorEq, false_iff, not_and]
    intro _ inside
    omega
  · by_cases paren : atEq buf i openParen <;> simp [past, paren] <;> omega

theorem valuesClause_eq_ok {buf : ByteArray} {i body : Nat} :
    valuesClause buf i = .ok body ↔
      ∃ j c k, skipTrivia buf i = .ok j ∧ columnsEnd buf j = .ok c ∧ keywordAt buf c = .ok k ∧
        skipTrivia buf k = .ok body ∧ body < buf.size ∧ atEq buf body openParen = true := by
  rw [valuesClause_eq]
  constructor
  · intro entered
    obtain ⟨b, rest, tuple⟩ := bind_eq_ok.1 entered
    obtain ⟨k, rest, trivia⟩ := bind_eq_ok.1 rest
    obtain ⟨c, rest, keyword⟩ := bind_eq_ok.1 rest
    obtain ⟨j, first, columns⟩ := bind_eq_ok.1 rest
    obtain ⟨same, inBuffer, paren⟩ := openTuple_eq_ok.1 tuple
    subst same
    exact ⟨j, c, k, first, columns, keyword, trivia, inBuffer, paren⟩
  · rintro ⟨j, c, k, first, columns, keyword, trivia, inBuffer, paren⟩
    simp [bind, Except.bind, first, columns, keyword, trivia, openTuple_eq_ok.2 ⟨rfl, inBuffer, paren⟩]

theorem valuesClause_bounds {buf : ByteArray} {i body : Nat}
    (entered : valuesClause buf i = .ok body) :
    i < body ∧ body < buf.size ∧ atEq buf body openParen = true := by
  obtain ⟨j, c, k, first, columns, keyword, trivia, inBuffer, paren⟩ :=
    valuesClause_eq_ok.1 entered
  have ordered := Nat.le_trans (skipTrivia_ge first) (columnsEnd_ge columns)
  have advanced := keywordAt_gt keyword
  have last := skipTrivia_ge trivia
  exact ⟨by omega, inBuffer, paren⟩

theorem lt_size_of_at {buf : ByteArray} {i : Nat} {c : UInt8} (present : at? buf i = some c) :
    i < buf.size := by
  unfold at? at present
  split at present
  · assumption
  · cases present

theorem lt_size_of_atEq {buf : ByteArray} {i : Nat} {c : UInt8} (present : atEq buf i c = true) :
    i < buf.size := by
  unfold atEq atIs at present
  split at present
  · rename_i b found
    exact lt_size_of_at found
  · cases present

end Statement

namespace Seek

def position : Seek → Nat
  | .finished i => i
  | .failed i _ => i
  | .entered body => body

/-- A search from `lo` in a buffer of `size` bytes: it ends exactly at the end, fails inside the
buffer, or enters a target statement whose first tuple starts inside it. -/
def Within (lo size : Nat) : Seek → Prop
  | .finished i => lo ≤ i ∧ i = size
  | .failed i _ => lo ≤ i ∧ i ≤ size
  | .entered body => lo ≤ body ∧ body < size

theorem Within.mono {lo lo' size : Nat} {found : Seek} (within : found.Within lo' size)
    (earlier : lo ≤ lo') : found.Within lo size := by
  cases found with
  | finished i => exact ⟨Nat.le_trans earlier within.1, within.2⟩
  | failed i e => exact ⟨Nat.le_trans earlier within.1, within.2⟩
  | entered body => exact ⟨Nat.le_trans earlier within.1, within.2⟩

end Seek

namespace Scan

theorem lt_of_target {buf table : ByteArray} {i after : Nat}
    (target : (match Statement.insertHeader buf i with
      | some (name, after) => if Statement.sameName name table then some after else none
      | none => none) = some after) : i < after := by
  split at target
  · rename_i name after' header
    split at target
    · cases target
      exact Statement.insertHeader_gt header
    · cases target
  · cases target

theorem seek_within {buf table : ByteArray} {pos : Nat} (inside : pos ≤ buf.size) :
    (seek buf table pos).Within pos buf.size := by
  revert inside
  fun_induction seek buf table pos with
  | case1 pos e _ => intro inside; exact ⟨Nat.le_refl pos, inside⟩
  | case2 pos i _ afterTrivia inBuffer _ ih =>
      intro _
      exact (ih inBuffer).mono (by omega)
  | case3 pos i _ afterTrivia inBuffer _ _ =>
      intro _
      exact ⟨afterTrivia, Nat.le_of_lt inBuffer⟩
  | case4 pos i _ afterTrivia _ _ _ target after chosen body entered =>
      intro _
      have named := lt_of_target chosen
      have bounds := Statement.valuesClause_bounds entered
      exact ⟨by omega, bounds.2.1⟩
  | case5 pos i _ afterTrivia inBuffer _ _ _ _ _ _ _ =>
      intro _
      exact ⟨afterTrivia, Nat.le_of_lt inBuffer⟩
  | case6 pos i _ afterTrivia _ _ _ _ _ stop skipped _ ih =>
      intro _
      have bounds := Statement.skipStatement_bounds skipped
      exact (ih bounds.2).mono (by omega)
  | case7 pos i _ afterTrivia inBuffer _ _ _ _ _ _ =>
      intro _
      exact ⟨afterTrivia, Nat.le_of_lt inBuffer⟩
  | case8 pos i trivia afterTrivia past =>
      intro inside
      exact ⟨afterTrivia, by have := Statement.skipTrivia_le_size inside trivia; omega⟩

end Scan

namespace Literal

theorem unescapeFrom_offset {buf out : ByteArray} {start i : Nat} {v : Value} {n : Nat}
    (read : unescapeFrom buf start i out = .ok (v, n)) : v.offset = start := by
  revert read
  fun_induction unescapeFrom buf start i out with
  | case1 _ _ _ _ _ _ _ ih => exact ih
  | case2 => intro read; cases read
  | case3 _ _ _ _ _ _ _ ih => exact ih
  | case4 => intro read; cases read; rfl
  | case5 _ _ _ _ _ _ ih => exact ih
  | case6 => intro read; cases read

theorem stringFrom_offset {buf : ByteArray} {start opening i : Nat} {v : Value} {n : Nat}
    (read : stringFrom buf start opening i = .ok (v, n)) : v.offset = start := by
  revert read
  fun_induction stringFrom buf start opening i with
  | case1 => exact unescapeFrom_offset
  | case2 => exact unescapeFrom_offset
  | case3 => intro read; cases read; rfl
  | case4 _ _ _ _ _ ih => exact ih
  | case5 => intro read; cases read

theorem exists_of_match_pair_eq_ok {β : Type} {part : Except ScanError (Nat × Bool)}
    {rest : Nat → Bool → Except ScanError β} {b : β}
    (read : (match part with
      | Except.error err => Except.error err
      | Except.ok (i, x) => rest i x) = Except.ok b) :
    ∃ i x, rest i x = .ok b := by
  cases part with
  | error err => cases read
  | ok p => exact ⟨p.1, p.2, read⟩

theorem readNumber_offset {buf : ByteArray} {pos : Nat} {v : Value} {n : Nat}
    (read : readNumber buf pos = .ok (v, n)) : v.offset = pos := by
  unfold readNumber at read
  simp only at read
  generalize (if (atEq buf pos minus || atEq buf pos plus) = true then pos + 1 else pos) = afterSign
    at read
  split at read
  · split at read <;> cases read
  · obtain ⟨i, hasFraction, read⟩ := exists_of_match_pair_eq_ok read
    obtain ⟨j, hasExponent, read⟩ := exists_of_match_pair_eq_ok read
    split at read
    · cases read
    · split at read
      · split at read
        · cases read
          rfl
        · cases read
      · split at read
        · cases read
          rfl
        · cases read

theorem read_offset {buf : ByteArray} {pos : Nat} {v : Value} {n : Nat}
    (read : Literal.read buf pos = .ok (v, n)) : v.offset = pos := by
  unfold Literal.read at read
  split at read
  · cases read
  · split at read
    · exact stringFrom_offset read
    · split at read
      · cases read; rfl
      · split at read
        · unfold readHex at read
          simp only at read
          split at read
          · cases read
          · cases read; rfl
        · split at read
          · unfold readQuotedHex at read
            simp only at read
            split at read
            · cases read
            · split at read
              · cases read
              · cases read; rfl
          · split at read
            · exact readNumber_offset read
            · split at read
              · unfold readIntroduced at read
                simp only at read
                split at read
                · cases read
                · split at read
                  · cases read
                  · split at read
                    · cases read
                    · exact stringFrom_offset read
              · cases read

end Literal

def OffsetsIn (values : List Value) (lo hi : Nat) : Prop :=
  (values.map Value.offset).Pairwise (· < ·) ∧ ∀ v ∈ values, lo ≤ v.offset ∧ v.offset < hi

namespace OffsetsIn

theorem nil (lo hi : Nat) : OffsetsIn [] lo hi := ⟨List.Pairwise.nil, by simp⟩

theorem mono {values : List Value} {lo hi hi' : Nat} (spread : OffsetsIn values lo hi)
    (wider : hi ≤ hi') : OffsetsIn values lo hi' :=
  ⟨spread.1, fun v member => ⟨(spread.2 v member).1, by have := (spread.2 v member).2; omega⟩⟩

theorem push {values : Array Value} {lo hi : Nat} {v : Value} (spread : OffsetsIn values.toList lo hi)
    (atEnd : v.offset = hi) (start : lo ≤ hi) : OffsetsIn (values.push v).toList lo (hi + 1) := by
  refine ⟨?_, ?_⟩
  · simp only [Array.toList_push, List.map_append, List.map_cons, List.map_nil]
    rw [List.pairwise_append]
    refine ⟨spread.1, List.pairwise_singleton _ _, ?_⟩
    intro a member b same
    simp only [List.mem_singleton] at same
    obtain ⟨w, wMember, rfl⟩ := List.mem_map.1 member
    rw [same, atEnd]
    exact (spread.2 w wMember).2
  · intro w member
    simp only [Array.toList_push, List.mem_append, List.mem_singleton] at member
    rcases member with old | rfl
    · have := spread.2 w old
      omega
    · omega

theorem append {values more : List Value} {lo mid hi : Nat}
    (first : OffsetsIn values lo mid) (second : OffsetsIn more mid hi) (start : lo ≤ mid)
    (ends : mid ≤ hi) :
    OffsetsIn (values ++ more) lo hi := by
  refine ⟨?_, ?_⟩
  · rw [List.map_append, List.pairwise_append]
    refine ⟨first.1, second.1, ?_⟩
    intro a inFirst b inSecond
    obtain ⟨v, vMember, rfl⟩ := List.mem_map.1 inFirst
    obtain ⟨w, wMember, rfl⟩ := List.mem_map.1 inSecond
    have := (first.2 v vMember).2
    have := (second.2 w wMember).1
    omega
  · intro v member
    rcases List.mem_append.1 member with old | new
    · have := first.2 v old
      omega
    · have := second.2 v new
      omega

theorem lower {values : List Value} {lo lo' hi : Nat} (spread : OffsetsIn values lo hi)
    (earlier : lo' ≤ lo) : OffsetsIn values lo' hi :=
  ⟨spread.1, fun v member => ⟨Nat.le_trans earlier (spread.2 v member).1, (spread.2 v member).2⟩⟩

end OffsetsIn

namespace Tuple

theorem readItems_offsets {buf : ByteArray} {start : Nat} {width : Int} {i lo : Nat}
    {values : Array Value} (clean : (readItems buf start width i values).error = none)
    (prior : OffsetsIn values.toList lo i) (lowest : lo ≤ i) :
    i < (readItems buf start width i values).next ∧
      (readItems buf start width i values).next ≤ buf.size ∧
      OffsetsIn (readItems buf start width i values).values.toList lo
        (readItems buf start width i values).next := by
  revert clean prior lowest
  fun_induction readItems buf start width i values with
  | case1 => intro clean; cases clean
  | case2 => intro clean; cases clean
  | case3 => intro clean; cases clean
  | case4 i values _ v n literal _ j c found isComma _ _ _ _ ih =>
      intro clean prior lowest
      have offset := Literal.read_offset literal
      have spaced : i ≤ j := Nat.le_trans (Nat.le_add_right i n) (le_skipSpace buf (i + n))
      have next := le_skipSpace buf (j + 1)
      have pushed := (prior.push offset lowest).mono (show i + 1 ≤ skipSpace buf (j + 1) by omega)
      have result := ih clean pushed (by omega)
      exact ⟨by omega, result.2⟩
  | case5 i values _ v n literal _ j c found _ _ _ =>
      intro _ prior lowest
      dsimp only
      have offset := Literal.read_offset literal
      have spaced : i ≤ j := Nat.le_trans (Nat.le_add_right i n) (le_skipSpace buf (i + n))
      have inBuffer := Statement.lt_size_of_at found
      exact ⟨by omega, inBuffer, (prior.push offset lowest).mono (by omega)⟩
  | case6 => intro clean; cases clean
  | case7 => intro clean; cases clean

/-- A tuple read without fault ends after its `(`, inside the buffer, and holds values whose
offsets strictly increase from the `(` on. -/
theorem read_offsets {buf : ByteArray} {pos : Nat} {width : Int}
    (clean : (read buf pos width).error = none) :
    pos < (read buf pos width).next ∧ (read buf pos width).next ≤ buf.size ∧
      OffsetsIn (read buf pos width).values.toList pos (read buf pos width).next := by
  unfold read at clean ⊢
  have first := le_skipSpace buf (pos + 1)
  cases found : at? buf pos with
  | none => simp [found] at clean
  | some c =>
      simp only [found] at clean ⊢
      by_cases isOpen : (c != openParen) = true
      · simp [isOpen] at clean
      · simp only [isOpen, Bool.false_eq_true, if_false] at clean ⊢
        by_cases closing : atEq buf (skipSpace buf (pos + 1)) closeParen = true
        · simp only [closing, if_true] at clean ⊢
          by_cases empty : width ≠ 0
          · simp [empty] at clean
          · simp only [empty, if_false]
            have inBuffer := Statement.lt_size_of_atEq closing
            exact ⟨by omega, by omega, OffsetsIn.nil _ _⟩
        · simp only [closing, Bool.false_eq_true, if_false] at clean ⊢
          have items := readItems_offsets clean (OffsetsIn.nil pos _) (by omega)
          exact ⟨by omega, items.2⟩

end Tuple

end WikiDump

