import WikiDump.Proofs.ScanRun
/-!
# The rows a scan yields

A scan is a state machine, but what it yields from a point on depends only on its buffer, its
decoder and where it stands. This module gives that dependence as a big-step semantics:

* `Scan.statementRows`: the rows of a target statement from one of its tuples on, with the
  position after the `;` that ends the statement, or the error that stops the scan inside it;
* `Scan.rowsFrom`: the rows of every target statement from a position between statements on,
  with the error that stops the scan, if one does;
* `Scan.pending`: what a scan in any state has still to yield.

One call of `next` either yields the first pending row and leaves the others pending, or stops
with the pending error (`Scan.next_answers`). So a whole run collects what was pending when it
began (`Scan.collect_eq_pending`), and the scan of a buffer collects `rowsFrom` its start
(`Scan.collect_whole`).
-/

namespace WikiDump

namespace Scan

open Bytes

variable {R : Type}

theorem seek_entered {buf table : ByteArray} {pos body : Nat}
    (entered : seek buf table pos = .entered body) : pos ≤ body ∧ body < buf.size := by
  revert entered
  fun_induction seek buf table pos with
  | case1 => intro entered; cases entered
  | case2 pos i _ afterTrivia inBuffer _ ih =>
      intro entered
      have further := ih entered
      exact ⟨by omega, further.2⟩
  | case3 => intro entered; cases entered
  | case4 pos i _ afterTrivia _ _ _ target after chosen body' found =>
      intro entered
      cases entered
      have named := lt_of_target chosen
      have bounds := Statement.valuesClause_bounds found
      exact ⟨by omega, bounds.2.1⟩
  | case5 => intro entered; cases entered
  | case6 pos i _ afterTrivia _ _ _ _ _ stop skipped _ ih =>
      intro entered
      have further := ih entered
      have bounds := Statement.skipStatement_bounds skipped
      exact ⟨by omega, further.2⟩
  | case7 => intro entered; cases entered
  | case8 => intro entered; cases entered

/-- The rows of a target statement from its tuple at `pos` on, and the position after the `;`
that ends it, or the error that stops the scan inside it. -/
def statementRows (dec : Decoder R) (buf : ByteArray) (pos : Nat) :
    List R × Except ScanError Nat :=
  let t := Tuple.read buf pos dec.width
  match clean : t.error with
  | some e => ([], .error (e.inTable dec.table))
  | none =>
    have := Tuple.read_offsets clean
    match dec.decodeRow t.values with
    | .error e => ([], .error e)
    | .ok row =>
      let i := skipSpace buf t.next
      match at? buf i with
      | none => ([row], .error (ScanError.endOfInput i "',' or ';'"))
      | some c =>
        if c == comma then
          let rest := statementRows dec buf (skipSpace buf (i + 1))
          (row :: rest.1, rest.2)
        else if c == semicolon then ([row], .ok (i + 1))
        else ([row], .error (ScanError.unexpected buf i "',' or ';'"))
termination_by buf.size - pos
decreasing_by
  have spaced := Tuple.le_skipSpace buf (Tuple.read buf pos dec.width).next
  have after := Tuple.le_skipSpace buf (skipSpace buf (Tuple.read buf pos dec.width).next + 1)
  omega

theorem statementRows_end {dec : Decoder R} {buf : ByteArray} {pos stop : Nat}
    (ended : (statementRows dec buf pos).2 = .ok stop) : pos < stop ∧ stop ≤ buf.size := by
  revert ended
  fun_induction statementRows dec buf pos with
  | case1 => intro ended; cases ended
  | case2 => intro ended; cases ended
  | case3 => intro ended; cases ended
  | case4 pos t clean read row decoded i c found isComma _ ih =>
      intro ended
      have bounds : pos < t.next ∧ t.next ≤ buf.size := ⟨read.1, read.2.1⟩
      have spaced : t.next ≤ i := Tuple.le_skipSpace buf t.next
      have after := Tuple.le_skipSpace buf (i + 1)
      have further := ih ended
      exact ⟨by omega, further.2⟩
  | case5 pos t clean read row decoded i c found notComma isSemicolon =>
      intro ended
      cases ended
      have bounds : pos < t.next ∧ t.next ≤ buf.size := ⟨read.1, read.2.1⟩
      have spaced : t.next ≤ i := Tuple.le_skipSpace buf t.next
      have inBuffer := Statement.lt_size_of_at found
      exact ⟨by omega, by omega⟩
  | case6 => intro ended; cases ended

/-! ## One round of the search -/

def target (buf table : ByteArray) (i : Nat) : Option Nat :=
  match Statement.insertHeader buf i with
  | some (name, after) => if Statement.sameName name table then some after else none
  | none => none

theorem seek_trivia_error {buf table : ByteArray} {pos : Nat} {e : ScanError}
    (failed : Statement.skipTrivia buf pos = .error e) : seek buf table pos = .failed pos e := by
  rw [seek]
  split
  · rename_i e' failed'
    rw [failed, Except.error.injEq] at failed'
    rw [failed']
  · rename_i i trivia
    rw [failed] at trivia
    cases trivia

theorem seek_end {buf table : ByteArray} {pos i : Nat}
    (trivia : Statement.skipTrivia buf pos = .ok i) (past : buf.size ≤ i) :
    seek buf table pos = .finished i := by
  rw [seek]
  split
  · rename_i e failed
    rw [trivia] at failed
    cases failed
  · rename_i j trivia'
    rw [trivia, Except.ok.injEq] at trivia'
    subst trivia'
    rw [dif_neg (Nat.not_lt_of_le past)]

theorem seek_round {buf table : ByteArray} {pos i : Nat} {c : UInt8}
    (trivia : Statement.skipTrivia buf pos = .ok i) (found : at? buf i = some c) :
    seek buf table pos =
      if c == semicolon then seek buf table (i + 1)
      else if !isWordByte c then .failed i (ScanError.unexpected buf i "statement")
      else
        match target buf table i with
        | some after =>
          match Statement.valuesClause buf after with
          | .ok body => .entered body
          | .error e => .failed i e
        | none =>
          match Statement.skipStatement buf i with
          | .ok stop => seek buf table stop
          | .error e => .failed i e := by
  have inBuffer := Statement.lt_size_of_at found
  have byte : buf[i] = c := by
    unfold at? at found
    rw [dif_pos inBuffer, Option.some.injEq] at found
    exact found
  rw [seek]
  split
  · rename_i e failed
    rw [trivia] at failed
    cases failed
  · rename_i j trivia'
    rw [trivia, Except.ok.injEq] at trivia'
    subst trivia'
    rw [dif_pos inBuffer, byte]
    by_cases isSemicolon : (c == semicolon) = true
    · simp only [isSemicolon, if_true]
    · by_cases notWord : (!isWordByte c) = true
      · simp only [isSemicolon, notWord, Bool.false_eq_true, if_true, if_false]
      · simp only [isSemicolon, notWord, Bool.false_eq_true, if_false]
        -- the header gives the target, then the clause or the statement's end decides
        split
        · rename_i chosen after header
          have named : target buf table i = some after := header
          exact named ▸ rfl
        · rename_i chosen header
          have other : target buf table i = none := header
          rw [other]
          split
          · rename_i stop skipped
            rw [skipped]
          · rename_i e skipped
            rw [skipped]

/-- What remains of a target statement after a tuple that ended at `pos`: a `,` leads to its
next tuple and a `;` ends it. -/
def afterRows (dec : Decoder R) (buf : ByteArray) (pos : Nat) : List R × Except ScanError Nat :=
  let i := skipSpace buf pos
  match at? buf i with
  | none => ([], .error (ScanError.endOfInput i "',' or ';'"))
  | some c =>
    if c == comma then statementRows dec buf (skipSpace buf (i + 1))
    else if c == semicolon then ([], .ok (i + 1))
    else ([], .error (ScanError.unexpected buf i "',' or ';'"))

theorem statementRows_eq (dec : Decoder R) (buf : ByteArray) (pos : Nat) :
    statementRows dec buf pos =
      match (Tuple.read buf pos dec.width).error with
      | some e => ([], .error (e.inTable dec.table))
      | none =>
        match dec.decodeRow (Tuple.read buf pos dec.width).values with
        | .error e => ([], .error e)
        | .ok row =>
          (row :: (afterRows dec buf (Tuple.read buf pos dec.width).next).1,
            (afterRows dec buf (Tuple.read buf pos dec.width).next).2) := by
  rw [statementRows]
  split
  · rename_i e tupleError
    simp only [tupleError]
  · rename_i tupleError
    simp only [tupleError]
    split
    · rfl
    · simp only [afterRows]
      split
      · rfl
      · split
        · rfl
        · split <;> rfl

theorem statementRows_of_row {dec : Decoder R} {buf : ByteArray} {pos : Nat} {row : R}
    (clean : (Tuple.read buf pos dec.width).error = none)
    (decoded : dec.decodeRow (Tuple.read buf pos dec.width).values = .ok row) :
    statementRows dec buf pos =
      (row :: (afterRows dec buf (Tuple.read buf pos dec.width).next).1,
        (afterRows dec buf (Tuple.read buf pos dec.width).next).2) := by
  rw [statementRows_eq]
  simp only [clean, decoded]

theorem statementRows_past {dec : Decoder R} {buf : ByteArray} {pos : Nat} (past : buf.size ≤ pos) :
    statementRows dec buf pos =
      ([], .error ((ScanError.endOfInput pos "'('").inTable dec.table)) := by
  have absent : at? buf pos = none := by
    unfold at?
    rw [dif_neg (Nat.not_lt_of_le past)]
  rw [statementRows_eq]
  simp [Tuple.read, absent]

/-- The rows of every target statement from `pos`, a position between statements, on, and the
error that stops the scan, if one does. -/
def rowsFrom (dec : Decoder R) (buf : ByteArray) (pos : Nat) : List R × Option ScanError :=
  match entered : seek buf dec.table.toUTF8 pos with
  | .finished _ => ([], none)
  | .failed _ e => ([], some e)
  | .entered body =>
    have := seek_entered entered
    match ended : (statementRows dec buf body).2 with
    | .error e => ((statementRows dec buf body).1, some e)
    | .ok stop =>
      have := statementRows_end ended
      let rest := rowsFrom dec buf stop
      ((statementRows dec buf body).1 ++ rest.1, rest.2)
termination_by buf.size - pos

def thenRows (dec : Decoder R) (buf : ByteArray) (part : List R × Except ScanError Nat) :
    List R × Option ScanError :=
  match part.2 with
  | .error e => (part.1, some e)
  | .ok stop => (part.1 ++ (rowsFrom dec buf stop).1, (rowsFrom dec buf stop).2)

theorem rowsFrom_eq (dec : Decoder R) (buf : ByteArray) (pos : Nat) :
    rowsFrom dec buf pos =
      match seek buf dec.table.toUTF8 pos with
      | .finished _ => ([], none)
      | .failed _ e => ([], some e)
      | .entered body => thenRows dec buf (statementRows dec buf body) := by
  rw [rowsFrom]
  split
  · rename_i i found
    simp only [found]
  · rename_i i e found
    simp only [found]
  · rename_i body found
    simp only [found, thenRows]
    split
    · rename_i e ended
      simp only [ended]
    · rename_i stop ended
      simp only [ended]

@[simp] theorem thenRows_cons (dec : Decoder R) (buf : ByteArray) (row : R) (rows : List R)
    (next : Except ScanError Nat) :
    thenRows dec buf (row :: rows, next) =
      (row :: (thenRows dec buf (rows, next)).1, (thenRows dec buf (rows, next)).2) := by
  cases next <;> rfl

theorem prefix_thenRows (dec : Decoder R) (buf : ByteArray) (part : List R × Except ScanError Nat) :
    part.1 <+: (thenRows dec buf part).1 := by
  unfold thenRows
  split
  · exact List.prefix_refl _
  · exact List.prefix_append _ _

@[simp] theorem thenRows_nil_ok (dec : Decoder R) (buf : ByteArray) (stop : Nat) :
    thenRows dec buf ([], .ok stop) = rowsFrom dec buf stop := rfl

/-! ## The rows from one statement to the next -/

theorem rowsFrom_semicolon {dec : Decoder R} {buf : ByteArray} {pos i : Nat}
    (trivia : Statement.skipTrivia buf pos = .ok i) (found : at? buf i = some semicolon) :
    rowsFrom dec buf pos = rowsFrom dec buf (i + 1) := by
  rw [rowsFrom_eq, seek_round trivia found, rowsFrom_eq]
  simp only [beq_self_eq_true, if_true]

theorem rowsFrom_target {dec : Decoder R} {buf : ByteArray} {pos i after : Nat} {c : UInt8}
    (trivia : Statement.skipTrivia buf pos = .ok i) (found : at? buf i = some c)
    (notSemicolon : (c == semicolon) = false) (word : isWordByte c = true)
    (named : target buf dec.table.toUTF8 i = some after) :
    rowsFrom dec buf pos =
      match Statement.valuesClause buf after with
      | .ok body => thenRows dec buf (statementRows dec buf body)
      | .error e => ([], some e) := by
  rw [rowsFrom_eq, seek_round trivia found]
  simp only [notSemicolon, word, Bool.not_true, Bool.false_eq_true, if_false, named]
  cases Statement.valuesClause buf after <;> rfl

theorem rowsFrom_other {dec : Decoder R} {buf : ByteArray} {pos i : Nat} {c : UInt8}
    (trivia : Statement.skipTrivia buf pos = .ok i) (found : at? buf i = some c)
    (notSemicolon : (c == semicolon) = false) (word : isWordByte c = true)
    (other : target buf dec.table.toUTF8 i = none) :
    rowsFrom dec buf pos =
      match Statement.skipStatement buf i with
      | .ok stop => rowsFrom dec buf stop
      | .error e => ([], some e) := by
  rw [rowsFrom_eq, seek_round trivia found]
  simp only [notSemicolon, word, Bool.not_true, Bool.false_eq_true, if_false, other]
  cases Statement.skipStatement buf i with
  | ok stop =>
      dsimp only
      rw [rowsFrom_eq]
  | error e => rfl

theorem thenRows_clean {dec : Decoder R} {buf : ByteArray} {part : List R × Except ScanError Nat}
    (clean : (thenRows dec buf part).2 = none) :
    ∃ stop, part.2 = .ok stop ∧ (rowsFrom dec buf stop).2 = none := by
  unfold thenRows at clean
  split at clean
  · cases clean
  · rename_i stop ended
    exact ⟨stop, ended, clean⟩

theorem rowsFrom_round_clean {dec : Decoder R} {buf : ByteArray} {pos i : Nat} {c : UInt8}
    (trivia : Statement.skipTrivia buf pos = .ok i) (found : at? buf i = some c)
    (notSemicolon : (c == semicolon) = false) (word : isWordByte c = true)
    (clean : (rowsFrom dec buf pos).2 = none) :
    (∃ after body stop, target buf dec.table.toUTF8 i = some after ∧
        Statement.valuesClause buf after = .ok body ∧ (statementRows dec buf body).2 = .ok stop ∧
        (rowsFrom dec buf stop).2 = none) ∨
      (∃ stop, target buf dec.table.toUTF8 i = none ∧ Statement.skipStatement buf i = .ok stop ∧
        (rowsFrom dec buf stop).2 = none) := by
  cases named : target buf dec.table.toUTF8 i with
  | some after =>
      rw [rowsFrom_target trivia found notSemicolon word named] at clean
      cases entered : Statement.valuesClause buf after with
      | error e =>
          rw [entered] at clean
          cases clean
      | ok body =>
          rw [entered] at clean
          obtain ⟨stop, ended, rest⟩ := thenRows_clean clean
          exact .inl ⟨after, body, stop, rfl, entered, ended, rest⟩
  | none =>
      rw [rowsFrom_other trivia found notSemicolon word named] at clean
      cases skipped : Statement.skipStatement buf i with
      | error e =>
          rw [skipped] at clean
          cases clean
      | ok stop =>
          rw [skipped] at clean
          exact .inr ⟨stop, rfl, rfl, clean⟩

/-- What a scan has still to yield: the rows, in order, and the error that will stop it. -/
def pending (s : Scan R) : List R × Option ScanError :=
  match s.state with
  | .scanning => rowsFrom s.decoder s.buf s.pos
  | .skipping =>
    match Statement.skipStatement s.buf s.pos with
    | .ok stop => rowsFrom s.decoder s.buf stop
    | .error e => ([], some e)
  | .inTarget =>
    thenRows s.decoder s.buf
      (if s.afterTuple then afterRows s.decoder s.buf s.pos else statementRows s.decoder s.buf s.pos)
  | .done => ([], s.error)
  | .failed => ([], s.error)

theorem pending_of_stopped {s : Scan R} (stopped : s.Stopped) : pending s = ([], s.error) := by
  rcases stopped with done | failed
  · simp [pending, done]
  · simp [pending, failed]

/-- A call's answer agrees with what was pending before it: a yielded row is the first pending
one and the others stay pending; a stop carries the pending error. -/
def Answers (step : Bool × Scan R) (out : List R × Option ScanError) : Prop :=
  if step.1 then ∃ row, step.2.row = some row ∧ out = (row :: (pending step.2).1, (pending step.2).2)
  else out = ([], step.2.error)

theorem answers_fail (s : Scan R) (e : ScanError) : Answers (false, s.fail e) ([], some e) := by
  simp [Answers]

theorem readRow_answers {s : Scan R} (inTarget : s.state = .inTarget) :
    Answers s.readRow (thenRows s.decoder s.buf (statementRows s.decoder s.buf s.pos)) := by
  rw [statementRows_eq]
  unfold readRow
  dsimp only
  cases (Tuple.read s.buf s.pos s.decoder.width).error with
  | some e => exact answers_fail _ _
  | none =>
      cases s.decoder.decodeRow (Tuple.read s.buf s.pos s.decoder.width).values with
      | error e => exact answers_fail _ _
      | ok row =>
          simp only [thenRows_cons, Answers, if_true]
          exact ⟨row, rfl, by simp [pending, inTarget]⟩

theorem enter_answers {s : Scan R} (noError : s.error = none) (pos : Nat) :
    Answers (s.enter pos) (rowsFrom s.decoder s.buf pos) := by
  rw [rowsFrom_eq]
  unfold enter
  cases seek s.buf s.decoder.table.toUTF8 pos with
  | finished i => simp [Answers, noError]
  | failed i e => exact answers_fail _ _
  | entered body => exact readRow_answers rfl

/-- One call of `next` on a scan that has not stopped answers what was pending. -/
theorem next_answers {s : Scan R} (live : ¬ s.Stopped) (noError : s.error = none) :
    Answers s.next (pending s) := by
  cases state : s.state with
  | scanning =>
      simp only [next, pending, state]
      exact enter_answers noError s.pos
  | skipping =>
      simp only [next, pending, state]
      cases skipped : Statement.skipStatement s.buf s.pos with
      | ok stop => exact enter_answers noError stop
      | error e => exact answers_fail _ _
  | inTarget =>
      simp only [next, pending, state]
      cases afterTuple : s.afterTuple with
      | true =>
          simp only [if_true, afterRows]
          cases found : at? s.buf (skipSpace s.buf s.pos) with
          | none => exact answers_fail _ _
          | some c =>
              dsimp only
              by_cases isComma : (c == comma) = true
              · simp only [isComma, if_true]
                exact readRow_answers rfl
              · by_cases isSemicolon : (c == semicolon) = true
                · simp only [isComma, isSemicolon, Bool.false_eq_true, if_true, if_false,
                    thenRows_nil_ok]
                  exact enter_answers (by exact noError) _
                · simp only [isComma, isSemicolon, Bool.false_eq_true, if_false]
                  exact answers_fail _ _
      | false =>
          simp only [Bool.false_eq_true, if_false]
          exact readRow_answers state
  | done => exact absurd (.inl state) live
  | failed => exact absurd (.inr state) live

theorem next_advances {s : Scan R} (live : ¬ s.Stopped) (inside : s.pos ≤ s.buf.size)
    (yielded : s.next.1 = true) : s.pos < s.next.2.pos := by
  obtain ⟨_, _, start, row, after, clean, next, _, _⟩ := (next_steps live inside).yields yielded
  have bounds := Tuple.read_offsets clean
  omega

theorem runFuel_collects {s : Scan R} (consistent : s.Consistent) {fuel : Nat}
    (enough : s.buf.size - s.pos < fuel) :
    ((runFuel s fuel).1.map (·.1), (runFuel s fuel).2.error) = pending s := by
  induction fuel generalizing s with
  | zero => omega
  | succ fuel ih =>
      by_cases stopped : s.Stopped
      · rw [runFuel, next_of_stopped stopped, pending_of_stopped stopped]
        rfl
      · have answers := next_answers stopped (consistent.error_eq_none stopped)
        have advances := next_advances stopped consistent.inside
        have steps := next_steps stopped consistent.inside
        have consistent' := consistent.next
        rcases step : s.next with ⟨yielded, s'⟩
        rw [step] at answers advances steps consistent'
        cases yielded with
        | false =>
            simp only [Answers, Bool.false_eq_true, if_false] at answers
            simp [runFuel, step, answers]
        | true =>
            simp only [Answers, if_true] at answers
            obtain ⟨row, newRow, pendingEq⟩ := answers
            have forward := advances rfl
            have inside := steps.inside
            have further := ih consistent' (by rw [steps.buf]; omega)
            rw [pendingEq, ← further]
            simp [runFuel, step, newRow]

theorem collect_eq_pending {s : Scan R} (consistent : s.Consistent) : s.collect = pending s := by
  have collected := runFuel_collects consistent (show s.buf.size - s.pos < s.buf.size + 1 by omega)
  unfold collect run
  exact collected

theorem collect_start (buf : ByteArray) (region : Region) (dec : Decoder R)
    (ordered : region.start ≤ region.stop) (fits : region.stop ≤ buf.size) :
    (start buf region dec).collect = rowsFrom dec (buf.extract 0 region.stop) region.start := by
  rw [collect_eq_pending (start_consistent buf region dec ordered fits)]
  rfl

theorem collect_whole (buf : ByteArray) (dec : Decoder R) :
    (whole buf dec).collect = rowsFrom dec buf 0 := by
  rw [whole, collect_start buf _ dec (Nat.zero_le _) (Nat.le_refl _), Region.whole,
    ByteArray.extract_zero_size]

end Scan

end WikiDump

