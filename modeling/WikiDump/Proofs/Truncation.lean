import WikiDump.Proofs.HeaderLocality
import WikiDump.Proofs.TupleLocality
import WikiDump.Proofs.ScanRows
/-!
# A dump cut short

The scan of a dump cut at byte `k` sees the bytes before `k` as the scan of the whole dump does.
Every reader of the scanner decides from the bytes up to where it stops and a byte or two of
lookahead (`Agree`), so whatever the scan of the cut dump reads without fault, the scan of the
whole dump reads the same way: the rows of the cut dump are the first rows of the whole dump.

Nor does a cut go unnoticed inside a statement. A statement, as the scan of the whole dump
delimits it (`Scan.statementSpans`), runs from its first byte to the `;` that ends it. The scan
of a dump cut strictly inside one meets the cut before that `;`, and no reader takes the end of
its buffer for the end of a statement, so it ends in an error.

Both halves are proved for two buffers `u` and `v` that agree up to the end of `u`, the cut dump
being `u`.
-/

namespace WikiDump

namespace Scan

open Bytes Statement

variable {R : Type} {u v : ByteArray} {m : Nat}

/-! ## The search for a target statement -/

theorem plainAt_of_statement {buf : ByteArray} {i : Nat} {c : UInt8} (found : at? buf i = some c)
    (opens : c = semicolon ∨ isWordByte c = true) : PlainAt buf i := by
  intro c' present
  rw [found, Option.some.injEq] at present
  subst present
  rcases opens with same | word
  · subst same
    exact ⟨by decide, by decide⟩
  · have plain := (Statement.plain_of_isWordByte word).1
    constructor
    · intro dash
      subst dash
      exact absurd plain (by decide)
    · intro opensSlash
      subst opensSlash
      exact absurd plain (by decide)

theorem target_run {buf table : ByteArray} {i after : Nat}
    (named : target buf table i = some after) : HeaderRun buf i after := by
  unfold target at named
  split at named
  · rename_i name after' header
    split at named
    · cases named
      exact insertHeader_run header
    · cases named
  · cases named

theorem target_stopsBefore {buf table : ByteArray} {i after body : Nat}
    (named : target buf table i = some after) (entered : valuesClause buf after = .ok body) :
    StopsBefore buf i (body + 1) :=
  (valuesClause_stopsBefore entered).of_run (target_run named)

theorem target_agree (agree : Agree u v m) {table : ByteArray} {i : Nat}
    (stops : StopsBefore u i m) : target v table i = target u table i := by
  unfold target
  rw [insertHeader_stopsBefore_agree agree stops]

theorem seek_entered_agree (agree : Agree u v m) {table : ByteArray} {pos body : Nat}
    (entered : seek u table pos = .entered body) (stops : body < m) :
    seek v table pos = .entered body := by
  revert entered stops
  fun_induction seek u table pos with
  | case1 => intro entered; cases entered
  | case2 pos i trivia afterTrivia inBuffer isSemicolon ih =>
      intro entered stops
      have further := seek_entered entered
      have found := at_of_lt inBuffer
      have triviaV := skipTrivia_agree agree trivia (by omega)
        (plainAt_of_statement found (.inl (eq_of_beq isSemicolon)))
      rw [seek_round triviaV ((agree i (by omega)).symm.trans found)]
      simp only [isSemicolon, if_true]
      exact ih entered stops
  | case4 pos i trivia afterTrivia inBuffer notSemicolon word _ after chosen body' found =>
      intro entered stops
      cases entered
      have named : target u table i = some after := chosen
      have ahead := lt_of_target chosen
      have bounds := valuesClause_bounds found
      have foundU := at_of_lt inBuffer
      have wordByte : isWordByte u[i] = true := by simpa using word
      have triviaV := skipTrivia_agree agree trivia (by omega)
        (plainAt_of_statement foundU (.inr wordByte))
      have targetV : target v table i = target u table i :=
        target_agree agree ((target_stopsBefore named found).mono stops)
      rw [seek_round triviaV ((agree i (by omega)).symm.trans foundU)]
      simp only [notSemicolon, word, Bool.false_eq_true, if_false, targetV, named,
        valuesClause_agree agree found stops]
  | case6 pos i trivia afterTrivia inBuffer notSemicolon word _ chosen stop skipped _ ih =>
      intro entered stops
      have further := seek_entered entered
      have other : target u table i = none := chosen
      have bounds := skipStatement_bounds skipped
      have foundU := at_of_lt inBuffer
      have wordByte : isWordByte u[i] = true := by simpa using word
      have triviaV := skipTrivia_agree agree trivia (by omega)
        (plainAt_of_statement foundU (.inr wordByte))
      have targetV : target v table i = target u table i :=
        target_agree agree ((skipStatement_stopsBefore skipped).mono (show stop ≤ m by omega))
      rw [seek_round triviaV ((agree i (by omega)).symm.trans foundU)]
      simp only [notSemicolon, word, Bool.false_eq_true, if_false, targetV, other,
        skipStatement_agree agree skipped (show stop ≤ m by omega)]
      exact ih entered stops
  | case3 => intro entered; cases entered
  | case5 => intro entered; cases entered
  | case7 => intro entered; cases entered
  | case8 => intro entered; cases entered

/-! ## The rows of a cut dump come first in the whole one -/

theorem statementRows_row_agree (agree : Agree u v m) {dec : Decoder R} {pos : Nat} {row : R}
    (clean : (Tuple.read u pos dec.width).error = none)
    (decoded : dec.decodeRow (Tuple.read u pos dec.width).values = .ok row)
    (stops : (Tuple.read u pos dec.width).next ≤ m) :
    statementRows dec v pos =
      (row :: (afterRows dec v (Tuple.read u pos dec.width).next).1,
        (afterRows dec v (Tuple.read u pos dec.width).next).2) := by
  have same := Tuple.read_agree agree clean stops
  rw [statementRows_of_row (by rw [same]; exact clean) (by rw [same]; exact decoded), same]

theorem afterRows_comma_agree (agree : Agree u v m) {dec : Decoder R} {next : Nat}
    (found : at? u (skipSpace u next) = some comma) (inside : skipSpace u next < m) :
    afterRows dec v next = statementRows dec v (skipSpace v (skipSpace u next + 1)) := by
  have spaceV : skipSpace v next = skipSpace u next := skipWhile_agree agree isSpace inside
  have foundV : at? v (skipSpace u next) = some comma := (agree _ inside).symm.trans found
  simp only [afterRows, spaceV, foundV, beq_self_eq_true, if_true]

theorem afterRows_semicolon_agree (agree : Agree u v m) {dec : Decoder R} {next : Nat}
    (found : at? u (skipSpace u next) = some semicolon) (inside : skipSpace u next < m) :
    afterRows dec v next = ([], .ok (skipSpace u next + 1)) := by
  have spaceV : skipSpace v next = skipSpace u next := skipWhile_agree agree isSpace inside
  have foundV : at? v (skipSpace u next) = some semicolon := (agree _ inside).symm.trans found
  have notComma : (semicolon == comma) = false := by decide
  simp only [afterRows, spaceV, foundV, notComma, Bool.false_eq_true, if_false, beq_self_eq_true,
    if_true]

theorem statementRows_stops_agree (agree : Agree u v m) {dec : Decoder R} {pos stop : Nat}
    (ended : (statementRows dec u pos).2 = .ok stop) (stops : stop ≤ m) :
    statementRows dec v pos = statementRows dec u pos := by
  revert ended
  fun_induction statementRows dec u pos with
  | case1 => intro ended; cases ended
  | case2 => intro ended; cases ended
  | case3 => intro ended; cases ended
  | case4 pos t clean read row decoded i c found isComma rest ih =>
      intro ended
      have later := (statementRows_end ended).1
      have spaced : t.next ≤ i := Tuple.le_skipSpace u t.next
      have beyond := Tuple.le_skipSpace u (i + 1)
      have isComma' : c = comma := eq_of_beq isComma
      subst isComma'
      have nextV : skipSpace v (i + 1) = skipSpace u (i + 1) :=
        skipWhile_agree agree isSpace (show skipSpace u (i + 1) < m by omega)
      rw [statementRows_row_agree agree clean decoded (show t.next ≤ m by omega),
        afterRows_comma_agree agree found (show i < m by omega), nextV, ih ended]
  | case5 pos t clean read row decoded i c found notComma isSemicolon =>
      intro ended
      cases ended
      have isSemicolon' : c = semicolon := eq_of_beq isSemicolon
      subst isSemicolon'
      have spaced : t.next ≤ i := Tuple.le_skipSpace u t.next
      rw [statementRows_row_agree agree clean decoded (show t.next ≤ m by omega),
        afterRows_semicolon_agree agree found (show i < m by omega)]
  | case6 => intro ended; cases ended

theorem statementRows_agree (agree : Agree u v u.size) (dec : Decoder R) (pos : Nat) :
    (statementRows dec u pos).1 <+: (statementRows dec v pos).1 ∧
      ∀ stop, (statementRows dec u pos).2 = .ok stop →
        statementRows dec v pos = statementRows dec u pos := by
  refine ⟨?_, fun stop ended => statementRows_stops_agree agree ended (statementRows_end ended).2⟩
  fun_induction statementRows dec u pos with
  | case1 => exact List.nil_prefix
  | case2 => exact List.nil_prefix
  | case3 pos t clean read row decoded i absent =>
      rw [statementRows_row_agree agree clean decoded read.2.1]
      exact (List.prefix_cons_inj row).2 List.nil_prefix
  | case4 pos t clean read row decoded i c found isComma rest ih =>
      have inside := lt_size_of_at found
      have isComma' : c = comma := eq_of_beq isComma
      subst isComma'
      rw [statementRows_row_agree agree clean decoded read.2.1,
        afterRows_comma_agree agree found inside]
      -- the next tuple begins inside `u`, or the reading of `u` stops at its end
      by_cases more : skipSpace u (i + 1) < u.size
      · rw [show skipSpace v (i + 1) = skipSpace u (i + 1) from skipWhile_agree agree isSpace more]
        exact (List.prefix_cons_inj row).2 ih
      · rw [show rest = statementRows dec u (skipSpace u (i + 1)) from rfl,
          statementRows_past (Nat.le_of_not_lt more)]
        exact (List.prefix_cons_inj row).2 List.nil_prefix
  | case5 pos t clean read row decoded i c found notComma isSemicolon =>
      have isSemicolon' : c = semicolon := eq_of_beq isSemicolon
      subst isSemicolon'
      have foundAfter : at? u (skipSpace u (Tuple.read u pos dec.width).next) = some semicolon := found
      simp only [statementRows_row_agree agree clean decoded read.2.1,
        afterRows_semicolon_agree agree foundAfter (lt_size_of_at found), List.prefix_refl]
  | case6 pos t clean read row decoded i c found notComma notSemicolon =>
      rw [statementRows_row_agree agree clean decoded read.2.1]
      exact (List.prefix_cons_inj row).2 List.nil_prefix

theorem rowsFrom_agree_rows (agree : Agree u v u.size) (dec : Decoder R) (pos : Nat) :
    (rowsFrom dec u pos).1 <+: (rowsFrom dec v pos).1 := by
  fun_induction rowsFrom dec u pos with
  | case1 => exact List.nil_prefix
  | case2 => exact List.nil_prefix
  | case3 pos body entered _ e ended =>
      rw [rowsFrom_eq, seek_entered_agree agree entered (seek_entered entered).2]
      exact (statementRows_agree agree dec body).1.trans (prefix_thenRows dec v _)
  | case4 pos body entered _ stop ended _ _ ih =>
      rw [rowsFrom_eq, seek_entered_agree agree entered (seek_entered entered).2]
      dsimp only
      rw [(statementRows_agree agree dec body).2 stop ended]
      simp only [thenRows, ended]
      exact (List.prefix_append_right_inj _).2 ih

/-! ## A cut inside a statement -/

/-- The statements from `pos` on, as the scan of `buf` delimits them: for each, its first byte
and the position after the `;` that ends it. The list ends at the end of the buffer, or before
the first statement the scan stops inside. -/
def spansFrom (dec : Decoder R) (buf : ByteArray) (pos : Nat) : List (Nat × Nat) :=
  match trivia : skipTrivia buf pos with
  | .error _ => []
  | .ok i =>
    match found : at? buf i with
    | none => []
    | some c =>
      have := skipTrivia_ge trivia
      have := lt_size_of_at found
      if c == semicolon then (i, i + 1) :: spansFrom dec buf (i + 1)
      else if !isWordByte c then []
      else
        match named : target buf dec.table.toUTF8 i with
        | some after =>
          match entered : valuesClause buf after with
          | .ok body =>
            match ended : (statementRows dec buf body).2 with
            | .ok stop =>
              have := lt_of_target named
              have := valuesClause_bounds entered
              have := statementRows_end ended
              (i, stop) :: spansFrom dec buf stop
            | .error _ => []
          | .error _ => []
        | none =>
          match skipped : skipStatement buf i with
          | .ok stop =>
            have := skipStatement_bounds skipped
            (i, stop) :: spansFrom dec buf stop
          | .error _ => []
termination_by buf.size - pos

/-- The statements of a buffer, as its scan delimits them. -/
def statementSpans (dec : Decoder R) (buf : ByteArray) : List (Nat × Nat) := spansFrom dec buf 0

theorem spansFrom_bounds {dec : Decoder R} {buf : ByteArray} {pos : Nat} :
    ∀ span ∈ spansFrom dec buf pos, pos ≤ span.1 ∧ span.1 < span.2 ∧ span.2 ≤ buf.size := by
  fun_induction spansFrom dec buf pos with
  | case1 => intro span member; cases member
  | case2 => intro span member; cases member
  | case3 pos i trivia c found afterTrivia inBuffer isSemicolon ih =>
      intro span member
      rcases List.mem_cons.1 member with rfl | later
      · exact ⟨afterTrivia, Nat.lt_succ_self i, inBuffer⟩
      · have further := ih span later
        exact ⟨by omega, further.2⟩
  | case4 => intro span member; cases member
  | case5 pos i trivia c found afterTrivia inBuffer notSemicolon word after named body entered stop
      ended ahead bodyBounds stopBounds ih =>
      intro span member
      rcases List.mem_cons.1 member with rfl | later
      · exact ⟨afterTrivia, by omega, stopBounds.2⟩
      · have further := ih span later
        exact ⟨by omega, further.2⟩
  | case6 => intro span member; cases member
  | case7 => intro span member; cases member
  | case8 pos i trivia c found afterTrivia inBuffer notSemicolon word other stop skipped stopBounds
      ih =>
      intro span member
      rcases List.mem_cons.1 member with rfl | later
      · exact ⟨afterTrivia, stopBounds.1, stopBounds.2⟩
      · have further := ih span later
        exact ⟨by omega, further.2⟩
  | case9 => intro span member; cases member

theorem statement_start_cut (agree : Agree u v u.size) {pos i : Nat} {c : UInt8}
    (trivia : skipTrivia v pos = .ok i) (found : at? v i = some c)
    (opens : c = semicolon ∨ isWordByte c = true) (inside : i < u.size) :
    skipTrivia u pos = .ok i ∧ at? u i = some c :=
  ⟨skipTrivia_agree agree.symm trivia inside (plainAt_of_statement found opens),
    (agree i inside).trans found⟩

theorem target_cut (agree : Agree u v u.size) {table : ByteArray} {i : Nat}
    (decided : (∃ after body, target u table i = some after ∧ valuesClause u after = .ok body) ∨
      (target u table i = none ∧ ∃ stop, skipStatement u i = .ok stop)) :
    target v table i = target u table i := by
  rcases decided with ⟨after, body, named, entered⟩ | ⟨_, stop, skipped⟩
  · have inside := (valuesClause_bounds entered).2.1
    exact target_agree agree ((target_stopsBefore named entered).mono inside)
  · exact target_agree agree ((skipStatement_stopsBefore skipped).mono (skipStatement_bounds skipped).2)

theorem spans_within_cut (agree : Agree u v u.size) (dec : Decoder R) (pos : Nat)
    (clean : (rowsFrom dec u pos).2 = none) :
    ∀ span ∈ spansFrom dec v pos, span.1 < u.size → span.2 ≤ u.size := by
  revert clean
  fun_induction spansFrom dec v pos with
  | case1 => intro _ span member; cases member
  | case2 => intro _ span member; cases member
  | case3 pos i trivia c found afterTrivia inBuffer isSemicolon ih =>
      intro clean span member
      have semi : c = semicolon := eq_of_beq isSemicolon
      rcases List.mem_cons.1 member with rfl | later
      · intro inside
        exact inside
      · by_cases inside : i < u.size
        · obtain ⟨triviaU, foundU⟩ := statement_start_cut agree trivia found (.inl semi) inside
          rw [semi] at foundU
          rw [rowsFrom_semicolon triviaU foundU] at clean
          exact ih clean span later
        · have further := (spansFrom_bounds span later).1
          intro below
          omega
  | case4 => intro _ span member; cases member
  | case5 pos i trivia c found afterTrivia inBuffer notSemicolon word after named body entered stop
      ended ahead bodyBounds stopBounds ih =>
      intro clean span member
      have notSemi : (c == semicolon) = false := by simpa using notSemicolon
      have wordByte : isWordByte c = true := by simpa using word
      by_cases inside : i < u.size
      · obtain ⟨triviaU, foundU⟩ := statement_start_cut agree trivia found (.inr wordByte) inside
        rcases rowsFrom_round_clean triviaU foundU notSemi wordByte clean with
          ⟨after', body', stop', namedU, enteredU, endedU, rest⟩ | ⟨stop', otherU, skippedU, rest⟩
        · -- the statement is the same target in `u`, and ends at the same `;` there
          have targetV := target_cut agree (.inl ⟨after', body', namedU, enteredU⟩)
          rw [named, namedU, Option.some.injEq] at targetV
          subst targetV
          rw [valuesClause_agree agree enteredU (valuesClause_bounds enteredU).2.1,
            Except.ok.injEq] at entered
          subst entered
          rw [(statementRows_agree agree dec body').2 stop' endedU, endedU, Except.ok.injEq] at ended
          subst ended
          rcases List.mem_cons.1 member with rfl | later
          · intro _
            exact (statementRows_end endedU).2
          · exact ih rest span later
        · have targetV := target_cut agree (.inr ⟨otherU, stop', skippedU⟩)
          rw [named, otherU] at targetV
          cases targetV
      · -- the statement begins past the end of `u`, and so do all after it
        intro below
        rcases List.mem_cons.1 member with rfl | later
        · exact absurd below inside
        · have further := (spansFrom_bounds span later).1
          omega
  | case6 => intro _ span member; cases member
  | case7 => intro _ span member; cases member
  | case8 pos i trivia c found afterTrivia inBuffer notSemicolon word other stop skipped stopBounds
      ih =>
      intro clean span member
      have notSemi : (c == semicolon) = false := by simpa using notSemicolon
      have wordByte : isWordByte c = true := by simpa using word
      by_cases inside : i < u.size
      · obtain ⟨triviaU, foundU⟩ := statement_start_cut agree trivia found (.inr wordByte) inside
        rcases rowsFrom_round_clean triviaU foundU notSemi wordByte clean with
          ⟨after', body', stop', namedU, enteredU, endedU, rest⟩ | ⟨stop', otherU, skippedU, rest⟩
        · have targetV := target_cut agree (.inl ⟨after', body', namedU, enteredU⟩)
          rw [other, namedU] at targetV
          cases targetV
        · -- the statement is passed over in `u` up to the same `;`
          rw [skipStatement_agree agree skippedU (skipStatement_bounds skippedU).2,
            Except.ok.injEq] at skipped
          subst skipped
          rcases List.mem_cons.1 member with rfl | later
          · intro _
            exact (skipStatement_bounds skippedU).2
          · exact ih rest span later
      · intro below
        rcases List.mem_cons.1 member with rfl | later
        · exact absurd below inside
        · have further := (spansFrom_bounds span later).1
          omega
  | case9 => intro _ span member; cases member

/-- A dump cut at byte `k`: the rows its scan yields are the first rows the scan of the whole dump
yields, and where the cut falls strictly inside a statement of the whole dump, between its
first byte and the `;` that ends it, the scan of the cut dump ends in an error. -/
theorem truncated_collect (buf : ByteArray) (dec : Decoder R) (k : Nat) :
    (whole (buf.extract 0 k) dec).collect.1 <+: (whole buf dec).collect.1 ∧
      ∀ span ∈ statementSpans dec buf, span.1 < k → k < span.2 →
        (whole (buf.extract 0 k) dec).collect.2.isSome := by
  have cutSize : (buf.extract 0 k).size = min k buf.size := by simp
  have agree : Agree (buf.extract 0 k) buf (buf.extract 0 k).size :=
    (agree_extract buf k).mono (by omega)
  rw [collect_whole, collect_whole]
  refine ⟨rowsFrom_agree_rows agree dec 0, ?_⟩
  intro span member starts cut
  have bounds := spansFrom_bounds span member
  cases clean : (rowsFrom dec (buf.extract 0 k) 0).2 with
  | some e => rfl
  | none =>
      have within := spans_within_cut agree dec 0 clean span member (by omega)
      omega

end Scan

end WikiDump


