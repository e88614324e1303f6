import WikiDump.Proofs.Relocation
import WikiDump.Proofs.ScanRows
import WikiDump.Proofs.HeaderLocality
import WikiDump.Schema.Table
/-!
# A scan of a region is the scan of the region's bytes, moved

A scan of the region `[start, stop)` of a buffer reads the buffer cut at `stop`, from `start` on.
No reader looks behind where it starts, so the bytes before `start` only push everything
`start` bytes further: the scan does, call after call, what the scan of the region's bytes alone
does, with its position and every offset of its errors larger by `start`
(`Scan.region_scan_moves`).

The rows follow the decoder. A decoder relocates when decoding values moved `d` bytes further
gives a row related to the row of the values, or their error moved by `d`
(`Decoder.Relocates`). The raw decoder relocates with its rows moved: the values it is given are
the other scan's values moved. The decoder of a table relocates with its rows unchanged, since a
column reads only the content of a literal and only its error says where the literal stands.

The proof relates the two scans by `Scan.Moved`, which one call of `next` keeps
(`Scan.next_moved`), built from what each reader does after a prefix.
-/

namespace WikiDump

open Bytes

variable {R : Type}

/-- Two results of decoding, the first from values moved `d` bytes further than the second's:
rows related by `rel`, or the same error moved by `d`. -/
inductive Relocated (d : Nat) (rel : R → R → Prop) : Except ScanError R → Except ScanError R → Prop
  | ok {moved row : R} : rel moved row → Relocated d rel (.ok moved) (.ok row)
  | error (e : ScanError) : Relocated d rel (.error (e.shift d)) (.error e)

/-- A decoder relocates by `d` with `rel` when the values of a tuple, moved `d` bytes further,
decode to a row related by `rel` to the row of the values themselves, or fail with their error
moved by `d`. -/
def Decoder.Relocates (dec : Decoder R) (d : Nat) (rel : R → R → Prop) : Prop :=
  ∀ values : Array Value,
    Relocated d rel (dec.decodeRow (values.map (Value.shift d))) (dec.decodeRow values)

theorem Decoder.raw_relocates (table : String) (width d : Nat) :
    (Decoder.raw table width).Relocates d (fun moved row => moved = row.map (Value.shift d)) :=
  fun _ => .ok rfl

theorem Value.raw_shift (v : Value) (d : Nat) : (v.shift d).raw = v.raw := by
  rcases v with ⟨content, offset⟩
  cases content <;> rfl

theorem Converter.convert_shift (conv : Converter) (nullable : Bool) (v : Value) (d : Nat) :
    conv.convert nullable (v.shift d).content = conv.convert nullable v.content := by
  rcases v with ⟨content, offset⟩
  cases content with
  | text t => cases conv <;> rfl
  | null => rfl
  | integer n => rfl
  | float x => rfl

namespace Table

theorem decodeFrom_relocated (table : String) (d : Nat) :
    ∀ (index : Nat) (columns : List Column) (values : List Value),
      Relocated d Eq (decodeFrom table index columns (values.map (Value.shift d)))
        (decodeFrom table index columns values)
  | _, [], _ => .ok rfl
  | index, c :: cs, v :: vs => by
      simp only [List.map_cons, decodeFrom, Converter.convert_shift]
      cases c.converter.convert c.nullable v.content with
      | error e =>
          dsimp only
          rw [Value.raw_shift]
          exact .error (.rowDecode table index c.name v.raw v.offset e)
      | ok datum =>
          -- The rest of the row relocates; a row that goes on is the same datum before it.
          have rest := decodeFrom_relocated table d (index + 1) cs vs
          revert rest
          generalize decodeFrom table (index + 1) cs (vs.map (Value.shift d)) = moved
          generalize decodeFrom table (index + 1) cs vs = row
          intro rest
          cases rest with
          | ok same => exact .ok (congrArg (datum :: ·) same)
          | error e => exact .error e
  | _, _ :: _, [] => .ok rfl

theorem decoder_relocates (t : Table) (d : Nat) : t.decoder.Relocates d Eq := by
  intro values
  change Relocated d Eq (decodeFrom t.name 0 t.columns (values.map (Value.shift d)).toList)
    (decodeFrom t.name 0 t.columns values.toList)
  rw [Array.toList_map]
  exact decodeFrom_relocated t.name d 0 t.columns values.toList

end Table

theorem ScanError.inTable_shift (e : ScanError) (table : String) (d : Nat) :
    (e.shift d).inTable table = (e.inTable table).shift d := by
  cases e <;> rfl

/-- What a search finds `d` bytes further into a buffer: the same, moved. -/
def Seek.shift (d : Nat) : Seek → Seek
  | .finished pos => .finished (d + pos)
  | .failed pos e => .failed (d + pos) (e.shift d)
  | .entered body => .entered (d + body)

namespace Scan

variable {w v : ByteArray}

theorem target_moved (table : ByteArray) (i : Nat) :
    target (w ++ v) table (w.size + i) = (target v table i).map (w.size + ·) := by
  unfold target
  rw [Statement.insertHeader_moved]
  cases Statement.insertHeader v i with
  | none => rfl
  | some found =>
      obtain ⟨name, after⟩ := found
      simp only [Option.map_some, Prod.map_apply, id]
      split <;> rfl

theorem skipTrivia_moved_ok {pos i : Nat} (trivia : Statement.skipTrivia v pos = .ok i) :
    Statement.skipTrivia (w ++ v) (w.size + pos) = .ok (w.size + i) := by
  rw [Statement.skipTrivia_moved, trivia]
  rfl

theorem at_moved_of_lt {i : Nat} (inBuffer : i < v.size) : at? (w ++ v) (w.size + i) = some v[i] := by
  rw [at_moved]
  exact Statement.at_of_lt inBuffer

theorem seek_moved (table : ByteArray) (pos : Nat) :
    seek (w ++ v) table (w.size + pos) = (seek v table pos).shift w.size := by
  fun_induction seek v table pos with
  | case1 pos e failed =>
      rw [seek_trivia_error (by rw [Statement.skipTrivia_moved, failed]; rfl)]
      rfl
  | case2 pos i trivia afterTrivia inBuffer isSemicolon ih =>
      rw [seek_round (skipTrivia_moved_ok trivia) (at_moved_of_lt inBuffer)]
      simp only [isSemicolon, ↓reduceIte, Nat.add_assoc]
      exact ih
  | case3 pos i trivia afterTrivia inBuffer notSemicolon notWord =>
      rw [seek_round (skipTrivia_moved_ok trivia) (at_moved_of_lt inBuffer)]
      simp only [notSemicolon, notWord, Bool.false_eq_true, ↓reduceIte,
        ScanError.unexpected_moved]
      rfl
  | case4 pos i trivia afterTrivia inBuffer notSemicolon word _ after chosen body found =>
      have named : target v table i = some after := chosen
      rw [seek_round (skipTrivia_moved_ok trivia) (at_moved_of_lt inBuffer)]
      simp only [notSemicolon, word, Bool.false_eq_true, ↓reduceIte, target_moved, named,
        Option.map_some, Statement.valuesClause_moved, found, moveResult_ok]
      rfl
  | case5 pos i trivia afterTrivia inBuffer notSemicolon word _ after chosen e failed =>
      have named : target v table i = some after := chosen
      rw [seek_round (skipTrivia_moved_ok trivia) (at_moved_of_lt inBuffer)]
      simp only [notSemicolon, word, Bool.false_eq_true, ↓reduceIte, target_moved, named,
        Option.map_some, Statement.valuesClause_moved, failed, moveResult_error]
      rfl
  | case6 pos i trivia afterTrivia inBuffer notSemicolon word _ chosen stop skipped _ ih =>
      have other : target v table i = none := chosen
      rw [seek_round (skipTrivia_moved_ok trivia) (at_moved_of_lt inBuffer)]
      simp only [notSemicolon, word, Bool.false_eq_true, ↓reduceIte, target_moved, other,
        Option.map_none, Statement.skipStatement_moved, skipped, moveResult_ok]
      exact ih
  | case7 pos i trivia afterTrivia inBuffer notSemicolon word _ chosen e failed =>
      have other : target v table i = none := chosen
      rw [seek_round (skipTrivia_moved_ok trivia) (at_moved_of_lt inBuffer)]
      simp only [notSemicolon, word, Bool.false_eq_true, ↓reduceIte, target_moved, other,
        Option.map_none, Statement.skipStatement_moved, failed, moveResult_error]
      rfl
  | case8 pos i trivia afterTrivia past =>
      rw [seek_end (skipTrivia_moved_ok trivia) (by rw [ByteArray.size_append]; omega)]
      rfl

/-- Two scans in step, the first reading `w ++ v` where the second reads `v`: the first stands
`w.size` bytes further, its error is the second's moved, its row is related to the second's by
`rel`, they agree on all else, and their decoder relocates by `w.size` with `rel`. -/
structure Moved (w : ByteArray) (rel : R → R → Prop) (s₁ s₂ : Scan R) : Prop where
  buf : s₁.buf = w ++ s₂.buf
  decoder : s₁.decoder = s₂.decoder
  relocates : s₂.decoder.Relocates w.size rel
  pos : s₁.pos = w.size + s₂.pos
  state : s₁.state = s₂.state
  afterTuple : s₁.afterTuple = s₂.afterTuple
  row : Option.Rel rel s₁.row s₂.row
  error : s₁.error = s₂.error.map (ScanError.shift w.size)
  rows : s₁.rows = s₂.rows
  statements : s₁.statements = s₂.statements

variable {rel : R → R → Prop} {s₁ s₂ : Scan R}

theorem Moved.fail (moved : Moved w rel s₁ s₂) {e₁ e₂ : ScanError}
    (same : e₁ = e₂.shift w.size) : Moved w rel (s₁.fail e₁) (s₂.fail e₂) :=
  { moved with state := rfl, row := .none, error := by rw [fail_error, fail_error, same]; rfl }

theorem readRow_moved (moved : Moved w rel s₁ s₂) :
    s₁.readRow.1 = s₂.readRow.1 ∧ Moved w rel s₁.readRow.2 s₂.readRow.2 := by
  have read : Tuple.read s₁.buf s₁.pos s₁.decoder.width =
      (Tuple.read s₂.buf s₂.pos s₂.decoder.width).shift w.size := by
    rw [moved.buf, moved.pos, moved.decoder, Tuple.read_moved]
  have decode : s₁.decoder.decodeRow = s₂.decoder.decodeRow := by rw [moved.decoder]
  unfold readRow
  rw [read, decode]
  generalize Tuple.read s₂.buf s₂.pos s₂.decoder.width = t
  rcases t with ⟨values, next, error⟩
  cases error with
  | some e =>
      dsimp only [TupleRead.shift_mk, Option.map_some]
      exact ⟨rfl, moved.fail (by rw [moved.decoder, ScanError.inTable_shift])⟩
  | none =>
      dsimp only [TupleRead.shift_mk, Option.map_none]
      -- The decoder is given the values moved, and relocates.
      have decoded := moved.relocates values
      revert decoded
      generalize s₂.decoder.decodeRow (values.map (Value.shift w.size)) = movedRow
      generalize s₂.decoder.decodeRow values = row
      intro decoded
      cases decoded with
      | ok related =>
          refine ⟨rfl, ?_⟩
          exact
            { moved with
              pos := rfl
              afterTuple := rfl
              row := .some related
              rows := by rw [moved.rows] }
      | error e => exact ⟨rfl, moved.fail rfl⟩

theorem enter_moved (moved : Moved w rel s₁ s₂) (pos : Nat) :
    (s₁.enter (w.size + pos)).1 = (s₂.enter pos).1 ∧
      Moved w rel (s₁.enter (w.size + pos)).2 (s₂.enter pos).2 := by
  have found : seek s₁.buf s₁.decoder.table.toUTF8 (w.size + pos) =
      (seek s₂.buf s₂.decoder.table.toUTF8 pos).shift w.size := by
    rw [moved.buf, moved.decoder, seek_moved]
  unfold enter
  rw [found]
  cases seek s₂.buf s₂.decoder.table.toUTF8 pos with
  | finished i => exact ⟨rfl, { moved with pos := rfl, state := rfl }⟩
  | failed i e =>
      refine ⟨rfl, Moved.fail ?_ rfl⟩
      exact { moved with pos := rfl }
  | entered body =>
      refine readRow_moved ?_
      exact
        { moved with
          pos := rfl
          state := rfl
          afterTuple := rfl
          statements := by rw [moved.statements] }

/-- One call of `next` keeps two scans in step, and both answer alike. -/
theorem next_moved (moved : Moved w rel s₁ s₂) :
    s₁.next.1 = s₂.next.1 ∧ Moved w rel s₁.next.2 s₂.next.2 := by
  have sameState := moved.state
  unfold next
  cases state : s₂.state with
  | scanning =>
      rw [state] at sameState
      simp only [sameState]
      rw [moved.pos]
      exact enter_moved moved s₂.pos
  | skipping =>
      rw [state] at sameState
      simp only [sameState]
      have skipped : Statement.skipStatement s₁.buf s₁.pos =
          moveResult w.size (w.size + ·) (Statement.skipStatement s₂.buf s₂.pos) := by
        rw [moved.buf, moved.pos, Statement.skipStatement_moved]
      rw [skipped]
      cases Statement.skipStatement s₂.buf s₂.pos with
      | ok stop => exact enter_moved moved stop
      | error e => exact ⟨rfl, moved.fail rfl⟩
  | inTarget =>
      rw [state] at sameState
      have sameAfter := moved.afterTuple
      simp only [sameState]
      cases after : s₂.afterTuple with
      | false =>
          rw [after] at sameAfter
          simp only [sameAfter, Bool.false_eq_true, ↓reduceIte]
          exact readRow_moved moved
      | true =>
          rw [after] at sameAfter
          -- After a tuple, the byte past the blanks decides, at the same place moved.
          have spaced : skipSpace s₁.buf s₁.pos = w.size + skipSpace s₂.buf s₂.pos := by
            rw [moved.buf, moved.pos, skipSpace_moved]
          have found : at? s₁.buf (skipSpace s₁.buf s₁.pos) = at? s₂.buf (skipSpace s₂.buf s₂.pos) := by
            rw [spaced, moved.buf, at_moved]
          simp only [sameAfter, ↓reduceIte, found]
          cases at? s₂.buf (skipSpace s₂.buf s₂.pos) with
          | none =>
              refine ⟨rfl, Moved.fail ?_ ?_⟩
              · exact { moved with state := rfl, afterTuple := rfl }
              · rw [spaced, ScanError.shift_endOfInput]
          | some c =>
              by_cases isComma : (c == comma) = true
              · simp only [isComma, ↓reduceIte]
                refine readRow_moved ?_
                exact
                  { moved with
                    state := rfl
                    afterTuple := rfl
                    pos := by rw [spaced, moved.buf, Nat.add_assoc, skipSpace_moved] }
              · by_cases isSemicolon : (c == semicolon) = true
                · simp only [isComma, isSemicolon, Bool.false_eq_true, ↓reduceIte]
                  rw [spaced, Nat.add_assoc]
                  refine enter_moved ?_ _
                  exact { moved with state := rfl, afterTuple := rfl }
                · simp only [isComma, isSemicolon, Bool.false_eq_true, ↓reduceIte, true_and]
                  refine Moved.fail ?_ ?_
                  · exact { moved with state := rfl, afterTuple := rfl }
                  · rw [spaced, moved.buf, ScanError.unexpected_moved]
  | done =>
      rw [state] at sameState
      simp only [sameState, true_and]
      exact moved
  | failed =>
      rw [state] at sameState
      simp only [sameState, true_and]
      exact moved

theorem after_moved (moved : Moved w rel s₁ s₂) (n : Nat) :
    Moved w rel (s₁.after n) (s₂.after n) ∧ (s₁.after n).next.1 = (s₂.after n).next.1 := by
  induction n with
  | zero => exact ⟨moved, (next_moved moved).1⟩
  | succ n ih =>
      have stepped := (next_moved ih.1).2
      rw [after_succ, after_succ]
      exact ⟨stepped, (next_moved stepped).1⟩

theorem start_moved (buf : ByteArray) (r : Region) (dec : Decoder R)
    (ordered : r.start ≤ r.stop) (inside : r.stop ≤ buf.size)
    (relocates : dec.Relocates r.start rel) :
    Moved (buf.extract 0 r.start) rel (start buf r dec)
      (whole (buf.extract r.start r.stop) dec) := by
  have size : (buf.extract 0 r.start).size = r.start := by
    rw [ByteArray.size_extract]
    omega
  exact {
    buf := by
      simp only [start, whole, Region.whole, ByteArray.extract_zero_size]
      exact ByteArray.extract_eq_extract_append_extract r.start (Nat.zero_le _) ordered
    decoder := rfl
    relocates := by
      rw [size]
      exact relocates
    pos := by simp only [start, whole, Region.whole, size, Nat.add_zero]
    state := rfl
    afterTuple := rfl
    row := .none
    error := rfl
    rows := rfl
    statements := rfl }

/-- `region` does what `cut` does, `d` bytes further into its buffer: its next call answers
alike, it is in the same state with the same counts of rows and of target statements, it stands
`d` bytes further, its error is the other's with every offset `d` bytes further, and its row is
related to the other's by `rel`. -/
structure Tracks (d : Nat) (rel : R → R → Prop) (region cut : Scan R) : Prop where
  answers : region.next.1 = cut.next.1
  state : region.state = cut.state
  rows : region.rows = cut.rows
  statements : region.statements = cut.statements
  pos : region.pos = d + cut.pos
  error : region.error = cut.error.map (ScanError.shift d)
  row : Option.Rel rel region.row cut.row

/-- A scan of a region within a buffer, with a decoder that relocates by the region's start,
tracks the scan of the region's bytes alone after any number of calls. -/
theorem region_scan_moves (buf : ByteArray) (r : Region) (dec : Decoder R) (rel : R → R → Prop)
    (ordered : r.start ≤ r.stop) (inside : r.stop ≤ buf.size)
    (relocates : dec.Relocates r.start rel) (n : Nat) :
    Tracks r.start rel ((start buf r dec).after n)
      ((whole (buf.extract r.start r.stop) dec).after n) := by
  have size : (buf.extract 0 r.start).size = r.start := by
    rw [ByteArray.size_extract]
    omega
  obtain ⟨moved, answers⟩ := after_moved (start_moved buf r dec ordered inside relocates) n
  have pos := moved.pos
  have error := moved.error
  rw [size] at pos error
  exact ⟨answers, moved.state, moved.rows, moved.statements, pos, error, moved.row⟩

/-- The raw scan of a target statement after a one-byte lead, at its second call. -/
theorem region_scan_moves_after_lead :
    (1 ≤ 26 ∧ 26 ≤ " INSERT INTO t VALUES (1);".toUTF8.size) ∧
      Tracks 1 (fun moved row => moved = row.map (Value.shift 1))
        ((start " INSERT INTO t VALUES (1);".toUTF8 ⟨1, 26⟩ (Decoder.raw "t" 1)).after 1)
        ((whole (" INSERT INTO t VALUES (1);".toUTF8.extract 1 26) (Decoder.raw "t" 1)).after 1) :=
  ⟨⟨by decide, by decide⟩,
    region_scan_moves _ ⟨1, 26⟩ _ _ (by decide) (by decide) (Decoder.raw_relocates "t" 1 1) 1⟩

end Scan

end WikiDump

