import WikiDump.Proofs.ScanBounds
/-!
# A scan is a well-behaved state machine

A scan is driven by calls of `Scan.next`. Each call either yields one row, or returns `false`
and leaves the scan stopped: at the end of its buffer, or at the first error. This module says
once what one call can do (`Scan.next_steps`) and derives from it what holds along every run:

* the position never goes back and stays inside the region;
* the row count is the number of calls that yielded, and the statement count never goes back;
* a scan has an error exactly when it has failed, and it is done only at the end of its region
  and without an error;
* once a call has returned `false`, every later call returns `false` and changes nothing;
* the values a raw scan yields lie in the region and their offsets strictly increase.

Each call returns: `Scan.next` is a total function, whose search for the next target statement
(`Scan.seek`) moves forward through the buffer at every round.
-/

namespace WikiDump

namespace Scan

variable {R : Type}

@[simp] theorem fail_buf (s : Scan R) (e : ScanError) : (s.fail e).buf = s.buf := rfl
@[simp] theorem fail_decoder (s : Scan R) (e : ScanError) : (s.fail e).decoder = s.decoder := rfl
@[simp] theorem fail_pos (s : Scan R) (e : ScanError) : (s.fail e).pos = s.pos := rfl
@[simp] theorem fail_state (s : Scan R) (e : ScanError) : (s.fail e).state = .failed := rfl
@[simp] theorem fail_error (s : Scan R) (e : ScanError) : (s.fail e).error = some e := rfl
@[simp] theorem fail_rows (s : Scan R) (e : ScanError) : (s.fail e).rows = s.rows := rfl
@[simp] theorem fail_statements (s : Scan R) (e : ScanError) :
    (s.fail e).statements = s.statements := rfl

def Stopped (s : Scan R) : Prop := s.state = .done ∨ s.state = .failed

theorem next_of_stopped {s : Scan R} (stopped : s.Stopped) : s.next = (false, s) := by
  rcases stopped with done | failed
  · simp [next, done]
  · simp [next, failed]

/-- A row read by one call: the tuple that starts at `start`, at or after where the call began,
was read without fault up to the new position and decoded into the scan's new row. -/
def ReadRow (s s' : Scan R) : Prop :=
  ∃ start row, s.pos ≤ start ∧
    (Tuple.read s.buf start s.decoder.width).error = none ∧
    (Tuple.read s.buf start s.decoder.width).next = s'.pos ∧
    s.decoder.decodeRow (Tuple.read s.buf start s.decoder.width).values = .ok row ∧
    s'.row = some row

/-- Everything one call of `next` can do to a scan that has not stopped. It keeps the buffer and
the decoder, moves the position forward inside the buffer and never lowers the statement count.
A call that yields counts one row, stays inside a target statement and reads the row from a
tuple; a call that returns `false` counts no row and leaves the scan done at the end of the buffer
or failed with an error. -/
structure Steps (s : Scan R) (yielded : Bool) (s' : Scan R) : Prop where
  buf : s'.buf = s.buf
  decoder : s'.decoder = s.decoder
  forward : s.pos ≤ s'.pos
  inside : s'.pos ≤ s.buf.size
  statements : s.statements ≤ s'.statements
  rows : s'.rows = s.rows + if yielded then 1 else 0
  yields : yielded = true → s'.state = .inTarget ∧ s'.error = s.error ∧ ReadRow s s'
  stops : yielded = false →
    (s'.state = .done ∧ s'.pos = s.buf.size ∧ s'.error = s.error) ∨
      (s'.state = .failed ∧ s'.error.isSome)

theorem Steps.from {s₀ s s' : Scan R} {yielded : Bool} (steps : Steps s yielded s')
    (buf : s.buf = s₀.buf) (decoder : s.decoder = s₀.decoder) (forward : s₀.pos ≤ s.pos)
    (statements : s₀.statements ≤ s.statements) (rows : s.rows = s₀.rows)
    (error : s.error = s₀.error) : Steps s₀ yielded s' := by
  refine ⟨steps.buf.trans buf, steps.decoder.trans decoder, Nat.le_trans forward steps.forward,
    buf ▸ steps.inside, Nat.le_trans statements steps.statements, rows ▸ steps.rows, ?_, ?_⟩
  · intro yes
    obtain ⟨state, sameError, start, row, after, clean, next, decoded, newRow⟩ := steps.yields yes
    refine ⟨state, sameError.trans error, start, row, Nat.le_trans forward after, ?_⟩
    rw [← buf, ← decoder]
    exact ⟨clean, next, decoded, newRow⟩
  · intro no
    rcases steps.stops no with ⟨done, atEnd, sameError⟩ | failed
    · exact .inl ⟨done, buf ▸ atEnd, sameError.trans error⟩
    · exact .inr failed

theorem steps_fail {s s₁ : Scan R} (e : ScanError) (buf : s₁.buf = s.buf)
    (decoder : s₁.decoder = s.decoder) (forward : s.pos ≤ s₁.pos) (inside : s₁.pos ≤ s.buf.size)
    (statements : s.statements ≤ s₁.statements) (rows : s₁.rows = s.rows) :
    Steps s false (s₁.fail e) :=
  ⟨buf, decoder, forward, inside, statements, by simpa using rows, by simp,
    fun _ => .inr ⟨rfl, rfl⟩⟩

theorem readRow_steps {s : Scan R} (inTarget : s.state = .inTarget) (inside : s.pos ≤ s.buf.size) :
    Steps s s.readRow.1 s.readRow.2 := by
  unfold readRow
  dsimp only
  split
  · exact steps_fail _ rfl rfl (Nat.le_refl _) inside (Nat.le_refl _) rfl
  · rename_i tupleError
    have bounds := Tuple.read_offsets tupleError
    split
    · exact steps_fail _ rfl rfl (Nat.le_refl _) inside (Nat.le_refl _) rfl
    · rename_i row decoded
      refine ⟨rfl, rfl, Nat.le_of_lt bounds.1, bounds.2.1, Nat.le_refl _, rfl, ?_, ?_⟩
      · intro _
        exact ⟨inTarget, rfl, s.pos, row, Nat.le_refl _, tupleError, rfl, decoded, rfl⟩
      · intro no
        cases no

theorem enter_steps {s : Scan R} {pos : Nat} (forward : s.pos ≤ pos) (inside : pos ≤ s.buf.size) :
    Steps s (s.enter pos).1 (s.enter pos).2 := by
  have within : (seek s.buf s.decoder.table.toUTF8 pos).Within pos s.buf.size := seek_within inside
  unfold enter
  split
  · rename_i i found
    rw [found] at within
    refine ⟨rfl, rfl, by dsimp only; have := within.1; omega, by dsimp only; have := within.2; omega,
      Nat.le_refl _, rfl, ?_, ?_⟩
    · intro yes
      cases yes
    · intro _
      exact .inl ⟨rfl, within.2, rfl⟩
  · rename_i i e found
    rw [found] at within
    exact steps_fail e rfl rfl (by dsimp only; have := within.1; omega) within.2 (Nat.le_refl _) rfl
  · rename_i body found
    rw [found] at within
    have steps := @readRow_steps R
      { s with pos := body, statements := s.statements + 1, state := .inTarget, afterTuple := false }
      rfl (Nat.le_of_lt within.2)
    exact steps.from rfl rfl (by dsimp only; have := within.1; omega) (Nat.le_succ _) rfl rfl

/-- What one call of `next` does to a scan that has not stopped. -/
theorem next_steps {s : Scan R} (live : ¬ s.Stopped) (inside : s.pos ≤ s.buf.size) :
    Steps s s.next.1 s.next.2 := by
  unfold next
  split
  · exact enter_steps (Nat.le_refl _) inside
  · split
    · rename_i stop skipped
      have bounds := Statement.skipStatement_bounds skipped
      exact enter_steps (Nat.le_of_lt bounds.1) bounds.2
    · exact steps_fail _ rfl rfl (Nat.le_refl _) inside (Nat.le_refl _) rfl
  · rename_i state
    split
    · have spaced := Tuple.le_skipSpace s.buf s.pos
      dsimp only
      split
      · exact steps_fail _ rfl rfl (Nat.le_refl _) inside (Nat.le_refl _) rfl
      · rename_i c found
        have inBuffer := Statement.lt_size_of_at found
        split
        · have after := Tuple.le_skipSpace s.buf (Bytes.skipSpace s.buf s.pos + 1)
          have steps := @readRow_steps R
            { s with afterTuple := false, pos := Bytes.skipSpace s.buf (Bytes.skipSpace s.buf s.pos + 1) }
            state (Bytes.skipWhile_le_size _ _ _ (by omega))
          exact steps.from rfl rfl (by dsimp only; omega) (Nat.le_refl _) rfl rfl
        · split
          · have steps := @enter_steps R { s with afterTuple := false }
              (Bytes.skipSpace s.buf s.pos + 1) (show s.pos ≤ Bytes.skipSpace s.buf s.pos + 1 by omega)
              (show Bytes.skipSpace s.buf s.pos + 1 ≤ s.buf.size by omega)
            exact steps.from rfl rfl (Nat.le_refl _) (Nat.le_refl _) rfl rfl
          · exact steps_fail _ rfl rfl (Nat.le_refl _) inside (Nat.le_refl _) rfl
    · exact readRow_steps state inside
  · rename_i state
    exact absurd (.inl state) live
  · rename_i state
    exact absurd (.inr state) live

/-- What a scan keeps true between calls: its position is inside its buffer, it has an error
exactly when it has failed, and it is done only at the end of its buffer and without an error. -/
structure Consistent (s : Scan R) : Prop where
  inside : s.pos ≤ s.buf.size
  errorIffFailed : s.error.isSome ↔ s.state = .failed
  doneAtEnd : s.state = .done → s.pos = s.buf.size ∧ s.error = none

theorem Consistent.error_eq_none {s : Scan R} (consistent : s.Consistent) (live : ¬ s.Stopped) :
    s.error = none := by
  cases hasError : s.error with
  | none => rfl
  | some e => exact absurd (.inr (consistent.errorIffFailed.1 (by simp [hasError]))) live

theorem Consistent.next {s : Scan R} (consistent : s.Consistent) : s.next.2.Consistent := by
  by_cases stopped : s.Stopped
  · rw [next_of_stopped stopped]
    exact consistent
  · have steps := next_steps stopped consistent.inside
    have noError := consistent.error_eq_none stopped
    have inside : s.next.2.pos ≤ s.next.2.buf.size := steps.buf ▸ steps.inside
    cases yielded : s.next.1 with
    | true =>
        obtain ⟨state, sameError, _⟩ := steps.yields yielded
        exact ⟨inside, by simp [sameError, noError, state], by simp [state]⟩
    | false =>
        rcases steps.stops yielded with ⟨done, atEnd, sameError⟩ | ⟨failed, hasError⟩
        · exact ⟨inside, by simp [done, sameError, noError],
            fun _ => ⟨steps.buf ▸ atEnd, sameError.trans noError⟩⟩
        · exact ⟨inside, by simp [failed, hasError], by simp [failed]⟩

theorem start_consistent (buf : ByteArray) (region : Region) (decoder : Decoder R)
    (ordered : region.start ≤ region.stop) (fits : region.stop ≤ buf.size) :
    (start buf region decoder).Consistent := by
  refine ⟨?_, by simp [start], by simp [start]⟩
  simp only [start, ByteArray.size_extract]
  omega

theorem start_buf_size (buf : ByteArray) (region : Region) (decoder : Decoder R)
    (fits : region.stop ≤ buf.size) : (start buf region decoder).buf.size = region.stop := by
  simp only [start, ByteArray.size_extract]
  omega

def after (s : Scan R) : Nat → Scan R
  | 0 => s
  | n + 1 => (s.after n).next.2

@[simp] theorem after_zero (s : Scan R) : s.after 0 = s := rfl

theorem after_succ (s : Scan R) (n : Nat) : s.after (n + 1) = (s.after n).next.2 := rfl

theorem next_stopped_or_steps {s : Scan R} (consistent : s.Consistent) :
    s.next = (false, s) ∧ s.Stopped ∨ Steps s s.next.1 s.next.2 := by
  by_cases stopped : s.Stopped
  · exact .inl ⟨next_of_stopped stopped, stopped⟩
  · exact .inr (next_steps stopped consistent.inside)

theorem after_consistent {s : Scan R} (consistent : s.Consistent) (n : Nat) :
    (s.after n).Consistent := by
  induction n with
  | zero => exact consistent
  | succ n ih => exact ih.next

theorem after_buf {s : Scan R} (consistent : s.Consistent) (n : Nat) :
    (s.after n).buf = s.buf := by
  induction n with
  | zero => rfl
  | succ n ih =>
      rw [after_succ]
      rcases next_stopped_or_steps (after_consistent consistent n) with ⟨same, _⟩ | steps
      · rw [same, ih]
      · rw [steps.buf, ih]

theorem after_decoder {s : Scan R} (consistent : s.Consistent) (n : Nat) :
    (s.after n).decoder = s.decoder := by
  induction n with
  | zero => rfl
  | succ n ih =>
      rw [after_succ]
      rcases next_stopped_or_steps (after_consistent consistent n) with ⟨same, _⟩ | steps
      · rw [same, ih]
      · rw [steps.decoder, ih]

theorem after_succ_forward {s : Scan R} (consistent : s.Consistent) (n : Nat) :
    (s.after n).pos ≤ (s.after (n + 1)).pos ∧
      (s.after n).statements ≤ (s.after (n + 1)).statements := by
  rw [after_succ]
  rcases next_stopped_or_steps (after_consistent consistent n) with ⟨same, _⟩ | steps
  · rw [same]
    exact ⟨Nat.le_refl _, Nat.le_refl _⟩
  · exact ⟨steps.forward, steps.statements⟩

theorem after_succ_rows {s : Scan R} (consistent : s.Consistent) (n : Nat) :
    (s.after (n + 1)).rows = (s.after n).rows + if (s.after n).next.1 then 1 else 0 := by
  rw [after_succ]
  rcases next_stopped_or_steps (after_consistent consistent n) with ⟨same, _⟩ | steps
  · rw [same]
    rfl
  · exact steps.rows

theorem after_rows {s : Scan R} (consistent : s.Consistent) (n : Nat) :
    (s.after n).rows = s.rows + ((List.range n).filter fun m => (s.after m).next.1).length := by
  induction n with
  | zero => simp
  | succ n ih =>
      rw [after_succ_rows consistent n, ih, List.range_succ, List.filter_append]
      cases called : (s.after n).next.1 <;> simp [called, Nat.add_assoc]

theorem after_succ_stopped {s : Scan R} (consistent : s.Consistent) {n : Nat}
    (refused : (s.after n).next.1 = false) : (s.after (n + 1)).Stopped := by
  rw [after_succ]
  rcases next_stopped_or_steps (after_consistent consistent n) with ⟨same, stopped⟩ | steps
  · rw [same]
    exact stopped
  · rcases steps.stops refused with ⟨done, _, _⟩ | ⟨failed, _⟩
    · exact .inl done
    · exact .inr failed

theorem after_absorbing {s : Scan R} (consistent : s.Consistent) {n : Nat}
    (refused : (s.after n).next.1 = false) :
    ∀ m, n < m → (s.after m).next.1 = false ∧ s.after m = s.after (n + 1) := by
  have stopped := after_succ_stopped consistent refused
  intro m later
  obtain ⟨k, rfl⟩ := Nat.exists_eq_add_of_lt later
  induction k with
  | zero => exact ⟨by rw [next_of_stopped stopped], rfl⟩
  | succ k ih =>
      have same := (ih (by omega)).2
      have unchanged : s.after (n + (k + 1) + 1) = s.after (n + k + 1) := by
        rw [show n + (k + 1) + 1 = n + k + 1 + 1 by omega, after_succ, same,
          next_of_stopped stopped]
      rw [unchanged, same]
      exact ⟨by rw [next_of_stopped stopped], rfl⟩

def yieldedValues (s : Scan (Array Value)) (n : Nat) : List Value :=
  (List.range n).flatMap fun m =>
    if (s.after m).next.1 then (((s.after (m + 1)).row.map Array.toList).getD []) else []

theorem le_after_pos {s : Scan R} (consistent : s.Consistent) (n : Nat) :
    s.pos ≤ (s.after n).pos := by
  induction n with
  | zero => exact Nat.le_refl _
  | succ n ih => exact Nat.le_trans ih (after_succ_forward consistent n).1

theorem yieldedValues_offsets {s : Scan (Array Value)} (consistent : s.Consistent)
    (raw : ∀ values, s.decoder.decodeRow values = .ok values) (n : Nat) :
    OffsetsIn (s.yieldedValues n) s.pos (s.after n).pos := by
  induction n with
  | zero => exact OffsetsIn.nil _ _
  | succ n ih =>
      have earlier := le_after_pos consistent n
      have forward := (after_succ_forward consistent n).1
      have split : s.yieldedValues (n + 1) = s.yieldedValues n ++
          if (s.after n).next.1 then (((s.after (n + 1)).row.map Array.toList).getD []) else [] := by
        simp [yieldedValues, List.range_succ, List.flatMap_append]
      rw [split]
      cases called : (s.after n).next.1 with
      | false =>
          simp only [Bool.false_eq_true, if_false, List.append_nil]
          exact ih.mono forward
      | true =>
          simp only [if_true]
          rcases next_stopped_or_steps (after_consistent consistent n) with ⟨same, _⟩ | steps
          · rw [same] at called
            cases called
          · obtain ⟨_, _, start, row, after, clean, next, decoded, newRow⟩ := steps.yields called
            rw [after_decoder consistent n, raw] at decoded
            have bounds := Tuple.read_offsets clean
            rw [after_succ, newRow, ← Except.ok.inj decoded]
            rw [after_succ] at forward
            have values := (bounds.2.2.lower after)
            rw [next, after_decoder consistent n] at values
            simp only [Option.map_some, Option.getD_some]
            exact ih.append values earlier forward

/-- How a scan of `region` of `buf` stands after `n` calls of `next`. The position never goes back
and stays within the region; the row count is the number of calls that yielded; the statement
count never goes back; the scan has an error exactly when it has failed, and is done only at the
end of the region and without an error; once a call has returned `false`, every later call returns
`false` and leaves the scan as it was. The values that a raw scan of the decoder's table and width
yields lie in the region, and their offsets strictly increase in the order they are yielded. -/
def RunBehaves (buf : ByteArray) (region : Region) (decoder : Decoder R) (n : Nat) : Prop :=
  let s := start buf region decoder
  let raw := start buf region (Decoder.raw decoder.table decoder.width)
  (s.after n).pos ≤ (s.after (n + 1)).pos ∧
    region.start ≤ (s.after n).pos ∧ (s.after n).pos ≤ region.stop ∧
    (s.after n).rows = ((List.range n).filter fun m => (s.after m).next.1).length ∧
    (s.after n).statements ≤ (s.after (n + 1)).statements ∧
    ((s.after n).error.isSome ↔ (s.after n).state = .failed) ∧
    ((s.after n).state = .done → (s.after n).pos = region.stop ∧ (s.after n).error = none) ∧
    ((s.after n).next.1 = false →
      ∀ m, n < m → (s.after m).next.1 = false ∧ s.after m = s.after (n + 1)) ∧
    OffsetsIn (raw.yieldedValues n) region.start region.stop

/-- A scan of a region within the buffer behaves as a state machine should, after any number of
calls. -/
theorem run_behaves (buf : ByteArray) (region : Region) (decoder : Decoder R)
    (ordered : region.start ≤ region.stop) (fits : region.stop ≤ buf.size) (n : Nat) :
    RunBehaves buf region decoder n := by
  unfold RunBehaves
  intro s raw
  have consistent := start_consistent buf region decoder ordered fits
  have rawConsistent := start_consistent buf region (Decoder.raw decoder.table decoder.width)
    ordered fits
  have now := after_consistent consistent n
  have size : (s.after n).buf.size = region.stop := by
    rw [after_buf consistent n]
    exact start_buf_size buf region decoder fits
  have forward := after_succ_forward consistent n
  refine ⟨forward.1, le_after_pos consistent n, size ▸ now.inside, ?_, forward.2,
    now.errorIffFailed, fun done => size ▸ now.doneAtEnd done, after_absorbing consistent, ?_⟩
  · rw [after_rows consistent n]
    simp [s, start]
  · have values := yieldedValues_offsets rawConsistent (fun _ => rfl) n
    have rawSize : (raw.after n).buf.size = region.stop := by
      rw [after_buf rawConsistent n]
      exact start_buf_size buf region _ fits
    exact values.mono (rawSize ▸ (after_consistent rawConsistent n).inside)

theorem run_behaves_on_insert :
    (0 ≤ 25 ∧ 25 ≤ "INSERT INTO t VALUES (1);".toUTF8.size) ∧
      RunBehaves "INSERT INTO t VALUES (1);".toUTF8 ⟨0, 25⟩ (Decoder.raw "t" 1) 1 :=
  ⟨⟨by decide, by decide⟩, run_behaves _ _ _ (by decide) (by decide) 1⟩

end Scan

end WikiDump

