import WikiDump.Proofs.QueryRows
import WikiDump.Proofs.ScanRows
import WikiDump.Proofs.Grouping
/-!
# The iterators of a plan yield its list semantics

A plan runs as a chain of pull iterators (`Engine.Cursor`). Draining the iterator of a plan, as
the executor does, yields exactly the rows of the plan's list semantics and then its error
(`Engine.Plan.stream_eq_run`).

The proof is a simulation, one call of `next` at a time. Each state of an iterator has what it
has still to yield (`Engine.Cursor.pending`), read off the list semantics of its steps over what
the scan below it has still to yield. A call honours that (`Engine.Honours`): it yields the first
pending row and leaves the others pending, or it says `false` when nothing is pending, and its
error is then the pending one. Each kind of step honours what it has pending when its source
does, one lemma per kind of step, so by induction on the plan every iterator does. A loop over a
source, a filter looking for its next row or an aggregation draining its input, ends with what
the source had pending; its bound is never reached, since no iterator has more rows pending than
its plan's bound.

A limit pulls its source only while it has passed on fewer rows than its limit: however long it
is drained, its source is left as it is after at most that many calls of `next`
(`Engine.Plan.limit_calls`).
-/

namespace WikiDump

namespace Engine

open Query

abbrev Pending := List Row × Option ScanError

section Honest

variable {σ : Type} (step : σ → Bool × σ) (row : σ → Option Row) (error : σ → Option ScanError)
  (pending : σ → Pending)

/-- A call of `next` honours what was pending, `out`: it yields the first pending row, with no
error, and leaves the others pending; or it says `false` with nothing pending, and the pending
error is the iterator's error. -/
def Honours (out : Pending) : Bool × σ → Prop
  | (true, s) => ∃ r, out = (r :: (pending s).1, (pending s).2) ∧ row s = some r ∧ error s = none
  | (false, s) => out.1 = [] ∧ error s = out.2

/-- An iterator that, from every state in `valid`, honours what it has pending, stays in `valid`,
and never has more than `bound` rows pending. -/
structure Honest (valid : σ → Prop) (bound : Nat) : Prop where
  honours : ∀ s, valid s → Honours row error pending (pending s) (step s)
  preserves : ∀ s, valid s → valid (step s).2
  bounded : ∀ s, valid s → (pending s).1.length ≤ bound

variable {step row error pending} {valid : σ → Prop} {bound : Nat}

theorem Honours.wrap {τ : Type} {row' : τ → Option Row} {error' : τ → Option ScanError}
    {pending' : τ → Pending} (f : σ → τ) (rows : ∀ s, row' (f s) = row s)
    (errors : ∀ s, error' (f s) = error s) (pendings : ∀ s, pending' (f s) = pending s)
    {out : Pending} {called : Bool × σ} (honours : Honours row error pending out called) :
    Honours row' error' pending' out (called.1, f called.2) := by
  rcases called with ⟨_ | _, s⟩
  · exact ⟨honours.1, (errors s).trans honours.2⟩
  · obtain ⟨r, out_eq, current, clean⟩ := honours
    exact ⟨r, by rw [pendings, out_eq], (rows s).trans current, (errors s).trans clean⟩

theorem Honest.drainWith_eq (honest : Honest step row error pending valid bound) {s : σ}
    (start : valid s) {fuel : Nat} (enough : (pending s).1.length < fuel) :
    (drainWith step row fuel s).1 = (pending s).1 ∧
      error (drainWith step row fuel s).2 = (pending s).2 := by
  induction fuel generalizing s with
  | zero => omega
  | succ fuel ih =>
      have honours := honest.honours s start
      have valid' := honest.preserves s start
      rcases called : step s with ⟨_ | _, s'⟩
      · rw [called] at honours
        obtain ⟨nothing, stopped⟩ := honours
        simp [drainWith, called, nothing, stopped]
      · rw [called] at honours valid'
        obtain ⟨r, out, current, -⟩ := honours
        rw [out] at enough ⊢
        obtain ⟨rest, stopped⟩ := ih valid' (by simpa using enough)
        rcases drained : drainWith step row fuel s' with ⟨rows, last⟩
        rw [drained] at rest stopped
        simp [drainWith, called, drained, current, rest, stopped]

theorem Honest.pullUntil_honours (honest : Honest step row error pending valid bound)
    (keep : Row → Bool) {s : σ} (start : valid s) {fuel : Nat}
    (enough : (pending s).1.length < fuel) :
    Honours row error (fun s => ((pending s).1.filter keep, (pending s).2))
        ((pending s).1.filter keep, (pending s).2) (pullUntil step row keep fuel s) ∧
      valid (pullUntil step row keep fuel s).2 := by
  induction fuel generalizing s with
  | zero => omega
  | succ fuel ih =>
      have honours := honest.honours s start
      have valid' := honest.preserves s start
      rcases called : step s with ⟨_ | _, s'⟩
      · rw [called] at honours valid'
        obtain ⟨nothing, stopped⟩ := honours
        simp only [pullUntil, called]
        exact ⟨⟨by simp [nothing], stopped⟩, valid'⟩
      · rw [called] at honours valid'
        obtain ⟨r, out, current, clean⟩ := honours
        rw [out] at enough ⊢
        by_cases kept : keep r = true
        · simp only [pullUntil, called, current, Option.any_some, kept, if_true]
          exact ⟨⟨r, by simp [kept], current, clean⟩, valid'⟩
        · have skipped := ih valid' (by simpa using enough)
          simp only [pullUntil, called, current, Option.any_some, kept, Bool.false_eq_true,
            if_false]
          simpa [kept] using skipped

end Honest

/-! ## How many rows a step yields at most -/

theorem Scan.runFuel_length {R : Type} (s : Scan R) (fuel : Nat) :
    (Scan.runFuel s fuel).1.length ≤ fuel := by
  induction fuel generalizing s with
  | zero => simp [Scan.runFuel]
  | succ fuel ih =>
      rcases called : s.next with ⟨_ | _, s'⟩
      · simp [Scan.runFuel, called]
      · have rest := ih s'
        rcases ran : Scan.runFuel s' fuel with ⟨steps, last⟩
        simp only [ran] at rest
        cases found : s'.row <;> simp [Scan.runFuel, called, ran, found] <;> omega

theorem Scan.pending_length {R : Type} {s : Scan R} (consistent : s.Consistent) :
    (Scan.pending s).1.length ≤ s.buf.size + 1 := by
  have collected :=
    Scan.runFuel_collects consistent (show s.buf.size - s.pos < s.buf.size + 1 by omega)
  rw [← collected, List.length_map]
  exact Scan.runFuel_length s _

theorem length_foldl_le {α β : Type} (f : List α → β → List α)
    (grows : ∀ acc x, (f acc x).length ≤ acc.length + 1) :
    ∀ (xs : List β) (acc : List α), (xs.foldl f acc).length ≤ acc.length + xs.length
  | [], acc => by simp
  | x :: xs, acc => by
      have step := grows acc x
      have rest := length_foldl_le f grows xs (f acc x)
      simp only [List.foldl_cons, List.length_cons]
      omega

theorem addToGroups_length (fields : List SelectField) (name : List UInt8) (key : Variant) (row : Row)
    (gs : List Group) : (addToGroups fields name key row gs).length ≤ gs.length + 1 := by
  induction gs with
  | nil => simp [addToGroups]
  | cons g rest ih =>
      by_cases same : g.name = name
      · simp [addToGroups, same]
      · simp [addToGroups, same, ih]

theorem aggregateRows_length (groupBy : String) (fields : List SelectField) (rows : List Row) :
    (aggregateRows groupBy fields rows).length ≤ rows.length + 1 := by
  unfold aggregateRows
  split
  · split <;> simp
  · rw [List.length_map, (sortGroups_perm _).length_eq]
    calc _ ≤ ([] : List Group).length + rows.length :=
          length_foldl_le (fun gs row =>
            addToGroups fields (groupOf groupBy row).1 (groupOf groupBy row).2 row gs)
            (fun gs row => addToGroups_length fields _ _ row gs) rows []
      _ ≤ rows.length + 1 := by simp

/-! ## What an iterator has pending -/

namespace Cursor

/-- What the iterator of a plan has still to yield: the list semantics of its steps over what
the scan below it has still to yield. A limit has `n - seen` rows left to pass on; an
aggregation that has run has the rows after its position, or its error. -/
def pending : (p : Plan) → Cursor p → Pending
  | .scan _ t, .scan s _ => ((Scan.pending s).1.map (Row.ofDecoded t.schema), (Scan.pending s).2)
  | .filter input e, .filter source => whereRows (some e) (pending input source)
  | .project input fields, .project source _ =>
    ((pending input source).1.map (projectRow fields), (pending input source).2)
  | .limit input n, .limit source seen =>
    if n - seen ≤ (pending input source).1.length then
      ((pending input source).1.take (n - seen), none)
    else pending input source
  | .aggregate input groupBy fields, .aggregate results index err done =>
    if done then (if err.isSome then [] else results.drop (index + 1).toNat, err)
    else (Plan.aggregate input groupBy fields).run

/-- The states an iterator reaches: its scan is consistent over its table's whole dump; the
source of a limit that is reached has no error; an aggregation that has run stands at a position
from `-1` on among at most its bound of rows, and one that has not has no error. -/
def Valid : (p : Plan) → Cursor p → Prop
  | .scan _ t, .scan s _ => s.Consistent ∧ s.buf.size = t.data.size
  | .filter input _, .filter source => Valid input source
  | .project input _, .project source _ => Valid input source
  | .limit input n, .limit source seen =>
    Valid input source ∧ (n ≤ seen → error input source = none)
  | .aggregate input .., .aggregate results index err done =>
    if done then -1 ≤ index ∧ (err = none → results.length ≤ input.bound + 1) else err = none

theorem whole_consistent (t : DumpTable) :
    (Scan.whole t.data t.schema.decoder).Consistent :=
  Scan.start_consistent _ _ _ (Nat.zero_le _) (Nat.le_refl _)

theorem pending_cursor : ∀ p : Plan, pending p p.cursor = p.run
  | .scan _ t => by
      rw [Plan.run_scan, DumpTable.rows, Scan.collect_eq_pending (whole_consistent t)]
      rfl
  | .filter input e => by
      rw [Plan.run_filter, ← pending_cursor input]
      rfl
  | .project input fields => by
      simp only [Plan.cursor, pending, pending_cursor input, Plan.run]
  | .limit input n => by
      simp only [Plan.cursor, pending, pending_cursor input, Plan.run, Nat.sub_zero]
  | .aggregate .. => rfl

theorem error_cursor : ∀ p : Plan, error p p.cursor = none
  | .scan .. => rfl
  | .filter input _ => error_cursor input
  | .project input _ => error_cursor input
  | .limit input _ => error_cursor input
  | .aggregate .. => rfl

theorem valid_cursor : ∀ p : Plan, Valid p p.cursor
  | .scan _ t => ⟨whole_consistent t, Scan.start_buf_size _ _ _ (Nat.le_refl _)⟩
  | .filter input _ => valid_cursor input
  | .project input _ => valid_cursor input
  | .limit input _ => ⟨valid_cursor input, fun _ => error_cursor input⟩
  | .aggregate .. => rfl

/-! ## Each kind of step honours what it has pending -/

abbrev HonestAt (p : Plan) : Prop := Honest (next p) (row p) (error p) (pending p) (Valid p) p.bound

/-- Draining a fresh iterator of a plan, given one pull more than the plan's bound, yields the
plan's rows and ends with its error. -/
theorem drain_cursor {p : Plan} (honest : HonestAt p) :
    (drainWith (next p) (row p) (p.bound + 1) p.cursor).1 = p.run.1 ∧
      error p (drainWith (next p) (row p) (p.bound + 1) p.cursor).2 = p.run.2 := by
  have drained := honest.drainWith_eq (valid_cursor p)
    (Nat.lt_succ_of_le (honest.bounded _ (valid_cursor p)))
  rwa [pending_cursor] at drained

theorem honest_scan (name : String) (t : DumpTable) : HonestAt (.scan name t) := by
  refine ⟨fun c valid => ?_, fun c valid => ?_, fun c valid => ?_⟩
  · cases c with
    | scan s current =>
      obtain ⟨consistent, -⟩ := valid
      by_cases stopped : s.Stopped
      · have pend := Scan.pending_of_stopped stopped
        simp only [next, Scan.next_of_stopped stopped]
        exact ⟨by simp [pending, pend], by simp [error, pending, pend]⟩
      · have answers := Scan.next_answers stopped (consistent.error_eq_none stopped)
        have steps := Scan.next_steps stopped consistent.inside
        rcases called : s.next with ⟨_ | _, s'⟩
        · rw [called] at answers
          simp only [Scan.Answers, Bool.false_eq_true, if_false] at answers
          simp only [next, called]
          exact ⟨by simp [pending, answers], by simp [error, pending, answers]⟩
        · rw [called] at answers steps
          simp only [Scan.Answers, if_true] at answers
          obtain ⟨decoded, newRow, pend⟩ := answers
          have clean : s'.error = none :=
            ((steps.yields rfl).2.1).trans (consistent.error_eq_none stopped)
          simp only [next, called]
          exact ⟨Row.ofDecoded t.schema decoded, by simp [pending, pend], by simp [row, newRow],
            clean⟩
  · cases c with
    | scan s current =>
      obtain ⟨consistent, size⟩ := valid
      have consistent' := consistent.next
      have same : s.next.2.buf = s.buf := by
        rcases Scan.next_stopped_or_steps consistent with ⟨stays, -⟩ | steps
        · rw [stays]
        · exact steps.buf
      rcases called : s.next with ⟨_ | _, s'⟩
      all_goals
        rw [called] at consistent' same
        simp only [next, called]
        exact ⟨consistent', same ▸ size⟩
  · cases c with
    | scan s current =>
      obtain ⟨consistent, size⟩ := valid
      have bounded := Scan.pending_length consistent
      simp only [pending, List.length_map, Plan.bound]
      omega

theorem honest_filter {input : Plan} (e : Expression) (source : HonestAt input) :
    HonestAt (.filter input e) := by
  refine ⟨fun c valid => ?_, fun c valid => ?_, fun c valid => ?_⟩
  all_goals cases c with
    | filter src =>
      have pulled := source.pullUntil_honours (fun r => e.eval r.record) valid
        (Nat.lt_succ_of_le (source.bounded src valid))
      first
        | exact pulled.1.wrap Cursor.filter (fun _ => rfl) (fun _ => rfl) (fun _ => rfl)
        | exact pulled.2
        | exact (List.length_filter_le _ _).trans (source.bounded src valid)

theorem honest_project {input : Plan} (fields : List SelectField) (source : HonestAt input) :
    HonestAt (.project input fields) := by
  refine ⟨fun c valid => ?_, fun c valid => ?_, fun c valid => ?_⟩
  · cases c with
    | project src current =>
      have honours := source.honours src valid
      rcases called : next input src with ⟨_ | _, s'⟩
      · rw [called] at honours
        simp only [next, called]
        exact ⟨by simp [pending, honours.1], honours.2⟩
      · rw [called] at honours
        obtain ⟨r, out, current, clean⟩ := honours
        simp only [next, called]
        exact ⟨projectRow fields r, by simp [pending, out], by simp [row, current], clean⟩
  · cases c with
    | project src current =>
      have valid' := source.preserves src valid
      rcases called : next input src with ⟨_ | _, s'⟩
      all_goals
        rw [called] at valid'
        simp only [next, called]
        exact valid'
  · cases c with
    | project src current =>
      simpa [pending, Plan.bound] using source.bounded src valid

theorem honest_limit {input : Plan} (n : Nat) (source : HonestAt input) :
    HonestAt (.limit input n) := by
  refine ⟨fun c valid => ?_, fun c valid => ?_, fun c valid => ?_⟩
  · cases c with
    | limit src seen =>
      obtain ⟨validSrc, reached⟩ := valid
      by_cases full : n ≤ seen
      · have gone : n - seen = 0 := by omega
        simp only [next, full, if_true]
        exact ⟨by simp [pending, gone], by simp [error, pending, gone, reached full]⟩
      · have honours := source.honours src validSrc
        obtain ⟨k, left⟩ : ∃ k, n - seen = k + 1 := ⟨n - seen - 1, by omega⟩
        have left' : n - (seen + 1) = k := by omega
        rcases called : next input src with ⟨_ | _, s'⟩
        · rw [called] at honours
          simp only [next, full, if_false, called]
          exact ⟨by simp [pending, left, honours.1], by simp [error, pending, left, honours.1, honours.2]⟩
        · rw [called] at honours
          obtain ⟨r, out, current, clean⟩ := honours
          simp only [next, full, if_false, called]
          refine ⟨r, ?_, by simp [row, current], by simp [error, clean]⟩
          simp only [pending, out, left, left', List.length_cons, Nat.add_le_add_iff_right,
            List.take_succ_cons]
          split <;> rfl
  · cases c with
    | limit src seen =>
      obtain ⟨validSrc, reached⟩ := valid
      by_cases full : n ≤ seen
      · simp only [next, full, if_true]
        exact ⟨validSrc, reached⟩
      · have honours := source.honours src validSrc
        have valid' := source.preserves src validSrc
        rcases called : next input src with ⟨_ | _, s'⟩
        · rw [called] at valid'
          simp only [next, full, if_false, called]
          exact ⟨valid', fun reached' => absurd reached' full⟩
        · rw [called] at honours valid'
          obtain ⟨-, -, -, clean⟩ := honours
          simp only [next, full, if_false, called]
          exact ⟨valid', fun _ => clean⟩
  · cases c with
    | limit src seen =>
      have bounded := source.bounded src valid.1
      simp only [pending, Plan.bound]
      split
      · exact (List.length_take_le' _ _).trans bounded
      · exact bounded

theorem honours_advance {input : Plan} {groupBy : String} {fields : List SelectField}
    {results : List Row} {index : Int} (after : -1 ≤ index) :
    Honours (row (.aggregate input groupBy fields)) (error _) (pending _)
      (results.drop (index + 1).toNat, none) (advance results index none) := by
  by_cases more : index + 1 < results.length
  · have inside : (index + 1).toNat < results.length := by omega
    have next_ : (index + 1 + 1).toNat = (index + 1).toNat + 1 := by omega
    simp only [advance, Option.isSome_none, Bool.false_eq_true, if_false, more, decide_true]
    refine ⟨results[(index + 1).toNat], ?_, ?_, rfl⟩
    · rw [List.drop_eq_getElem_cons inside]
      simp [pending, next_]
    · simp [row, show (0 : Int) ≤ index + 1 by omega, inside]
  · simp only [advance, Option.isSome_none, Bool.false_eq_true, if_false, more, decide_false]
    exact ⟨List.drop_eq_nil_of_le (by omega), rfl⟩

theorem advance_state {input : Plan} {groupBy : String} {fields : List SelectField}
    (results : List Row) (index : Int) (err : Option ScanError) :
    (@advance input groupBy fields results index err).2 =
      .aggregate results (if err.isSome then index else index + 1) err true := by
  cases err <;> simp [advance]

theorem honest_aggregate {input : Plan} (groupBy : String) (fields : List SelectField)
    (source : HonestAt input) : HonestAt (.aggregate input groupBy fields) := by
  -- running the input drains its iterator to its list semantics
  obtain ⟨rowsEq, errEq⟩ := drain_cursor source
  rcases d : drainWith (next input) (row input) (input.bound + 1) input.cursor with ⟨rows, last⟩
  rw [d] at rowsEq errEq
  dsimp only at rowsEq errEq
  have fits : (aggregateRows groupBy fields input.run.1).length ≤ input.bound + 1 := by
    have bounded := source.bounded _ (valid_cursor input)
    rw [pending_cursor] at bounded
    exact (aggregateRows_length ..).trans (by omega)
  refine ⟨fun c valid => ?_, fun c valid => ?_, fun c valid => ?_⟩
  · cases c with
    | aggregate results index err done =>
      cases done with
      | false =>
        simp only [next, d, Bool.false_eq_true, if_false, errEq, pending, Plan.run_aggregate]
        cases failed : input.run.2 with
        | some e => exact ⟨rfl, rfl⟩
        | none =>
          have advanced :=
            @honours_advance input groupBy fields (aggregateRows groupBy fields input.run.1) (-1)
              (by omega)
          simpa [rowsEq] using advanced
      | true =>
        simp only [next, if_true]
        cases err with
        | some e => exact ⟨by simp [pending], rfl⟩
        | none =>
          have advanced := @honours_advance input groupBy fields results index valid.1
          simpa [pending] using advanced
  · cases c with
    | aggregate results index err done =>
      cases done with
      | false =>
        simp only [next, d, Bool.false_eq_true, if_false, errEq]
        cases failed : input.run.2 with
        | some e => exact ⟨le_refl _, fun clean => absurd clean (by simp)⟩
        | none =>
          rw [advance_state]
          exact ⟨by simp, fun _ => rowsEq ▸ fits⟩
      | true =>
        simp only [next, if_true]
        rw [advance_state]
        obtain ⟨after, bounded⟩ := valid
        cases err with
        | some e => exact ⟨after, fun clean => absurd clean (by simp)⟩
        | none => exact ⟨by simp; omega, bounded⟩
  · cases c with
    | aggregate results index err done =>
      cases done with
      | false =>
        simp only [pending, Bool.false_eq_true, if_false, Plan.run_aggregate, Plan.bound]
        cases input.run.2 with
        | some e => simp
        | none => exact fits
      | true =>
        obtain ⟨-, bounded⟩ := valid
        simp only [pending, if_true, Plan.bound]
        cases err with
        | some e => simp
        | none => exact (List.length_drop .. ▸ Nat.sub_le _ _).trans (bounded rfl)

theorem honest : ∀ p : Plan, HonestAt p
  | .scan name t => honest_scan name t
  | .filter input e => honest_filter e (honest input)
  | .project input fields => honest_project fields (honest input)
  | .aggregate input groupBy fields => honest_aggregate groupBy fields (honest input)
  | .limit input n => honest_limit n (honest input)

end Cursor

namespace Plan

/-- Draining the iterator of a plan, as the executor does, yields the plan's list semantics: its
rows, then its error. -/
theorem stream_eq_run (p : Plan) : p.stream = p.run := by
  obtain ⟨rows, err⟩ := Cursor.drain_cursor (Cursor.honest p)
  exact Prod.ext rows err

theorem drainWith_limit_calls {input : Plan} {n : Nat} (start : Cursor input) :
    ∀ (fuel seen : Nat), seen ≤ n → ∃ k ≤ n, ∃ seen',
      (drainWith (Cursor.next (.limit input n)) (Cursor.row (.limit input n)) fuel
        (.limit ((fun c => (Cursor.next input c).2)^[seen] start) seen)).2 =
        .limit ((fun c => (Cursor.next input c).2)^[k] start) seen'
  | 0, seen, within => ⟨seen, within, seen, rfl⟩
  | fuel + 1, seen, within => by
      by_cases full : n ≤ seen
      · exact ⟨seen, within, seen, by simp [drainWith, Cursor.next, full]⟩
      · have called := Function.iterate_succ_apply' (fun c => (Cursor.next input c).2) seen start
        rcases pulled : Cursor.next input ((fun c => (Cursor.next input c).2)^[seen] start) with
          ⟨_ | _, s'⟩
        all_goals
          rw [pulled, Nat.succ_eq_add_one] at called
          dsimp only at called
        · -- the source stopped, at its `seen + 1`-th call
          exact ⟨seen + 1, by omega, seen, by simp [drainWith, Cursor.next, full, pulled, called]⟩
        · obtain ⟨k, within', seen', last⟩ :=
            drainWith_limit_calls (n := n) start fuel (seen + 1) (by omega)
          refine ⟨k, within', seen', ?_⟩
          rw [called] at last
          simp only [drainWith, Cursor.next, full, if_false, pulled]
          rcases rest : drainWith (Cursor.next (.limit input n)) (Cursor.row (.limit input n)) fuel
            (.limit s' (seen + 1)) with ⟨rows, final⟩
          rw [rest] at last
          exact last

/-- However long a limit of `n` rows is drained from its start, it calls its source's `next` at
most `n` times: the source it leaves is the source after `k ≤ n` calls. -/
theorem limit_calls (input : Plan) (n fuel : Nat) : ∃ k ≤ n, ∃ seen,
    (drainWith (Cursor.next (.limit input n)) (Cursor.row (.limit input n)) fuel
      (Plan.limit input n).cursor).2 =
      .limit ((fun c => (Cursor.next input c).2)^[k] input.cursor) seen :=
  drainWith_limit_calls input.cursor fuel 0 (Nat.zero_le n)

theorem create_finish {c : Catalog} {q : SelectQuery} {p : Plan} (created : create c q = .ok p) :
    ∃ input, p = finish q input := by
  cases q with
  | mk fields fromTable fromQuery filter groupBy limit =>
    cases fromQuery with
    | some inner =>
      simp only [create] at created
      cases planned : create c inner with
      | error e => simp [planned, Except.map] at created
      | ok i =>
        simp only [planned, Except.map, Except.ok.injEq] at created
        exact ⟨i, created.symm⟩
    | none =>
      simp only [create] at created
      split at created
      all_goals
        split at created
        · cases created
        · exact ⟨_, (Except.ok.inj created).symm⟩

theorem finish_limited (q : SelectQuery) (input : Plan) (limited : 0 ≤ q.limit) :
    ∃ shaped, finish q input = .limit shaped q.limit.toNat :=
  ⟨_, if_pos limited⟩

/-- The iterators of the plan of a query yield the query's list semantics, its rows and then its
error, and the plan fails to be made exactly when the rows cannot be read, at every depth of
nested queries. A query with a LIMIT is planned with that limit last, and however long its
iterator is drained it calls its source at most LIMIT times. -/
theorem map_stream_create (c : Catalog) {q : SelectQuery} (selects : Selects q) :
    (create c q).map stream = queryRows c q ∧
      ∀ p, create c q = .ok p → 0 ≤ q.limit → ∃ input, p = .limit input q.limit.toNat ∧
        ∀ fuel, ∃ k ≤ q.limit.toNat, ∃ seen,
          (drainWith (Cursor.next (.limit input q.limit.toNat))
            (Cursor.row (.limit input q.limit.toNat)) fuel (Plan.limit input q.limit.toNat).cursor).2 =
            .limit ((fun c => (Cursor.next input c).2)^[k] input.cursor) seen := by
  refine ⟨?_, fun p created limited => ?_⟩
  · rw [show (stream : Plan → _) = run from funext stream_eq_run]
    exact map_run_create c selects
  · obtain ⟨input, rfl⟩ := create_finish created
    obtain ⟨shaped, last⟩ := finish_limited q input limited
    exact ⟨shaped, last, limit_calls shaped q.limit.toNat⟩

theorem map_stream_create_nested :
    Selects (.mk [⟨"page_id", "page_id", ""⟩] "" (some (.mk [⟨"*", "*", ""⟩] "page" none none "" (-1)))
      none "" 1) ∧
    (create ⟨[("page", ⟨Tables.pages, ByteArray.empty⟩)]⟩ (.mk [⟨"page_id", "page_id", ""⟩] ""
      (some (.mk [⟨"*", "*", ""⟩] "page" none none "" (-1))) none "" 1)).map stream =
      queryRows ⟨[("page", ⟨Tables.pages, ByteArray.empty⟩)]⟩ (.mk [⟨"page_id", "page_id", ""⟩] ""
        (some (.mk [⟨"*", "*", ""⟩] "page" none none "" (-1))) none "" 1) ∧
    ∀ p, create ⟨[("page", ⟨Tables.pages, ByteArray.empty⟩)]⟩ (.mk [⟨"page_id", "page_id", ""⟩] ""
        (some (.mk [⟨"*", "*", ""⟩] "page" none none "" (-1))) none "" 1) = .ok p → 0 ≤ (1 : Int) →
      ∃ input, p = .limit input 1 ∧ ∀ fuel, ∃ k ≤ 1, ∃ seen,
        (drainWith (Cursor.next (.limit input 1)) (Cursor.row (.limit input 1)) fuel
          (Plan.limit input 1).cursor).2 =
          .limit ((fun c => (Cursor.next input c).2)^[k] input.cursor) seen :=
  have selects := Selects.subquery (List.cons_ne_nil _ _) (.table (List.cons_ne_nil _ _))
  ⟨selects, map_stream_create _ selects⟩

end Plan

end Engine

end WikiDump

