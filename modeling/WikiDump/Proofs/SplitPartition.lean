import WikiDump.Proofs.StatementChain
/-!
# A split partitions the buffer at statement ends

`Region.split` walks the statements from the start of a buffer, closing a region at a statement
end once the open one is long enough, and then adds the rest of the buffer as the last region.
The walk is the one `Statement.allFrom` makes, so the split fails exactly when that walk ends in
an error, and with that error (`Region.splitFrom_error_iff`). A split that asks for one region, or
of an empty buffer, does not walk at all and never fails.

Otherwise its regions partition the buffer (`Region.Partition`): there is at least one and at
most `parts` of them, a nonempty buffer is covered from its start to its end by nonempty regions
that follow one another, an empty one is a single empty region, and every boundary between two
regions is the end of a statement of the walk (`Region.split_partitions`). Since there are at most
`max parts 1` regions, a count that keeps one slot per worker has a slot for every region.
-/

namespace WikiDump

namespace Statement

variable {buf : ByteArray} {pos : Nat}

theorem allFrom_of_error {e : ScanError} (failed : next buf pos = .error e) :
    allFrom buf pos = ([], some e) := by
  rw [allFrom]
  split
  · rename_i e' failed'
    rw [failed] at failed'
    cases failed'
    rfl
  · rename_i ended
    rw [failed] at ended
    cases ended
  · rename_i st found
    rw [failed] at found
    cases found

theorem allFrom_of_none (ended : next buf pos = .ok none) : allFrom buf pos = ([], none) := by
  rw [allFrom]
  split
  · rename_i e failed
    rw [ended] at failed
    cases failed
  · rfl
  · rename_i st found
    rw [ended] at found
    cases found

theorem allFrom_of_some {st : Statement} (found : next buf pos = .ok (some st)) :
    allFrom buf pos = (st :: (allFrom buf st.stop).1, (allFrom buf st.stop).2) := by
  rw [allFrom]
  split
  · rename_i e failed
    rw [found] at failed
    cases failed
  · rename_i ended
    rw [found] at ended
    cases ended
  · rename_i st' found'
    rw [found] at found'
    cases found'
    rfl

end Statement

namespace Region

variable {buf : ByteArray} {parts target start pos : Nat} {closed : Array Region}

/-- The walk of `splitFrom` fails exactly where the walk of the statements does. -/
theorem splitFrom_error_iff {e : ScanError} :
    splitFrom buf parts target start pos closed = .error e ↔
      (Statement.allFrom buf pos).2 = some e := by
  fun_induction splitFrom buf parts target start pos closed with
  | case1 start pos closed e' failed =>
      rw [Statement.allFrom_of_error failed]
      constructor
      · intro same
        cases same
        rfl
      · intro same
        cases same
        rfl
  | case2 start pos closed ended _ =>
      rw [Statement.allFrom_of_none ended]
      simp
  | case3 start pos closed ended _ =>
      rw [Statement.allFrom_of_none ended]
      simp
  | case4 start pos closed st found _ _ ih =>
      rw [Statement.allFrom_of_some found]
      exact ih
  | case5 start pos closed st found _ _ ih =>
      rw [Statement.allFrom_of_some found]
      exact ih

theorem splitFrom_size_le {result : Array Region} (room : closed.size ≤ parts - 1)
    (some : 1 ≤ parts) (walked : splitFrom buf parts target start pos closed = .ok result) :
    result.size ≤ parts := by
  revert room walked
  fun_induction splitFrom buf parts target start pos closed with
  | case1 => intro _ walked; cases walked
  | case2 start pos closed _ _ =>
      intro room walked
      cases walked
      rw [Array.size_push]
      omega
  | case3 start pos closed _ _ =>
      intro room walked
      cases walked
      omega
  | case4 start pos closed st _ _ closing ih =>
      intro _ walked
      have fewer : closed.size < parts - 1 := by
        simp only [Bool.and_eq_true, decide_eq_true_eq] at closing
        exact closing.2
      exact ih (by rw [Array.size_push]; omega) walked
  | case5 _ _ _ _ _ _ _ ih => intro room walked; exact ih room walked

theorem splitFrom_inner {result : Array Region}
    (walked : splitFrom buf parts target start pos closed = .ok result) :
    ∀ r ∈ result.toList.dropLast,
      r ∈ closed.toList ∨ ∃ st ∈ (Statement.allFrom buf pos).1, st.stop = r.stop := by
  revert walked
  fun_induction splitFrom buf parts target start pos closed with
  | case1 => intro walked; cases walked
  | case2 start pos closed _ _ =>
      intro walked r member
      cases walked
      rw [Array.toList_push, List.dropLast_concat] at member
      exact .inl member
  | case3 start pos closed _ _ =>
      intro walked r member
      cases walked
      exact .inl ((List.dropLast_sublist _).subset member)
  | case4 start pos closed st found _ _ ih =>
      intro walked r member
      rw [Statement.allFrom_of_some found]
      rcases ih walked r member with earlier | later
      · -- a region closed before, or the one closed at the end of `st`
        rw [Array.toList_push] at earlier
        rcases List.mem_append.1 earlier with old | new
        · exact .inl old
        · rw [List.mem_singleton.1 new]
          exact .inr ⟨st, List.mem_cons_self, rfl⟩
      · obtain ⟨st', member', ends⟩ := later
        exact .inr ⟨st', List.mem_cons_of_mem st member', ends⟩
  | case5 start pos closed st found _ _ ih =>
      intro walked r member
      rw [Statement.allFrom_of_some found]
      rcases ih walked r member with earlier | later
      · exact .inl earlier
      · obtain ⟨st', member', ends⟩ := later
        exact .inr ⟨st', List.mem_cons_of_mem st member', ends⟩

/-- The regions of a buffer for `parts` parallel scans: at least one and at most `parts` of
them (one when `parts` is below two), covering the buffer one after another, and cut only where a
statement of the walk from the start ends. -/
structure Partition (buf : ByteArray) (parts : Int) (regions : List Region) : Prop where
  length_pos : 0 < regions.length
  length_le : regions.length ≤ (max parts 1).toNat
  /-- A nonempty buffer is covered from its start to its end by nonempty regions, each starting
  where the one before ends. -/
  covers : 0 < buf.size → Covers 0 regions buf.size
  /-- An empty buffer is one empty region. -/
  empty : buf.size = 0 → regions = [whole buf]
  inner : ∀ r ∈ regions.dropLast, ∃ st ∈ (Statement.allFrom buf 0).1, st.stop = r.stop

theorem Covers.length_pos {start stop : Nat} {regions : List Region}
    (covers : Covers start regions stop) (longer : start < stop) : 0 < regions.length := by
  cases covers with
  | nil => omega
  | cons => simp

theorem partition_whole (buf : ByteArray) (parts : Int) : Partition buf parts [whole buf] where
  length_pos := by simp
  length_le := by
    rw [List.length_singleton]
    omega
  covers := fun nonempty => .cons rfl nonempty (.nil _)
  empty := fun _ => rfl
  inner := by simp

/-- Split into regions or failed: a split fails only when it asks for two regions or more of a
nonempty buffer whose walk of statements ends in an error, and with that error; otherwise its
regions partition the buffer at statement ends. -/
theorem split_partitions (buf : ByteArray) (parts : Int) :
    (∃ e, split buf parts = .error e ∧ 2 ≤ parts ∧ 0 < buf.size ∧
      (Statement.allFrom buf 0).2 = some e) ∨
    ∃ regions, split buf parts = .ok regions ∧ Partition buf parts regions := by
  unfold split
  by_cases single : (parts ≤ 1 || buf.size = 0) = true
  · rw [if_pos single]
    exact .inr ⟨_, rfl, partition_whole buf parts⟩
  · rw [if_neg single]
    dsimp only
    have several : 2 ≤ parts ∧ 0 < buf.size := by
      simp only [Bool.or_eq_true, decide_eq_true_eq, not_or] at single
      omega
    cases walked : splitFrom buf parts.toNat (buf.size / parts.toNat) 0 0 #[] with
    | error e =>
        exact .inl ⟨e, rfl, several.1, several.2, splitFrom_error_iff.1 walked⟩
    | ok result =>
        refine .inr ⟨result.toList, rfl, ?_⟩
        have covers := splitFrom_covers several.2 (.nil 0) (Nat.le_refl 0) (Nat.zero_le _)
          (fun _ => rfl) walked
        have atMost := splitFrom_size_le (by simp) (by omega) walked
        exact {
          length_pos := covers.length_pos several.2
          length_le := by
            rw [Array.length_toList]
            omega
          covers := fun _ => covers
          empty := fun empty => absurd empty (by omega)
          inner := fun r member => by
            rcases splitFrom_inner walked r member with old | found
            · simp at old
            · exact found }

end Region

end WikiDump

