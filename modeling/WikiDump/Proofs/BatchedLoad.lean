import WikiDump.Export.Sqlite
/-!
# Loading in whole batches

A load inserts the rows an iterator yields into one table, in transactions of `size` rows
(`Sqlite.batchSize`): a transaction is begun with the first row of a batch and committed once it
holds the batch (`Sqlite.Batching.insert`). When the rows end normally the last, shorter batch is
committed; when they end in a failure it is rolled back.

Between two rows a load keeps one invariant (`Sqlite.Batching.Holds`): the committed rows are the
first `inserted` rows, a whole number of batches, appended to the table in order, and the rest
pend, fewer than a batch. Each row keeps it (`Sqlite.Batching.insert_holds`), so a whole run does
(`Sqlite.Batching.foldl_holds`). So `k` rows that end normally leave all `k` in the table, in
order, and count `k`; `k` rows that end in a failure leave the first `size * ⌊k / size⌋` and
count those (`Sqlite.loads_whole_batches`). The table is created with the dump table's columns
when it is missing, and rows already in it stay before the new ones.
-/

namespace WikiDump

namespace Sqlite

/-! ## Tables of a database -/

namespace Database

theorem append_nil (db : Database) (name : String) : db.append name [] = db := by
  cases db with
  | mk tables => simp [append]

theorem append_append (db : Database) (name : String) (a b : List (List SqlValue)) :
    (db.append name a).append name b = db.append name (a ++ b) := by
  cases db with
  | mk tables =>
    simp only [append, List.map_map, mk.injEq]
    refine List.map_congr_left fun tb _ => ?_
    by_cases named : tb.name = name <;> simp [named]

theorem table?_append (db : Database) (name : String) (rows : List (List SqlValue)) :
    (db.append name rows).table? name = (db.table? name).map fun tb => { tb with rows := tb.rows ++ rows } := by
  cases db with
  | mk tables =>
    induction tables with
    | nil => rfl
    | cons tb rest ih =>
      by_cases named : tb.name = name
      · simp [append, table?, named]
      · simpa [append, table?, named] using ih

theorem table?_create (db : Database) (t : Table) :
    (db.create t).table? t.name = some ((db.table? t.name).getD ⟨t.name, t.columnNames, []⟩) := by
  unfold create
  cases found : db.table? t.name with
  | some tb => simp [found]
  | none => simp [table?, List.find?_append, show db.tables.find? (·.name == t.name) = none from found]

end Database

/-! ## The invariant of a load -/

namespace Batching

/-- A load into table `name` of `start`, in batches of `size`, after the rows `rows`: the first
`inserted` rows, a whole number of batches, are committed to the table in order, and the rest
pend, fewer than a batch. -/
structure Holds (size : Nat) (name : String) (start : Database) (rows : List (List SqlValue))
    (s : Batching) : Prop where
  inserted_le : s.inserted ≤ rows.length
  pending_eq : s.pending = rows.drop s.inserted
  whole : size ∣ s.inserted
  short : s.pending.length < size
  database_eq : s.database = start.append name (rows.take s.inserted)

section

variable {size : Nat} {name : String} {start : Database}

theorem start_holds (positive : 0 < size) : Holds size name start [] ⟨start, [], 0⟩ :=
  ⟨Nat.le_refl 0, rfl, Nat.dvd_zero size, positive, (Database.append_nil start name).symm⟩

theorem insert_eq (s : Batching) (row : List Variant) :
    s.insert size name row =
      if (s.pending ++ [row.map SqlValue.ofVariant]).length ≥ size then
        ⟨s.database.append name (s.pending ++ [row.map SqlValue.ofVariant]), [],
          s.inserted + (s.pending ++ [row.map SqlValue.ofVariant]).length⟩
      else { s with pending := s.pending ++ [row.map SqlValue.ofVariant] } := rfl

theorem insert_holds {rows : List (List SqlValue)} {s : Batching}
    (holds : Holds size name start rows s) (row : List Variant) :
    Holds size name start (rows ++ [row.map SqlValue.ofVariant]) (s.insert size name row) := by
  have pendingLength : s.pending.length = rows.length - s.inserted := by
    rw [holds.pending_eq, List.length_drop]
  have short := holds.short
  have le := holds.inserted_le
  rw [insert_eq]
  split
  · -- The batch is full: it is committed, and all rows so far are in the table.
    rename_i full
    simp only [List.length_append, List.length_singleton] at full
    have filled : s.pending.length + 1 = size := by omega
    have everything : rows.take s.inserted ++ s.pending = rows := by
      rw [holds.pending_eq, List.take_append_drop]
    have taken : s.inserted + (s.pending ++ [row.map SqlValue.ofVariant]).length =
        (rows ++ [row.map SqlValue.ofVariant]).length := by
      simp only [List.length_append, List.length_singleton]
      omega
    refine ⟨Nat.le_of_eq taken, ?_, ?_, ?_, ?_⟩
    · rw [taken, List.drop_length]
    · simp only [List.length_append, List.length_singleton, filled]
      exact Nat.dvd_add holds.whole (Nat.dvd_refl size)
    · show 0 < size
      omega
    · show s.database.append name (s.pending ++ [row.map SqlValue.ofVariant]) = _
      rw [taken, List.take_length, holds.database_eq, Database.append_append, ← List.append_assoc,
        everything]
  · -- The batch is still open: the table and the count stay, the row pends.
    rename_i room
    simp only [List.length_append, List.length_singleton, ge_iff_le, Nat.not_le] at room
    refine ⟨?_, ?_, holds.whole, ?_, ?_⟩
    · simp only [List.length_append, List.length_singleton]
      omega
    · rw [holds.pending_eq, List.drop_append_of_le_length le]
    · simp only [List.length_append, List.length_singleton]
      exact room
    · rw [holds.database_eq, List.take_append_of_le_length le]

theorem foldl_holds {rows : List (List SqlValue)} {s : Batching}
    (holds : Holds size name start rows s) (more : List (List Variant)) :
    Holds size name start (rows ++ more.map (·.map SqlValue.ofVariant))
      (more.foldl (insert size name) s) := by
  induction more generalizing rows s with
  | nil => simpa using holds
  | cons row rest ih =>
    have next := ih (insert_holds holds row)
    simpa only [List.foldl_cons, List.map_cons, List.append_assoc, List.singleton_append] using next

end

end Batching

theorem whole_batches_count {k i size : Nat} (whole : size ∣ i) (le : i ≤ k) (rest : k - i < size) :
    k / size * size = i := by
  obtain ⟨q, rfl⟩ := whole
  have lower : q * size ≤ k := by
    rw [Nat.mul_comm]
    exact le
  have upper : k < (q + 1) * size := by
    rw [Nat.succ_mul, Nat.mul_comm]
    omega
  rw [Nat.div_eq_of_lt_le lower upper, Nat.mul_comm]

theorem batchSize_pos (batch : Int) : 0 < batchSize batch := by
  unfold batchSize
  split <;> omega

/-- What a load of `rows` that end with `ending` leaves: it counts all the rows when they end
normally and their whole batches when they end in a failure, it reports that failure, and the
table (created with the dump table's columns when missing) holds its rows before and then the
counted rows, in order. -/
def LoadsWholeBatches (db : Database) (t : Table) (rows : List (List Variant))
    (ending : Option ScanError) (batch : Int) : Prop :=
  let kept := ending.elim rows.length fun _ => rows.length / batchSize batch * batchSize batch
  let before := (db.table? t.name).getD ⟨t.name, t.columnNames, []⟩
  (loadRows db t rows ending batch).inserted = kept ∧
    (loadRows db t rows ending batch).error = ending ∧
    (loadRows db t rows ending batch).database.table? t.name =
      some { before with rows := before.rows ++ (rows.take kept).map (·.map SqlValue.ofVariant) }

theorem loads_whole_batches (db : Database) (t : Table) (rows : List (List Variant))
    (ending : Option ScanError) (batch : Int) : LoadsWholeBatches db t rows ending batch := by
  obtain ⟨s, loaded⟩ : ∃ s, rows.foldl (Batching.insert (batchSize batch) t.name)
      ⟨db.create t, [], 0⟩ = s := ⟨_, rfl⟩
  have start : Batching.Holds (batchSize batch) t.name (db.create t) [] ⟨db.create t, [], 0⟩ :=
    Batching.start_holds (batchSize_pos batch)
  have holds := Batching.foldl_holds start rows
  rw [List.nil_append, loaded] at holds
  have length : (rows.map (·.map SqlValue.ofVariant)).length = rows.length := List.length_map _
  have le := holds.inserted_le
  have pendingLength : s.pending.length = rows.length - s.inserted := by
    rw [holds.pending_eq, List.length_drop, length]
  have table := Database.table?_create db t
  simp only [LoadsWholeBatches, loadRows, loaded]
  cases ending with
  | none =>
    -- The last batch is committed: every row is in the table.
    refine ⟨?_, rfl, ?_⟩
    · show s.inserted + s.pending.length = rows.length
      omega
    · show (s.database.append t.name s.pending).table? t.name = _
      rw [holds.database_eq, Database.append_append, holds.pending_eq, List.take_append_drop,
        Database.table?_append, table]
      simp
  | some e =>
    -- The last batch is rolled back: the whole batches stay.
    have count : rows.length / batchSize batch * batchSize batch = s.inserted :=
      whole_batches_count holds.whole (length ▸ le) (by rw [← pendingLength]; exact holds.short)
    refine ⟨count.symm, rfl, ?_⟩
    show s.database.table? t.name = _
    rw [holds.database_eq, Database.table?_append, table]
    simp [count, List.map_take]

end Sqlite

end WikiDump

