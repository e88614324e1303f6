import Mathlib.Data.List.Flatten
import WikiDump.Proofs.Grouping
import WikiDump.Proofs.QueryRows
/-!
# Two ways of reading a row

The query engine reads a row two ways. A projection, an aggregation and a GROUP BY read a
column by its name, which finds the first column of that name (`Row.get`); a WHERE filter reads
the row's record, which keeps the last value of each name (`Row.record`). The two agree on a row
that holds each name once.

A plan's rows hold at most the columns the plan names (`Plan.columns`): a scan the columns of its
table, a projection the names of its fields with a bare `*` standing for the columns of its
input, an aggregation the names of its fields, a filter and a limit the columns of their input
(`Plan.run_keys`). So when a plan names its columns without repeating one, every row it yields
holds each name once, its record is the row itself, and a column read by name and through the
record has the value the row holds for it (`Plan.rows_agree`). Every registered table names its
columns without repeating one (`Tables.columns_distinct`), so every scan of one qualifies.

A SELECT list may repeat a name, and then the two readings part: under
`SELECT ufg_user AS x, ufg_group AS x` the column `x` reads as the user while the record holds
the group (`Plan.repeated_name_disagrees`).
-/

namespace WikiDump

namespace Engine

open Query
open scoped List

/-! ## Rows whose names are distinct -/

theorem map_fst_zip_sublist {α β : Type} (l₁ : List α) (l₂ : List β) :
    (l₁.zip l₂).map Prod.fst <+ l₁ := by
  induction l₁ generalizing l₂ with
  | nil => simp
  | cons a rest ih =>
    cases l₂ with
    | nil => simp
    | cons b bs => simpa using ih bs

theorem ne_of_nodup_cons {k' k : String} {v' v : Variant} {rest : Row}
    (distinct : (((k', v') :: rest).map Prod.fst).Nodup) (later : (k, v) ∈ rest) : k' ≠ k := by
  rintro rfl
  exact (List.nodup_cons.1 distinct).1 (List.mem_map.2 ⟨(k', v), later, rfl⟩)

theorem find?_of_nodup {row : Row} (distinct : (row.map Prod.fst).Nodup) {k : String}
    {v : Variant} (entry : (k, v) ∈ row) : row.find? (·.1 == k) = some (k, v) := by
  induction row with
  | nil => cases entry
  | cons head rest ih =>
    obtain ⟨k', v'⟩ := head
    rcases List.mem_cons.1 entry with same | later
    · cases same
      simp
    · have other := ne_of_nodup_cons distinct later
      simp [other, ih (List.nodup_cons.1 distinct).2 later]

theorem get_of_nodup {row : Row} (distinct : (row.map Prod.fst).Nodup) {k : String}
    {v : Variant} (entry : (k, v) ∈ row) : row.get k = .ok v := by
  rw [Row.get, find?_of_nodup distinct entry]

theorem lookup_of_nodup {row : Row} (distinct : (row.map Prod.fst).Nodup) {k : String}
    {v : Variant} (entry : (k, v) ∈ row) : row.lookup k = some v := by
  induction row with
  | nil => cases entry
  | cons head rest ih =>
    obtain ⟨k', v'⟩ := head
    rcases List.mem_cons.1 entry with same | later
    · cases same
      exact List.lookup_cons_self
    · have other := ne_of_nodup_cons distinct later
      rw [List.lookup_cons, beq_false_of_ne (Ne.symm other)]
      exact ih (List.nodup_cons.1 distinct).2 later

theorem setEntry_absent {k : String} {v : Variant} {es : List (String × Variant)}
    (absent : k ∉ es.map Prod.fst) : setEntry k v es = es ++ [(k, v)] := by
  induction es with
  | nil => rfl
  | cons head rest ih =>
    obtain ⟨k', v'⟩ := head
    simp only [List.map_cons, List.mem_cons, not_or] at absent
    simp [setEntry, Ne.symm absent.1, ih absent.2]

theorem foldl_setEntry_distinct (acc es : List (String × Variant))
    (distinct : ((acc ++ es).map Prod.fst).Nodup) :
    es.foldl (fun acc (kv : String × Variant) => setEntry kv.1 kv.2 acc) acc = acc ++ es := by
  induction es generalizing acc with
  | nil => simp
  | cons head rest ih =>
    have absent : head.1 ∉ acc.map Prod.fst := by
      intro present
      simp only [List.map_append, List.map_cons] at distinct
      exact (List.nodup_append.1 distinct).2.2 _ present _ List.mem_cons_self rfl
    rw [List.foldl_cons, setEntry_absent absent, ih (acc ++ [head]) (by simpa using distinct)]
    simp

theorem lastWins_of_nodup {row : Row} (distinct : (row.map Prod.fst).Nodup) :
    lastWins row = row := by
  have folded := foldl_setEntry_distinct [] row (by simpa using distinct)
  simpa [lastWins] using folded

/-! ## The columns of a plan -/

def projectNames (fields : List SelectField) (input : List String) : List String :=
  fields.flatMap fun f =>
    if f.path = "*" ∧ (f.aliasName.isEmpty ∨ f.aliasName = "*") then input else [f.columnName]

namespace Plan

/-- The names of the columns a plan's rows hold. -/
def columns : Plan → List String
  | .scan _ t => t.schema.columnNames
  | .filter input _ => input.columns
  | .project input fields => projectNames fields input.columns
  | .aggregate _ _ fields => fields.map (·.columnName)
  | .limit input _ => input.columns

end Plan

theorem ofDecoded_keys (t : Table) (decoded : WikiDump.Row) :
    (Row.ofDecoded t decoded).map Prod.fst <+ t.columnNames :=
  map_fst_zip_sublist _ _

theorem projectRow_keys (fields : List SelectField) {row : Row} {input : List String}
    (keys : row.map Prod.fst <+ input) :
    (projectRow fields row).map Prod.fst <+ projectNames fields input := by
  rw [projectRow, projectNames, List.map_flatMap]
  apply List.Sublist.flatMap_right
  intro f _
  by_cases bare : f.path = "*" ∧ (f.aliasName.isEmpty ∨ f.aliasName = "*")
  · rw [if_pos bare, if_pos bare]
    exact keys
  · rw [if_neg bare, if_neg bare]
    exact List.Sublist.refl _

theorem Group.row_keys (fields : List SelectField) (groupBy : String) (g : Group) :
    (Group.row fields groupBy g).map Prod.fst <+ fields.map (·.columnName) := by
  have named : (Group.row fields groupBy g).map Prod.fst =
      ((fields.zip g.accumulators).map Prod.fst).map (·.columnName) := by
    simp only [Group.row, List.map_map]
    refine List.map_congr_left fun entry _ => ?_
    obtain ⟨f, acc⟩ := entry
    cases acc <;> rfl
  rw [named]
  exact (map_fst_zip_sublist fields g.accumulators).map _

theorem aggregateRows_keys {groupBy : String} {fields : List SelectField} {rows : List Row}
    {row : Row} (member : row ∈ aggregateRows groupBy fields rows) :
    row.map Prod.fst <+ fields.map (·.columnName) := by
  -- Every row an aggregation yields is the row of some group, the empty global group included.
  have grouped : ∃ path g, row = Group.row fields path g := by
    unfold aggregateRows at member
    split at member
    · split at member
      · exact ⟨_, _, List.mem_singleton.1 member⟩
      · cases member
    · obtain ⟨g, _, rfl⟩ := List.mem_map.1 member
      exact ⟨groupBy, g, rfl⟩
  obtain ⟨path, g, rfl⟩ := grouped
  exact Group.row_keys fields path g

namespace Plan

theorem run_project (input : Plan) (fields : List SelectField) :
    (Plan.project input fields).run = (input.run.1.map (projectRow fields), input.run.2) := by
  cases found : input.run with
  | mk rows failure => simp only [Plan.run, found]

theorem run_limit_sublist (input : Plan) (n : Nat) : (Plan.limit input n).run.1 <+ input.run.1 := by
  cases found : input.run with
  | mk rows failure =>
    simp only [Plan.run, found]
    split
    · exact List.take_sublist n rows
    · exact List.Sublist.refl rows

/-- Every row of a plan holds some of the plan's columns, in the plan's order. -/
theorem run_keys : ∀ (p : Plan), ∀ row ∈ p.run.1, row.map Prod.fst <+ p.columns
  | .scan _ t, row, member => by
    obtain ⟨decoded, _, rfl⟩ := List.mem_map.1 member
    exact ofDecoded_keys t.schema decoded
  | .filter input e, row, member => by
    simp only [run_filter, whereRows] at member
    exact run_keys input row (List.mem_of_mem_filter member)
  | .project input fields, row, member => by
    rw [run_project] at member
    obtain ⟨r, fromInput, rfl⟩ := List.mem_map.1 member
    exact projectRow_keys fields (run_keys input r fromInput)
  | .aggregate input groupBy fields, row, member => by
    rw [run_aggregate] at member
    cases failure : input.run.2 with
    | none =>
      simp only [failure, Option.elim_none] at member
      exact aggregateRows_keys member
    | some e =>
      simp only [failure, Option.elim_some] at member
      cases member
  | .limit input n, row, member =>
    run_keys input row ((run_limit_sublist input n).subset member)

/-- What a row of a plan says of each of its columns, read both ways: the row holds each name
once, its record is the row itself, and the value of each column is found by name and in the
record. -/
def RowsAgree (p : Plan) : Prop :=
  ∀ row ∈ p.run.1, (row.map Prod.fst).Nodup ∧ row.record = .record row ∧
    ∀ k v, (k, v) ∈ row → row.get k = .ok v ∧ row.lookup k = some v

theorem rows_agree (p : Plan) (distinct : p.columns.Nodup) : RowsAgree p := by
  intro row member
  have keys : (row.map Prod.fst).Nodup := (run_keys p row member).nodup distinct
  refine ⟨keys, by rw [Row.record, lastWins_of_nodup keys], fun k v entry => ?_⟩
  exact ⟨get_of_nodup keys entry, lookup_of_nodup keys entry⟩

end Plan

/-- Every registered table names its columns without repeating one. -/
theorem Tables.columns_distinct : ∀ t ∈ Tables.all, t.columnNames.Nodup := by
  decide +kernel

namespace Plan

theorem rows_agree_page_scan :
    (Plan.scan "page" ⟨Tables.pages, .empty⟩).columns.Nodup ∧
      RowsAgree (.scan "page" ⟨Tables.pages, .empty⟩) :=
  have distinct := Tables.columns_distinct Tables.pages (by simp [Tables.all])
  ⟨distinct, rows_agree _ distinct⟩

/-- A SELECT list that names two columns `x`: its row reads `x` by name as the user `7`, while
its record holds the group `bot` under `x`. -/
theorem repeated_name_disagrees :
    ((Plan.project
        (.scan "user_former_groups"
          ⟨Tables.userFormerGroups, "INSERT INTO user_former_groups VALUES (7,'bot');".toUTF8⟩)
        [⟨"ufg_user", "x", ""⟩, ⟨"ufg_group", "x", ""⟩]).run.1.map fun (row : Row) =>
      ((row.get "x").toOption.map Variant.display, ((lastWins row).lookup "x").map Variant.display)) =
      [(some (Variant.utf8 "7"), some (Variant.utf8 "bot"))] := by
  decide +kernel

end Plan

end Engine

end WikiDump

