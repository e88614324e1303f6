import Mathlib.Data.List.Sort
import WikiDump.Engine.Aggregate
import WikiDump.Proofs.OrderFilters
/-!
# Grouping rows by a path

What an aggregating step with a GROUP BY path makes of its input rows, over every input.

Every row falls into the group of its name: the display text of its value at the path, as
bytes, or `null` when the value is NULL or the path does not resolve. The groups are the names
met, one each; a group holds the value of the first row of its name, and its row aggregates
every field over exactly the rows of that name (`Engine.Grouping`, `Engine.groupsOf_grouping`).
Rows fall into one group exactly when their values display alike, NULL apart, as long as no
value displays as `null`: such a value shares the group of the NULL rows
(`Engine.groupOf_name_eq_iff`).

The groups come out in an order that is a permutation of them with the NULL-valued group
first; when `orderLess` is a strict weak order on the values the order is ascending
(`Engine.sortGroups_sorted`). It is one when every value is a number other than NaN (an
integer, a count, a double or a boolean), since doubles other than NaN compare by a key, and
when no value is a number, since display texts compare byte by byte
(`Engine.orderConsistent_of_comparable`). A NaN, which AVG yields over sums that overflow both
ways, compares with nothing, and groups around it can come out of order.
-/

namespace WikiDump

def Query.SelectField.columnName (f : Query.SelectField) : String :=
  if f.aliasName.isEmpty then f.path else f.aliasName

namespace Engine

open Query

/-! ## Groups and the rows they take in -/

@[simp] theorem Group.add_name (fields : List SelectField) (g : Group) (row : Row) :
    (Group.add fields g row).name = g.name := rfl

@[simp] theorem Group.add_key (fields : List SelectField) (g : Group) (row : Row) :
    (Group.add fields g row).key = g.key := rfl

@[simp] theorem Group.foldl_add_name (fields : List SelectField) (rows : List Row) (g : Group) :
    (rows.foldl (Group.add fields) g).name = g.name := by
  induction rows generalizing g with
  | nil => rfl
  | cons row rest ih => simp [ih]

@[simp] theorem Group.foldl_add_key (fields : List SelectField) (rows : List Row) (g : Group) :
    (rows.foldl (Group.add fields) g).key = g.key := by
  induction rows generalizing g with
  | nil => rfl
  | cons row rest ih => simp [ih]

/-- The values rows take at a path, leaving out the rows where it does not resolve. -/
def valuesAt (path : String) (rows : List Row) : List Variant :=
  rows.filterMap fun row => (row.get path).toOption

def Accumulator.over (name : String) (values : List Variant) : Variant :=
  (values.foldl Accumulator.add (Accumulator.start name)).result

/-- The row of a group with value `key` over the rows `rows`: per field, the aggregate of its
path's values over the rows, the group value for the GROUP BY path, NULL for anything else. -/
def groupRow (groupBy : String) (fields : List SelectField) (key : Variant) (rows : List Row) :
    Row :=
  fields.map fun f =>
    (f.columnName,
      if f.aggregate.isEmpty then (if f.path = groupBy then key else .null)
      else Accumulator.over f.aggregate (valuesAt f.path rows))

theorem zip_map_self {α β : Type} (l : List α) (F : α → β) :
    l.zip (l.map F) = l.map fun a => (a, F a) := by
  simpa using @List.zip_map' α α β id F l

theorem Group.add_mapped (fields : List SelectField) (name : List UInt8) (key : Variant)
    (F : SelectField → Option Accumulator) (row : Row) :
    Group.add fields ⟨name, key, fields.map F⟩ row =
      ⟨name, key, fields.map fun f =>
        (F f).map fun a => (valuesAt f.path [row]).foldl Accumulator.add a⟩ := by
  simp only [Group.add, zip_map_self, List.map_map, Function.comp_def, Group.mk.injEq, true_and]
  refine List.map_congr_left fun f _ => ?_
  cases F f with
  | none => rfl
  | some a => cases h : row.get f.path <;> simp [valuesAt, h, Except.toOption]

theorem Group.foldl_add_mapped (fields : List SelectField) (name : List UInt8) (key : Variant)
    (F : SelectField → Option Accumulator) (rows : List Row) :
    rows.foldl (Group.add fields) ⟨name, key, fields.map F⟩ =
      ⟨name, key, fields.map fun f =>
        (F f).map fun a => (valuesAt f.path rows).foldl Accumulator.add a⟩ := by
  induction rows generalizing F with
  | nil => simp [valuesAt]
  | cons row rest ih =>
      have split : ∀ path, valuesAt path (row :: rest) = valuesAt path [row] ++ valuesAt path rest :=
        fun path => by simp [valuesAt, List.filterMap_cons]; cases (row.get path).toOption <;> rfl
      rw [List.foldl_cons, Group.add_mapped, ih]
      simp only [Option.map_map, split, List.foldl_append]
      rfl

theorem Group.row_mapped (fields : List SelectField) (groupBy : String) (name : List UInt8) (key : Variant)
    (F : SelectField → Option Accumulator) :
    Group.row fields groupBy ⟨name, key, fields.map F⟩ =
      fields.map fun f => (f.columnName,
        ((F f).map Accumulator.result).getD (if f.path = groupBy then key else .null)) := by
  simp only [Group.row, zip_map_self, List.map_map, Function.comp_def]
  refine List.map_congr_left fun f _ => ?_
  cases F f <;> rfl

/-- The row of a group started with `key` that took in `rows` is the group row of those rows:
each aggregate is computed from exactly them. -/
theorem Group.row_foldl_add (groupBy : String) (fields : List SelectField) (name : List UInt8)
    (key : Variant) (rows : List Row) :
    Group.row fields groupBy (rows.foldl (Group.add fields) (Group.start fields name key)) =
      groupRow groupBy fields key rows := by
  rw [Group.start, Group.foldl_add_mapped, Group.row_mapped, groupRow]
  refine List.map_congr_left fun f _ => ?_
  by_cases plain : f.aggregate.isEmpty <;> simp [plain, Accumulator.over]

/-! ## The groups of rows -/

def groupsOf (groupBy : String) (fields : List SelectField) (rows : List Row) : List Group :=
  rows.foldl (fun gs row =>
    addToGroups fields (groupOf groupBy row).1 (groupOf groupBy row).2 row gs) []

theorem aggregateRows_of_grouped {groupBy : String} (fields : List SelectField) (rows : List Row)
    (grouped : groupBy ≠ "") :
    aggregateRows groupBy fields rows =
      (sortGroups (groupsOf groupBy fields rows)).map (Group.row fields groupBy) := by
  have named : groupBy.isEmpty = false := by simpa [String.isEmpty_iff] using grouped
  simp only [aggregateRows, named, Bool.and_false, Bool.false_eq_true, if_false]
  rfl

theorem addToGroups_of_mem {fields : List SelectField} {name : List UInt8} {key : Variant} {row : Row}
    {gs : List Group} (named : name ∈ gs.map (·.name)) (distinct : (gs.map (·.name)).Nodup) :
    addToGroups fields name key row gs =
      gs.map fun g => if g.name = name then Group.add fields g row else g := by
  induction gs with
  | nil => cases named
  | cons g rest ih =>
      rw [List.map_cons, List.nodup_cons] at distinct
      by_cases same : g.name = name
      · have untouched : (rest.map fun g => if g.name = name then Group.add fields g row else g) =
            rest := by
          refine (List.map_congr_left fun g' mem => if_neg fun named' => ?_).trans (List.map_id' rest)
          exact distinct.1 (same ▸ named' ▸ List.mem_map_of_mem mem)
        simp [addToGroups, same, untouched]
      · have later : name ∈ rest.map (·.name) := by
          rcases List.mem_cons.1 named with here | later
          · exact absurd here.symm same
          · exact later
        simp [addToGroups, same, ih later distinct.2]

theorem addToGroups_of_not_mem {fields : List SelectField} {name : List UInt8} {key : Variant}
    {row : Row} {gs : List Group} (fresh : name ∉ gs.map (·.name)) :
    addToGroups fields name key row gs = gs ++ [Group.add fields (Group.start fields name key) row] := by
  induction gs with
  | nil => rfl
  | cons g rest ih =>
      have other : g.name ≠ name := fun same => fresh (same ▸ List.mem_cons_self)
      have later : name ∉ rest.map (·.name) := fun named => fresh (List.mem_cons_of_mem _ named)
      simp [addToGroups, other, ih later]

/-- `gs` are the groups of `rows` under the names `groupOf` gives them. -/
structure Grouping (groupBy : String) (fields : List SelectField) (rows : List Row)
    (gs : List Group) : Prop where
  /-- No two groups share a name. -/
  distinct : (gs.map (·.name)).Nodup
  /-- Every row has the group of its name. -/
  complete : ∀ row ∈ rows, (groupOf groupBy row).1 ∈ gs.map (·.name)
  /-- A group holds the name and value of the first row of its name. -/
  first : ∀ g ∈ gs, ∃ earlier row later, rows = earlier ++ row :: later ∧
    (∀ r ∈ earlier, (groupOf groupBy r).1 ≠ g.name) ∧ groupOf groupBy row = (g.name, g.key)
  /-- A group took in exactly the rows of its name, in order. -/
  accumulated : ∀ g ∈ gs, g = (rows.filter fun r => (groupOf groupBy r).1 = g.name).foldl
    (Group.add fields) (Group.start fields g.name g.key)

theorem filter_name_snoc (groupBy : String) (name : List UInt8) (rows : List Row) (row : Row) :
    ((rows ++ [row]).filter fun r => (groupOf groupBy r).1 = name) =
      (rows.filter fun r => (groupOf groupBy r).1 = name) ++
        (if (groupOf groupBy row).1 = name then [row] else []) := by
  by_cases same : (groupOf groupBy row).1 = name <;> simp [List.filter_append, same]

theorem Grouping.snoc_of_mem {groupBy : String} {fields : List SelectField} {rows : List Row}
    {gs : List Group} (grouping : Grouping groupBy fields rows gs) {row : Row} {name : List UInt8}
    {key : Variant} (named : groupOf groupBy row = (name, key)) (old : name ∈ gs.map (·.name)) :
    Grouping groupBy fields (rows ++ [row])
      (gs.map fun g => if g.name = name then Group.add fields g row else g) := by
  have keepsName : ∀ g : Group,
      (if g.name = name then Group.add fields g row else g).name = g.name := by
    intro g; split <;> rfl
  have keepsKey : ∀ g : Group,
      (if g.name = name then Group.add fields g row else g).key = g.key := by
    intro g; split <;> rfl
  have names : ((gs.map fun g => if g.name = name then Group.add fields g row else g).map
      (·.name)) = gs.map (·.name) := by
    simp only [List.map_map, Function.comp_def, keepsName]
  refine ⟨names ▸ grouping.distinct, ?_, ?_, ?_⟩
  · intro r member
    rw [names]
    rcases List.mem_append.1 member with inRows | isRow
    · exact grouping.complete r inRows
    · rw [List.mem_singleton.1 isRow, named]
      exact old
  · intro g' member
    obtain ⟨g, inGroups, rfl⟩ := List.mem_map.1 member
    obtain ⟨earlier, r, later, split, notEarlier, first⟩ := grouping.first g inGroups
    refine ⟨earlier, r, later ++ [row], by simp [split], ?_, ?_⟩
    · simpa only [keepsName] using notEarlier
    · simpa only [keepsName, keepsKey] using first
  · intro g' member
    obtain ⟨g, inGroups, rfl⟩ := List.mem_map.1 member
    rw [keepsName, keepsKey, filter_name_snoc, named]
    by_cases same : g.name = name
    · simp only [same, if_true, List.foldl_append, List.foldl_cons, List.foldl_nil]
      rw [← same, ← grouping.accumulated g inGroups]
    · have other : name ≠ g.name := fun h => same h.symm
      simp only [same, other, if_false, List.append_nil]
      exact grouping.accumulated g inGroups

theorem Grouping.snoc_of_not_mem {groupBy : String} {fields : List SelectField} {rows : List Row}
    {gs : List Group} (grouping : Grouping groupBy fields rows gs) {row : Row} {name : List UInt8}
    {key : Variant} (named : groupOf groupBy row = (name, key)) (fresh : name ∉ gs.map (·.name)) :
    Grouping groupBy fields (rows ++ [row])
      (gs ++ [Group.add fields (Group.start fields name key) row]) := by
  -- no earlier row has the new name, since every earlier name has a group
  have unnamed : ∀ r ∈ rows, (groupOf groupBy r).1 ≠ name :=
    fun r inRows same => fresh (same ▸ grouping.complete r inRows)
  refine ⟨?_, ?_, ?_, ?_⟩
  · simpa [List.nodup_append, Group.start] using
      ⟨grouping.distinct, fun g inGroups same => fresh (same ▸ List.mem_map_of_mem inGroups)⟩
  · intro r member
    rcases List.mem_append.1 member with inRows | isRow
    · exact List.mem_map.2 <| by
        obtain ⟨g, inGroups, same⟩ := List.mem_map.1 (grouping.complete r inRows)
        exact ⟨g, List.mem_append_left _ inGroups, same⟩
    · rw [List.mem_singleton.1 isRow, named]
      simp [Group.start]
  · intro g member
    rcases List.mem_append.1 member with inGroups | isNew
    · obtain ⟨earlier, r, later, split, notEarlier, first⟩ := grouping.first g inGroups
      exact ⟨earlier, r, later ++ [row], by simp [split], notEarlier, first⟩
    · rw [List.mem_singleton.1 isNew]
      exact ⟨rows, row, [], rfl, by simpa [Group.start] using unnamed, by simp [Group.start, named]⟩
  · intro g member
    rcases List.mem_append.1 member with inGroups | isNew
    · have other : name ≠ g.name := fun same => fresh (same ▸ List.mem_map_of_mem inGroups)
      rw [filter_name_snoc, named]
      simpa [other] using grouping.accumulated g inGroups
    · rw [List.mem_singleton.1 isNew, filter_name_snoc, named]
      have none : (rows.filter fun r => (groupOf groupBy r).1 = name) = [] :=
        List.filter_eq_nil_iff.2 fun r inRows => by simpa using unnamed r inRows
      simp [Group.start, none]

theorem Grouping.snoc {groupBy : String} {fields : List SelectField} {rows : List Row}
    {gs : List Group} (grouping : Grouping groupBy fields rows gs) (row : Row) :
    Grouping groupBy fields (rows ++ [row])
      (addToGroups fields (groupOf groupBy row).1 (groupOf groupBy row).2 row gs) := by
  by_cases old : (groupOf groupBy row).1 ∈ gs.map (·.name)
  · rw [addToGroups_of_mem old grouping.distinct]
    exact grouping.snoc_of_mem rfl old
  · rw [addToGroups_of_not_mem old]
    exact grouping.snoc_of_not_mem rfl old

theorem Grouping.foldl {groupBy : String} {fields : List SelectField} {done : List Row}
    {gs : List Group} (grouping : Grouping groupBy fields done gs) (rest : List Row) :
    Grouping groupBy fields (done ++ rest) (rest.foldl (fun gs row =>
      addToGroups fields (groupOf groupBy row).1 (groupOf groupBy row).2 row gs) gs) := by
  induction rest generalizing done gs with
  | nil => simpa using grouping
  | cons row rest ih =>
      rw [List.foldl_cons, ← List.singleton_append, ← List.append_assoc]
      exact ih (grouping.snoc row)

/-- The groups an aggregating step builds are the groups of its rows. -/
theorem groupsOf_grouping (groupBy : String) (fields : List SelectField) (rows : List Row) :
    Grouping groupBy fields rows (groupsOf groupBy fields rows) := by
  have none : Grouping groupBy fields [] [] := ⟨List.nodup_nil, by simp, by simp, by simp⟩
  simpa [groupsOf] using none.foldl rows

/-! ## Group names -/

def presentAt (path : String) (row : Row) : Option Variant :=
  (row.get path).toOption.filter fun v => !v.isNull

theorem groupOf_of_grouped {groupBy : String} (grouped : groupBy ≠ "") (row : Row) :
    groupOf groupBy row =
      (((presentAt groupBy row).map Variant.display).getD (Variant.utf8 "null"),
        (presentAt groupBy row).getD .null) := by
  have named : groupBy.isEmpty = false := by simpa [String.isEmpty_iff] using grouped
  unfold groupOf presentAt
  rw [named, if_neg Bool.false_ne_true]
  cases row.get groupBy with
  | error e => rfl
  | ok v => cases null : v.isNull <;> simp [null, Except.toOption, Option.filter]

/-- Two rows fall into one group exactly when their values display alike, or neither has one,
as long as neither value displays as `null`. -/
theorem groupOf_name_eq_iff {groupBy : String} (grouped : groupBy ≠ "") {r s : Row}
    (rText : ∀ v, presentAt groupBy r = some v → v.display ≠ Variant.utf8 "null")
    (sText : ∀ v, presentAt groupBy s = some v → v.display ≠ Variant.utf8 "null") :
    (groupOf groupBy r).1 = (groupOf groupBy s).1 ↔
      (presentAt groupBy r).map Variant.display = (presentAt groupBy s).map Variant.display := by
  rw [groupOf_of_grouped grouped, groupOf_of_grouped grouped]
  cases hr : presentAt groupBy r with
  | none =>
      cases hs : presentAt groupBy s with
      | none => simp
      | some w => simpa [eq_comm] using sText w hs
  | some v =>
      cases hs : presentAt groupBy s with
      | none => simpa using rText v hr
      | some w => simp

/-! ## The order of the groups -/

theorem insertGroup_eq_orderedInsert (g : Group) (acc : List Group) :
    insertGroup g acc = acc.orderedInsert (fun a b => groupBefore a b = false) g := by
  induction acc with
  | nil => rfl
  | cons h hs ih => cases before : groupBefore g h <;> simp [insertGroup, before, ih]

theorem sortGroups_eq_insertionSort (gs : List Group) :
    sortGroups gs = (gs.reverse.insertionSort fun a b => groupBefore a b = false).reverse := by
  rw [sortGroups, List.insertionSort, List.foldr_reverse]
  simp only [insertGroup_eq_orderedInsert]

theorem pairwise_insertionSort_of_mem {α : Type} (r : α → α → Prop) [DecidableRel r]
    (l : List α) (total : ∀ a ∈ l, ∀ b ∈ l, r a b ∨ r b a)
    (trans : ∀ a ∈ l, ∀ b ∈ l, ∀ c ∈ l, r a b → r b c → r a c) :
    (l.insertionSort r).Pairwise r := by
  -- the order restricted to the elements of the list is total and transitive everywhere
  let s : {a // a ∈ l} → {a // a ∈ l} → Prop := fun a b => r a.1 b.1
  have : DecidableRel s := fun a b => inferInstanceAs (Decidable (r a.1 b.1))
  have : Std.Total s := ⟨fun a b => total a.1 a.2 b.1 b.2⟩
  have : IsTrans {a // a ∈ l} s := ⟨fun a b c => trans a.1 a.2 b.1 b.2 c.1 c.2⟩
  have mapped := List.map_insertionSort s r Subtype.val l.attach fun _ _ _ _ => Iff.rfl
  rw [List.attach_map_subtype_val] at mapped
  rw [← mapped, List.pairwise_map]
  exact List.pairwise_insertionSort s l.attach

/-- `orderLess` is a strict weak order on the values `vs`: it never holds both ways, and it is
negatively transitive. -/
structure OrderConsistent (vs : List Variant) : Prop where
  asymm : ∀ a ∈ vs, ∀ b ∈ vs, orderLess a b = true → orderLess b a = false
  negTrans : ∀ a ∈ vs, ∀ b ∈ vs, ∀ c ∈ vs,
    orderLess a c = true → orderLess a b = true ∨ orderLess b c = true

theorem OrderConsistent.of_key {α : Type} [LT α] [LE α] [DecidableEq α] [DecidableLT α]
    [Std.IsLinearOrder α] [Std.LawfulOrderLT α] {vs : List Variant} (key : Variant → List α)
    (less : ∀ a ∈ vs, ∀ b ∈ vs, orderLess a b = decide (key a < key b)) : OrderConsistent vs := by
  constructor
  · intro a ha b hb ab
    rw [less a ha b hb] at ab
    rw [less b hb a ha]
    exact decide_eq_false (List.lt_asymm (of_decide_eq_true ab))
  · intro a ha b hb c hc ac
    rw [less a ha c hc] at ac
    rw [less a ha b hb, less b hb c hc]
    by_cases ab : key a < key b
    · exact .inl (decide_eq_true ab)
    · -- `b` is at most `a`, which is below `c`
      exact .inr (decide_eq_true (List.lt_of_le_of_lt (List.not_lt.1 ab) (of_decide_eq_true ac)))

theorem orderConsistent_of_numbers {vs : List Variant}
    (numbers : ∀ v ∈ vs, ∃ x, orderNumber? v = some x ∧ x.isNaN = false) : OrderConsistent vs := by
  refine OrderConsistent.of_key (fun v => ((orderNumber? v).map fun x => orderKey x.toModel.unpack).getD [])
    fun a ha b hb => ?_
  obtain ⟨x, hx, nx⟩ := numbers a ha
  obtain ⟨y, hy, ny⟩ := numbers b hb
  simp only [orderLess, hx, hy, Option.map_some, Option.getD_some]
  exact float_lt_orderKey nx ny

theorem orderConsistent_of_displays {vs : List Variant} (plain : ∀ v ∈ vs, orderNumber? v = none) :
    OrderConsistent vs :=
  OrderConsistent.of_key Variant.display fun a ha b _ => by simp [orderLess, plain a ha]

/-- The values of a column that `orderLess` orders consistently: all of them numbers other than
NaN (integers, counts, doubles and booleans), or none of them a number. -/
def Comparable (vs : List Variant) : Prop :=
  (∀ v ∈ vs, ∃ x, orderNumber? v = some x ∧ x.isNaN = false) ∨ ∀ v ∈ vs, orderNumber? v = none

theorem orderConsistent_of_comparable {vs : List Variant} (comparable : Comparable vs) :
    OrderConsistent vs :=
  comparable.elim orderConsistent_of_numbers orderConsistent_of_displays

theorem groupBefore_null_right {a b : Group} (nullB : b.key.isNull = true) :
    groupBefore a b = false := by
  simp [groupBefore, nullB]

theorem groupBefore_null_left {a b : Group} (nullA : a.key.isNull = true) :
    groupBefore a b = !b.key.isNull := by
  simp [groupBefore, nullA]

theorem groupBefore_asymm {vs : List Variant} (consistent : OrderConsistent vs) {a b : Group}
    (ka : a.key.isNull = false → a.key ∈ vs) (kb : b.key.isNull = false → b.key ∈ vs)
    (before : groupBefore a b = true) : groupBefore b a = false := by
  cases na : a.key.isNull <;> cases nb : b.key.isNull <;> simp [groupBefore, na, nb] at before ⊢
  exact consistent.asymm _ (ka na) _ (kb nb) before

theorem groupBefore_negTrans {vs : List Variant} (consistent : OrderConsistent vs)
    {a b c : Group} (ka : a.key.isNull = false → a.key ∈ vs)
    (kb : b.key.isNull = false → b.key ∈ vs) (kc : c.key.isNull = false → c.key ∈ vs)
    (before : groupBefore a c = true) : groupBefore a b = true ∨ groupBefore b c = true := by
  cases na : a.key.isNull <;> cases nb : b.key.isNull <;> cases nc : c.key.isNull <;>
    simp [groupBefore, na, nb, nc] at before ⊢
  exact consistent.negTrans _ (ka na) _ (kb nb) _ (kc nc) before

theorem nullLast_orderedInsert (g : Group) (l : List Group)
    (sorted : l.Pairwise fun a b => a.key.isNull = true → b.key.isNull = true) :
    (l.orderedInsert (fun a b => groupBefore a b = false) g).Pairwise
      fun a b => a.key.isNull = true → b.key.isNull = true := by
  induction l with
  | nil => exact List.pairwise_singleton _ g
  | cons h hs ih =>
      obtain ⟨below, rest⟩ := List.pairwise_cons.1 sorted
      rw [List.orderedInsert_cons]
      split_ifs with stays
      · -- `g` stays before `h`: were `g` NULL-valued, `h` is too
        refine List.pairwise_cons.2 ⟨fun y member nullG => ?_, sorted⟩
        have nullH : h.key.isNull = true := by
          simpa [groupBefore_null_left nullG] using stays
        rcases List.mem_cons.1 member with rfl | inRest
        · exact nullH
        · exact below y inRest nullH
      · -- `g` moves past `h`, which then is not NULL-valued
        refine List.pairwise_cons.2 ⟨fun y member nullH => ?_, ih rest⟩
        rcases (List.mem_orderedInsert _).1 member with rfl | inRest
        · exact absurd (groupBefore_null_right nullH) stays
        · exact below y inRest nullH

theorem nullLast_insertionSort (l : List Group) :
    (l.insertionSort fun a b => groupBefore a b = false).Pairwise
      fun a b => a.key.isNull = true → b.key.isNull = true := by
  induction l with
  | nil => exact List.Pairwise.nil
  | cons g rest ih => exact nullLast_orderedInsert g _ ih

theorem sortGroups_perm (gs : List Group) : (sortGroups gs).Perm gs := by
  rw [sortGroups_eq_insertionSort]
  exact (List.reverse_perm _).trans ((List.perm_insertionSort _ _).trans (List.reverse_perm _))

/-- `sorted` lists the groups `gs` in GROUP BY order: all of them, the NULL-valued ones first,
and in ascending order when `orderLess` is consistent on the values `vs` of the groups, as it is
on the values of a column of numbers other than NaN, or of no numbers. -/
structure GroupOrder (vs : List Variant) (gs sorted : List Group) : Prop where
  perm : sorted.Perm gs
  nullFirst : sorted.Pairwise fun a b => b.key.isNull = true → a.key.isNull = true
  ascending : OrderConsistent vs → sorted.Pairwise fun a b => groupBefore b a = false
  ascending_of_comparable : Comparable vs → sorted.Pairwise fun a b => groupBefore b a = false

theorem sortGroups_ascending {vs : List Variant} {gs : List Group}
    (keys : ∀ g ∈ gs, g.key.isNull = false → g.key ∈ vs) (consistent : OrderConsistent vs) :
    (sortGroups gs).Pairwise fun a b => groupBefore b a = false := by
  have keys' : ∀ g ∈ gs.reverse, g.key.isNull = false → g.key ∈ vs :=
    fun g member => keys g (List.mem_reverse.1 member)
  rw [sortGroups_eq_insertionSort, List.pairwise_reverse]
  apply pairwise_insertionSort_of_mem
  · intro a ha b hb
    cases ab : groupBefore a b with
    | false => exact .inl rfl
    | true => exact .inr (groupBefore_asymm consistent (keys' a ha) (keys' b hb) ab)
  · intro a ha b hb c hc ab bc
    cases ac : groupBefore a c with
    | false => rfl
    | true =>
        -- one of the two steps would be a `groupBefore`, against `ab` or `bc`
        rcases groupBefore_negTrans consistent (keys' a ha) (keys' b hb) (keys' c hc) ac with
          first | second
        · rw [ab] at first; cases first
        · rw [bc] at second; cases second

/-- Sorting groups puts them in GROUP BY order. -/
theorem sortGroups_sorted {vs : List Variant} {gs : List Group}
    (keys : ∀ g ∈ gs, g.key.isNull = false → g.key ∈ vs) : GroupOrder vs gs (sortGroups gs) := by
  refine ⟨sortGroups_perm gs, ?_, sortGroups_ascending keys,
    fun comparable => sortGroups_ascending keys (orderConsistent_of_comparable comparable)⟩
  rw [sortGroups_eq_insertionSort, List.pairwise_reverse]
  exact nullLast_insertionSort gs.reverse

/-! ## What an aggregating step yields -/

theorem Grouping.key_present {groupBy : String} {fields : List SelectField} {rows : List Row}
    {gs : List Group} (grouping : Grouping groupBy fields rows gs) (grouped : groupBy ≠ "") :
    ∀ g ∈ gs, g.key.isNull = false → g.key ∈ rows.filterMap (presentAt groupBy) := by
  intro g inGroups present
  obtain ⟨earlier, row, later, split, -, first⟩ := grouping.first g inGroups
  have key : (presentAt groupBy row).getD .null = g.key := by
    rw [groupOf_of_grouped grouped] at first
    exact (Prod.mk.inj first).2
  cases found : presentAt groupBy row with
  | none => simp [found, ← key, Variant.isNull] at present
  | some v =>
      rw [found] at key
      exact List.mem_filterMap.2 ⟨row, by simp [split], key ▸ found⟩

/-- What an aggregating step with GROUP BY path `groupBy` yields for `rows`: for groups `gs` of
the rows, one row per group in GROUP BY order, over exactly the rows of its name; and rows whose
values do not display as `null` share a group exactly when their values display alike, or
neither has one. -/
def GroupedByDisplay (groupBy : String) (fields : List SelectField) (rows : List Row) : Prop :=
  (∃ gs, Grouping groupBy fields rows gs ∧
    GroupOrder (rows.filterMap (presentAt groupBy)) gs (sortGroups gs) ∧
    aggregateRows groupBy fields rows = (sortGroups gs).map fun g =>
      groupRow groupBy fields g.key (rows.filter fun r => (groupOf groupBy r).1 = g.name)) ∧
  ∀ r ∈ rows, ∀ s ∈ rows, (∀ v, presentAt groupBy r = some v → v.display ≠ Variant.utf8 "null") →
    (∀ v, presentAt groupBy s = some v → v.display ≠ Variant.utf8 "null") →
    ((groupOf groupBy r).1 = (groupOf groupBy s).1 ↔
      (presentAt groupBy r).map Variant.display = (presentAt groupBy s).map Variant.display)

theorem aggregateRows_groups_by_display (groupBy : String) (fields : List SelectField)
    (rows : List Row) (grouped : groupBy ≠ "") : GroupedByDisplay groupBy fields rows := by
  have grouping := groupsOf_grouping groupBy fields rows
  refine ⟨⟨groupsOf groupBy fields rows, grouping,
    sortGroups_sorted (grouping.key_present grouped), ?_⟩,
    fun r _ s _ => groupOf_name_eq_iff grouped⟩
  rw [aggregateRows_of_grouped fields rows grouped]
  refine List.map_congr_left fun g sorted => ?_
  have inGroups := (sortGroups_perm _).mem_iff.1 sorted
  calc Group.row fields groupBy g
      = Group.row fields groupBy ((rows.filter fun r => (groupOf groupBy r).1 = g.name).foldl
          (Group.add fields) (Group.start fields g.name g.key)) :=
        congrArg _ (grouping.accumulated g inGroups)
    _ = _ := Group.row_foldl_add ..

/-- Namespace numbers group in numeric order, where their texts would put 14 before 2. -/
example : (aggregateRows "page_namespace" [⟨"page_namespace", "page_namespace", ""⟩]
      [[("page_namespace", .int 14)], [("page_namespace", .int 0)], [("page_namespace", .int 14)],
        [("page_namespace", .int 2)]]).map (·.map fun e => (e.1, e.2.display)) =
    [[("page_namespace", Variant.utf8 "0")], [("page_namespace", Variant.utf8 "2")],
      [("page_namespace", Variant.utf8 "14")]] := by
  decide +kernel

theorem aggregateRows_groups_two_titles : "title" ≠ "" ∧
    GroupedByDisplay "title" [⟨"title", "title", ""⟩]
      [[("title", .str "b")], [("title", .str "a")], [("title", .str "b")]] :=
  ⟨by decide, aggregateRows_groups_by_display _ _ _ (by decide)⟩

/-- The grouping departs from grouping by value in two ways. A NULL and the text `null` fall
into one group: rows with these two values at the GROUP BY path give one row, which holds NULL.
And a group value can be NaN, as AVG over the SUMs of doubles that run past the largest double
both ways is, and `orderLess` puts NaN neither before nor after anything: groups of the values 2,
NaN and 1, met in that order, come out in that order, 1 after 2. -/
theorem aggregateRows_merges_null_text_and_passes_nan :
    aggregateRows "page_lang" [⟨"page_lang", "page_lang", ""⟩]
        [[("page_lang", .null)], [("page_lang", .str "null")]] = [[("page_lang", .null)]] ∧
      (orderNumber? (Accumulator.over "AVG" [Accumulator.over "SUM" [.float 1e308, .float 1e308],
        Accumulator.over "SUM" [.float (-1e308), .float (-1e308)]])).map Float.isNaN = some true ∧
      orderLess (.float 1) (.float 2) = true ∧
      (aggregateRows "a" [⟨"g", "g", "MAX"⟩]
          [[("g", .int 1), ("a", .float 2)], [("g", .int 2), ("a", .float (0 / 0))],
            [("g", .int 3), ("a", .float 1)]]).map (·.map fun e => (e.1, e.2.display)) =
        [[("g", Variant.utf8 "1")], [("g", Variant.utf8 "2")], [("g", Variant.utf8 "3")]] :=
  ⟨rfl, by decide +kernel, by decide +kernel, by decide +kernel⟩

end Engine

end WikiDump

