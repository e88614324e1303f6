import WikiDump.Engine.Row
import WikiDump.Query.Select
/-!
# Aggregation

An aggregating step reads all rows of its input, puts each into the group of its GROUP BY
value, and yields one row per group; without GROUP BY all rows form one group, and over no rows
at all that group still yields its row.

Groups are told apart by the display text of their value, byte for byte, a missing or NULL value
falling into the group `null`; a group keeps the first value it was met with. The groups come out in
increasing order of their values, NULL first, keeping the order of first appearance among
equals.

A group row holds, per selected field, the aggregate of the field's path over the group, the
group value for the GROUP BY path, and NULL for anything else. The aggregates are `MAX`, `MIN`,
`AVG` and `SUM` (in any case); any other name counts. They skip values that are NULL or whose
path does not resolve:

* `MAX` and `MIN` compare numbers as numbers (booleans as 1 and 0) and anything else by display
  text;
* `AVG` averages the numbers and booleans, NULL when there are none;
* `SUM` adds 64-bit integers exactly (wrapping around) while every value is one, and adds as
  doubles from the first number or boolean that is not (a count among them);
* `COUNT` counts, giving a count.
-/

namespace WikiDump

namespace Engine

def orderNumber? : Variant → Option Float
  | .float x => some x
  | .int n => some (Binary64.ofInt n.toInt)
  | .count n => some (Binary64.ofInt n)
  | .bool b => some (if b then 1 else 0)
  | _ => none

def orderGreater (a b : Variant) : Bool :=
  match orderNumber? a, orderNumber? b with
  | some x, some y => decide (x > y)
  | _, _ => decide (b.display < a.display)

/-- Whether `a` orders before `b`: as numbers when both are, else by display text. -/
def orderLess (a b : Variant) : Bool :=
  match orderNumber? a, orderNumber? b with
  | some x, some y => decide (x < y)
  | _, _ => decide (a.display < b.display)

/-- The running state of one aggregate. -/
inductive Accumulator where
  | max (best : Option Variant)
  | min (best : Option Variant)
  | avg (sum : Float) (count : Nat)
  | sum (total : Float) (whole : Int64) (integral : Bool)
  | count (n : Nat)
  deriving Inhabited

namespace Accumulator

/-- The empty accumulator of an aggregate name. -/
def start (name : String) : Accumulator :=
  let n := CaseMap.upperText name
  if n = "MAX" then .max none
  else if n = "MIN" then .min none
  else if n = "AVG" then .avg 0 0
  else if n = "SUM" then .sum 0 0 true
  else .count 0

def add (a : Accumulator) (v : Variant) : Accumulator :=
  match a with
  | .max best =>
    if v.isNull then a
    else match best with
      | none => .max (some v)
      | some b => if orderGreater v b then .max (some v) else a
  | .min best =>
    if v.isNull then a
    else match best with
      | none => .min (some v)
      | some b => if orderLess v b then .min (some v) else a
  | .avg s n =>
    match orderNumber? v with
    | some x => .avg (s + x) (n + 1)
    | none => a
  | .sum total whole integral =>
    match v, integral with
    | .int n, true => .sum (total + Binary64.ofInt n.toInt) (whole + n) true
    | _, _ =>
      match orderNumber? v with
      | some x => .sum (total + x) whole false
      | none => a
  | .count n => if v.isNull then a else .count (n + 1)

def result : Accumulator → Variant
  | .max best => best.getD .null
  | .min best => best.getD .null
  | .avg s n => if n = 0 then .null else .float (s / Float.ofNat n)
  | .sum total whole integral => if integral then .int whole else .float total
  | .count n => .count n

end Accumulator

/-- A group: the display text that names it, its value, and one accumulator per aggregated
field (none for the others). -/
structure Group where
  name : List UInt8
  key : Variant
  accumulators : List (Option Accumulator)
  deriving Inhabited

/-- A new group for the fields of a query. -/
def Group.start (fields : List Query.SelectField) (name : List UInt8) (key : Variant) : Group :=
  ⟨name, key, fields.map fun f => if f.aggregate.isEmpty then none else some (Accumulator.start f.aggregate)⟩

def Group.add (fields : List Query.SelectField) (g : Group) (row : Row) : Group :=
  { g with accumulators := (fields.zip g.accumulators).map fun (f, acc) =>
      acc.map fun a =>
        match row.get f.path with
        | .ok v => a.add v
        | .error _ => a }

/-- The row of a group. -/
def Group.row (fields : List Query.SelectField) (groupBy : String) (g : Group) : Row :=
  (fields.zip g.accumulators).map fun (f, acc) =>
    let name := if f.aliasName.isEmpty then f.path else f.aliasName
    match acc with
    | some a => (name, a.result)
    | none => (name, if f.path = groupBy then g.key else .null)

def groupOf (groupBy : String) (row : Row) : List UInt8 × Variant :=
  if groupBy.isEmpty then ([], .null)
  else
    match row.get groupBy with
    | .ok v => if v.isNull then (Variant.utf8 "null", .null) else (v.display, v)
    | .error _ => (Variant.utf8 "null", .null)

def addToGroups (fields : List Query.SelectField) (name : List UInt8) (key : Variant) (row : Row) :
    List Group → List Group
  | [] => [Group.add fields (Group.start fields name key) row]
  | g :: gs => if g.name = name then Group.add fields g row :: gs else g :: addToGroups fields name key row gs

def groupBefore (a b : Group) : Bool :=
  if a.key.isNull || b.key.isNull then a.key.isNull && !b.key.isNull
  else orderLess a.key b.key

/-- Inserts a group into groups sorted so far, given last first: it moves before every group it
goes before. -/
def insertGroup (g : Group) : List Group → List Group
  | [] => [g]
  | h :: hs => if groupBefore g h then h :: insertGroup g hs else g :: h :: hs

/-- The groups in order, by insertion: stable, and for an inconsistent order the same as
inserting each group from the right past every group it goes before. -/
def sortGroups (gs : List Group) : List Group :=
  (gs.foldl (fun acc g => insertGroup g acc) []).reverse

def aggregateRows (groupBy : String) (fields : List Query.SelectField) (rows : List Row) : List Row :=
  let groups := rows.foldl (fun gs row =>
    let (name, key) := groupOf groupBy row
    addToGroups fields name key row gs) []
  if rows.isEmpty && groupBy.isEmpty then
    if fields.any (!·.aggregate.isEmpty) then [Group.row fields "" (Group.start fields [] .null)] else []
  else (sortGroups groups).map (Group.row fields groupBy)

end Engine

end WikiDump

