import Mathlib.Data.List.TakeWhile
import WikiDump.Proofs.ConditionForms
/-!
# Where a comparison is split

A comparison is read by trying the operators in the order `>= <= != ~= > < =`, each at its
first occurrence, and taking the first that leaves text on both sides (`Query.splitAt`).

Take a field without operator characters, an operator and a value that does not start with `=`.
The operator after the field is found at once, so the field is read as it stands; but an
operator that comes earlier in the order, and occurs in the value with text after it, is tried
first and splits the text inside the value (`Query.parse_at_operator`). The value may hold the
operator itself and those after it. So `a=b>c` reads as `a=b` greater than `c`
(`Query.value_operator_splits_first`).
-/

namespace WikiDump

namespace Query

def reportedOperator (op : String) : String := if op = "~=" then "contains" else op

/-- The reading of a comparison at one operator: split at its first occurrence after the start,
when text that is not blank stands on both sides. -/
def splitAt (cs : List Char) (op : String) : Option Comparison :=
  (findSub op.toList cs).bind fun i =>
    if i = 0 then none
    else
      let field := Space.trimChars (cs.take i)
      let value := Space.trimChars (cs.drop (i + op.length))
      if field.isEmpty ∨ value.isEmpty then none
      else some ⟨String.ofList field, reportedOperator op, unquote (String.ofList value)⟩

theorem parse_eq_findSome (s : String) :
    Comparison.parse? s = operators.findSome? (splitAt s.toList) := by
  rw [Comparison.parse?]
  dsimp only
  congr 1
  funext op
  rcases found : findSub op.toList s.toList with _ | i <;> simp [splitAt, found, reportedOperator]

def operatorsBefore (op : String) : List String := operators.takeWhile (· ≠ op)

/-- Where an operator splits a value text: at its first occurrence, when text that is not blank
follows it. -/
def splitsValue (v : List Char) (o : String) : Option Nat :=
  (findSub o.toList v).bind fun j =>
    if (Space.trimChars (v.drop (j + o.length))).isEmpty then none else some j

/-- The comparison read when the operator `o` splits the value `v` at `j`: the field runs
into the value. -/
def insideValue (f op v o : String) (j : Nat) : Comparison :=
  ⟨Space.trim (f ++ op ++ String.ofList (v.toList.take j)), reportedOperator o,
    unquote (String.ofList (Space.trimChars (v.toList.drop (j + o.length))))⟩

/-! ## Trimming -/

theorem trimChars_eq_nil_iff {cs : List Char} :
    Space.trimChars cs = [] ↔ ∀ x ∈ cs, Space.isSpace x = true := by
  constructor
  · intro empty x member
    have rest : ∀ y ∈ cs.dropWhile Space.isSpace, Space.isSpace y = true := by
      intro y inRest
      have reversed := List.dropWhile_eq_nil_iff.1 (List.reverse_eq_nil_iff.1 empty)
      exact reversed y (List.mem_reverse.2 inRest)
    rw [← List.takeWhile_append_dropWhile (p := Space.isSpace) (l := cs), List.mem_append] at member
    rcases member with leading | inRest
    · exact List.mem_takeWhile_imp leading
    · exact rest x inRest
  · intro blank
    rw [Space.trimChars, List.dropWhile_eq_nil_iff.2 blank]
    rfl

theorem trim_ne_empty_iff {s : String} : Space.trim s ≠ "" ↔ Space.trimChars s.toList ≠ [] := by
  rw [Space.trim, Ne, String.ofList_eq_empty_iff]

theorem trimChars_ne_nil {cs : List Char} {x : Char} (member : x ∈ cs)
    (solid : Space.isSpace x = false) : Space.trimChars cs ≠ [] := by
  intro empty
  rw [trimChars_eq_nil_iff.1 empty x member] at solid
  cases solid

/-! ## Finding an operator -/

theorem findSub_cons (p : Char) (ps cs : List Char) :
    findSub (p :: ps) cs = findSub.go (p :: ps) cs 0 := rfl

theorem findSub_go_self (pat rest : List Char) (i : Nat) :
    findSub.go pat (pat ++ rest) i = if pat = [] then findSub.go pat rest i else some i := by
  cases pat with
  | nil => rfl
  | cons p ps => simp [findSub.go, List.take_left']

theorem findSub_go_past_operator {op o : String} (hop : op ∈ operators) (earlier : o ∈ operatorsBefore op)
    {v : List Char} (noEq : v.head? ≠ some '=') (i : Nat) :
    findSub.go o.toList (op.toList ++ v) i = findSub.go o.toList v (i + op.length) := by
  simp only [operators, List.mem_cons, List.not_mem_nil, or_false] at hop
  cases v with
  | nil =>
      rcases hop with rfl | rfl | rfl | rfl | rfl | rfl | rfl <;>
        simp [operatorsBefore, operators] at earlier <;>
        rcases earlier with rfl | rfl | rfl | rfl | rfl | rfl <;> simp [findSub.go]
  | cons y ys =>
      have notEq : y ≠ '=' := fun same => noEq (by rw [same]; rfl)
      rcases hop with rfl | rfl | rfl | rfl | rfl | rfl | rfl <;>
        simp [operatorsBefore, operators] at earlier <;>
        rcases earlier with rfl | rfl | rfl | rfl | rfl | rfl <;> simp [findSub.go, notEq, ← String.length_toList]

section Frame

variable {f v : List Char} (plain : ∀ x ∈ f, operatorChar x = false)
include plain

theorem findSub_operator {op : String} (hop : op ∈ operators) :
    findSub op.toList (f ++ op.toList ++ v) = some f.length := by
  obtain ⟨filled, ops⟩ := operators_operatorChar op hop
  obtain ⟨p, ps, spelled⟩ := List.exists_cons_of_ne_nil filled
  rw [spelled, findSub_cons, List.append_assoc, findSub_go_plain (spelled ▸ ops) (by simp) plain,
    findSub_go_self, if_neg (by simp), Nat.zero_add]

theorem findSub_before {op o : String} (hop : op ∈ operators) (earlier : o ∈ operatorsBefore op)
    (noEq : v.head? ≠ some '=') :
    findSub o.toList (f ++ op.toList ++ v) = (findSub o.toList v).map ((f ++ op.toList).length + ·) := by
  have inOperators : o ∈ operators := List.takeWhile_subset _ earlier
  obtain ⟨filled, ops⟩ := operators_operatorChar o inOperators
  obtain ⟨p, ps, spelled⟩ := List.exists_cons_of_ne_nil filled
  have past := findSub_go_past_operator hop earlier noEq
  rw [spelled] at past ⊢
  rw [findSub_cons, findSub_cons, List.append_assoc, findSub_go_plain (spelled ▸ ops) (by simp) plain,
    past, Nat.zero_add, findSub_go_offset, List.length_append, String.length_toList]

end Frame

/-! ## Reading at an operator -/

theorem splitAt_of_findSub {cs : List Char} {op : String} {i : Nat}
    (found : findSub op.toList cs = some i) (start : i ≠ 0) :
    splitAt cs op =
      if (Space.trimChars (cs.take i)).isEmpty ∨ (Space.trimChars (cs.drop (i + op.length))).isEmpty then none
      else some ⟨String.ofList (Space.trimChars (cs.take i)), reportedOperator op,
        unquote (String.ofList (Space.trimChars (cs.drop (i + op.length))))⟩ := by
  simp only [splitAt, found, Option.bind_some, if_neg start]

section Reading

variable {f v : String} {op : String} (hop : op ∈ operators)
  (field : Space.trim f ≠ "") (plain : ∀ x ∈ f.toList, operatorChar x = false)
include hop field plain

theorem splitAt_operator (value : Space.trim v ≠ "") :
    splitAt (f ++ op ++ v).toList op = some ⟨Space.trim f, reportedOperator op, unquote (Space.trim v)⟩ := by
  have fieldChars := trim_ne_empty_iff.1 field
  have valueChars := trim_ne_empty_iff.1 value
  have start : f.toList.length ≠ 0 := by
    intro empty
    rw [List.eq_nil_of_length_eq_zero empty] at fieldChars
    exact fieldChars rfl
  have fieldText : (f.toList ++ op.toList ++ v.toList).take f.toList.length = f.toList := by
    rw [List.append_assoc, List.take_left]
  have valueText : (f.toList ++ op.toList ++ v.toList).drop (f.toList.length + op.length) = v.toList :=
    List.drop_left' (by simp [← String.length_toList])
  rw [String.toList_append, String.toList_append,
    splitAt_of_findSub (findSub_operator plain hop) start, fieldText, valueText]
  simp [fieldChars, valueChars, Space.trim]

omit field in
theorem splitAt_before {o : String} (earlier : o ∈ operatorsBefore op) (noEq : v.toList.head? ≠ some '=') :
    splitAt (f ++ op ++ v).toList o = (splitsValue v.toList o).map (insideValue f op v o) := by
  have text : (f ++ op ++ v).toList = f.toList ++ op.toList ++ v.toList := by
    simp only [String.toList_append]
  have located := findSub_before plain hop earlier noEq
  rw [text]
  cases found : findSub o.toList v.toList with
  | none =>
      rw [splitAt, located, found]
      simp [splitsValue, found]
  | some j =>
      obtain ⟨filled, ops⟩ := operators_operatorChar op hop
      obtain ⟨p, ps, spelled⟩ := List.exists_cons_of_ne_nil filled
      -- The operator's first character is no white space, so the field is never blank.
      have solid : Space.isSpace p = false := by
        have opChar := ops p (by rw [spelled]; exact List.mem_cons_self)
        simp only [operatorChar, Bool.or_eq_true, decide_eq_true_eq] at opChar
        rcases opChar with (((rfl | rfl) | rfl) | rfl) | rfl <;> rfl
      have position : (f.toList ++ op.toList).length + j ≠ 0 := by
        rw [List.length_append, spelled, List.length_cons]
        omega
      have fieldText : (f.toList ++ op.toList ++ v.toList).take ((f.toList ++ op.toList).length + j) =
          f.toList ++ op.toList ++ v.toList.take j :=
        List.take_length_add_append j
      have valueText : (f.toList ++ op.toList ++ v.toList).drop ((f.toList ++ op.toList).length + j + o.length) =
          v.toList.drop (j + o.length) := by
        rw [Nat.add_assoc, List.drop_length_add_append]
      have fieldFilled : Space.trimChars (f.toList ++ (op.toList ++ v.toList.take j)) ≠ [] :=
        trimChars_ne_nil (x := p) (by simp [spelled]) solid
      rw [splitAt_of_findSub (by rw [located, found]; rfl) position, fieldText, valueText]
      simp only [splitsValue, found, Option.bind_some]
      by_cases blank : (Space.trimChars (v.toList.drop (j + o.length))).isEmpty
      · simp [blank]
      · simp [blank, fieldFilled, insideValue, Space.trim]

/-- A comparison written as a field, an operator and a value that does not start with `=` is
read at that operator, as the field compared with the value, unless an operator tried earlier
occurs in the value with text after it: the first such operator then splits the text at its
first occurrence in the value. -/
theorem parse_at_operator (value : Space.trim v ≠ "") (noEq : v.toList.head? ≠ some '=') :
    Comparison.parse? (f ++ op ++ v) =
      some (((operatorsBefore op).findSome? fun o =>
          (splitsValue v.toList o).map (insideValue f op v o)).getD
        ⟨Space.trim f, reportedOperator op, unquote (Space.trim v)⟩) := by
  obtain ⟨after, ordered⟩ : ∃ after, operators = operatorsBefore op ++ op :: after := by
    simp only [operators, List.mem_cons, List.not_mem_nil, or_false] at hop
    rcases hop with rfl | rfl | rfl | rfl | rfl | rfl | rfl <;> exact ⟨_, rfl⟩
  have before : (operatorsBefore op).findSome? (splitAt (f ++ op ++ v).toList) =
      (operatorsBefore op).findSome? fun o => (splitsValue v.toList o).map (insideValue f op v o) := by
    -- Each operator tried before `op` reads the text as it splits the value.
    have congr : ∀ l : List String, l ⊆ operatorsBefore op →
        l.findSome? (splitAt (f ++ op ++ v).toList) =
          l.findSome? fun o => (splitsValue v.toList o).map (insideValue f op v o) := by
      intro l
      induction l with
      | nil => intro _; rfl
      | cons o rest ih =>
          intro within
          rw [List.findSome?_cons, List.findSome?_cons,
            splitAt_before hop plain (within List.mem_cons_self) noEq,
            ih (fun x member => within (List.mem_cons_of_mem o member))]
    exact congr _ (List.Subset.refl _)
  rw [parse_eq_findSome, ordered, List.findSome?_append, before, List.findSome?_cons,
    splitAt_operator hop field plain value]
  cases (operatorsBefore op).findSome? fun o => (splitsValue v.toList o).map (insideValue f op v o) <;> rfl

end Reading

theorem parse_at_operator_page_len :
    ">=" ∈ operators ∧ Space.trim "page_len " ≠ "" ∧ (∀ x ∈ "page_len ".toList, operatorChar x = false) ∧
      Space.trim " 1000" ≠ "" ∧ " 1000".toList.head? ≠ some '=' ∧
      Comparison.parse? ("page_len " ++ ">=" ++ " 1000") =
        some (((operatorsBefore ">=").findSome? fun o =>
            (splitsValue " 1000".toList o).map (insideValue "page_len " ">=" " 1000" o)).getD
          ⟨Space.trim "page_len ", reportedOperator ">=", unquote (Space.trim " 1000")⟩) :=
  have hop : ">=" ∈ operators := by simp [operators]
  have field : Space.trim "page_len " ≠ "" := by decide
  have plain : ∀ x ∈ "page_len ".toList, operatorChar x = false := fun x member => by
    have none : ("page_len ".toList.all fun y => !operatorChar y) = true := rfl
    simpa using List.all_eq_true.1 none x member
  have value : Space.trim " 1000" ≠ "" := by decide
  have noEq : " 1000".toList.head? ≠ some '=' := by decide
  ⟨hop, field, plain, value, noEq, parse_at_operator hop field plain value noEq⟩

/-- `a=b>c` is not `a` equal to `b>c`: `>` is tried before `=`, so it reads as `a=b` greater
than `c`. -/
theorem value_operator_splits_first :
    Comparison.parse? ("a" ++ "=" ++ "b>c") = some ⟨"a=b", ">", "c"⟩ ∧
      Comparison.parse? ("a" ++ "=" ++ "b>c") ≠
        some ⟨Space.trim "a", reportedOperator "=", unquote (Space.trim "b>c")⟩ := by
  have read : Comparison.parse? ("a" ++ "=" ++ "b>c") = some ⟨"a=b", ">", "c"⟩ := rfl
  refine ⟨read, fun same => ?_⟩
  rw [read, Option.some.injEq] at same
  have fields := congrArg Comparison.field same
  revert fields
  decide

end Query

end WikiDump

