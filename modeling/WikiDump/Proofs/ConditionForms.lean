import WikiDump.Proofs.SelectCondition
/-!
# One condition in four forms

A condition on a column `c` by a comparison operator `op` with a value text `v` can be given as
command-line arguments (field, operator and value), as the written expressions `c op v` and
`c op 'v'`, and as the WHERE of the query `SELECT * WHERE c op 'v'`. All four name the same
column and operator, but each types the value its own way: the arguments read it as JSON, the
written forms by `typedLiteral`, and the query keeps the quoted text (`condition_forms`).

The conditions agree on every record under the order operators, which compare the numbers the
values stand for, and under `=` and `!=` when `v` is no numeral and spells none of `true`,
`false` and `null` in any case. Otherwise they may not: `TRUE` is a boolean to the written forms
and a text to the others, and on a record whose column holds true only the written condition
passes (`capital_true_forms_differ`).
-/

namespace WikiDump

open Query

namespace Query

/-! ## A condition on a column -/


theorem pathParts_go_plain : ∀ (cs cur : List Char) (parts : List String), (∀ y ∈ cs, y ≠ '.') →
    pathParts.go cs cur parts = (String.ofList (cur.reverse ++ cs) :: parts).reverse
  | [], cur, parts, _ => by simp [pathParts.go]
  | y :: rest, cur, parts, plain => by
      rw [pathParts.go, if_neg (plain y List.mem_cons_self),
        pathParts_go_plain rest (y :: cur) parts (fun z member => plain z (List.mem_cons_of_mem y member))]
      simp

def WordName (c : String) : Prop := c ≠ "" ∧ ∀ x ∈ c.toList, isWordChar x = true

theorem wordName_of_columnName {c : String} (column : ColumnName c) : WordName c := by
  obtain ⟨x, xs, chars, -, words⟩ := column_chars column
  refine ⟨fun empty => ?_, words⟩
  rw [empty] at chars
  cases chars

theorem WordName.lead {c : String} (word : WordName c) :
    ∃ x xs, c.toList = x :: xs ∧ x ≠ '*' ∧ x ≠ '%' ∧ x ≠ '.' := by
  obtain ⟨filled, words⟩ := word
  cases chars : c.toList with
  | nil => exact absurd (String.toList_eq_nil_iff.1 chars) filled
  | cons x xs =>
      have w := words x (by rw [chars]; exact List.mem_cons_self)
      refine ⟨x, xs, rfl, ?_, ?_, ?_⟩ <;> (rintro rfl; exact absurd w (by decide))

theorem WordName.not_dot {c : String} (word : WordName c) : ∀ y ∈ c.toList, y ≠ '.' := by
  intro y member same
  have w := word.2 y member
  rw [same] at w
  exact absurd w (by decide)

theorem pathParts_word {c : String} (word : WordName c) : pathParts c = [c] := by
  obtain ⟨x, xs, chars, -, -, xNotDot⟩ := word.lead
  unfold pathParts
  dsimp only
  rw [chars]
  split
  · rename_i rest same
    cases same
    exact absurd rfl xNotDot
  · rw [← chars, pathParts_go_plain c.toList [] [] word.not_dot]
    simp [← String.toList_inj, chars]

theorem operators_operatorChar : ∀ op ∈ operators, op.toList ≠ [] ∧ ∀ x ∈ op.toList, operatorChar x = true := by
  intro op member
  simp only [operators, List.mem_cons, List.not_mem_nil, or_false] at member
  rcases member with rfl | rfl | rfl | rfl | rfl | rfl | rfl <;> simp [operatorChar]

theorem findSub_operator_plain {o : String} (member : o ∈ operators) {cs : List Char}
    (plain : ∀ x ∈ cs, operatorChar x = false) : findSub o.toList cs = none := by
  obtain ⟨filled, opChars⟩ := operators_operatorChar o member
  have found := findSub_frame opChars filled (a := cs) (b := []) (d := []) plain (by simp)
  rw [List.append_nil, List.append_nil] at found
  obtain ⟨p, ps, spelled⟩ := List.exists_cons_of_ne_nil filled
  rw [found, spelled]
  rfl

theorem containsText_word {c : String} (words : ∀ y ∈ c.toList, isWordChar y = true) :
    ∀ op ∈ operators, containsText c op = false := by
  intro op member
  rw [containsText, findSub_operator_plain member
    (fun y inside => (valueChar_bare (valueChar_of_word (words y inside))).2)]
  rfl

theorem WordName.plain_part {c : String} (word : WordName c) :
    isComparison c = false ∧ (c.startsWith "*" || c.startsWith "%") = false ∧ ¬ (c = "" ∨ c = ".") := by
  obtain ⟨x, xs, chars, notStar, notPercent, notDot⟩ := word.lead
  refine ⟨?_, by simp [chars, Ne.symm notStar, Ne.symm notPercent], ?_⟩
  · rw [isComparison, Bool.and_eq_false_iff]
    right
    rw [List.any_eq_false]
    intro op member
    rw [containsText_word word.2 op member]
    decide
  · rintro (rfl | rfl) <;> simp at chars
    exact notDot chars.1.symm

theorem filterPasses_word {c : String} (word : WordName c) (op : String) (a : Variant)
    (entries : List (String × Variant)) {n : Nat} (enough : 4 ≤ n) :
    filterPasses n (Filter.make c op a) (.record entries) =
      ((entries.find? (·.1 == c)).map (·.2)).any (Filter.make c op a).test := by
  obtain ⟨k, rfl⟩ : ∃ k, n = k + 4 := ⟨n - 4, by omega⟩
  obtain ⟨notComparison, notWildcard, named⟩ := word.plain_part
  rw [filterPasses]
  simp only [Filter.make, if_neg named, pathParts_word word]
  rw [extractParts, extractPart]
  simp only [notWildcard, notComparison, Bool.false_and, Bool.false_eq_true, if_false, Bool.not_false,
    if_true]
  rcases found : entries.find? (fun entry => entry.1 == c) with _ | ⟨key, v⟩
  · simp [found]
  · simp [found, extractParts]

theorem passes_column {c : String} (column : ColumnName c) (op : String) (a : Variant)
    (entries : List (String × Variant)) :
    (Filter.make c op a).passes (.record entries) =
      match entries.find? (·.1 == c) with
      | some (_, x) => (Filter.make c op a).test x
      | none => false := by
  rw [Filter.passes, filterPasses_word (wordName_of_columnName column) op a entries
    (by rw [pathFuel]; omega)]
  rcases found : entries.find? (fun entry => entry.1 == c) with _ | ⟨key, v⟩ <;> simp [found]

theorem columnName_page_is_redirect : ColumnName "page_is_redirect" := by
  refine ⟨by simp [identAt, isWordChar, ← String.length_toList], ?_⟩
  -- Every keyword is shorter than the name.
  intro member
  have length := List.mem_map_of_mem (f := String.length) member
  simp [CaseMap.upperText, keywords, ← String.length_toList] at length

end Query

/-! ## The four forms -/

theorem condition_forms {c op v : String} (column : ColumnName c) (hop : op ∈ comparisonOperators)
    (hv : ValueText v) (field operator given : String) :
    Command.filterOfArguments "" c op v =
        .ok (.condition (Filter.make c op (Command.argumentValue v))) ∧
      Command.filterOfArguments (c ++ op ++ v) field operator given =
        .ok (.condition (Filter.make c op (typedLiteral v))) ∧
      Command.filterOfArguments (c ++ op ++ "'" ++ v ++ "'") field operator given =
        .ok (.condition (Filter.make c op (typedLiteral v))) ∧
      (SelectQuery.parse ("SELECT * WHERE " ++ c ++ " " ++ op ++ " '" ++ v ++ "'")).map
          SelectQuery.filter =
        .ok (some (.condition (Filter.make c op (.str v)))) ∧
      (op ∈ orderOperators ∨
          (Numeral.readFloat v).toOption = none ∧ CaseMap.lowerText v ∉ ["true", "false", "null"] →
        ∀ r, (Expression.condition (Filter.make c op (Command.argumentValue v))).eval r =
            (Expression.condition (Filter.make c op (typedLiteral v))).eval r ∧
          (Expression.condition (Filter.make c op (typedLiteral v))).eval r =
            (Expression.condition (Filter.make c op (.str v))).eval r) := by
  obtain ⟨x, xs, chars, -, words⟩ := column_chars column
  have named : c ≠ "" := by
    rintro rfl
    simp at chars
  have fieldForm : Command.filterOfArguments "" c op v =
      .ok (.condition (Filter.make c op (Command.argumentValue v))) := by
    simp [Command.filterOfArguments, named]
  obtain ⟨bare, quoted⟩ := filterOfArguments_written hop named words hv field operator given
  refine ⟨fieldForm, bare, quoted, filter_select column hop hv, ?_⟩
  rintro (order | ⟨noNumeral, notWord⟩) r
  · -- The order operators compare numbers, and the three values stand for the same one.
    exact ⟨eval_order_congr order (by rw [asNumber_argumentValue hv, asNumber_typedLiteral]) r,
      eval_order_congr order (by rw [asNumber_typedLiteral, Variant.asNumber_str]) r⟩
  · -- Otherwise all three values are the text itself.
    simp only [List.mem_cons, List.not_mem_nil, or_false, not_or] at notWord
    obtain ⟨notTrue, notFalse, notNull⟩ := notWord
    rw [argumentValue_text hv noNumeral notTrue notFalse notNull,
      typedLiteral_text noNumeral notTrue notFalse notNull]
    exact ⟨rfl, rfl⟩

theorem condition_forms_redirect_at_least_one :
    ColumnName "page_is_redirect" ∧ ">=" ∈ comparisonOperators ∧ ValueText "1" ∧
      Command.filterOfArguments "" "page_is_redirect" ">=" "1" =
        .ok (.condition (Filter.make "page_is_redirect" ">=" (Command.argumentValue "1"))) ∧
      Command.filterOfArguments ("page_is_redirect" ++ ">=" ++ "1") "" "" "" =
        .ok (.condition (Filter.make "page_is_redirect" ">=" (typedLiteral "1"))) ∧
      Command.filterOfArguments ("page_is_redirect" ++ ">=" ++ "'" ++ "1" ++ "'") "" "" "" =
        .ok (.condition (Filter.make "page_is_redirect" ">=" (typedLiteral "1"))) ∧
      (SelectQuery.parse ("SELECT * WHERE " ++ "page_is_redirect" ++ " " ++ ">=" ++ " '" ++ "1" ++ "'")).map
          SelectQuery.filter =
        .ok (some (.condition (Filter.make "page_is_redirect" ">=" (.str "1")))) ∧
      (">=" ∈ orderOperators ∨
          (Numeral.readFloat "1").toOption = none ∧ CaseMap.lowerText "1" ∉ ["true", "false", "null"] →
        ∀ r, (Expression.condition (Filter.make "page_is_redirect" ">=" (Command.argumentValue "1"))).eval r =
            (Expression.condition (Filter.make "page_is_redirect" ">=" (typedLiteral "1"))).eval r ∧
          (Expression.condition (Filter.make "page_is_redirect" ">=" (typedLiteral "1"))).eval r =
            (Expression.condition (Filter.make "page_is_redirect" ">=" (.str "1"))).eval r) :=
  have value : ValueText "1" := ⟨by simp, by simp [valueChar]⟩
  ⟨columnName_page_is_redirect, by simp [comparisonOperators], value,
    condition_forms columnName_page_is_redirect (by simp [comparisonOperators]) value "" "" ""⟩

/-- `TRUE` is a boolean to the written forms and a text to the arguments and the query: on a
record whose column holds true, only the written condition passes. -/
theorem capital_true_forms_differ :
    Command.filterOfArguments "" "page_is_redirect" "=" "TRUE" =
        .ok (.condition (Filter.make "page_is_redirect" "=" (.str "TRUE"))) ∧
      Command.filterOfArguments ("page_is_redirect" ++ "=" ++ "TRUE") "" "" "" =
        .ok (.condition (Filter.make "page_is_redirect" "=" (.bool true))) ∧
      (SelectQuery.parse ("SELECT * WHERE " ++ "page_is_redirect" ++ " " ++ "=" ++ " '" ++ "TRUE" ++ "'")).map
          SelectQuery.filter = .ok (some (.condition (Filter.make "page_is_redirect" "=" (.str "TRUE")))) ∧
      (Expression.condition (Filter.make "page_is_redirect" "=" (.str "TRUE"))).eval
          (.record [("page_is_redirect", .bool true)]) = false ∧
      (Expression.condition (Filter.make "page_is_redirect" "=" (.bool true))).eval
          (.record [("page_is_redirect", .bool true)]) = true := by
  have value : ValueText "TRUE" := ⟨by simp, by simp [valueChar]⟩
  have noNumeral : (Numeral.readFloat "TRUE").toOption = none := by decide
  have hop : "=" ∈ comparisonOperators := by simp [comparisonOperators]
  -- JSON does not fold case; the numeral reader does.
  have asText : Command.argumentValue "TRUE" = .str "TRUE" := argumentValue_plain value noNumeral (by simp)
  have asBool : typedLiteral "TRUE" = .bool true := by
    have lower : CaseMap.lowerText "TRUE" = "true" := by
      apply String.toList_inj.1
      simp [CaseMap.lowerText, String.toList_map, CaseMap.lower]
    unfold typedLiteral
    cases read : Numeral.readFloat "TRUE" with
    | ok x => rw [read] at noNumeral; cases noNumeral
    | error e => simp [lower]
  have equal : CaseMap.lowerText "=" = "=" := lowerText_eq_self (by simp [CaseMap.lower])
  obtain ⟨x, xs, chars, -, words⟩ := column_chars columnName_page_is_redirect
  refine ⟨by simp [Command.filterOfArguments, asText], ?_,
    filter_select columnName_page_is_redirect hop value, ?_, ?_⟩
  · rw [(filterOfArguments_written hop (by simp) words value "" "" "").1, asBool]
  · rw [Expression.eval, passes_column columnName_page_is_redirect]
    simp [Filter.test, Filter.make, equal, testScalar, looseEqual, Variant.isNull, Variant.number?,
      Variant.display, Variant.utf8_inj]
  · rw [Expression.eval, passes_column columnName_page_is_redirect]
    simp [Filter.test, Filter.make, equal, testScalar, looseEqual, Variant.isNull, Variant.number?]

end WikiDump

