import WikiDump.Proofs.ComparisonSplit
/-!
# Extracting the value at a path

A path is cut at its dots, each dot a separator unless the text after it, up to the next dot,
holds an operator. A path of word names joined by dots therefore walks the record column by
column (`Query.extract_column_path`); a comparison with a whole number, followed by word names,
keeps the record only when it passes and then walks on (`Query.extract_condition_path`).

The look-ahead reads the text after a dot, not the text before it: in `page_len>1.5` the text
after the point is `5`, which holds no operator, so the point splits the comparison into
`page_len>1` and a column `5` (`Query.pathParts_intercalate` covers this cut too). On a record
that passes `page_len>1` and has no column `5`, extraction fails where the comparison with 1.5
alone would keep the record (`Query.decimal_point_splits_condition`).
-/

namespace WikiDump

/-- The value of a column of a map or a record: its first entry of that name. Nothing else has
columns. -/
def Variant.column? (v : Variant) (name : String) : Option Variant :=
  match v with
  | .record entries | .map entries => (entries.find? (·.1 == name)).map (·.2)
  | _ => none

namespace Query

def Digits (v : String) : Prop := v ≠ "" ∧ ∀ x ∈ v.toList, x.isDigit = true

theorem Digits.wordName {v : String} (digits : Digits v) : WordName v :=
  ⟨digits.1, fun x member => by simp [isWordChar, Char.isAlphanum, digits.2 x member]⟩

theorem WordName.plain {c : String} (word : WordName c) : ∀ x ∈ c.toList, operatorChar x = false :=
  fun x member => (valueChar_bare (valueChar_of_word (word.2 x member))).2

theorem WordName.trim {c : String} (word : WordName c) : Space.trim c = c := by
  rw [Space.trim, trimChars_bare fun x member => (valueChar_bare (valueChar_of_word (word.2 x member))).1,
    String.ofList_toList]

/-! ## Cutting a path -/

theorem pathParts_go_append (a : List Char) (noDot : ∀ y ∈ a, y ≠ '.') (rest cur : List Char)
    (parts : List String) : pathParts.go (a ++ rest) cur parts = pathParts.go rest (a.reverse ++ cur) parts := by
  induction a generalizing cur with
  | nil => rfl
  | cons y a ih =>
      rw [List.cons_append, pathParts.go, if_neg (noDot y List.mem_cons_self),
        ih (fun z member => noDot z (List.mem_cons_of_mem y member))]
      simp

def dotted (qs : List String) : List Char := (qs.map fun q => '.' :: q.toList).flatten

theorem toList_intercalate_cons (t : String) (qs : List String) :
    (".".intercalate (t :: qs)).toList = t.toList ++ dotted qs := by
  induction qs generalizing t with
  | nil => simp [dotted]
  | cons q qs ih =>
      rw [String.intercalate_cons_cons, String.toList_append, String.toList_append, ih]
      simp [dotted]

theorem pathParts_go_dotted (t : List Char) (noDot : ∀ y ∈ t, y ≠ '.') (qs : List String)
    (words : ∀ q ∈ qs, WordName q) (parts : List String) :
    pathParts.go (t ++ dotted qs) [] parts = parts.reverse ++ String.ofList t :: qs := by
  induction qs generalizing t parts with
  | nil => simp [dotted, pathParts_go_plain t [] parts noDot]
  | cons q qs ih =>
      have word := words q List.mem_cons_self
      have later : ∀ q' ∈ qs, WordName q' := fun q' member => words q' (List.mem_cons_of_mem q member)
      -- The segment the look-ahead reads is the next word name, which holds no operator.
      have segment : (q.toList ++ dotted qs).takeWhile (· ≠ '.') = q.toList := by
        rw [List.takeWhile_append_of_pos (fun y member => by simpa using word.not_dot y member)]
        cases qs <;> simp [dotted]
      have noOperator : operators.any (containsText q) = false :=
        List.any_eq_false.2 fun op member => by simp [containsText_word word.2 op member]
      have unfolded : dotted (q :: qs) = '.' :: (q.toList ++ dotted qs) := by simp [dotted]
      rw [unfolded, pathParts_go_append t noDot, pathParts.go, if_pos rfl]
      simp only [segment, String.ofList_toList, noOperator, Bool.false_eq_true, if_false, if_true,
        List.append_nil, List.reverse_reverse]
      rw [ih q.toList word.not_dot later, String.ofList_toList]
      simp

/-- A dotless first part followed by word names, joined by dots, is cut into exactly those
parts. -/
theorem pathParts_intercalate {t : String} (filled : t ≠ "") (noDot : ∀ y ∈ t.toList, y ≠ '.')
    {qs : List String} (words : ∀ q ∈ qs, WordName q) : pathParts (".".intercalate (t :: qs)) = t :: qs := by
  obtain ⟨x, xs, chars⟩ : ∃ x xs, t.toList = x :: xs := by
    cases h : t.toList with
    | nil => exact absurd (String.toList_eq_nil_iff.1 h) filled
    | cons x xs => exact ⟨x, xs, rfl⟩
  have xNotDot : x ≠ '.' := noDot x (by rw [chars]; exact List.mem_cons_self)
  unfold pathParts
  dsimp only
  rw [toList_intercalate_cons, chars, List.cons_append]
  split
  · rename_i rest same
    cases same
    exact absurd rfl xNotDot
  · rw [← List.cons_append, ← chars, pathParts_go_dotted t.toList noDot qs words, String.ofList_toList]
    have kept : ∀ p ∈ t :: qs, (!p.isEmpty) = true := by
      intro p member
      rcases List.mem_cons.1 member with rfl | later
      · simpa using filled
      · simpa using (words p later).1
    simp [List.filter_eq_self.2 kept, chars]

theorem length_le_intercalate (t : String) (qs : List String) : qs.length ≤ (".".intercalate (t :: qs)).length := by
  induction qs generalizing t with
  | nil => simp
  | cons q qs ih =>
      rw [String.intercalate_cons_cons, String.length_append, String.length_append, List.length_cons]
      have shorter := ih q
      have dot : ".".length = 1 := rfl
      omega

/-! ## Walking a path -/

theorem extractPart_word {q : String} (word : WordName q) (n : Nat) (entries : List (String × Variant))
    (rest : List String) :
    extractPart (n + 1) entries q rest =
      ((entries.find? (·.1 == q)).map (·.2)).elim (.error ("column '" ++ q ++ "' not found"))
        (fun x => extractParts n x rest) := by
  obtain ⟨notComparison, notWildcard, -⟩ := word.plain_part
  rw [extractPart]
  simp only [notWildcard, notComparison, Bool.false_and, Bool.false_eq_true, if_false, Bool.not_false,
    if_true]
  rcases found : entries.find? (fun entry => entry.1 == q) with _ | ⟨key, v⟩ <;> simp [found]

theorem extractParts_columns {cs : List String} (words : ∀ q ∈ cs, WordName q) :
    ∀ (v : Variant) (n : Nat), 2 * cs.length + 1 ≤ n → (extractParts n v cs).toOption = cs.foldlM Variant.column? v := by
  induction cs with
  | nil =>
      intro v n enough
      obtain ⟨k, rfl⟩ : ∃ k, n = k + 1 := ⟨n - 1, by omega⟩
      rfl
  | cons q qs ih =>
      intro v n enough
      obtain ⟨k, rfl⟩ : ∃ k, n = k + 3 := ⟨n - 3, by simp at enough; omega⟩
      have word := words q List.mem_cons_self
      have walk := ih (fun q' member => words q' (List.mem_cons_of_mem q member))
      have next : 2 * qs.length + 1 ≤ k + 1 := by simp at enough; omega
      -- A step into a map or a record reads the column; anything else has none.
      have step : ∀ entries : List (String × Variant),
          (extractPart (k + 2) entries q qs).toOption =
            ((entries.find? (·.1 == q)).map (·.2)).bind fun x => qs.foldlM Variant.column? x := by
        intro entries
        rw [extractPart_word word]
        rcases found : entries.find? (fun entry => entry.1 == q) with _ | ⟨key, x⟩
        · simp only [found, Option.map_none, Option.elim_none, Option.bind_none]
          rfl
        · simpa [found] using walk x (k + 1) next
      cases v with
      | record entries => rw [extractParts, step]; rfl
      | map entries => rw [extractParts, step]; rfl
      | _ => rfl

/-! ## A comparison in a path -/

section Condition

variable {c v op : String} (hc : WordName c) (hop : op ∈ operators) (hv : Digits v)
include hc hop hv

theorem parse_condition : Comparison.parse? (c ++ op ++ v) = some ⟨c, reportedOperator op, v⟩ := by
  have field : Space.trim c ≠ "" := by rw [hc.trim]; exact hc.1
  have value : Space.trim v ≠ "" := by rw [hv.wordName.trim]; exact hv.1
  obtain ⟨x, xs, chars, -⟩ := hv.wordName.lead
  have digit : x.isDigit = true := hv.2 x (by rw [chars]; exact List.mem_cons_self)
  have noEq : v.toList.head? ≠ some '=' := by
    rw [chars]
    rintro ⟨⟩
    exact absurd digit (by decide)
  -- No operator occurs in the number, so none is tried before the written one.
  have unsplit : ((operatorsBefore op).findSome? fun o =>
      (splitsValue v.toList o).map (insideValue c op v o)) = none := by
    rw [List.findSome?_eq_none_iff]
    intro o earlier
    rw [splitsValue, findSub_operator_plain (List.takeWhile_subset _ earlier) hv.wordName.plain]
    rfl
  have unquoted : unquote v = v := unquote_plain fun q first => by
    rw [chars] at first
    cases first
    constructor <;> (rintro rfl; exact absurd digit (by decide))
  rw [parse_at_operator hop field hc.plain value noEq, unsplit, Option.getD_none, hc.trim,
    hv.wordName.trim, unquoted]

theorem extractPart_condition (n : Nat) (entries : List (String × Variant)) (rest : List String) :
    extractPart (n + 1) entries (c ++ op ++ v) rest =
      if filterPasses n (Filter.make c (reportedOperator op) (typedLiteral v)) (.record entries) then
        extractParts n (.map entries) rest
      else .error ("filter '" ++ (c ++ op ++ v) ++ "' did not match") := by
  obtain ⟨x, xs, chars, notStar, notPercent, notDot⟩ := hc.lead
  have text : (c ++ op ++ v).toList = x :: (xs ++ op.toList ++ v.toList) := by simp [chars]
  have notWildcard : ((c ++ op ++ v).startsWith "*" || (c ++ op ++ v).startsWith "%") = false := by
    simp [text, Ne.symm notStar, Ne.symm notPercent]
  have comparison : isComparison (c ++ op ++ v) = true := by
    rw [isComparison, Bool.and_eq_true]
    constructor
    · simp [text, Ne.symm notDot]
    · rw [List.any_eq_true]
      refine ⟨op, hop, ?_⟩
      rw [containsText, String.toList_append, String.toList_append, findSub_operator hc.plain hop]
      rfl
  rw [extractPart]
  simp only [notWildcard, comparison, Bool.not_false, Bool.and_self, if_true, parse_condition hc hop hv]

end Condition

/-! ## Whole paths -/

theorem intercalate_ne {t : String} {qs : List String} (x : Char) (xs : List Char) (chars : t.toList = x :: xs)
    (notDot : x ≠ '.') : ¬ (".".intercalate (t :: qs) = "" ∨ ".".intercalate (t :: qs) = ".") := by
  have text := toList_intercalate_cons t qs
  rw [chars, List.cons_append] at text
  rintro (empty | dot)
  · rw [empty] at text
    cases text
  · rw [dot] at text
    have heads := congrArg List.head? text
    simp at heads
    exact notDot heads.symm

/-- A path of word names walks the value column by column: it yields the value under the last
name when every step finds its column in a map or a record, and fails otherwise. -/
theorem extract_column_path {cs : List String} (filled : cs ≠ []) (words : ∀ q ∈ cs, WordName q) (r : Variant) :
    (extract (".".intercalate cs) r).toOption = cs.foldlM Variant.column? r := by
  obtain ⟨c, qs, rfl⟩ := List.exists_cons_of_ne_nil filled
  have word := words c List.mem_cons_self
  have later : ∀ q ∈ qs, WordName q := fun q member => words q (List.mem_cons_of_mem c member)
  obtain ⟨x, xs, chars, -, -, notDot⟩ := word.lead
  have parts := pathParts_intercalate word.1 word.not_dot later
  rw [extract, if_neg (intercalate_ne x xs chars notDot), parts]
  apply extractParts_columns words
  have shorter := length_le_intercalate c qs
  simp only [pathFuel, List.length_cons]
  omega

section Condition

variable {c v op : String} (hc : WordName c) (hop : op ∈ operators) (hv : Digits v)
include hc hop hv

/-- A path that starts with a comparison with a whole number, followed by word names, keeps the
record when the comparison passes and then walks it column by column; otherwise it fails. -/
theorem extract_condition_path {qs : List String} (words : ∀ q ∈ qs, WordName q) (r : List (String × Variant)) :
    (extract (".".intercalate ((c ++ op ++ v) :: qs)) (.record r)).toOption =
      if (Filter.make c (reportedOperator op) (typedLiteral v)).passes (.record r) then
        qs.foldlM Variant.column? (.map r)
      else none := by
  obtain ⟨x, xs, chars, -, -, notDot⟩ := hc.lead
  have text : (c ++ op ++ v).toList = x :: (xs ++ op.toList ++ v.toList) := by simp [chars]
  -- The comparison holds no dot: a word name, operator characters and digits.
  have undotted : ∀ y ∈ (c ++ op ++ v).toList, y ≠ '.' := by
    intro y member same
    rw [same] at member
    simp only [String.toList_append, List.mem_append] at member
    rcases member with (inC | inOp) | inV
    · exact hc.not_dot '.' inC rfl
    · have dotOp := (operators_operatorChar op hop).2 '.' inOp
      simp [operatorChar] at dotOp
    · exact hv.wordName.not_dot '.' inV rfl
  have filled : c ++ op ++ v ≠ "" := by
    intro empty
    rw [empty] at text
    cases text
  have parts := pathParts_intercalate filled undotted words
  have shorter := length_le_intercalate (c ++ op ++ v) qs
  obtain ⟨k, fuel⟩ : ∃ k, pathFuel (".".intercalate ((c ++ op ++ v) :: qs)) = k + 6 ∧ 2 * qs.length + 1 ≤ k :=
    ⟨pathFuel (".".intercalate ((c ++ op ++ v) :: qs)) - 6, by simp only [pathFuel]; omega⟩
  have passes : filterPasses (k + 4) (Filter.make c (reportedOperator op) (typedLiteral v)) (.record r) =
      (Filter.make c (reportedOperator op) (typedLiteral v)).passes (.record r) := by
    rw [Filter.passes, filterPasses_word hc _ _ r (by omega), filterPasses_word hc _ _ r
      (by simp only [pathFuel]; omega)]
  rw [extract, if_neg (intercalate_ne x (xs ++ op.toList ++ v.toList) text notDot), parts, fuel.1, extractParts,
    extractPart_condition hc hop hv, passes]
  split
  · exact extractParts_columns words _ _ (by omega)
  · rfl

end Condition

/-- A comparison with a whole number in a path works as the comparison it is: followed by a
column, it yields the record's value there when the comparison passes and fails otherwise; alone,
it yields the record itself, as a map, when it passes and fails otherwise. A path of column names
yields the nested value or fails. -/
theorem extract_whole_number_paths {c d v op : String} (hc : WordName c) (hd : WordName d)
    (hop : op ∈ operators) (hv : Digits v) (r : List (String × Variant)) :
    (extract (c ++ op ++ v ++ "." ++ d) (.record r)).toOption =
        (if (Filter.make c (reportedOperator op) (typedLiteral v)).passes (.record r) then
          (Variant.record r).column? d
        else none) ∧
      (extract (c ++ op ++ v) (.record r)).toOption =
        (if (Filter.make c (reportedOperator op) (typedLiteral v)).passes (.record r) then
          some (.map r)
        else none) ∧
      ∀ cs : List String, cs ≠ [] → (∀ q ∈ cs, WordName q) →
        (extract (".".intercalate cs) (.record r)).toOption = cs.foldlM Variant.column? (.record r) := by
  have followed := @extract_condition_path c v op hc hop hv [d] (by simpa using hd) r
  have alone := @extract_condition_path c v op hc hop hv [] (by simp) r
  rw [String.intercalate_cons_cons, String.intercalate_singleton] at followed
  rw [String.intercalate_singleton] at alone
  refine ⟨?_, ?_, fun cs filled words => extract_column_path filled words (.record r)⟩
  · rw [followed]
    split
    · have same : (Variant.map r).column? d = (Variant.record r).column? d := rfl
      simp only [List.foldlM_cons, List.foldlM_nil, same]
      cases (Variant.record r).column? d <;> rfl
    · rfl
  · rw [alone]
    rfl

theorem wordName_of_all {c : String} (filled : c ≠ "") (all : c.toList.all isWordChar = true) : WordName c :=
  ⟨filled, List.all_eq_true.1 all⟩

theorem extract_whole_number_paths_namespace :
    WordName "page_namespace" ∧ WordName "page_title" ∧ "=" ∈ operators ∧ Digits "0" ∧
      ((extract ("page_namespace" ++ "=" ++ "0" ++ "." ++ "page_title")
          (.record [("page_namespace", .int 0), ("page_title", .str "AccessibleComputing")])).toOption =
          (if (Filter.make "page_namespace" (reportedOperator "=") (typedLiteral "0")).passes
              (.record [("page_namespace", .int 0), ("page_title", .str "AccessibleComputing")]) then
            (Variant.record [("page_namespace", .int 0), ("page_title", .str "AccessibleComputing")]).column?
              "page_title"
          else none) ∧
        (extract ("page_namespace" ++ "=" ++ "0")
          (.record [("page_namespace", .int 0), ("page_title", .str "AccessibleComputing")])).toOption =
          (if (Filter.make "page_namespace" (reportedOperator "=") (typedLiteral "0")).passes
              (.record [("page_namespace", .int 0), ("page_title", .str "AccessibleComputing")]) then
            some (.map [("page_namespace", .int 0), ("page_title", .str "AccessibleComputing")])
          else none) ∧
        ∀ cs : List String, cs ≠ [] → (∀ q ∈ cs, WordName q) →
          (extract (".".intercalate cs)
            (.record [("page_namespace", .int 0), ("page_title", .str "AccessibleComputing")])).toOption =
            cs.foldlM Variant.column? (.record [("page_namespace", .int 0), ("page_title", .str "AccessibleComputing")])) :=
  have hc : WordName "page_namespace" := wordName_of_all (by decide) rfl
  have hd : WordName "page_title" := wordName_of_all (by decide) rfl
  have hop : "=" ∈ operators := by simp [operators]
  have hv : Digits "0" := ⟨by decide, List.all_eq_true.1 rfl⟩
  ⟨hc, hd, hop, hv, extract_whole_number_paths hc hd hop hv _⟩

/-- On a record whose `page_lang` is NULL, the comparison `page_lang != 1.5` passes; yet the
point cuts the path `page_lang!=1.5` into the comparison with 1 and a column `5`, which the record
lacks, so extraction fails. -/
theorem decimal_point_splits_condition :
    (Filter.make "page_lang" (reportedOperator "!=") (typedLiteral "1.5")).passes
        (.record [("page_lang", .null)]) = true ∧
      (extract ("page_lang" ++ "!=" ++ "1.5") (.record [("page_lang", .null)])).toOption = none := by
  have hc : WordName "page_lang" := wordName_of_all (by decide) rfl
  have hop : "!=" ∈ operators := by simp [operators]
  have hv : Digits "1" := ⟨by decide, List.all_eq_true.1 rfl⟩
  have five : WordName "5" := wordName_of_all (by decide) rfl
  have path : "page_lang" ++ "!=" ++ "1.5" = ".".intercalate (("page_lang" ++ "!=" ++ "1") :: ["5"]) := by
    decide
  have passesOne : (Filter.make "page_lang" (reportedOperator "!=") (typedLiteral "1")).passes
      (.record [("page_lang", .null)]) = true := by decide +kernel
  refine ⟨by decide +kernel, ?_⟩
  rw [path, extract_condition_path hc hop hv (by simpa using five), if_pos passesOne]
  rfl

end Query

end WikiDump

