import WikiDump.Proofs.ValueTyping
import WikiDump.Query.Token
/-!
# Conditions written as text

A condition given with `--where`, or typed bare in interactive mode, is a text such as
`page_namespace=14`. A text of printable ASCII without blanks and parentheses holds no joining
word and no group, so it is read as one comparison (`ofText_bare`). In a column, an operator
and a value, the characters of the operators occur only in the operator, so the search for the
operators finds that one right after the column (`findSub_frame`). The condition is the column
compared with the value as `typedLiteral` types it, bare or in single quotes
(`filterOfArguments_written`).
-/

namespace WikiDump

open Query

def operatorChar (x : Char) : Bool := x = '<' || x = '>' || x = '=' || x = '!' || x = '~'

def comparisonOperators : List String := ["=", "!=", "<", "<=", ">", ">="]

def bareChar (x : Char) : Bool := 33 ≤ x.toNat && x.toNat ≤ 126 && x != '(' && x != ')'

/-! ## Finding the operator -/

section Frame

variable {pat : List Char}

theorem take_append_plain {l d : List Char} (ops : ∀ x ∈ pat, operatorChar x = true)
    (plain : ∀ x ∈ d, operatorChar x = false) :
    (l ++ d).take pat.length = pat ↔ l.take pat.length = pat := by
  by_cases short : pat.length ≤ l.length
  · rw [List.take_append_of_le_length short]
  · rw [List.take_append, List.take_of_length_le (by omega)]
    constructor
    · intro whole
      cases d with
      | nil =>
          have lengths := congrArg List.length whole
          simp at lengths
          omega
      | cons y rest =>
          -- The first character of `d` would be a character of the pattern.
          have inPat : y ∈ pat := by
            rw [← whole, show pat.length - l.length = (pat.length - l.length - 1) + 1 by omega,
              List.take_succ_cons]
            exact List.mem_append_right l List.mem_cons_self
          have plainY := plain y List.mem_cons_self
          rw [ops y inPat] at plainY
          cases plainY
    · intro part
      have lengths := congrArg List.length part
      omega

variable (ops : ∀ x ∈ pat, operatorChar x = true) (nonempty : pat ≠ [])
include ops nonempty

theorem findSub_go_skip {x : Char} (plain : operatorChar x = false) (rest : List Char) (i : Nat) :
    findSub.go pat (x :: rest) i = findSub.go pat rest (i + 1) := by
  rw [findSub.go, if_neg]
  intro same
  obtain ⟨p, ps, rfl⟩ := List.exists_cons_of_ne_nil nonempty
  rw [List.length_cons, List.take_succ_cons, List.cons.injEq] at same
  rw [same.1, ops p List.mem_cons_self] at plain
  cases plain

theorem findSub_go_plain {a : List Char} (plain : ∀ x ∈ a, operatorChar x = false)
    (rest : List Char) (i : Nat) : findSub.go pat (a ++ rest) i = findSub.go pat rest (i + a.length) := by
  induction a generalizing i with
  | nil => rfl
  | cons x a ih =>
      rw [List.cons_append, findSub_go_skip ops nonempty (plain x List.mem_cons_self),
        ih (fun y member => plain y (List.mem_cons_of_mem x member)), List.length_cons]
      congr 1
      omega

theorem findSub_go_tail {d : List Char} (plain : ∀ x ∈ d, operatorChar x = false)
    (b : List Char) (i : Nat) : findSub.go pat (b ++ d) i = findSub.go pat b i := by
  induction b generalizing i with
  | nil =>
      have none := findSub_go_plain ops nonempty plain [] i
      rw [List.append_nil] at none
      rw [List.nil_append, none, findSub.go, findSub.go]
  | cons x b ih =>
      have same := take_append_plain (l := x :: b) ops plain
      rw [List.cons_append] at same
      rw [List.cons_append, findSub.go, findSub.go, ih]
      by_cases found : (x :: b).take pat.length = pat
      · rw [if_pos (same.2 found), if_pos found]
      · rw [if_neg (mt same.1 found), if_neg found]

end Frame

theorem findSub_go_offset (pat cs : List Char) (i : Nat) :
    findSub.go pat cs i = (findSub.go pat cs 0).map (i + ·) := by
  induction cs generalizing i with
  | nil => rfl
  | cons x rest ih =>
      rw [findSub.go, findSub.go]
      split
      · rfl
      · rw [ih (i + 1), ih (0 + 1), Option.map_map]
        congr 1
        funext k
        simp only [Function.comp_apply]
        omega

/-- The operator characters of a text all lie in its middle part: a pattern of operator
characters is found where it occurs in that part. -/
theorem findSub_frame {pat : List Char} (ops : ∀ x ∈ pat, operatorChar x = true) (nonempty : pat ≠ [])
    {a b d : List Char} (plainA : ∀ x ∈ a, operatorChar x = false)
    (plainD : ∀ x ∈ d, operatorChar x = false) :
    findSub pat (a ++ b ++ d) = (findSub pat b).map (a.length + ·) := by
  obtain ⟨p, ps, rfl⟩ := List.exists_cons_of_ne_nil nonempty
  show findSub.go (p :: ps) (a ++ b ++ d) 0 = (findSub.go (p :: ps) b 0).map (a.length + ·)
  rw [List.append_assoc, findSub_go_plain ops nonempty plainA, findSub_go_tail ops nonempty plainD,
    Nat.zero_add, findSub_go_offset]

/-! ## Reading one comparison -/

theorem isSpace_bare {x : Char} (bare : bareChar x = true) : Space.isSpace x = false := by
  simp only [bareChar, Bool.and_eq_true, decide_eq_true_eq] at bare
  simp only [Space.isSpace, Bool.or_eq_false_iff, Bool.and_eq_false_iff, decide_eq_false_iff_not]
  omega

theorem trimChars_of_ends {cs : List Char} (first : ∀ x ∈ cs.head?, Space.isSpace x = false)
    (last : ∀ x ∈ cs.getLast?, Space.isSpace x = false) : Space.trimChars cs = cs := by
  have keep : ∀ l : List Char, (∀ x ∈ l.head?, Space.isSpace x = false) → l.dropWhile Space.isSpace = l := by
    intro l start
    cases l with
    | nil => rfl
    | cons x rest => simp [List.dropWhile, start x rfl]
  rw [Space.trimChars, keep cs first, keep cs.reverse (by rw [List.head?_reverse]; exact last),
    List.reverse_reverse]

theorem trimChars_bare {cs : List Char} (bare : ∀ x ∈ cs, bareChar x = true) :
    Space.trimChars cs = cs :=
  trimChars_of_ends (fun x first => isSpace_bare (bare x (List.mem_of_mem_head? first)))
    (fun x last => isSpace_bare (bare x (List.mem_of_mem_getLast? last)))

theorem unquote_plain {s : String} (notQuote : ∀ q, s.toList.head? = some q → q ≠ '\'' ∧ q ≠ '"') :
    unquote s = s := by
  unfold unquote
  dsimp only
  split
  · rename_i q second rest l chars last
    have first := notQuote q (by rw [chars]; rfl)
    rw [if_neg (by rintro ⟨quote | quote, -⟩ <;> simp_all)]
  · rfl

theorem unquote_quoted (v : List Char) : unquote (String.ofList ('\'' :: v ++ ['\''])) = String.ofList v := by
  unfold unquote
  dsimp only
  rw [String.toList_ofList]
  have last : ('\'' :: v ++ ['\'']).getLast? = some '\'' := List.getLast?_concat
  -- The closing quote makes the text at least two characters long.
  obtain ⟨y, rest, split⟩ : ∃ y rest, v ++ ['\''] = y :: rest := List.exists_cons_of_ne_nil (by simp)
  rw [last, List.cons_append, split]
  simp only [List.drop_one, List.tail_cons]
  rw [← split, List.dropLast_concat]
  simp

theorem parse_written {c w : List Char} {op : String} (hop : op ∈ comparisonOperators)
    (column : c ≠ [] ∧ ∀ x ∈ c, bareChar x = true ∧ operatorChar x = false)
    (value : w ≠ [] ∧ ∀ x ∈ w, bareChar x = true ∧ operatorChar x = false) :
    Comparison.parse? (String.ofList (c ++ op.toList ++ w)) =
      some ⟨String.ofList c, op, unquote (String.ofList w)⟩ := by
  have frame : ∀ pat : List Char, (∀ x ∈ pat, operatorChar x = true) → pat ≠ [] →
      findSub pat (c ++ op.toList ++ w) = (findSub pat op.toList).map (c.length + ·) :=
    fun pat ops nonempty => findSub_frame ops nonempty (fun x member => (column.2 x member).2)
      (fun x member => (value.2 x member).2)
  have field : Space.trimChars c = c := trimChars_bare fun x member => (column.2 x member).1
  have rest : Space.trimChars w = w := trimChars_bare fun x member => (value.2 x member).1
  have start : c.length ≠ 0 := by simpa using column.1
  -- Each operator pattern is found only inside the operator, whatever the column and value.
  have framed : ∀ o ∈ operators, findSub o.toList (c ++ op.toList ++ w) =
      (findSub o.toList op.toList).map (c.length + ·) := by
    intro o member
    simp only [operators, List.mem_cons, List.not_mem_nil, or_false] at member
    apply frame
    · rcases member with rfl | rfl | rfl | rfl | rfl | rfl | rfl <;> simp [operatorChar]
    · rcases member with rfl | rfl | rfl | rfl | rfl | rfl | rfl <;> simp
  simp only [comparisonOperators, List.mem_cons, List.not_mem_nil, or_false] at hop
  simp only [Comparison.parse?, String.toList_ofList, operators, List.findSome?_cons]
  rw [framed ">=" (by simp [operators]), framed "<=" (by simp [operators]),
    framed "!=" (by simp [operators]), framed "~=" (by simp [operators]),
    framed ">" (by simp [operators]), framed "<" (by simp [operators]), framed "=" (by simp [operators])]
  rcases hop with rfl | rfl | rfl | rfl | rfl | rfl
  all_goals
    simp [← String.length_toList, findSub, findSub.go, start, field, rest, column.1, value.1]

/-! ## Splitting at joining words -/

theorem bytesAt_of_first {b pat : ByteArray} {i : Nat} {p : UInt8} (first : pat[0]? = some p)
    (differs : b[i]? ≠ some p) : bytesAt b pat i = false := by
  have size : 0 < pat.size := by
    rcases Nat.eq_zero_or_pos pat.size with empty | pos
    · rw [getElem?_neg pat 0 (by omega)] at first; cases first
    · exact pos
  unfold bytesAt
  rw [Bool.and_eq_false_iff]
  right
  rw [List.all_eq_false]
  refine ⟨0, List.mem_range.2 size, ?_⟩
  rw [Nat.add_zero, first]
  simpa using differs

theorem splitPieces_whole {s upper op : ByteArray} {p : UInt8} (first : op[0]? = some p)
    (unsplit : ∀ j, j < s.size →
      s[j]? ≠ some 0x28 ∧ s[j]? ≠ some 0x29 ∧ j ≤ upper.size ∧ upper[j]? ≠ some p)
    {i : Nat} {quote : Option UInt8} {depth : Int} {last : Nat} {acc : Array ByteArray}
    (level : depth = 0) (lastIn : last ≤ s.size) :
    splitPieces s upper op i quote depth last acc =
      .ok (acc.push (Space.trimBytes (s.extract last s.size))) := by
  fun_induction splitPieces s upper op i quote depth last acc
  case case1 i depth last acc inside c q ih => exact ih level lastIn
  case case2 i depth last acc inside c isQuote ih => exact ih level lastIn
  case case3 i depth last acc inside c notQuote isOpen ih =>
    have byte := (unsplit i inside).1
    rw [getElem?_pos s i inside] at byte
    exact absurd (congrArg some (eq_of_beq isOpen)) byte
  case case4 i depth last acc inside c notQuote notOpen isClose ih =>
    have byte := (unsplit i inside).2.1
    rw [getElem?_pos s i inside] at byte
    exact absurd (congrArg some (eq_of_beq isClose)) byte
  case case5 i depth last acc inside c notQuote notOpen notClose atLevel past =>
    exact absurd (unsplit i inside).2.2.1 (by omega)
  case case6 i depth last acc inside c notQuote notOpen notClose atLevel within found ih =>
    rw [bytesAt_of_first first (unsplit i inside).2.2.2] at found
    cases found
  case case7 i depth last acc inside c notQuote notOpen notClose atLevel within notFound ih => exact ih level lastIn
  case case8 i depth last acc inside c notQuote notOpen notClose deeper ih =>
    rw [level] at deeper
    cases deeper rfl
  case case9 i depth last acc past beyond => exact absurd lastIn (by omega)
  case case10 i depth last acc past within => rfl

/-! ## A text without blanks and groups -/

theorem ascii_of_bareChar {x : Char} (bare : bareChar x = true) : x.toNat < 128 := by
  simp only [bareChar, Bool.and_eq_true, decide_eq_true_eq] at bare
  omega

theorem toNat_toUpper (x : Char) :
    x.toUpper.toNat = if 97 ≤ x.toNat ∧ x.toNat ≤ 122 then x.toNat - 32 else x.toNat := by
  unfold Char.toUpper
  split
  · rename_i lower
    have small : 97 ≤ x.toNat ∧ x.toNat ≤ 122 := by
      simp only [UInt32.le_iff_toNat_le] at lower
      exact lower
    rw [if_pos small]
    simp only [Char.toNat]
    simp [UInt32.toNat_add]
    omega
  · rename_i notLower
    have other : ¬ (97 ≤ x.toNat ∧ x.toNat ≤ 122) := by
      simp only [UInt32.le_iff_toNat_le] at notLower
      exact notLower
    rw [if_neg other]

theorem bareChar_upper {x : Char} (bare : bareChar x = true) : bareChar (CaseMap.upper x) = true := by
  simp only [bareChar, Bool.and_eq_true, decide_eq_true_eq, bne_iff_ne, ne_eq] at bare ⊢
  obtain ⟨⟨⟨low, high⟩, notOpen⟩, notClose⟩ := bare
  have value : (CaseMap.upper x).toNat =
      if 97 ≤ x.toNat ∧ x.toNat ≤ 122 then x.toNat - 32 else x.toNat := by
    rw [CaseMap.upper, if_pos (by omega), toNat_toUpper]
  have openNat : x.toNat ≠ 40 := fun eq => notOpen (Char.toNat_inj.1 eq)
  have closeNat : x.toNat ≠ 41 := fun eq => notClose (Char.toNat_inj.1 eq)
  refine ⟨⟨⟨?_, ?_⟩, fun eq => ?_⟩, fun eq => ?_⟩
  · split at value <;> omega
  · split at value <;> omega
  · have atOpen : (CaseMap.upper x).toNat = 40 := congrArg Char.toNat eq
    split at value <;> omega
  · have atClose : (CaseMap.upper x).toNat = 41 := congrArg Char.toNat eq
    split at value <;> omega

theorem byte_of_bareChar {x : Char} (bare : bareChar x = true) {b : UInt8}
    (same : x.toNat.toUInt8 = b) : x.toNat = b.toNat := by
  rw [← same, toUInt8_toNat_ascii (ascii_of_bareChar bare)]

theorem trimBytes_of_edges {t : String} (ascii : ∀ c ∈ t.toList, c.toNat < 128) (nonempty : t.toList ≠ [])
    (first : ∀ c ∈ t.toList.head?, Space.isSpace c = false)
    (last : ∀ c ∈ t.toList.getLast?, Space.isSpace c = false) :
    Space.trimBytes t.toUTF8 = t.toUTF8 := by
  have size : t.toUTF8.size = t.toList.length := by
    have size := toUTF8_size_ascii ascii
    rwa [String.ofList_toList] at size
  have decoded : ∀ {k : Nat} {x : Char}, t.toList[k]? = some x → Utf8.decodeAt? t.toUTF8 k = some (x, 1) := by
    intro k x found
    have decoded := decodeAt?_ascii_text ascii found
    rwa [String.ofList_toList] at decoded
  have filled : 0 < t.toList.length := List.length_pos_iff.2 nonempty
  obtain ⟨x, firstAt⟩ : ∃ x, t.toList[0]? = some x := ⟨_, List.getElem?_eq_getElem filled⟩
  obtain ⟨y, lastAt⟩ : ∃ y, t.toList[t.toList.length - 1]? = some y :=
    ⟨_, List.getElem?_eq_getElem (by omega)⟩
  have leading : Space.skipLeading t.toUTF8 0 = 0 := by
    unfold Space.skipLeading
    rw [dif_pos (by omega)]
    split
    · rename_i c w found
      rw [decoded firstAt, Option.some.injEq, Prod.mk.injEq] at found
      rw [if_neg (by rw [← found.1, first x (by rw [List.head?_eq_getElem?]; exact firstAt)]; simp)]
    · rfl
  have lastDecoded : Utf8.decodeAt? t.toUTF8 (t.toUTF8.size - 1) = some (y, 1) := by
    rw [size]
    exact decoded lastAt
  have before : Space.charBefore t.toUTF8 t.toUTF8.size = some (y, 1) := by
    simp only [Space.charBefore, List.findSome?_cons, if_pos (show 1 ≤ t.toUTF8.size by omega),
      lastDecoded]
    rfl
  have trailing : Space.skipTrailing t.toUTF8 0 t.toUTF8.size = t.toUTF8.size := by
    unfold Space.skipTrailing
    rw [if_neg (by omega), before]
    simp [last y (by rw [List.getLast?_eq_getElem?]; exact lastAt)]
  simp only [Space.trimBytes, leading, trailing, ByteArray.extract_zero_size]

section Bare

variable {t : String} (bare : ∀ x ∈ t.toList, bareChar x = true)
include bare

private theorem ascii_of_bare : ∀ x ∈ t.toList, x.toNat < 128 := fun x member =>
  ascii_of_bareChar (bare x member)

private theorem bytes_of_bare (k : Nat) : t.toUTF8[k]? = t.toList[k]?.map fun c => c.toNat.toUInt8 := by
  have bytes := toUTF8_getElem?_ascii (ascii_of_bare bare) k
  rwa [String.ofList_toList] at bytes

private theorem size_of_bare : t.toUTF8.size = t.toList.length := by
  have size := toUTF8_size_ascii (ascii_of_bare bare)
  rwa [String.ofList_toList] at size

theorem trimBytes_bare (nonempty : t ≠ "") : Space.trimBytes t.toUTF8 = t.toUTF8 :=
  trimBytes_of_edges (ascii_of_bare bare) (fun empty => nonempty (String.toList_eq_nil_iff.1 empty))
    (fun x first => isSpace_bare (bare x (List.mem_of_mem_head? first)))
    (fun x last => isSpace_bare (bare x (List.mem_of_mem_getLast? last)))

private theorem decodeLossy_of_bare : Utf8.decodeLossy t.toUTF8 = t := by
  have text := decodeLossy_ascii (ascii_of_bare bare)
  rwa [String.ofList_toList] at text

private theorem upperBytes_of_bare :
    upperBytes t.toUTF8 = (String.ofList (t.toList.map CaseMap.upper)).toUTF8 := by
  rw [upperBytes, decodeLossy_of_bare bare]
  congr 1
  apply String.toList_inj.1
  rw [CaseMap.upperText, String.toList_map, String.toList_ofList]

private theorem unsplit_of_bare : ∀ j, j < t.toUTF8.size →
    t.toUTF8[j]? ≠ some 0x28 ∧ t.toUTF8[j]? ≠ some 0x29 ∧ j ≤ (upperBytes t.toUTF8).size ∧
      (upperBytes t.toUTF8)[j]? ≠ some 0x20 := by
  intro j inside
  have upperAscii : ∀ y ∈ t.toList.map CaseMap.upper, y.toNat < 128 := by
    intro y member
    obtain ⟨x, inText, rfl⟩ := List.mem_map.1 member
    exact ascii_of_bareChar (bareChar_upper (bare x inText))
  rw [size_of_bare bare] at inside
  obtain ⟨x, found⟩ : ∃ x, t.toList[j]? = some x := ⟨_, List.getElem?_eq_getElem inside⟩
  have xBare := bare x (List.mem_of_getElem? found)
  have upperBare := bareChar_upper xBare
  simp only [bareChar, Bool.and_eq_true, decide_eq_true_eq, bne_iff_ne, ne_eq] at xBare upperBare
  have openNat : x.toNat ≠ 40 := fun eq => xBare.1.2 (Char.toNat_inj.1 eq)
  have closeNat : x.toNat ≠ 41 := fun eq => xBare.2 (Char.toNat_inj.1 eq)
  rw [bytes_of_bare bare, found, upperBytes_of_bare bare, toUTF8_getElem?_ascii upperAscii,
    toUTF8_size_ascii upperAscii, List.getElem?_map, found]
  simp only [Option.map_some, ne_eq, Option.some.injEq, List.length_map]
  refine ⟨fun eq => ?_, fun eq => ?_, by omega, fun eq => ?_⟩
  · have := byte_of_bareChar (bare x (List.mem_of_getElem? found)) eq
    simp at this
    omega
  · have := byte_of_bareChar (bare x (List.mem_of_getElem? found)) eq
    simp at this
    omega
  · have := byte_of_bareChar (bareChar_upper (bare x (List.mem_of_getElem? found))) eq
    simp at this
    omega

/-- A text of printable ASCII without blanks and parentheses is read as one comparison. -/
theorem ofText_bare (nonempty : t ≠ "") {cmp : Comparison} (parsed : Comparison.parse? t = some cmp) :
    Expression.ofText t = .ok (.condition (Filter.make cmp.field cmp.operator (typedLiteral cmp.value))) := by
  have whole : ∀ pat : ByteArray, pat[0]? = some 0x20 →
      splitPieces t.toUTF8 (upperBytes t.toUTF8) pat 0 none 0 0 #[] = .ok #[t.toUTF8] := by
    intro pat first
    rw [splitPieces_whole first (unsplit_of_bare bare) rfl (Nat.zero_le _),
      ByteArray.extract_zero_size, trimBytes_bare bare nonempty]
    rfl
  have filled : t.toUTF8.size ≠ 0 := by
    rw [size_of_bare bare]
    intro empty
    exact nonempty (String.toList_eq_nil_iff.1 (List.eq_nil_of_length_eq_zero empty))
  have notGroup : t.toUTF8[0]? ≠ some 0x28 := (unsplit_of_bare bare 0 (by omega)).1
  unfold Expression.ofText
  rw [readExpression]
  simp only [trimBytes_bare bare nonempty, filled, if_false, whole " OR ".toUTF8 (by decide),
    whole " AND ".toUTF8 (by decide), decodeLossy_of_bare bare, parsed, beq_eq_false_iff_ne.2 notGroup,
    Bool.false_and, Bool.false_eq_true]
  rfl

end Bare

/-! ## The written forms of a condition -/

theorem valueChar_bare {x : Char} (h : valueChar x = true) :
    bareChar x = true ∧ operatorChar x = false := by
  -- A table over the ASCII characters, which are all a value character can be.
  have table : ∀ n, n < 128 → valueChar (Char.ofNat n) = true →
      bareChar (Char.ofNat n) = true ∧ operatorChar (Char.ofNat n) = false := by decide
  have bare := table x.toNat (valueChar_toNat h).1
  rw [Char.ofNat_toNat] at bare
  exact bare h

theorem valueChar_of_word {x : Char} (word : isWordChar x = true) : valueChar x = true := by
  simp only [isWordChar, Bool.or_eq_true, decide_eq_true_eq] at word
  simp only [valueChar, Bool.or_eq_true, decide_eq_true_eq]
  rcases word with alnum | underscore
  · exact .inl (.inl (.inl alnum))
  · exact .inl (.inr underscore)

theorem operators_bare : ∀ op ∈ comparisonOperators, op.toList ≠ [] ∧
    ∀ x ∈ op.toList, bareChar x = true ∧ operatorChar x = true := by
  intro op member
  simp only [comparisonOperators, List.mem_cons, List.not_mem_nil, or_false] at member
  rcases member with rfl | rfl | rfl | rfl | rfl | rfl <;> simp [bareChar, operatorChar]

theorem filterOfArguments_bare {c w : List Char} {op : String} (hop : op ∈ comparisonOperators)
    (column : c ≠ [] ∧ ∀ x ∈ c, bareChar x = true ∧ operatorChar x = false)
    (value : w ≠ [] ∧ ∀ x ∈ w, bareChar x = true ∧ operatorChar x = false)
    (field operator given : String) :
    Command.filterOfArguments (String.ofList (c ++ op.toList ++ w)) field operator given =
      .ok (.condition (Filter.make (String.ofList c) op (typedLiteral (unquote (String.ofList w))))) := by
  have opChars := operators_bare op hop
  have bare : ∀ x ∈ (String.ofList (c ++ op.toList ++ w)).toList, bareChar x = true := by
    intro x member
    simp only [String.toList_ofList, List.mem_append] at member
    rcases member with (inC | inOp) | inW
    · exact (column.2 x inC).1
    · exact (opChars.2 x inOp).1
    · exact (value.2 x inW).1
  have nonempty : String.ofList (c ++ op.toList ++ w) ≠ "" := by
    intro empty
    have chars := congrArg String.toList empty
    simp only [String.toList_ofList, String.toList_empty, List.append_eq_nil_iff] at chars
    exact column.1 chars.1.1
  unfold Command.filterOfArguments
  rw [if_pos (by simpa using nonempty), ofText_bare bare nonempty (parse_written hop column value)]

/-- The written forms of a condition, with the value bare or in single quotes, are both the column
compared with the value as `typedLiteral` types it. -/
theorem filterOfArguments_written {c v op : String} (hop : op ∈ comparisonOperators) (hc : c ≠ "")
    (word : ∀ x ∈ c.toList, isWordChar x = true) (hv : ValueText v) (field operator given : String) :
    Command.filterOfArguments (c ++ op ++ v) field operator given =
        .ok (.condition (Filter.make c op (typedLiteral v))) ∧
      Command.filterOfArguments (c ++ op ++ "'" ++ v ++ "'") field operator given =
        .ok (.condition (Filter.make c op (typedLiteral v))) := by
  have column : c.toList ≠ [] ∧ ∀ x ∈ c.toList, bareChar x = true ∧ operatorChar x = false :=
    ⟨by simpa using hc, fun x member => valueChar_bare (valueChar_of_word (word x member))⟩
  have plain : ∀ x ∈ v.toList, bareChar x = true ∧ operatorChar x = false :=
    fun x member => valueChar_bare (hv.2 x member)
  have filled : v.toList ≠ [] := by simpa using hv.1
  constructor
  · have bareForm := filterOfArguments_bare hop column ⟨filled, plain⟩ field operator given
    -- A value text starts with no quote, so it stays as it is.
    have same : unquote v = v := unquote_plain fun q first => by
      have quoteChar := hv.2 q (List.mem_of_mem_head? first)
      constructor <;> (rintro rfl; simp [valueChar] at quoteChar)
    rwa [← String.toList_append, ← String.toList_append, String.ofList_toList, String.ofList_toList,
      String.ofList_toList, same] at bareForm
  · have quoted : ∀ x ∈ '\'' :: v.toList ++ ['\''], bareChar x = true ∧ operatorChar x = false := by
      intro x member
      simp only [List.cons_append, List.mem_cons, List.mem_append, List.not_mem_nil, or_false] at member
      rcases member with rfl | inV | rfl
      · decide
      · exact plain x inV
      · decide
    have bareForm := filterOfArguments_bare hop column ⟨by simp, quoted⟩ field operator given
    rw [unquote_quoted, String.ofList_toList, String.ofList_toList] at bareForm
    have text : String.ofList (c.toList ++ op.toList ++ ('\'' :: v.toList ++ ['\''])) =
        c ++ op ++ "'" ++ v ++ "'" := by
      apply String.toList_inj.1
      simp
    rwa [text] at bareForm

end WikiDump

