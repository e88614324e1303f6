import WikiDump.Proofs.GrammarFrame
import WikiDump.Proofs.WrittenCondition
import WikiDump.Query.Select
/-!
# A condition in a SELECT query

The query `SELECT * WHERE c op 'v'` states the condition of a column `c`, a comparison operator
`op` and a value text `v` in the SELECT form. The query is cut into seven tokens
(`lexes_select`); the grammar matches them as the field `*` and a WHERE expression of one
comparison (`run_select`); and the filter of the query compares the column with the text `v`
as written, whatever `v` spells (`filter_select`).
-/

namespace WikiDump

open Query

def ColumnName (c : String) : Prop :=
  identAt c.toList = some c.length ∧ CaseMap.upperText c ∉ keywords

namespace Query

/-! ## Cutting a query into tokens -/

def lexeme (cs : List Char) : Option (TokenKind × Nat × String) :=
  match keywordAt cs with
  | some (k, n) => some (.keyword, n, k)
  | none =>
    match identAt cs with
    | some n => some (.ident, n, "")
    | none =>
      match numberAt cs with
      | some n => some (.number, n, "")
      | none =>
        match stringAt cs with
        | some n => some (.string, n, "")
        | none =>
          match operatorAt cs with
          | some n => some (.operator, n, "")
          | none => (punctAt cs).map fun n => (.punct, n, "")

theorem tokenize_cons (c : Char) (rest : List Char) (pos gap : Position) (acc : Array Token) :
    tokenize (c :: rest) pos gap acc =
      if isBlank c then
        tokenize ((c :: rest).drop (1 + (rest.takeWhile isBlank).length))
          (pos.advance ((c :: rest).take (1 + (rest.takeWhile isBlank).length))) gap acc
      else
        match lexeme (c :: rest) with
        | none => .error ⟨pos, "invalid input text " ++ Quoted.ofString (sample (c :: rest))⟩
        | some (kind, n, keyword) =>
          match (if kind == .string then stringTokenText ((c :: rest).take n)
              else .ok (String.ofList ((c :: rest).take n)) : Except String String) with
          | .error m => .error ⟨pos, m⟩
          | .ok t =>
            if n = 0 then .ok acc
            else tokenize ((c :: rest).drop n) (pos.advance ((c :: rest).take n))
              (pos.advance ((c :: rest).take n)) (acc.push ⟨kind, t, pos, gap, keyword⟩) := by
  rw [tokenize]
  rfl

def Token.shape (t : Token) : TokenKind × String × String := (t.kind, t.text, t.keyword)

/-- Cutting `cs` into tokens appends tokens of these shapes, wherever in the query `cs`
starts. -/
def Lexes (cs : List Char) (shapes : List (TokenKind × String × String)) : Prop :=
  ∀ pos gap acc, (tokenize cs pos gap acc).map (fun toks => toks.toList.map Token.shape) =
    .ok (acc.toList.map Token.shape ++ shapes)

theorem lexes_nil : Lexes [] [(.eof, "", "")] := by
  intro pos gap acc
  rw [tokenize]
  simp [Except.map, Token.shape]

theorem lexes_space {rest : List Char} {shapes : List (TokenKind × String × String)}
    (next : ∀ c ∈ rest.head?, isBlank c = false) (lexes : Lexes rest shapes) :
    Lexes (' ' :: rest) shapes := by
  intro pos gap acc
  have single : rest.takeWhile isBlank = [] := by
    cases rest with
    | nil => rfl
    | cons c more => simp [next c rfl]
  rw [tokenize_cons, if_pos (by decide), single]
  exact lexes _ gap acc

theorem lexes_word {w rest : List Char} {kind : TokenKind} {keyword t : String}
    {shapes : List (TokenKind × String × String)} (nonempty : w ≠ [])
    (notBlank : ∀ c ∈ w.head?, isBlank c = false)
    (found : lexeme (w ++ rest) = some (kind, w.length, keyword))
    (text : (if kind == .string then stringTokenText w else .ok (String.ofList w) :
      Except String String) = .ok t)
    (lexes : Lexes rest shapes) : Lexes (w ++ rest) ((kind, t, keyword) :: shapes) := by
  obtain ⟨c, cs, rfl⟩ := List.exists_cons_of_ne_nil nonempty
  intro pos gap acc
  have taken : ((c :: cs) ++ rest).take (c :: cs).length = c :: cs := List.take_left
  have dropped : ((c :: cs) ++ rest).drop (c :: cs).length = rest := List.drop_left
  rw [List.cons_append] at found taken dropped
  rw [List.cons_append, tokenize_cons, if_neg (by simp [notBlank c rfl]), found]
  dsimp only
  rw [taken, text]
  dsimp only
  rw [if_neg (by simp), dropped]
  have next := lexes (pos.advance (c :: cs)) (pos.advance (c :: cs)) (acc.push ⟨kind, t, pos, gap, keyword⟩)
  rw [next]
  simp [Token.shape]

/-! ## The lexemes of the SELECT form -/

theorem keywords_capital : ∀ k ∈ keywords, k.toList ≠ [] ∧
    ∀ y ∈ k.toList, 65 ≤ y.toNat ∧ y.toNat ≤ 90 := by
  intro k member
  simp only [keywords, List.mem_cons, List.not_mem_nil, or_false] at member
  rcases member with rfl | rfl | rfl | rfl | rfl | rfl | rfl | rfl | rfl | rfl | rfl | rfl | rfl <;> simp

theorem toNat_toLower (x : Char) :
    x.toLower.toNat = if 65 ≤ x.toNat ∧ x.toNat ≤ 90 then x.toNat + 32 else x.toNat := by
  unfold Char.toLower
  split
  · rename_i capital
    have range : 65 ≤ x.toNat ∧ x.toNat ≤ 90 := by
      simp only [ge_iff_le, UInt32.le_iff_toNat_le] at capital
      exact capital
    rw [if_pos range]
    simp only [Char.toNat]
    simp [UInt32.toNat_add]
    omega
  · rename_i other
    have notCapital : ¬ (65 ≤ x.toNat ∧ x.toNat ≤ 90) := by
      simp only [ge_iff_le, UInt32.le_iff_toNat_le] at other
      exact other
    rw [if_neg notCapital]

theorem toUpper_of_foldsTo {x y : Char} (word : isWordChar x = true)
    (capital : 65 ≤ y.toNat ∧ y.toNat ≤ 90) (fold : foldsTo x y = true) : x.toUpper = y := by
  have small : x.toNat < 128 := (valueChar_toNat (valueChar_of_word word)).1
  have upper := toNat_toUpper x
  have lower := toNat_toLower y
  rw [if_pos capital] at lower
  simp only [foldsTo, Bool.or_eq_true, Bool.and_eq_true, decide_eq_true_eq] at fold
  apply Char.toNat_inj.1
  rcases fold with ((same | folded) | ⟨-, rfl⟩) | ⟨-, far⟩
  · subst same
    rw [upper, if_neg (by omega)]
  · subst folded
    rw [upper, if_pos (by omega), lower]
    omega
  · simp at small
  · omega

theorem foldsTo_space {y : Char} (capital : 65 ≤ y.toNat ∧ y.toNat ≤ 90) : foldsTo ' ' y = false := by
  have lower := toNat_toLower y
  rw [if_pos capital] at lower
  simp only [foldsTo, Bool.or_eq_false_iff, Bool.and_eq_false_iff, decide_eq_false_iff_not]
  refine ⟨⟨⟨fun same => ?_, fun same => ?_⟩, .inr (by decide)⟩, .inr (by simp)⟩
  · have := congrArg Char.toNat same
    simp at this
    omega
  · have := congrArg Char.toNat same
    simp at this
    omega

theorem map_toUpper_of_folds : ∀ (a b : List Char), a.length = b.length →
    (∀ y ∈ b, 65 ≤ y.toNat ∧ y.toNat ≤ 90) → (∀ x ∈ a, isWordChar x = true) →
    ((a.zip b).all fun p => foldsTo p.1 p.2) = true → a.map Char.toUpper = b
  | [], [], _, _, _, _ => rfl
  | x :: a, y :: b, lengths, capitals, words, folds => by
      simp only [List.zip_cons_cons, List.all_cons, Bool.and_eq_true] at folds
      rw [List.map_cons,
        toUpper_of_foldsTo (words x List.mem_cons_self) (capitals y List.mem_cons_self) folds.1,
        map_toUpper_of_folds a b (by simpa using lengths)
          (fun z member => capitals z (List.mem_cons_of_mem y member))
          (fun z member => words z (List.mem_cons_of_mem x member)) folds.2]

theorem folds_space : ∀ (a b r : List Char), a.length < b.length →
    (∀ y ∈ b, 65 ≤ y.toNat ∧ y.toNat ≤ 90) →
    (((a ++ ' ' :: r).zip b).all fun p => foldsTo p.1 p.2) = false
  | [], y :: b, r, _, capitals => by
      simp [foldsTo_space (capitals y List.mem_cons_self)]
  | x :: a, y :: b, r, lengths, capitals => by
      simp only [List.cons_append, List.zip_cons_cons, List.all_cons, Bool.and_eq_false_iff]
      exact .inr (folds_space a b r (by simpa using lengths)
        (fun z member => capitals z (List.mem_cons_of_mem y member)))

theorem column_chars {c : String} (column : ColumnName c) :
    ∃ x xs, c.toList = x :: xs ∧ (x.isAlpha || x = '_') = true ∧ ∀ y ∈ c.toList, isWordChar y = true := by
  obtain ⟨ident, -⟩ := column
  cases chars : c.toList with
  | nil => rw [chars] at ident; cases ident
  | cons x xs =>
      rw [chars] at ident
      simp only [identAt] at ident
      split at ident
      · rename_i first
        have length : (xs.takeWhile isWordChar).length = xs.length := by
          rw [← String.length_toList, chars, List.length_cons] at ident
          simp only [Option.some.injEq] at ident
          omega
        have whole : xs.takeWhile isWordChar = xs := (List.takeWhile_prefix isWordChar).eq_of_length length
        refine ⟨x, xs, rfl, first, fun y member => ?_⟩
        rcases List.mem_cons.1 member with rfl | later
        · simp only [isWordChar, Char.isAlphanum, Bool.or_eq_true] at first ⊢
          rcases first with alpha | underscore
          · exact .inl (.inl alpha)
          · exact .inr underscore
        · rw [← whole] at later
          exact List.all_eq_true.1 List.all_takeWhile y later
      · cases ident

theorem identAt_column {c : String} (column : ColumnName c) (rest : List Char) :
    identAt (c.toList ++ ' ' :: rest) = some c.length := by
  obtain ⟨x, xs, chars, first, words⟩ := column_chars column
  rw [chars, List.cons_append, identAt, if_pos first,
    List.takeWhile_append_of_pos (fun y member => words y (by rw [chars]; exact List.mem_cons_of_mem x member))]
  rw [← String.length_toList, chars]
  simp [isWordChar]
  omega

theorem keywordAt_column {c : String} (column : ColumnName c) (rest : List Char) :
    keywordAt (c.toList ++ ' ' :: rest) = none := by
  obtain ⟨x, xs, chars, first, words⟩ := column_chars column
  have xWord : isWordChar x = true := words x (by rw [chars]; exact List.mem_cons_self)
  have split : c.toList ++ ' ' :: rest = x :: (xs ++ ' ' :: rest) := by rw [chars, List.cons_append]
  rw [split, keywordAt, if_neg (by simp [xWord]), ← split, List.findSome?_eq_none_iff]
  intro k member
  obtain ⟨spelled, capitals⟩ := keywords_capital k member
  have filled : 0 < k.length := by
    rw [← String.length_toList]
    exact List.length_pos_iff.2 spelled
  dsimp only
  split
  · rename_i matched
    rcases Nat.lt_trichotomy k.length c.toList.length with shorter | same | longer
    · -- The keyword would end inside the column name.
      have taken : (c.toList ++ ' ' :: rest).take k.length = c.toList.take k.length :=
        List.take_append_of_le_length (by omega)
      have lastWord : ((c.toList.take k.length).getLast?.map isWordChar) = some true := by
        rw [List.getLast?_eq_getElem?, List.length_take, Nat.min_eq_left (by omega),
          List.getElem?_take, if_pos (by omega), List.getElem?_eq_getElem (by omega), Option.map_some,
          words _ (List.getElem_mem _)]
      have nextWord : (c.toList ++ ' ' :: rest)[k.length]? = some c.toList[k.length] := by
        rw [List.getElem?_append_left shorter, List.getElem?_eq_getElem shorter]
      rw [taken, nextWord]
      rcases lastTaken : (c.toList.take k.length).getLast? with _ | last
      · rw [lastTaken] at lastWord
        cases lastWord
      · rw [lastTaken] at lastWord
        simp only [Option.map_some, Option.some.injEq] at lastWord
        simp [lastWord, words _ (List.getElem_mem shorter)]
    · -- A keyword of the column name's length would be the column name.
      exfalso
      have taken : (c.toList ++ ' ' :: rest).take k.length = c.toList := by
        rw [same]
        exact List.take_left
      rw [taken] at matched
      have spelledOut := map_toUpper_of_folds c.toList k.toList
        (by simpa only [String.length_toList] using same.symm) capitals words matched.2
      apply column.2
      have upperCase : CaseMap.upperText c = k := by
        apply String.toList_inj.1
        rw [CaseMap.upperText, String.toList_map, ← spelledOut]
        apply List.map_congr_left
        intro y member
        rw [CaseMap.upper, if_pos (valueChar_toNat (valueChar_of_word (words y member))).1]
      rw [upperCase]
      exact member
    · -- The keyword would take the blank after the column name.
      exfalso
      obtain ⟨m, beyond⟩ : ∃ m, k.length = c.toList.length + 1 + m := ⟨k.length - c.toList.length - 1, by omega⟩
      have taken : (c.toList ++ ' ' :: rest).take k.length = c.toList ++ ' ' :: rest.take m := by
        rw [beyond, List.take_append, List.take_of_length_le (by omega),
          show c.toList.length + 1 + m - c.toList.length = m + 1 by omega, List.take_succ_cons]
      rw [taken, folds_space c.toList k.toList _ (by rw [String.length_toList]; exact longer)
        capitals] at matched
      simp at matched
  · rfl

theorem isBlank_of_word {x : Char} (word : isWordChar x = true) : isBlank x = false := by
  cases blank : isBlank x
  · rfl
  · simp only [isBlank, Bool.or_eq_true, decide_eq_true_eq] at blank
    rcases blank with (((rfl | rfl) | rfl) | rfl) | rfl <;> exact absurd word (by decide)

theorem lexeme_column {c : String} (column : ColumnName c) (rest : List Char) :
    lexeme (c.toList ++ ' ' :: rest) = some (.ident, c.length, "") := by
  rw [lexeme, keywordAt_column column, identAt_column column]

theorem unescape_plain {q : Char} : ∀ (cs out : List Char), (∀ x ∈ cs, x ≠ q ∧ x ≠ '\\') →
    unescape q cs out = some (String.ofList (out.reverse ++ cs))
  | [], out, _ => by rw [unescape.eq_def, List.append_nil]
  | x :: rest, out, plain => by
      obtain ⟨notQuote, notEscape⟩ := plain x List.mem_cons_self
      rw [unescape.eq_def]
      dsimp only
      rw [if_neg notQuote, if_pos notEscape,
        unescape_plain rest (x :: out) (fun y member => plain y (List.mem_cons_of_mem x member))]
      simp

theorem lexeme_quoted {v : List Char} (plain : ∀ x ∈ v, x ≠ '\'') (rest : List Char) :
    lexeme (('\'' :: v ++ ['\'']) ++ rest) = some (.string, v.length + 2, "") := by
  have inner : ((v ++ '\'' :: rest).takeWhile fun x => !decide (x = '\'')) = v := by
    rw [List.takeWhile_append_of_pos (by simpa using plain)]
    simp
  simp [lexeme, keywordAt, identAt, numberAt, stringAt, isWordChar, inner]

theorem stringTokenText_quoted {v : List Char} (plain : ∀ x ∈ v, x ≠ '\'' ∧ x ≠ '\\') :
    stringTokenText ('\'' :: v ++ ['\'']) = .ok (String.ofList v) := by
  rw [List.cons_append, stringTokenText, List.dropLast_concat, unescape_plain v [] plain]
  rfl

theorem lexeme_operator {op : String} (hop : op ∈ comparisonOperators) (rest : List Char) :
    lexeme (op.toList ++ ' ' :: rest) = some (.operator, op.length, "") := by
  simp only [comparisonOperators, List.mem_cons, List.not_mem_nil, or_false] at hop
  rcases hop with rfl | rfl | rfl | rfl | rfl | rfl <;>
    simp [lexeme, keywordAt, identAt, numberAt, stringAt, operatorAt, isWordChar, ← String.length_toList]

theorem lexeme_select (rest : List Char) :
    lexeme (['S', 'E', 'L', 'E', 'C', 'T'] ++ ' ' :: rest) = some (.keyword, 6, "SELECT") := by
  rfl

theorem lexeme_where (rest : List Char) :
    lexeme (['W', 'H', 'E', 'R', 'E'] ++ ' ' :: rest) = some (.keyword, 5, "WHERE") := by
  rfl

theorem lexeme_star (rest : List Char) : lexeme (['*'] ++ ' ' :: rest) = some (.punct, 1, "") := by
  simp [lexeme, keywordAt, identAt, numberAt, stringAt, operatorAt, punctAt, isWordChar]

/-- The tokens of `SELECT * WHERE c op 'v'`. -/
theorem lexes_select {c op v : String} (column : ColumnName c) (hop : op ∈ comparisonOperators)
    (hv : ValueText v) :
    Lexes ("SELECT * WHERE " ++ c ++ " " ++ op ++ " '" ++ v ++ "'").toList
      [(.keyword, "SELECT", "SELECT"), (.punct, "*", ""), (.keyword, "WHERE", "WHERE"), (.ident, c, ""),
        (.operator, op, ""), (.string, v, ""), (.eof, "", "")] := by
  have plain : ∀ x ∈ v.toList, x ≠ '\'' ∧ x ≠ '\\' := by
    intro x member
    have value := hv.2 x member
    constructor <;> (rintro rfl; simp [valueChar] at value)
  -- Neither the column name nor the operator starts with a blank.
  obtain ⟨x, xs, chars, -, words⟩ := column_chars column
  have columnHead : isBlank x = false := isBlank_of_word (words x (by rw [chars]; exact List.mem_cons_self))
  obtain ⟨opFilled, opChars⟩ := operators_bare op hop
  obtain ⟨o, os, opList⟩ := List.exists_cons_of_ne_nil opFilled
  have opHead : isBlank o = false := by
    have opChar := (opChars o (by rw [opList]; exact List.mem_cons_self)).2
    simp only [operatorChar, Bool.or_eq_true, decide_eq_true_eq] at opChar
    rcases opChar with (((rfl | rfl) | rfl) | rfl) | rfl <;> decide
  have text : ("SELECT * WHERE " ++ c ++ " " ++ op ++ " '" ++ v ++ "'").toList =
      ['S', 'E', 'L', 'E', 'C', 'T'] ++ ' ' :: (['*'] ++ ' ' :: (['W', 'H', 'E', 'R', 'E'] ++ ' ' ::
        (c.toList ++ ' ' :: (op.toList ++ ' ' :: (('\'' :: v.toList ++ ['\'']) ++ []))))) := by
    simp
  rw [text]
  refine lexes_word (by simp) (by simp [isBlank]) (lexeme_select _) (by simp)
    (lexes_space (by simp [isBlank]) ?_)
  refine lexes_word (by simp) (by simp [isBlank]) (lexeme_star _) (by simp)
    (lexes_space (by simp [isBlank]) ?_)
  refine lexes_word (by simp) (by simp [isBlank]) (lexeme_where _) (by simp)
    (lexes_space (by simp [chars, columnHead]) ?_)
  refine lexes_word (by simp [chars]) (by simp [chars, columnHead])
    (by rw [lexeme_column column, String.length_toList]) (by simp)
    (lexes_space (by simp [opList, opHead]) ?_)
  refine lexes_word opFilled (by simp [opList, opHead]) (by rw [lexeme_operator hop, String.length_toList])
    (by simp)
    (lexes_space (by simp [isBlank]) ?_)
  refine lexes_word (by simp) (by simp [isBlank])
    (by rw [lexeme_quoted (fun y member => (plain y member).1)]; simp) ?_ lexes_nil
  simp only [TokenKind.beq_eq, decide_true, if_true]
  rw [stringTokenText_quoted plain, String.ofList_toList]

theorem tokens_select {c op v : String} (column : ColumnName c) (hop : op ∈ comparisonOperators)
    (hv : ValueText v) :
    ∃ toks, tokens ("SELECT * WHERE " ++ c ++ " " ++ op ++ " '" ++ v ++ "'") = .ok toks ∧
      toks.toList.map Token.shape =
        [(.keyword, "SELECT", "SELECT"), (.punct, "*", ""), (.keyword, "WHERE", "WHERE"), (.ident, c, ""),
          (.operator, op, ""), (.string, v, ""), (.eof, "", "")] := by
  have lexed := lexes_select column hop hv {} {} #[]
  unfold tokens
  rcases lexing : tokenize ("SELECT * WHERE " ++ c ++ " " ++ op ++ " '" ++ v ++ "'").toList {} {} #[]
    with e | toks
  · rw [lexing] at lexed
    cases lexed
  · rw [lexing] at lexed
    exact ⟨toks, rfl, by simpa [Except.map] using lexed⟩

theorem shape_tokenAt {toks : Array Token} {shapes : List (TokenKind × String × String)}
    (listed : toks.toList.map Token.shape = shapes) {i : Nat} (inside : i < shapes.length) :
    (tokenAt toks i).shape = shapes[i] := by
  have size : i < toks.size := by
    rw [← listed, List.length_map, Array.length_toList] at inside
    exact inside
  simp only [← listed, tokenAt, Array.getElem?_eq_getElem size, List.getElem_map, Array.getElem_toList]

theorem matchesLiteral_of_shape {t : Token} {kind : TokenKind} {text keyword : String}
    (shape : t.shape = (kind, text, keyword)) (literal : String) :
    t.matchesLiteral literal = (kind != .eof && (text == literal || (kind == .keyword && keyword == literal))) := by
  simp only [Token.shape, Prod.mk.injEq] at shape
  obtain ⟨rfl, rfl, rfl⟩ := shape
  rfl

/-! ## Matching the tokens -/

def pathItem (t : Token) : Item :=
  .node "ASTOperand" [.captured "value" [.node "ASTValue" [.captured "parts" [.token t]]]]

def textItem (t : Token) : Item :=
  .node "ASTOperand" [.captured "literal" [.node "ASTLiteral" [.captured "string" [.token t]]]]

def conditionItem (fields : List Item) : Item :=
  .node "ASTExpression" [.captured "or" [.node "ASTOrCondition" [.captured "and"
    [.node "ASTCondition" [.captured "simple" [.node "ASTSimpleCondition" fields]]]]]]

def selectItem (field filter : List Item) : Item :=
  .node "ASTSelect" [.captured "fields" [.node "ASTSelectField" [.captured "expr" [conditionItem field]]],
    .captured "where" [conditionItem filter]]

section Operands

variable {toks : Array Token} {fuel q : Nat}

theorem operand_text (text : (tokenAt toks q).kind = .string) :
    selectGrammar.parseAt toks (fuel + 8) (.rule "ASTOperand") q =
      (q + 1, .ok (some [textItem (tokenAt toks q)])) := by
  simp [Grammar.parseAt, Grammar.find?, selectGrammar, seqAt, altAt, conformError, fieldTokens,
    List.filter_cons, Item.isCapture, text, textItem]

theorem operand_star (star : (tokenAt toks q).kind = .punct ∧ (tokenAt toks q).text = "*")
    (notDot : (tokenAt toks (q + 1)).matchesLiteral "." = false) :
    selectGrammar.parseAt toks (fuel + 8) (.rule "ASTOperand") q =
      (q + 1, .ok (some [pathItem (tokenAt toks q)])) := by
  have literal : ∀ w, (tokenAt toks q).matchesLiteral w = ("*" == w) := by
    intro w
    simp [Token.matchesLiteral, star]
  simp [Grammar.parseAt, Grammar.find?, selectGrammar, seqAt, altAt, repeatAt, conformError,
    List.filter_cons, Item.isCapture, literal, star, notDot, pathItem]

theorem operand_path (ident : (tokenAt toks q).kind = .ident)
    (notLiteral : ∀ w ∈ ["TRUE", "FALSE", "NULL"], (tokenAt toks q).matchesLiteral w = false)
    (notCall : (tokenAt toks (q + 1)).matchesLiteral "(" = false)
    (notDot : (tokenAt toks (q + 1)).matchesLiteral "." = false) :
    selectGrammar.parseAt toks (fuel + 8) (.rule "ASTOperand") q =
      (q + 1, .ok (some [pathItem (tokenAt toks q)])) := by
  simp only [List.mem_cons, List.not_mem_nil, or_false, forall_eq_or_imp, forall_eq] at notLiteral
  obtain ⟨notTrue, notFalse, notNull⟩ := notLiteral
  simp [Grammar.parseAt, Grammar.find?, selectGrammar, seqAt, altAt, repeatAt, conformError,
    List.filter_cons, Item.isCapture, ident, notTrue, notFalse, notNull, notCall, notDot, pathItem]

end Operands

section Rules

/-! Each lemma evaluates one rule, for any grammar that has it, from what the rules it calls
match. -/

variable {g : Grammar} {toks : Array Token} {fuel q q' : Nat}

def comparisonLiterals : List String := ["=", "!=", ">", "<", ">=", "<=", "~=", "CONTAINS"]

theorem parseAt_list_single (name field sep : String) {sub : String} {x : Item}
    (found : g.find? name = some ⟨name, .seq [.capture field (.rule sub),
      .many (.seq [.literal sep, .capture field (.rule sub)])], [], []⟩)
    (first : g.parseAt toks (fuel + 2) (.rule sub) q = (q', .ok (some [x])))
    (stop : (tokenAt toks q').matchesLiteral sep = false) :
    g.parseAt toks (fuel + 5) (.rule name) q = (q', .ok (some [.node name [.captured field [x]]])) := by
  rw [Grammar.parseAt_rule, found]
  simp only [Grammar.parseAt_seq, seqAt, Grammar.parseAt_capture, first, Grammar.parseAt_many, repeatAt,
    Grammar.parseAt_literal, stop]
  simp [conformError, Item.isCapture]

theorem simple_compare {o w : Item} {op : String} (hop : op ∈ comparisonOperators)
    (found : g.find? "ASTSimpleCondition" = some ⟨"ASTSimpleCondition",
      .seq [.capture "operand" (.rule "ASTOperand"), .optional (.seq [
        .capture "op" (.alt (comparisonLiterals.map .literal)), .capture "value" (.rule "ASTOperand")])], [], []⟩)
    (operand : g.parseAt toks (fuel + 4) (.rule "ASTOperand") q = (q + 1, .ok (some [o])))
    (opToken : (tokenAt toks (q + 1)).kind = .operator ∧ (tokenAt toks (q + 1)).text = op)
    (value : g.parseAt toks (fuel + 2) (.rule "ASTOperand") (q + 2) = (q + 3, .ok (some [w]))) :
    g.parseAt toks (fuel + 7) (.rule "ASTSimpleCondition") q =
      (q + 3, .ok (some [.node "ASTSimpleCondition"
        [.captured "operand" [o], .captured "op" [.token (tokenAt toks (q + 1))], .captured "value" [w]]])) := by
  have literal : ∀ x, (tokenAt toks (q + 1)).matchesLiteral x = (op == x) := by
    intro x
    simp [Token.matchesLiteral, opToken]
  rw [Grammar.parseAt_rule, found]
  -- The operator token matches the first literal of its own text.
  simp only [comparisonOperators, List.mem_cons, List.not_mem_nil, or_false] at hop
  rcases hop with rfl | rfl | rfl | rfl | rfl | rfl <;>
    simp [comparisonLiterals, Grammar.parseAt_seq, seqAt, Grammar.parseAt_capture, operand,
      Grammar.parseAt_optional, repeatAt, Grammar.parseAt_alt, altAt, Grammar.parseAt_literal, literal,
      value, conformError, Item.isCapture]

theorem simple_bare {o : Item}
    (found : g.find? "ASTSimpleCondition" = some ⟨"ASTSimpleCondition",
      .seq [.capture "operand" (.rule "ASTOperand"), .optional (.seq [
        .capture "op" (.alt (comparisonLiterals.map .literal)), .capture "value" (.rule "ASTOperand")])], [], []⟩)
    (operand : g.parseAt toks (fuel + 4) (.rule "ASTOperand") q = (q', .ok (some [o])))
    (noOperator : ∀ x ∈ comparisonLiterals, (tokenAt toks q').matchesLiteral x = false) :
    g.parseAt toks (fuel + 7) (.rule "ASTSimpleCondition") q =
      (q', .ok (some [.node "ASTSimpleCondition" [.captured "operand" [o]]])) := by
  simp only [comparisonLiterals, List.mem_cons, List.not_mem_nil, or_false, forall_eq_or_imp,
    forall_eq] at noOperator
  rw [Grammar.parseAt_rule, found]
  simp [comparisonLiterals, Grammar.parseAt_seq, seqAt, Grammar.parseAt_capture, operand,
      Grammar.parseAt_optional, repeatAt, Grammar.parseAt_alt, altAt, Grammar.parseAt_literal, noOperator,
      conformError, Item.isCapture]

theorem condition_simple {s : Item}
    (found : g.find? "ASTCondition" = some ⟨"ASTCondition",
      .alt [.seq [.literal "(", .capture "grouped" (.rule "ASTExpression"), .literal ")"],
        .capture "simple" (.rule "ASTSimpleCondition")], [], []⟩)
    (notGroup : (tokenAt toks q).matchesLiteral "(" = false)
    (simple : g.parseAt toks (fuel + 1) (.rule "ASTSimpleCondition") q = (q', .ok (some [s]))) :
    g.parseAt toks (fuel + 4) (.rule "ASTCondition") q =
      (q', .ok (some [.node "ASTCondition" [.captured "simple" [s]]])) := by
  rw [Grammar.parseAt_rule, found]
  simp [Grammar.parseAt_seq, seqAt, Grammar.parseAt_capture, simple, Grammar.parseAt_alt, altAt,
    Grammar.parseAt_literal, notGroup, conformError, Item.isCapture]

theorem field_single {x : Item}
    (found : g.find? "ASTSelectField" = some ⟨"ASTSelectField",
      .seq [.capture "expr" (.rule "ASTExpression"),
        .optional (.seq [.literal "AS", .capture "alias" (.token .ident)])], [], []⟩)
    (expr : g.parseAt toks (fuel + 2) (.rule "ASTExpression") q = (q', .ok (some [x])))
    (noAlias : (tokenAt toks q').matchesLiteral "AS" = false) :
    g.parseAt toks (fuel + 5) (.rule "ASTSelectField") q =
      (q', .ok (some [.node "ASTSelectField" [.captured "expr" [x]]])) := by
  rw [Grammar.parseAt_rule, found]
  simp [Grammar.parseAt_seq, seqAt, Grammar.parseAt_capture, expr, Grammar.parseAt_optional, repeatAt,
    Grammar.parseAt_literal, noAlias, conformError, Item.isCapture]

theorem select_where {f e : Item} {q₁ q₂ : Nat}
    (found : g.find? "ASTSelect" = some ⟨"ASTSelect",
      .seq [.literal "SELECT", .capture "fields" (.rule "ASTSelectField"),
        .many (.seq [.literal ",", .capture "fields" (.rule "ASTSelectField")]),
        .optional (.seq [.literal "FROM", .capture "from" (.rule "ASTFromClause")]),
        .optional (.seq [.literal "WHERE", .capture "where" (.rule "ASTExpression")]),
        .optional (.seq [.literal "GROUP", .literal "BY", .capture "groupBy" (.rule "ASTValue")]),
        .optional (.seq [.literal "LIMIT", .capture "limit" (.token .number)])], [], ["limit"]⟩)
    (select : (tokenAt toks q).matchesLiteral "SELECT" = true)
    (field : g.parseAt toks (fuel + 2) (.rule "ASTSelectField") (q + 1) = (q₁, .ok (some [f])))
    (noMore : ∀ x ∈ [",", "FROM"], (tokenAt toks q₁).matchesLiteral x = false)
    (filter : (tokenAt toks q₁).matchesLiteral "WHERE" = true)
    (expr : g.parseAt toks fuel (.rule "ASTExpression") (q₁ + 1) = (q₂, .ok (some [e])))
    (noTail : ∀ x ∈ ["GROUP", "LIMIT"], (tokenAt toks q₂).matchesLiteral x = false) :
    g.parseAt toks (fuel + 5) (.rule "ASTSelect") q =
      (q₂, .ok (some [.node "ASTSelect" [.captured "fields" [f], .captured "where" [e]]])) := by
  simp only [List.mem_cons, List.not_mem_nil, or_false, forall_eq_or_imp, forall_eq] at noMore noTail
  rw [Grammar.parseAt_rule, found]
  simp [Grammar.parseAt_seq, seqAt, Grammar.parseAt_capture, field, expr, Grammar.parseAt_optional,
    Grammar.parseAt_many, repeatAt, Grammar.parseAt_literal, select, noMore, filter, noTail, conformError,
    fieldTokens, List.filter_cons, Item.isCapture]

end Rules

/-! ## The SELECT form -/

theorem upperText_keyword {k : String} (member : k ∈ keywords) : CaseMap.upperText k = k := by
  obtain ⟨-, capitals⟩ := keywords_capital k member
  apply String.toList_inj.1
  rw [CaseMap.upperText, String.toList_map]
  calc k.toList.map CaseMap.upper = k.toList.map id := by
        apply List.map_congr_left
        intro y member
        have capital := capitals y member
        rw [CaseMap.upper, if_pos (by omega), id]
        apply Char.toNat_inj.1
        rw [toNat_toUpper, if_neg (by omega)]
    _ = k.toList := List.map_id _

theorem column_ne {c : String} (column : ColumnName c) : ∀ w ∈ ["TRUE", "FALSE", "NULL", "("], c ≠ w := by
  -- The words are keywords, which no column name spells; a bracket starts no identifier.
  have keyword : ∀ k ∈ keywords, c ≠ k := by
    rintro k member rfl
    exact column.2 (by rw [upperText_keyword member]; exact member)
  intro w member
  simp only [List.mem_cons, List.not_mem_nil, or_false] at member
  rcases member with rfl | rfl | rfl | rfl
  · exact keyword _ (by simp [keywords])
  · exact keyword _ (by simp [keywords])
  · exact keyword _ (by simp [keywords])
  · rintro rfl
    have ident := column.1
    simp [identAt] at ident

theorem shape_eq_iff {t : Token} {kind : TokenKind} {text keyword : String} :
    t.shape = (kind, text, keyword) ↔ t.kind = kind ∧ t.text = text ∧ t.keyword = keyword := by
  simp [Token.shape]

/-- The tokens of `SELECT * WHERE c op 'v'` match as the field `*` and a WHERE expression of
one comparison. -/
theorem run_select {toks : Array Token} {c op v : String} (column : ColumnName c)
    (hop : op ∈ comparisonOperators)
    (listed : toks.toList.map Token.shape =
      [(.keyword, "SELECT", "SELECT"), (.punct, "*", ""), (.keyword, "WHERE", "WHERE"), (.ident, c, ""),
        (.operator, op, ""), (.string, v, ""), (.eof, "", "")]) :
    selectGrammar.run "ASTSelect" toks = .ok (selectItem [.captured "operand" [pathItem (tokenAt toks 1)]]
      [.captured "operand" [pathItem (tokenAt toks 3)], .captured "op" [.token (tokenAt toks 4)],
        .captured "value" [textItem (tokenAt toks 5)]]) := by
  have size : toks.size = 7 := by simpa using congrArg List.length listed
  have s0 : (tokenAt toks 0).shape = (.keyword, "SELECT", "SELECT") := shape_tokenAt listed (i := 0) (by simp)
  have s1 : (tokenAt toks 1).shape = (.punct, "*", "") := shape_tokenAt listed (i := 1) (by simp)
  have s2 : (tokenAt toks 2).shape = (.keyword, "WHERE", "WHERE") := shape_tokenAt listed (i := 2) (by simp)
  have s3 : (tokenAt toks 3).shape = (.ident, c, "") := shape_tokenAt listed (i := 3) (by simp)
  have s4 : (tokenAt toks 4).shape = (.operator, op, "") := shape_tokenAt listed (i := 4) (by simp)
  have s5 : (tokenAt toks 5).shape = (.string, v, "") := shape_tokenAt listed (i := 5) (by simp)
  have s6 : (tokenAt toks 6).shape = (.eof, "", "") := shape_tokenAt listed (i := 6) (by simp)
  have columnText := column_ne column
  simp only [List.mem_cons, List.not_mem_nil, or_false, forall_eq_or_imp, forall_eq] at columnText
  have opText : op ≠ "(" ∧ op ≠ "." := by
    simp only [comparisonOperators, List.mem_cons, List.not_mem_nil, or_false] at hop
    rcases hop with rfl | rfl | rfl | rfl | rfl | rfl <;> simp
  -- The field `*`: an expression of one bare operand, ended by WHERE.
  have field : ∀ n, selectGrammar.parseAt toks (n + 23) (.rule "ASTSelectField") 1 =
      (2, .ok (some [.node "ASTSelectField"
        [.captured "expr" [conditionItem [.captured "operand" [pathItem (tokenAt toks 1)]]]]])) := by
    intro n
    have star : selectGrammar.parseAt toks (n + 8) (.rule "ASTOperand") 1 =
        (1 + 1, .ok (some [pathItem (tokenAt toks 1)])) :=
      operand_star ⟨(shape_eq_iff.1 s1).1, (shape_eq_iff.1 s1).2.1⟩ (by simp [matchesLiteral_of_shape s2])
    have bare := simple_bare (by simp [Grammar.find?, selectGrammar, comparisonLiterals]) star
      (by simp [comparisonLiterals, matchesLiteral_of_shape s2])
    have condition := condition_simple (by simp [Grammar.find?, selectGrammar])
      (by simp [matchesLiteral_of_shape s1]) bare
    have conjunction := parseAt_list_single "ASTOrCondition" "and" "AND"
      (by simp [Grammar.find?, selectGrammar])
      condition (by simp [matchesLiteral_of_shape s2])
    have disjunction := parseAt_list_single "ASTExpression" "or" "OR"
      (by simp [Grammar.find?, selectGrammar])
      conjunction (by simp [matchesLiteral_of_shape s2])
    exact field_single (by simp [Grammar.find?, selectGrammar]) disjunction
      (by simp [matchesLiteral_of_shape s2])
  -- The WHERE expression: the column, the operator and the quoted value, ended by the end token.
  have filter : ∀ n, selectGrammar.parseAt toks (n + 22) (.rule "ASTExpression") 3 =
      (6, .ok (some [conditionItem [.captured "operand" [pathItem (tokenAt toks 3)],
        .captured "op" [.token (tokenAt toks 4)], .captured "value" [textItem (tokenAt toks 5)]]])) := by
    intro n
    have path : selectGrammar.parseAt toks (n + 10) (.rule "ASTOperand") 3 =
        (3 + 1, .ok (some [pathItem (tokenAt toks 3)])) :=
      operand_path (shape_eq_iff.1 s3).1 (by simp [matchesLiteral_of_shape s3, columnText])
        (by simp [matchesLiteral_of_shape s4, opText]) (by simp [matchesLiteral_of_shape s4, opText])
    have value : selectGrammar.parseAt toks (n + 8) (.rule "ASTOperand") (3 + 2) =
        (3 + 3, .ok (some [textItem (tokenAt toks 5)])) :=
      operand_text (shape_eq_iff.1 s5).1
    have compare := simple_compare hop (by simp [Grammar.find?, selectGrammar, comparisonLiterals]) path
      ⟨(shape_eq_iff.1 s4).1, (shape_eq_iff.1 s4).2.1⟩ value
    have condition := condition_simple (by simp [Grammar.find?, selectGrammar])
      (by simp [matchesLiteral_of_shape s3, columnText]) compare
    have conjunction := parseAt_list_single "ASTOrCondition" "and" "AND"
      (by simp [Grammar.find?, selectGrammar]) condition (by simp [matchesLiteral_of_shape s6])
    exact parseAt_list_single "ASTExpression" "or" "OR" (by simp [Grammar.find?, selectGrammar]) conjunction
      (by simp [matchesLiteral_of_shape s6])
  -- The fuel `run` gives is ample.
  have total : (toks.size + 1) * (selectGrammar.rules.length + 1) * 16 = 1509 + 27 := by
    rw [size]
    rfl
  refine run_of_parseAt (q := 6) ?_ (shape_eq_iff.1 s6).1
  rw [total]
  exact select_where (by simp [Grammar.find?, selectGrammar]) (by simp [matchesLiteral_of_shape s0]) (field _)
    (by simp [matchesLiteral_of_shape s2]) (by simp [matchesLiteral_of_shape s2]) (filter _)
    (by simp [matchesLiteral_of_shape s6])

/-! ## Reading the matched query -/

section Reading

variable (n : Nat)

theorem Operand.ofItem_path (t : Token) : Operand.ofItem (n + 1) (pathItem t) = .path [t.text] := by
  simp [pathItem, Operand.ofItem, filedNodes, filedTexts, Item.filed, Item.captures]

theorem Operand.ofItem_text (t : Token) :
    Operand.ofItem (n + 1) (textItem t) = .literal (.string t.text) := by
  simp [textItem, Operand.ofItem, filedNodes, Item.filed, Item.captures, Literal.ofCaptures,
    Item.firstToken?]

theorem Condition.ofItem_compare (column op value : Token) :
    Condition.ofItem (n + 2) (.node "ASTCondition" [.captured "simple" [.node "ASTSimpleCondition"
      [.captured "operand" [pathItem column], .captured "op" [.token op],
        .captured "value" [textItem value]]]]) =
      .compare (.path [column.text]) op.text (.literal (.string value.text)) := by
  simp only [Condition.ofItem, filedNodes, Item.filed, Item.captures, pathItem, textItem,
    List.flatMap_cons, String.reduceEq, ↓reduceIte, List.flatMap_nil, List.append_nil,
    List.filter_nil, List.head?_nil, List.filter_cons_of_pos, List.head?_cons, Item.firstToken?,
    List.nil_append, Option.isSome_some, List.findSome?_cons_of_isSome, Option.map_some,
    Option.getD_some, Condition.compare.injEq, true_and]
  exact ⟨Operand.ofItem_path n column, Operand.ofItem_text n value⟩

theorem Disjunction.ofItem_condition (fields : List Item) :
    Disjunction.ofItem (n + 2) (conditionItem fields) =
      .mk (.mk (Condition.ofItem n (.node "ASTCondition" [.captured "simple"
        [.node "ASTSimpleCondition" fields]])) []) [] := by
  simp [conditionItem, Disjunction.ofItem, Conjunction.ofItem, filedNodes, Item.filed,
    Item.captures, firstRest?]

theorem SelectSyntax.toQuery_filter_ofItem (field filter : List Item) :
    (SelectSyntax.ofItem (n + 1) (selectItem field filter)).toQuery.filter =
      some (Disjunction.ofItem n (conditionItem filter)).toExpression := by
  simp [selectItem, conditionItem, SelectSyntax.ofItem, SelectSyntax.toQuery, SelectQuery.filter,
    filedNodes, Item.filed, Item.captures]

end Reading

theorem filter_ofItem (field : List Item) (column op value : Token) :
    let item := selectItem field [.captured "operand" [pathItem column], .captured "op" [.token op],
      .captured "value" [textItem value]]
    (SelectSyntax.ofItem item.weight item).toQuery.filter =
      some (.condition (Filter.make column.text op.text (.str value.text))) := by
  intro item
  -- The weight is the fuel of the reading; it suffices that it covers the five levels of rules.
  obtain ⟨n, weight⟩ : ∃ n, item.weight = n + 5 :=
    ⟨item.weight - 5, by simp [item, selectItem, conditionItem, Item.weight, Item.weightList]; omega⟩
  rw [weight, SelectSyntax.toQuery_filter_ofItem, Disjunction.ofItem_condition,
    Condition.ofItem_compare]
  simp [Disjunction.toExpression, Conjunction.toExpression, Conjunction.joinOr, Condition.joinAnd,
    Condition.toExpression, Operand.render, Operand.toValue, Literal.value]

/-- The WHERE of `SELECT * WHERE c op 'v'` compares the column `c` by `op` with the text `v`, as
written. -/
theorem filter_select {c op v : String} (column : ColumnName c) (hop : op ∈ comparisonOperators)
    (hv : ValueText v) :
    (SelectQuery.parse ("SELECT * WHERE " ++ c ++ " " ++ op ++ " '" ++ v ++ "'")).map SelectQuery.filter =
      .ok (some (.condition (Filter.make c op (.str v)))) := by
  obtain ⟨toks, lexed, listed⟩ := tokens_select column hop hv
  have trimmed : Space.trim ("SELECT * WHERE " ++ c ++ " " ++ op ++ " '" ++ v ++ "'") =
      "SELECT * WHERE " ++ c ++ " " ++ op ++ " '" ++ v ++ "'" := by
    rw [Space.trim, trimChars_of_ends (by simp [Space.isSpace])
      (by simp [Space.isSpace, List.getLast?_cons, List.getLast?_append]),
      String.ofList_toList]
  have filled : ("SELECT * WHERE " ++ c ++ " " ++ op ++ " '" ++ v ++ "'").isEmpty = false := by
    rw [Bool.eq_false_iff, ne_eq, String.isEmpty_iff]
    intro empty
    have length := congrArg String.length empty
    simp [← String.length_toList] at length
  have column3 : (tokenAt toks 3).text = c := (shape_eq_iff.1 (shape_tokenAt listed (i := 3) (by simp))).2.1
  have op4 : (tokenAt toks 4).text = op := (shape_eq_iff.1 (shape_tokenAt listed (i := 4) (by simp))).2.1
  have value5 : (tokenAt toks 5).text = v := (shape_eq_iff.1 (shape_tokenAt listed (i := 5) (by simp))).2.1
  have read := filter_ofItem [.captured "operand" [pathItem (tokenAt toks 1)]] (tokenAt toks 3) (tokenAt toks 4)
    (tokenAt toks 5)
  rw [column3, op4, value5] at read
  simp only [SelectQuery.parse, trimmed, filled, SelectSyntax.parse, lexed, run_select column hop listed]
  simp [Except.map, read]

end Query

end WikiDump

