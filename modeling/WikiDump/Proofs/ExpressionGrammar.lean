import WikiDump.Proofs.ExpressionScan
/-!
# Written expressions read as their grammar says

The grammar of written expressions is `E ::= T (OR T)*`, `T ::= F (AND F)*` and
`F ::= (E) | C`. The joining words may be written in any letter case, with one blank on each
side. Each leaf `C` is an ASCII comparison with no parentheses, with its quotes closed, and with
no joining word outside quotes, even with a blank added on each side. `Written.Expr`,
`Written.Term` and `Written.Factor` are the trees of this grammar, chained from the left. Each
tree carries the conditions on its leaves and words, so only grammatical texts can be built;
`render` writes a tree out.

Reading the text of a tree gives the tree's expression, with `AND` binding tighter than `OR` and
both joined from the left (`Written.Expr.readExpression_render`). The text splits at exactly
the tree's words (`Written.Expr.splitOr`, `Written.Term.splitAnd`), each piece is the text of a
subtree, and a group's text is read without its parentheses. Together with the ASCII reading
that never faults this is `Written.written_expressions_read`.

The two conditions on leaves are needed. A leaf that starts with `OR ` joins the word before it
to a joining word: `a=1 AND OR b=2` is cut at ` OR `. A leaf whose uppercase form is shorter than
the leaf moves the search for the joining words off the text, and reading faults
(`Written.uppercase_drift_faults`).
-/

namespace WikiDump

namespace Query

namespace Written

open Bytes Script

def freeOf (op bs : List UInt8) : Bool := quiet op (none, 0) (0x20 :: bs) [0x20]

/-- A comparison standing as a leaf of a written expression. -/
structure Leaf where
  text : String
  ascii : ∀ c ∈ text.toList, c.toNat < 128
  ungrouped : ∀ c ∈ text.toList, c ≠ '(' ∧ c ≠ ')'
  first : ∀ c ∈ text.toList.head?, Space.isSpace c = false
  last : ∀ c ∈ text.toList.getLast?, Space.isSpace c = false
  closed : scanFrom (none, 0) (word text) = (none, 0)
  noOr : freeOf (word " OR ") (word text) = true
  noAnd : freeOf (word " AND ") (word text) = true
  parses : (Comparison.parse? text).isSome = true

/-- A joining word as written: `spelling` in any letter case. -/
structure Word (spelling : String) where
  text : String
  reads : text.toUpper = spelling

mutual

/-- `F ::= (E) | C`. -/
inductive Factor where
  | leaf (c : Leaf)
  | group (e : Expr)

/-- `T ::= F (AND F)*`, chained from the left. -/
inductive Term where
  | single (f : Factor)
  | and (t : Term) (w : Word "AND") (f : Factor)

/-- `E ::= T (OR T)*`, chained from the left. -/
inductive Expr where
  | single (t : Term)
  | or (e : Expr) (w : Word "OR") (t : Term)

end

mutual

def Factor.render : Factor → String
  | .leaf c => c.text
  | .group e => "(" ++ e.render ++ ")"

def Term.render : Term → String
  | .single f => f.render
  | .and t w f => t.render ++ " " ++ w.text ++ " " ++ f.render

def Expr.render : Expr → String
  | .single t => t.render
  | .or e w t => e.render ++ " " ++ w.text ++ " " ++ t.render

end

/-- The condition a leaf stands for: its comparison, with the value typed as `typedLiteral`
types it. -/
def Leaf.condition (c : Leaf) : Expression :=
  let cmp := (Comparison.parse? c.text).get c.parses
  .condition (Filter.make cmp.field cmp.operator (typedLiteral cmp.value))

mutual

def Factor.meaning : Factor → Expression
  | .leaf c => c.condition
  | .group e => e.meaning

def Term.meaning : Term → Expression
  | .single f => f.meaning
  | .and t _ f => .and t.meaning f.meaning

def Expr.meaning : Expr → Expression
  | .single t => t.meaning
  | .or e _ t => .or e.meaning t.meaning

end

/-! ## Chains

A term is its first factor, then words and factors; an expression is its first term, then
words and terms. -/

def Term.first : Term → Factor
  | .single f => f
  | .and t _ _ => t.first

def Term.rest : Term → List (Word "AND" × Factor)
  | .single _ => []
  | .and t w f => t.rest ++ [(w, f)]

def Expr.first : Expr → Term
  | .single t => t
  | .or e _ _ => e.first

def Expr.rest : Expr → List (Word "OR" × Term)
  | .single _ => []
  | .or e w t => e.rest ++ [(w, t)]

def joint {spelling : String} (w : Word spelling) : List UInt8 := 0x20 :: word w.text ++ [0x20]

@[simp] theorem word_append (a b : String) : word (a ++ b) = word a ++ word b := by
  simp [word, String.toByteArray_append]

theorem word_group (e : Expr) : word (Factor.group e).render = 0x28 :: word e.render ++ [0x29] := by
  simp [Factor.render]
  rfl

theorem word_and (t : Term) (w : Word "AND") (f : Factor) :
    word (Term.and t w f).render = word t.render ++ joint w ++ word f.render := by
  simp [Term.render, joint]
  rfl

theorem word_or (e : Expr) (w : Word "OR") (t : Term) :
    word (Expr.or e w t).render = word e.render ++ joint w ++ word t.render := by
  simp [Expr.render, joint]
  rfl

theorem joined_concat (first : List UInt8) (js : List (List UInt8 × List UInt8))
    (j : List UInt8 × List UInt8) : joined first (js ++ [j]) = joined first js ++ j.1 ++ j.2 := by
  simp [joined, List.append_assoc]

theorem Term.word_render : ∀ t : Term,
    word t.render = joined (word t.first.render) (t.rest.map fun j => (joint j.1, word j.2.render))
  | .single _ => by simp [Term.render, Term.first, Term.rest]
  | .and t w f => by
    rw [word_and, Term.word_render t, Term.first, Term.rest, List.map_append, List.map_cons,
      List.map_nil, joined_concat]

theorem Expr.word_render : ∀ e : Expr,
    word e.render = joined (word e.first.render) (e.rest.map fun j => (joint j.1, word j.2.render))
  | .single _ => by simp [Expr.render, Expr.first, Expr.rest]
  | .or e w t => by
    rw [word_or, Expr.word_render e, Expr.first, Expr.rest, List.map_append, List.map_cons,
      List.map_nil, joined_concat]

theorem Term.meaning_chain : ∀ t : Term,
    t.meaning = (t.rest.map (·.2)).foldl (fun a f => .and a f.meaning) t.first.meaning
  | .single _ => rfl
  | .and t w f => by simp [Term.meaning, Term.first, Term.rest, Term.meaning_chain t]

theorem Expr.meaning_chain : ∀ e : Expr,
    e.meaning = (e.rest.map (·.2)).foldl (fun a t => .or a t.meaning) e.first.meaning
  | .single _ => rfl
  | .or e w t => by simp [Expr.meaning, Expr.first, Expr.rest, Expr.meaning_chain e]

/-! ## Joining words -/

section Words

variable {spelling : String} (w : Word spelling)

theorem Word.ascii (small : ∀ c ∈ spelling.toList, c.toNat < 128) : ∀ c ∈ w.text.toList, c.toNat < 128 := by
  intro c member
  have upper : c.toUpper ∈ spelling.toList := by
    rw [← w.reads, String.toUpper, String.toList_map]
    exact List.mem_map_of_mem member
  have bound := small _ upper
  rw [toNat_toUpper] at bound
  split at bound <;> omega

theorem Word.upper (small : ∀ c ∈ spelling.toList, c.toNat < 128) :
    (word w.text).map upperByte = word spelling := by
  have letters := w.ascii small
  have spelled : w.text.toUpper.toList = w.text.toList.map Char.toUpper := String.toList_map
  rw [w.reads] at spelled
  rw [word_ascii letters, word_ascii small, spelled, List.map_map, List.map_map]
  exact List.map_congr_left fun c member => upperByte_ascii (letters c member)

theorem Word.plain (small : ∀ c ∈ spelling.toList, c.toNat < 128)
    (capitals : ∀ x ∈ word spelling, 65 ≤ x.toNat ∧ x.toNat ≤ 90) :
    ∀ b ∈ word w.text, b ≠ 0x20 ∧ grouping b = false := by
  intro b member
  have capital := capitals _ (w.upper small ▸ List.mem_map_of_mem member)
  rw [toNat_upperByte] at capital
  have letter : (65 ≤ b.toNat ∧ b.toNat ≤ 90) ∨ (97 ≤ b.toNat ∧ b.toNat ≤ 122) := by
    split at capital <;> omega
  refine ⟨fun blank => ?_, ?_⟩
  · subst blank
    simp at letter
  · simp only [grouping, Bool.or_eq_false_iff, beq_eq_false_iff_ne, ne_eq]
    refine ⟨⟨⟨?_, ?_⟩, ?_⟩, ?_⟩ <;> rintro rfl <;> simp at letter

end Words

theorem spelled_or : (∀ c ∈ "OR".toList, c.toNat < 128) ∧ ∀ x ∈ word "OR", 65 ≤ x.toNat ∧ x.toNat ≤ 90 := by
  have chars : ("OR".toList.all fun c => decide (c.toNat < 128)) = true := rfl
  have bytes : ((word "OR").all fun x => decide (65 ≤ x.toNat ∧ x.toNat ≤ 90)) = true := rfl
  exact ⟨fun c member => of_decide_eq_true (List.all_eq_true.1 chars c member),
    fun x member => of_decide_eq_true (List.all_eq_true.1 bytes x member)⟩

theorem spelled_and :
    (∀ c ∈ "AND".toList, c.toNat < 128) ∧ ∀ x ∈ word "AND", 65 ≤ x.toNat ∧ x.toNat ≤ 90 := by
  have chars : ("AND".toList.all fun c => decide (c.toNat < 128)) = true := rfl
  have bytes : ((word "AND").all fun x => decide (65 ≤ x.toNat ∧ x.toNat ≤ 90)) = true := rfl
  exact ⟨fun c member => of_decide_eq_true (List.all_eq_true.1 chars c member),
    fun x member => of_decide_eq_true (List.all_eq_true.1 bytes x member)⟩

theorem word_space_or : word " OR " = 0x20 :: word "OR" ++ [0x20] := by decide

theorem word_space_and : word " AND " = 0x20 :: word "AND" ++ [0x20] := by decide

theorem joint_or (w : Word "OR") : (joint w).map upperByte = word " OR " := by
  rw [joint, List.map_append, List.map_cons, w.upper spelled_or.1, word_space_or]
  rfl

theorem joint_and (w : Word "AND") : (joint w).map upperByte = word " AND " := by
  rw [joint, List.map_append, List.map_cons, w.upper spelled_and.1, word_space_and]
  rfl

theorem quiet_or_joint (w : Word "AND") (ahead : List UInt8) :
    quiet (word " OR ") (none, 0) (0x20 :: word w.text) ahead = true := by
  refine quiet_cons.2 ⟨fun _ seen => ?_,
    quiet_of_unblank (by decide) fun b member => (w.plain spelled_and.1 spelled_and.2 b member).1⟩
  -- At the blank the uppercase text reads ` AND`, which ` OR ` does not start.
  rw [List.map_append, List.map_cons, w.upper spelled_and.1, word_space_or,
    show word "OR" = [79, 82] by decide, show word "AND" = [65, 78, 68] by decide] at seen
  simp [upperByte] at seen

/-! ## Scanning the text of a tree -/

def Settled (bs : List UInt8) : Prop := scanFrom (none, 0) bs = (none, 0) ∧ Above 0 (none, 0) bs

theorem Settled.append {a b : List UInt8} (first : Settled a) (second : Settled b) : Settled (a ++ b) :=
  ⟨by rw [scanFrom_append, first.1, second.1], above_append.2 ⟨first.2, by rw [first.1]; exact second.2⟩⟩

theorem settled_plain {bs : List UInt8} (plain : ∀ c ∈ bs, grouping c = false) : Settled bs := by
  refine ⟨scanFrom_plain plain, fun k _ => Int.le_of_eq ?_⟩
  rw [scanFrom_plain fun c member => plain c (List.mem_of_mem_take member)]

theorem Settled.inside {inner : List UInt8} (settled : Settled inner) :
    scanFrom (none, 1) inner = (none, 1) ∧ Above 1 (none, 1) inner := by
  have shifted := scanFrom_shift none 0 1 inner
  rw [settled.1] at shifted
  exact ⟨shifted, settled.2.shift 1⟩

theorem Settled.group {inner : List UInt8} (settled : Settled inner) : Settled (0x28 :: inner ++ [0x29]) := by
  obtain ⟨back, above⟩ := settled.inside
  refine ⟨?_, above_cons.2 ⟨Int.le_refl 0, above_append.2 ⟨above.mono (by decide), ?_⟩⟩⟩
  · rw [List.cons_append, scanFrom_cons, scanFrom_append]
    simp [scanStep, back]
  · rw [show scanFrom (scanStep (none, 0) 0x28) inner = (none, 1) from back]
    exact above_cons.2 ⟨by decide, Above.nil (by decide)⟩

theorem joint_settled {spelling : String} (w : Word spelling) (small : ∀ c ∈ spelling.toList, c.toNat < 128)
    (capitals : ∀ x ∈ word spelling, 65 ≤ x.toNat ∧ x.toNat ≤ 90) : Settled (joint w) := by
  refine settled_plain fun b member => ?_
  simp only [joint, List.mem_append, List.mem_cons, List.not_mem_nil, or_false] at member
  rcases member with (rfl | inWord) | rfl
  · rfl
  · exact (w.plain small capitals b inWord).2
  · rfl

theorem Leaf.unparenthesized (c : Leaf) : ∀ b ∈ word c.text, b ≠ 0x28 ∧ b ≠ 0x29 := by
  intro b member
  rw [word_ascii c.ascii] at member
  obtain ⟨x, inText, rfl⟩ := List.mem_map.1 member
  have small := c.ascii x inText
  obtain ⟨notOpen, notClose⟩ := c.ungrouped x inText
  have openNat : x.toNat ≠ 40 := fun eq => notOpen (Char.toNat_inj.1 eq)
  have closeNat : x.toNat ≠ 41 := fun eq => notClose (Char.toNat_inj.1 eq)
  constructor <;> intro eq <;> have value := congrArg UInt8.toNat eq <;>
    rw [toUInt8_toNat_ascii small] at value <;> simp at value <;> omega

theorem Leaf.settled (c : Leaf) : Settled (word c.text) := by
  refine ⟨c.closed, fun k _ => Int.le_of_eq ?_⟩
  rw [depth_scanFrom_unparenthesized fun b member => c.unparenthesized b (List.mem_of_mem_take member)]

mutual

theorem Factor.settled : ∀ f : Factor, Settled (word f.render)
  | .leaf c => c.settled
  | .group e => by
    rw [word_group]
    exact (Expr.settled e).group

theorem Term.settled : ∀ t : Term, Settled (word t.render)
  | .single f => Factor.settled f
  | .and t w f => by
    rw [word_and]
    exact ((Term.settled t).append (joint_settled w spelled_and.1 spelled_and.2)).append (Factor.settled f)

theorem Expr.settled : ∀ e : Expr, Settled (word e.render)
  | .single t => Term.settled t
  | .or e w t => by
    rw [word_or]
    exact ((Expr.settled e).append (joint_settled w spelled_or.1 spelled_or.2)).append (Term.settled t)

end

/-! ## The text of a tree -/

theorem ascii_group {t : String} (ascii : ∀ c ∈ t.toList, c.toNat < 128) :
    ∀ c ∈ ("(" ++ t ++ ")").toList, c.toNat < 128 := by
  intro c member
  simp only [String.toList_append, List.mem_append] at member
  rcases member with (opening | inner) | closing
  · simp at opening
    rw [opening]
    decide
  · exact ascii c inner
  · simp at closing
    rw [closing]
    decide

theorem ascii_join {s m t : String} (left : ∀ c ∈ s.toList, c.toNat < 128)
    (middle : ∀ c ∈ m.toList, c.toNat < 128) (right : ∀ c ∈ t.toList, c.toNat < 128) :
    ∀ c ∈ (s ++ " " ++ m ++ " " ++ t).toList, c.toNat < 128 := by
  intro c member
  simp only [String.toList_append, List.mem_append] at member
  rcases member with (((inS | blank) | inM) | blank) | inT
  · exact left c inS
  · simp at blank
    rw [blank]
    decide
  · exact middle c inM
  · simp at blank
    rw [blank]
    decide
  · exact right c inT

mutual

theorem Factor.ascii : ∀ f : Factor, ∀ c ∈ f.render.toList, c.toNat < 128
  | .leaf c => c.ascii
  | .group e => ascii_group (Expr.ascii e)

theorem Term.ascii : ∀ t : Term, ∀ c ∈ t.render.toList, c.toNat < 128
  | .single f => Factor.ascii f
  | .and t w f => ascii_join (Term.ascii t) (w.ascii spelled_and.1) (Factor.ascii f)

theorem Expr.ascii : ∀ e : Expr, ∀ c ∈ e.render.toList, c.toNat < 128
  | .single t => Term.ascii t
  | .or e w t => ascii_join (Expr.ascii e) (w.ascii spelled_or.1) (Term.ascii t)

end

/-- A text that is not empty and neither starts nor ends with white space. -/
structure Edged (t : String) : Prop where
  nonempty : t.toList ≠ []
  first : ∀ c ∈ t.toList.head?, Space.isSpace c = false
  last : ∀ c ∈ t.toList.getLast?, Space.isSpace c = false

theorem Edged.join {s t : String} (left : Edged s) (right : Edged t) (m : String) :
    Edged (s ++ " " ++ m ++ " " ++ t) := by
  have front : (s ++ " " ++ m ++ " " ++ t).toList = s.toList ++ (' ' :: m.toList ++ ' ' :: t.toList) := by
    simp
  have back : (s ++ " " ++ m ++ " " ++ t).toList = (s.toList ++ ' ' :: m.toList ++ [' ']) ++ t.toList := by
    simp
  refine ⟨?_, ?_, ?_⟩
  · rw [front]
    exact List.append_ne_nil_of_left_ne_nil left.nonempty _
  · obtain ⟨x, xs, sIs⟩ := List.exists_cons_of_ne_nil left.nonempty
    have first := left.first
    rw [sIs] at first
    rw [front, sIs, List.cons_append, List.head?_cons]
    exact first
  · cases lastIs : t.toList.getLast? with
    | none => exact absurd (List.getLast?_eq_none_iff.1 lastIs) right.nonempty
    | some y =>
      rw [back, List.getLast?_append, lastIs, Option.some_or, ← lastIs]
      exact right.last

theorem Leaf.edged (c : Leaf) : Edged c.text := by
  refine ⟨fun empty => ?_, c.first, c.last⟩
  have parses := c.parses
  rw [String.toList_eq_nil_iff.1 empty] at parses
  exact absurd parses (by decide)

theorem edged_group (t : String) : Edged ("(" ++ t ++ ")") := by
  refine ⟨by simp, fun c first => ?_, fun c last => ?_⟩
  · simp at first
    rw [← first]
    decide
  · have closing : ('(' :: t.toList ++ [')']).getLast? = some ')' := List.getLast?_concat
    simp only [String.toList_append] at last
    rw [show "(".toList = ['('] from rfl, show ")".toList = [')'] from rfl, List.singleton_append,
      closing, Option.mem_def, Option.some.injEq] at last
    rw [← last]
    decide

theorem Factor.edged : ∀ f : Factor, Edged f.render
  | .leaf c => c.edged
  | .group _ => edged_group _

theorem Term.edged : ∀ t : Term, Edged t.render
  | .single f => f.edged
  | .and t w f => (Term.edged t).join f.edged w.text

theorem Expr.edged : ∀ e : Expr, Edged e.render
  | .single t => t.edged
  | .or e w t => (Expr.edged e).join t.edged w.text

theorem trimBytes_edged {t : String} (ascii : ∀ c ∈ t.toList, c.toNat < 128) (edged : Edged t) :
    Space.trimBytes t.toUTF8 = t.toUTF8 :=
  trimBytes_of_edges ascii edged.nonempty edged.first edged.last

/-! ## Where the joining words show -/

theorem word_or_bytes : word " OR " = [0x20, 0x4F, 0x52, 0x20] := by decide

theorem word_and_bytes : word " AND " = [0x20, 0x41, 0x4E, 0x44, 0x20] := by decide

theorem inner_unblank {op : List UInt8} (opIs : op = word " OR " ∨ op = word " AND ") :
    ∀ i, 0 < i → i + 1 < op.length → op[i]? ≠ some 0x20 := by
  have bounded : ∀ i < op.length, 0 < i → i + 1 < op.length → op[i]? ≠ some 0x20 := by
    rcases opIs with rfl | rfl
    · rw [word_or_bytes]
      decide
    · rw [word_and_bytes]
      decide
  exact fun i wide within => bounded i (by omega) wide within

theorem freeOf_group {op : List UInt8} (opIs : op = word " OR " ∨ op = word " AND ")
    {inner : List UInt8} (settled : Settled inner) : freeOf op (0x28 :: inner ++ [0x29]) = true := by
  obtain ⟨back, above⟩ := settled.inside
  unfold freeOf
  refine quiet_cons.2 ⟨fun _ seen => ?_, ?_⟩
  · -- The word would need its second byte to be the opening parenthesis.
    rcases opIs with rfl | rfl
    · simp [word_or_bytes, upperByte] at seen
    · simp [word_and_bytes, upperByte] at seen
  rw [List.cons_append]
  refine quiet_cons.2 ⟨fun looks => by simp [looksAt, grouping] at looks, ?_⟩
  rw [quiet_append]
  refine ⟨quiet_of_above above, ?_⟩
  rw [show scanFrom (scanStep (scanStep (none, 0) 0x20) 0x28) inner = (none, 1) from back]
  rfl

theorem Factor.freeOf {op : List UInt8} (opIs : op = word " OR " ∨ op = word " AND ") :
    ∀ f : Factor, freeOf op (word f.render) = true
  | .leaf c => by
    rcases opIs with rfl | rfl
    · exact c.noOr
    · exact c.noAnd
  | .group e => by
    rw [word_group]
    exact freeOf_group opIs (Expr.settled e)

theorem Term.freeOr : ∀ t : Term, freeOf (word " OR ") (word t.render) = true
  | .single f => Factor.freeOf (Or.inl rfl) f
  | .and t w f => by
    have parts : 0x20 :: (word t.render ++ joint w ++ word f.render) =
        (0x20 :: word t.render) ++ ((0x20 :: word w.text) ++ (0x20 :: word f.render)) := by
      simp [joint]
    have afterTerm : scanFrom (none, 0) (0x20 :: word t.render) = (none, 0) := (Term.settled t).1
    have afterWord : scanFrom (none, 0) (0x20 :: word w.text) = (none, 0) :=
      scanFrom_plain fun b member => by
        rcases List.mem_cons.1 member with rfl | inWord
        · rfl
        · exact (w.plain spelled_and.1 spelled_and.2 b inWord).2
    -- The padded text is three runs, each starting with a blank: the term, the word and the
    -- factor. The scan is back at its start after each of the first two.
    unfold freeOf
    rw [word_and, parts, quiet_append, quiet_append, afterTerm, afterWord]
    exact ⟨quiet_of_blank_ahead (inner_unblank (Or.inl rfl)) (Or.inr rfl) (Term.freeOr t),
      quiet_or_joint w _, Factor.freeOf (Or.inl rfl) f⟩

/-! ## Splitting the text of a tree -/

theorem Expr.joins (e : Expr) :
    Joins (word " OR ") (word e.first.render) (e.rest.map fun j => (joint j.1, word j.2.render)) := by
  refine joins_of_pieces (by decide) (inner_unblank (Or.inl rfl)) (fun p member => ?_) fun j member => ?_
  · have term : ∃ t : Term, p = word t.render := by
      simp only [List.map_map, List.mem_cons, List.mem_map] at member
      rcases member with rfl | ⟨j, _, rfl⟩
      · exact ⟨_, rfl⟩
      · exact ⟨_, rfl⟩
    obtain ⟨t, rfl⟩ := term
    exact ⟨Term.freeOr t, (Term.settled t).1⟩
  · obtain ⟨j, _, rfl⟩ := List.mem_map.1 member
    exact joint_or j.1

theorem Term.joins (t : Term) :
    Joins (word " AND ") (word t.first.render) (t.rest.map fun j => (joint j.1, word j.2.render)) := by
  refine joins_of_pieces (by decide) (inner_unblank (Or.inr rfl)) (fun p member => ?_) fun j member => ?_
  · have factor : ∃ f : Factor, p = word f.render := by
      simp only [List.map_map, List.mem_cons, List.mem_map] at member
      rcases member with rfl | ⟨j, _, rfl⟩
      · exact ⟨_, rfl⟩
      · exact ⟨_, rfl⟩
    obtain ⟨f, rfl⟩ := factor
    exact ⟨Factor.freeOf (Or.inr rfl) f, (Factor.settled f).1⟩
  · obtain ⟨j, _, rfl⟩ := List.mem_map.1 member
    exact joint_and j.1

theorem splitPieces_text {text op : String} (ascii : ∀ c ∈ text.toList, c.toNat < 128)
    (space : (word op).head? = some 0x20) {first : List UInt8} {joins : List (List UInt8 × List UInt8)}
    (bytes : word text = joined first joins) (ok : Joins (word op) first joins) :
    splitPieces text.toUTF8 (upperBytes text.toUTF8) op.toUTF8 0 none 0 0 #[] =
      .ok ((first :: joins.map (·.2)).map fun piece => Space.trimBytes ⟨piece.toArray⟩).toArray := by
  have whole : text.toUTF8 = ⟨(joined first joins).toArray⟩ := by
    rw [← bytes]
    simp [word]
  have occ : Occurs text.toUTF8 0 (joined first joins) := by
    rw [whole]
    exact Occurs.self _
  have ends : 0 + (joined first joins).length = text.toUTF8.size := by
    rw [← bytes, Nat.zero_add, length_word]
  rw [splitPieces_joined (upperOf_text ascii) rfl space occ ends ok #[], Array.empty_append]

theorem trimBytes_word {t : String} (ascii : ∀ c ∈ t.toList, c.toNat < 128) (edged : Edged t) :
    Space.trimBytes ⟨(word t).toArray⟩ = t.toUTF8 := by
  rw [show (⟨(word t).toArray⟩ : ByteArray) = t.toUTF8 by simp [word]]
  exact trimBytes_of_edges ascii edged.nonempty edged.first edged.last

/-- An expression's text, cut at ` OR `, falls into the texts of its terms. -/
theorem Expr.splitOr (e : Expr) :
    splitPieces e.render.toUTF8 (upperBytes e.render.toUTF8) " OR ".toUTF8 0 none 0 0 #[] =
      .ok ((e.first :: e.rest.map (·.2)).map (·.render.toUTF8)).toArray := by
  rw [splitPieces_text (Expr.ascii e) (by decide) (Expr.word_render e) (Expr.joins e)]
  simp only [List.map_cons, List.map_map, Function.comp_def,
    trimBytes_word (Term.ascii _) (Term.edged _)]

/-- A term's text, cut at ` AND `, falls into the texts of its factors. -/
theorem Term.splitAnd (t : Term) :
    splitPieces t.render.toUTF8 (upperBytes t.render.toUTF8) " AND ".toUTF8 0 none 0 0 #[] =
      .ok ((t.first :: t.rest.map (·.2)).map (·.render.toUTF8)).toArray := by
  rw [splitPieces_text (Term.ascii t) (by decide) (Term.word_render t) (Term.joins t)]
  simp only [List.map_cons, List.map_map, Function.comp_def,
    trimBytes_word (Factor.ascii _) (Factor.edged _)]

/-! ## Reading, step by step -/

section Steps

variable {fuel : Nat} {b : ByteArray} (trimmed : Space.trimBytes b = b) (filled : b.size ≠ 0)
include trimmed filled

theorem readExpression_or_pieces {pieces : Array ByteArray}
    (split : splitPieces b (upperBytes b) " OR ".toUTF8 0 none 0 0 #[] = .ok pieces)
    (several : 1 < pieces.size) :
    readExpression (fuel + 1) b = joinPieces fuel .or pieces.toList := by
  rw [readExpression, trimmed, if_neg filled]
  dsimp only
  rw [split]
  dsimp only
  rw [if_pos several]

variable (unsplit : splitPieces b (upperBytes b) " OR ".toUTF8 0 none 0 0 #[] = .ok #[b])
include unsplit

theorem readExpression_and_pieces {pieces : Array ByteArray}
    (split : splitPieces b (upperBytes b) " AND ".toUTF8 0 none 0 0 #[] = .ok pieces)
    (several : 1 < pieces.size) :
    readExpression (fuel + 1) b = joinPieces fuel .and pieces.toList := by
  rw [readExpression, trimmed, if_neg filled]
  dsimp only
  rw [unsplit]
  dsimp only
  rw [if_neg (by simp), split]
  dsimp only
  rw [if_pos several]

variable (whole : splitPieces b (upperBytes b) " AND ".toUTF8 0 none 0 0 #[] = .ok #[b])
include whole

theorem readExpression_inside
    (group : (b[0]? == some 0x28 && b[b.size - 1]? == some 0x29 && depthBefore b (b.size - 1) == 1) = true) :
    readExpression (fuel + 1) b = readExpression fuel (b.extract 1 (b.size - 1)) := by
  rw [readExpression, trimmed, if_neg filled]
  dsimp only
  rw [unsplit]
  dsimp only
  rw [if_neg (by simp), whole]
  dsimp only
  rw [if_neg (by simp), if_pos group]

theorem readExpression_comparison (notGroup : b[0]? ≠ some 0x28) {cmp : Comparison}
    (parsed : Comparison.parse? (Utf8.decodeLossy b) = some cmp) :
    readExpression (fuel + 1) b = .ok (.condition (Filter.make cmp.field cmp.operator (typedLiteral cmp.value))) := by
  rw [readExpression, trimmed, if_neg filled]
  dsimp only
  rw [unsplit]
  dsimp only
  rw [if_neg (by simp), whole]
  dsimp only
  rw [if_neg (by simp), if_neg (by simp [notGroup]), parsed]

end Steps

theorem joinRest_reads {α : Type} {fuel : Nat} {join : Expression → Expression → Expression}
    (read : α → ByteArray) (mean : α → Expression) (xs : List α)
    (reads : ∀ x ∈ xs, readExpression fuel (read x) = .ok (mean x)) (acc : Expression) :
    joinRest fuel join acc (xs.map read) = .ok (xs.foldl (fun a x => join a (mean x)) acc) := by
  induction xs generalizing acc with
  | nil => rw [List.map_nil, joinRest]; rfl
  | cons x xs ih =>
    rw [List.map_cons, joinRest, reads x List.mem_cons_self]
    exact ih (fun y member => reads y (List.mem_cons_of_mem x member)) _

theorem joinPieces_reads {α : Type} {fuel : Nat} {join : Expression → Expression → Expression}
    (read : α → ByteArray) (mean : α → Expression) (x : α) (xs : List α)
    (reads : ∀ y ∈ x :: xs, readExpression fuel (read y) = .ok (mean y)) :
    joinPieces fuel join ((x :: xs).map read) = .ok (xs.foldl (fun a y => join a (mean y)) (mean x)) := by
  rw [List.map_cons, joinPieces, reads x List.mem_cons_self]
  exact joinRest_reads read mean xs (fun y member => reads y (List.mem_cons_of_mem x member)) _

/-! ## Reading the text of a tree -/

theorem Expr.pieces_or (e : Expr) (w : Word "OR") (t : Term) :
    ∀ x ∈ (Expr.or e w t).first :: (Expr.or e w t).rest.map (·.2),
      x ∈ e.first :: e.rest.map (·.2) ∨ x = t := by
  intro x member
  simp only [Expr.first, Expr.rest, List.map_append, List.map_cons, List.map_nil] at member
  rcases List.mem_cons.1 member with rfl | later
  · exact Or.inl List.mem_cons_self
  rcases List.mem_append.1 later with inE | last
  · exact Or.inl (List.mem_cons_of_mem _ inE)
  · exact Or.inr (List.mem_singleton.1 last)

theorem Term.pieces_and (t : Term) (w : Word "AND") (f : Factor) :
    ∀ x ∈ (Term.and t w f).first :: (Term.and t w f).rest.map (·.2),
      x ∈ t.first :: t.rest.map (·.2) ∨ x = f := by
  intro x member
  simp only [Term.first, Term.rest, List.map_append, List.map_cons, List.map_nil] at member
  rcases List.mem_cons.1 member with rfl | later
  · exact Or.inl List.mem_cons_self
  rcases List.mem_append.1 later with inT | last
  · exact Or.inl (List.mem_cons_of_mem _ inT)
  · exact Or.inr (List.mem_singleton.1 last)

theorem Expr.length_pieces : ∀ e : Expr, ∀ t ∈ e.first :: e.rest.map (·.2),
    (word t.render).length ≤ (word e.render).length
  | .single t => by simp [Expr.first, Expr.rest, Expr.render]
  | .or e w t => by
    intro x member
    rw [word_or, List.length_append, List.length_append]
    rcases Expr.pieces_or e w t x member with inE | rfl
    · have := Expr.length_pieces e x inE
      omega
    · omega

theorem Term.length_pieces : ∀ t : Term, ∀ f ∈ t.first :: t.rest.map (·.2),
    (word f.render).length ≤ (word t.render).length
  | .single f => by simp [Term.first, Term.rest, Term.render]
  | .and t w f => by
    intro x member
    rw [word_and, List.length_append, List.length_append]
    rcases Term.pieces_and t w f x member with inT | rfl
    · have := Term.length_pieces t x inT
      omega
    · omega

theorem filled_edged {t : String} (ascii : ∀ c ∈ t.toList, c.toNat < 128) (edged : Edged t) :
    t.toUTF8.size ≠ 0 := by
  rw [← length_word, word_ascii ascii, List.length_map]
  exact fun empty => edged.nonempty (List.eq_nil_of_length_eq_zero empty)

theorem Term.unsplitOr (t : Term) :
    splitPieces t.render.toUTF8 (upperBytes t.render.toUTF8) " OR ".toUTF8 0 none 0 0 #[] =
      .ok #[t.render.toUTF8] := by
  have split := Expr.splitOr (.single t)
  simp only [Expr.first, Expr.rest, List.map_nil, List.map_cons] at split
  exact split

theorem Factor.unsplitAnd (f : Factor) :
    splitPieces f.render.toUTF8 (upperBytes f.render.toUTF8) " AND ".toUTF8 0 none 0 0 #[] =
      .ok #[f.render.toUTF8] := by
  have split := Term.splitAnd (.single f)
  simp only [Term.first, Term.rest, List.map_nil, List.map_cons] at split
  exact split

theorem readExpression_group {fuel : Nat} (e : Expr) :
    readExpression (fuel + 1) (Factor.group e).render.toUTF8 = readExpression fuel e.render.toUTF8 := by
  have bytes : (Factor.group e).render.toUTF8 = ⟨(0x28 :: word e.render ++ [0x29]).toArray⟩ := by
    rw [← word_group]
    simp [word]
  have size : (Factor.group e).render.toUTF8.size - 1 = (word e.render).length + 1 := by
    rw [← length_word, word_group]
    simp
  obtain ⟨back, above⟩ := (Expr.settled e).inside
  have group : ((Factor.group e).render.toUTF8[0]? == some 0x28 &&
      (Factor.group e).render.toUTF8[(Factor.group e).render.toUTF8.size - 1]? == some 0x29 &&
      depthBefore (Factor.group e).render.toUTF8 ((Factor.group e).render.toUTF8.size - 1) == 1) = true := by
    rw [size, bytes, depthBefore_group above (by rw [back])]
    simp [getElem?_eq_at, at_mk]
  have inner := (Occurs.self (0x28 :: word e.render ++ [0x29])).left.tail
  rw [readExpression_inside (trimBytes_edged (Factor.ascii _) (Factor.edged _))
    (filled_edged (Factor.ascii _) (Factor.edged _)) (Term.unsplitOr (.single _)) (Factor.unsplitAnd _) group,
    size, bytes, show (word e.render).length + 1 = 0 + 1 + (word e.render).length by omega, inner.extract_eq]
  simp [word]

theorem readExpression_leaf {fuel : Nat} (c : Leaf) :
    readExpression (fuel + 1) (Factor.leaf c).render.toUTF8 = .ok c.condition := by
  have notGroup : c.text.toUTF8[0]? ≠ some 0x28 := by
    intro opening
    rw [getElem?_eq_at, at_toUTF8] at opening
    exact (c.unparenthesized _ (List.mem_of_getElem? opening)).1 rfl
  have text := decodeLossy_ascii c.ascii
  rw [String.ofList_toList] at text
  exact readExpression_comparison (trimBytes_edged c.ascii c.edged) (filled_edged c.ascii c.edged)
    (Term.unsplitOr (.single (.leaf c))) (Factor.unsplitAnd (.leaf c)) notGroup
    (by
      show Comparison.parse? (Utf8.decodeLossy c.text.toUTF8) = _
      rw [text]
      exact (Option.some_get c.parses).symm)

/-- Reading the text of a tree, with more fuel than the text has bytes, gives the tree's
expression. -/
theorem Expr.readExpression_render (fuel : Nat) :
    ∀ e : Expr, (word e.render).length < fuel → readExpression fuel e.render.toUTF8 = .ok e.meaning := by
  induction fuel with
  | zero => intro e short; omega
  | succ fuel ih =>
    intro e short
    cases e with
    | or e w t =>
      -- Every term of the chain is shorter than the whole text, and is read with less fuel.
      have longer : (word (Expr.or e w t).render).length =
          (word e.render).length + (word w.text).length + 2 + (word t.render).length := by
        rw [word_or, List.length_append, List.length_append]
        simp [joint]
        omega
      have reads : ∀ x ∈ (Expr.or e w t).first :: (Expr.or e w t).rest.map (·.2),
          readExpression fuel x.render.toUTF8 = .ok x.meaning := by
        intro x member
        apply ih (.single x)
        show (word x.render).length < fuel
        rcases Expr.pieces_or e w t x member with inE | rfl
        · have := Expr.length_pieces e x inE
          exact Nat.lt_of_le_of_lt this (by omega)
        · exact Nat.lt_of_lt_of_le (by omega) (Nat.le_of_lt_succ short)
      rw [readExpression_or_pieces (trimBytes_edged (Expr.ascii _) (Expr.edged _))
          (filled_edged (Expr.ascii _) (Expr.edged _)) (Expr.splitOr _) (by simp [Expr.rest]),
        List.toList_toArray, joinPieces_reads _ _ _ _ reads, Expr.meaning_chain]
    | single t =>
      -- A term's text has no ` OR ` to cut at; a factor's has no ` AND ` either.
      cases t with
      | and t w f =>
        have short : (word (Term.and t w f).render).length < fuel + 1 := short
        have longer : (word (Term.and t w f).render).length =
            (word t.render).length + (word w.text).length + 2 + (word f.render).length := by
          rw [word_and, List.length_append, List.length_append]
          simp [joint]
          omega
        have reads : ∀ x ∈ (Term.and t w f).first :: (Term.and t w f).rest.map (·.2),
            readExpression fuel x.render.toUTF8 = .ok x.meaning := by
          intro x member
          apply ih (.single (.single x))
          show (word x.render).length < fuel
          rcases Term.pieces_and t w f x member with inT | rfl
          · have := Term.length_pieces t x inT
            exact Nat.lt_of_le_of_lt this (by omega)
          · exact Nat.lt_of_lt_of_le (by omega) (Nat.le_of_lt_succ short)
        show readExpression (fuel + 1) (Term.and t w f).render.toUTF8 = .ok (Term.and t w f).meaning
        rw [readExpression_and_pieces (trimBytes_edged (Term.ascii _) (Term.edged _))
            (filled_edged (Term.ascii _) (Term.edged _)) (Term.unsplitOr _) (Term.splitAnd _)
            (by simp [Term.rest]),
          List.toList_toArray, joinPieces_reads _ _ _ _ reads, Term.meaning_chain]
      | single f =>
        cases f with
        | group e =>
          have short : (word (Factor.group e).render).length < fuel + 1 := short
          show readExpression (fuel + 1) (Factor.group e).render.toUTF8 = .ok e.meaning
          rw [readExpression_group]
          apply ih e
          have longer : (word (Factor.group e).render).length = (word e.render).length + 2 := by
            rw [word_group]
            simp
          exact Nat.lt_of_lt_of_le (by omega) (Nat.le_of_lt_succ short)
        | leaf c => exact readExpression_leaf c

/-! ## Reading written expressions -/

/-- Reading an ASCII text never faults, and when the text is that of a tree of the grammar it
reads as the tree's expression: `AND` binds tighter than `OR`, both join from the left, and each
leaf is its comparison. -/
theorem written_expressions_read (text : String) (ascii : ∀ c ∈ text.toList, c.toNat < 128) :
    faulted (Expression.ofText text) = false ∧
      ∀ e : Expr, e.render = text → Expression.ofText text = .ok e.meaning := by
  refine ⟨ascii_reads_without_fault ascii, fun e rendered => ?_⟩
  subst rendered
  apply Expr.readExpression_render
  rw [length_word, String.toUTF8_eq_toByteArray, String.size_toByteArray]
  exact Nat.lt_succ_self _

theorem written_expressions_read_grouped :
    faulted (Expression.ofText "a = 1 or (b = 'x y' AND c >= 2)") = false ∧
      ∀ e : Expr, e.render = "a = 1 or (b = 'x y' AND c >= 2)" →
        Expression.ofText "a = 1 or (b = 'x y' AND c >= 2)" = .ok e.meaning := by
  have chars : ("a = 1 or (b = 'x y' AND c >= 2)".toList.all fun c => decide (c.toNat < 128)) = true := rfl
  exact written_expressions_read _ fun c member => of_decide_eq_true (List.all_eq_true.1 chars c member)

/-- Where uppercasing shortens a text, the search for ` OR ` runs past the end of the uppercase
form and reading faults, here on a text the grammar writes: `ı` takes two bytes and its capital
`I` one. -/
theorem uppercase_drift_faults : faulted (Expression.ofText "a=1 OR b=ıııı") = true :=
  faulted_of_or_search (by decide +kernel) (by decide +kernel)

end Written

end Query

end WikiDump

