import WikiDump.Proofs.TupleLocality
import WikiDump.Proofs.KnownBytes
/-!
# Readers after a prefix read the same, moved

Every reader of the scanner finds its way through the buffer by absolute positions, but looks
only at the bytes from where it starts on, and compares positions only with each other and with
the end of the buffer. Putting a prefix `w` before a buffer `v` therefore changes nothing but
where things are: a reader started at `w.size + i` in `w ++ v` does what it does at `i` in `v`,
with every position it returns and every offset of its errors larger by `w.size`, and the text
it quotes in an error unchanged. The lemmas here say so for each reader, each as an equation,
so that the proof of the next reader rewrites with it.

The results of a reader move by `moveResult`: its error by `ScanError.shift`, its answer by
the move that fits it (a position by `w.size + ·`, a literal by `Value.shift`).
-/

namespace WikiDump

open Bytes

/-- The result of a reader that ran `d` bytes further into a buffer: its error moved by `d`, its
answer moved by `move`. -/
def moveResult {α : Type} (d : Nat) (move : α → α) : Except ScanError α → Except ScanError α
  | .ok a => .ok (move a)
  | .error e => .error (e.shift d)

section moveResult

variable {α β : Type} {d : Nat} {move : α → α}

@[simp] theorem moveResult_ok (a : α) : moveResult d move (.ok a) = .ok (move a) := rfl

@[simp] theorem moveResult_error (e : ScanError) :
    moveResult d move (.error e : Except ScanError α) = .error (e.shift d) := rfl

theorem moveResult_bind {x : Except ScanError α} {f f' : α → Except ScanError β} {move' : β → β}
    (rest : ∀ a, f' (move a) = moveResult d move' (f a)) :
    moveResult d move x >>= f' = moveResult d move' (x >>= f) := by
  cases x with
  | error e => rfl
  | ok a => exact rest a

end moveResult

namespace ScanError

variable {d o : Nat} {expected : String}

/-! A moved error keeps everything but its offset, which it writes with the move first, as the
positions after a prefix are written. -/

@[simp] theorem shift_lexical (cause : Cause) (found : String) :
    (lexical cause o expected found).shift d = lexical cause (d + o) expected found := by
  rw [shift, Nat.add_comm]

@[simp] theorem shift_endOfInput : (endOfInput o expected).shift d = endOfInput (d + o) expected :=
  shift_lexical _ _

@[simp] theorem shift_columnCount (table : String) (width : Int) (found : Nat) :
    (columnCount table o width found).shift d = columnCount table (d + o) width found := by
  rw [shift, Nat.add_comm]

end ScanError

namespace Bytes

variable {w v : ByteArray}

theorem lt_size_moved {i : Nat} : w.size + i < (w ++ v).size ↔ i < v.size := by
  rw [ByteArray.size_append]
  omega

theorem getElem_moved {i : Nat} (h : w.size + i < (w ++ v).size) :
    (w ++ v)[w.size + i] = GetElem.getElem v i (lt_size_moved.1 h) := by
  rw [ByteArray.getElem_append_right (Nat.le_add_right _ _)]
  simp

@[simp] theorem at_moved (i : Nat) : at? (w ++ v) (w.size + i) = at? v i := by
  unfold at?
  by_cases inside : i < v.size
  · rw [dif_pos (lt_size_moved.2 inside), dif_pos inside, getElem_moved]
  · rw [dif_neg (mt lt_size_moved.1 inside), dif_neg inside]

@[simp] theorem atIs_moved (i : Nat) (p : UInt8 → Bool) :
    atIs (w ++ v) (w.size + i) p = atIs v i p := by
  simp only [atIs, at_moved]

@[simp] theorem atEq_moved (i : Nat) (b : UInt8) : atEq (w ++ v) (w.size + i) b = atEq v i b :=
  atIs_moved i _

theorem getElem?_moved (i : Nat) : (w ++ v)[w.size + i]? = v[i]? := by
  rw [getElem?_eq_at, getElem?_eq_at, at_moved]

theorem skipWhile_moved (p : UInt8 → Bool) (i : Nat) :
    skipWhile p (w ++ v) (w.size + i) = w.size + skipWhile p v i := by
  fun_induction skipWhile p v i with
  | case1 i inside holds ih =>
      rw [skipWhile, dif_pos (lt_size_moved.2 inside), getElem_moved, if_pos holds,
        Nat.add_assoc, ih]
  | case2 i inside fails =>
      rw [skipWhile, dif_pos (lt_size_moved.2 inside), getElem_moved, if_neg fails]
  | case3 i past => rw [skipWhile, dif_neg (mt lt_size_moved.1 past)]

theorem skipSpace_moved (i : Nat) : skipSpace (w ++ v) (w.size + i) = w.size + skipSpace v i :=
  skipWhile_moved isSpace i

theorem matchWord_moved (i : Nat) (word : String) :
    matchWord (w ++ v) (w.size + i) word = matchWord v i word := by
  simp only [matchWord, Nat.add_assoc, at_moved, atIs_moved, ByteArray.size_append,
    Nat.add_le_add_iff_left]

end Bytes

namespace Diagnostic

variable {w v : ByteArray}

theorem describe_moved (offset : Nat) :
    describe (w ++ v) (w.size + offset) = describe v offset := by
  simp only [describe, ByteArray.size_append, ge_iff_le, Nat.add_le_add_iff_left, atIs_moved,
    skipWhile_moved, Nat.add_assoc, Nat.add_min_add_left, ByteArray.extract_append_size_add]

end Diagnostic

theorem ScanError.unexpected_moved {w v : ByteArray} (offset : Nat) (expected : String) :
    unexpected (w ++ v) (w.size + offset) expected = (unexpected v offset expected).shift w.size := by
  rw [unexpected, unexpected, Diagnostic.describe_moved, shift_lexical]

namespace Literal

variable {w v : ByteArray}

theorem skipQuotedFrom_moved (quote : UInt8) (i : Nat) :
    skipQuotedFrom (w ++ v) quote (w.size + i) =
      moveResult w.size (w.size + ·) (skipQuotedFrom v quote i) := by
  fun_induction skipQuotedFrom v quote i with
  | case1 i inside c escape next ih =>
      have escape : (v[i] == backslash && quote != backtick) = true := escape
      rw [skipQuotedFrom, dif_pos (lt_size_moved.2 inside)]
      simp only [getElem_moved, escape, Nat.add_assoc, lt_size_moved, next, ↓reduceIte, ih]
  | case2 i inside c escape last =>
      have escape : (v[i] == backslash && quote != backtick) = true := escape
      rw [skipQuotedFrom, dif_pos (lt_size_moved.2 inside)]
      simp only [getElem_moved, escape, Nat.add_assoc, lt_size_moved, last, ↓reduceIte,
        moveResult_error, ScanError.shift_lexical]
  | case3 i inside c plain isQuote doubled ih =>
      have plain : ¬ (v[i] == backslash && quote != backtick) = true := plain
      have isQuote : (v[i] == quote) = true := isQuote
      rw [skipQuotedFrom, dif_pos (lt_size_moved.2 inside)]
      simp only [getElem_moved, plain, isQuote, Nat.add_assoc, atEq_moved, doubled,
        Bool.false_eq_true, ↓reduceIte, ih]
  | case4 i inside c plain isQuote single =>
      have plain : ¬ (v[i] == backslash && quote != backtick) = true := plain
      have isQuote : (v[i] == quote) = true := isQuote
      rw [skipQuotedFrom, dif_pos (lt_size_moved.2 inside)]
      simp only [getElem_moved, plain, isQuote, Nat.add_assoc, atEq_moved, single,
        Bool.false_eq_true, ↓reduceIte, moveResult_ok]
  | case5 i inside c plain other ih =>
      have plain : ¬ (v[i] == backslash && quote != backtick) = true := plain
      have other : ¬ (v[i] == quote) = true := other
      rw [skipQuotedFrom, dif_pos (lt_size_moved.2 inside)]
      simp only [getElem_moved, plain, other, Nat.add_assoc, Bool.false_eq_true, ↓reduceIte, ih]
  | case6 i past =>
      rw [skipQuotedFrom, dif_neg (mt lt_size_moved.1 past)]
      simp only [moveResult_error, ScanError.shift_endOfInput]

theorem skipQuoted_moved (pos : Nat) :
    skipQuoted (w ++ v) (w.size + pos) = moveResult w.size (w.size + ·) (skipQuoted v pos) := by
  unfold skipQuoted
  rw [at_moved]
  cases at? v pos with
  | none => simp only [moveResult_error, ScanError.shift_endOfInput]
  | some quote => simp only [Nat.add_assoc, skipQuotedFrom_moved]

end Literal

namespace Statement

variable {w v : ByteArray}

theorem beq_add_left (k a b : Nat) : (k + a == k + b) = (a == b) := by
  apply Bool.eq_iff_iff.2
  simp only [beq_iff_eq, Nat.add_left_cancel_iff]

theorem skipLine_moved (i : Nat) : skipLine (w ++ v) (w.size + i) = w.size + skipLine v i := by
  fun_induction skipLine v i with
  | case1 i inside isNewline =>
      rw [skipLine, dif_pos (lt_size_moved.2 inside), getElem_moved, if_pos isNewline,
        Nat.add_assoc]
  | case2 i inside other ih =>
      rw [skipLine, dif_pos (lt_size_moved.2 inside), getElem_moved, if_neg other,
        Nat.add_assoc, ih]
  | case3 i past => rw [skipLine, dif_neg (mt lt_size_moved.1 past), ByteArray.size_append]

theorem closeComment_moved (i : Nat) :
    closeComment (w ++ v) (w.size + i) = (closeComment v i).map (w.size + ·) := by
  fun_induction closeComment v i with
  | case1 i next found =>
      rw [closeComment]
      simp only [Nat.add_assoc, lt_size_moved, next, ↓reduceDIte, getElem?_moved, found,
        ↓reduceIte, Option.map_some]
  | case2 i next other ih =>
      rw [closeComment]
      simp only [Nat.add_assoc, lt_size_moved, next, ↓reduceDIte, getElem?_moved, other,
        Bool.false_eq_true, ↓reduceIte, ih]
  | case3 i past =>
      rw [closeComment]
      simp only [Nat.add_assoc, lt_size_moved, past, ↓reduceDIte, Option.map_none]

theorem commentEnd_moved (i : Nat) :
    commentEnd (w ++ v) (w.size + i) =
      moveResult w.size (Option.map (w.size + ·)) (commentEnd v i) := by
  unfold commentEnd
  simp only [at_moved, Nat.add_assoc, atEq_moved, atIs_moved, ByteArray.size_append,
    beq_add_left, skipLine_moved, closeComment_moved]
  cases at? v i with
  | none => rfl
  | some c =>
      simp only
      split
      · rfl
      · split
        · rfl
        · split
          · cases closeComment v (i + 2) with
            | none => simp only [Option.map_none, moveResult_error, ScanError.shift_endOfInput]
            | some j => rfl
          · rfl

theorem skipTrivia_moved (i : Nat) :
    skipTrivia (w ++ v) (w.size + i) = moveResult w.size (w.size + ·) (skipTrivia v i) := by
  fun_induction skipTrivia v i with
  | case1 i j inside e failed =>
      rw [skipTrivia_eq, skipSpace_moved, afterBlanks, if_pos (lt_size_moved.2 inside),
        commentEnd_moved, failed]
      rfl
  | case2 i j inside absent =>
      rw [skipTrivia_eq, skipSpace_moved, afterBlanks, if_pos (lt_size_moved.2 inside),
        commentEnd_moved, absent]
      rfl
  | case3 i j inside k found _ _ _ ih =>
      rw [skipTrivia_eq, skipSpace_moved, afterBlanks, if_pos (lt_size_moved.2 inside),
        commentEnd_moved, found]
      exact ih
  | case4 i j past =>
      rw [skipTrivia_eq, skipSpace_moved, afterBlanks, if_neg (mt lt_size_moved.1 past)]
      rfl

theorem skipStatement_moved (i : Nat) :
    skipStatement (w ++ v) (w.size + i) = moveResult w.size (w.size + ·) (skipStatement v i) := by
  -- Each step reads the same byte after the prefix and takes the same step, moved.
  fun_induction skipStatement v i with
  | case1 i inside semi =>
      have inMoved : w.size + i < (w ++ v).size := lt_size_moved.2 inside
      rw [skipStatement_at_semicolon inMoved (getElem_moved inMoved ▸ semi), moveResult_ok,
        Nat.add_assoc]
  | case2 i inside notSemi isQuote next quoted _ ih =>
      have inMoved : w.size + i < (w ++ v).size := lt_size_moved.2 inside
      have byte := getElem_moved inMoved
      rw [skipStatement_at_quote inMoved (byte ▸ notSemi) (byte ▸ isQuote), Literal.skipQuoted_moved,
        quoted, moveResult_ok]
      exact ih
  | case3 i inside notSemi isQuote e quoted =>
      have inMoved : w.size + i < (w ++ v).size := lt_size_moved.2 inside
      have byte := getElem_moved inMoved
      rw [skipStatement_at_quote inMoved (byte ▸ notSemi) (byte ▸ isQuote), Literal.skipQuoted_moved,
        quoted, moveResult_error]
      rfl
  | case4 i inside notSemi notQuote isComment e failed =>
      have inMoved : w.size + i < (w ++ v).size := lt_size_moved.2 inside
      have byte := getElem_moved inMoved
      rw [skipStatement_at_opener inMoved (byte ▸ notSemi) (byte ▸ notQuote) (byte ▸ isComment),
        commentEnd_moved, failed, moveResult_error]
      rfl
  | case5 i inside notSemi notQuote isComment absent ih =>
      have inMoved : w.size + i < (w ++ v).size := lt_size_moved.2 inside
      have byte := getElem_moved inMoved
      rw [skipStatement_at_opener inMoved (byte ▸ notSemi) (byte ▸ notQuote) (byte ▸ isComment),
        commentEnd_moved, absent, moveResult_ok]
      exact ih
  | case6 i inside notSemi notQuote isComment next ended _ ih =>
      have inMoved : w.size + i < (w ++ v).size := lt_size_moved.2 inside
      have byte := getElem_moved inMoved
      rw [skipStatement_at_opener inMoved (byte ▸ notSemi) (byte ▸ notQuote) (byte ▸ isComment),
        commentEnd_moved, ended, moveResult_ok]
      exact ih
  | case7 i inside notSemi notQuote notComment ih =>
      have inMoved : w.size + i < (w ++ v).size := lt_size_moved.2 inside
      have byte := getElem_moved inMoved
      rw [skipStatement_at_other inMoved (byte ▸ notSemi) (byte ▸ notQuote) (byte ▸ notComment),
        Nat.add_assoc, ih]
  | case8 i past =>
      rw [skipStatement, dif_neg (mt lt_size_moved.1 past), moveResult_error,
        ScanError.shift_endOfInput]

theorem readIdent_moved (i : Nat) :
    readIdent (w ++ v) (w.size + i) = (readIdent v i).map (Prod.map id (w.size + ·)) := by
  unfold readIdent
  rw [at_moved]
  cases at? v i with
  | none => rfl
  | some c =>
      simp only
      split
      · rw [Literal.skipQuoted_moved]
        cases quoted : Literal.skipQuoted v i with
        | error e => rfl
        | ok e =>
            -- The closing backtick lies after the opening one, so the name ends before it.
            have closes := (Literal.skipQuoted_bounds quoted).1
            have last : w.size + e - 1 = w.size + (e - 1) := by omega
            simp only [moveResult_ok, Nat.add_assoc, last, ByteArray.extract_append_size_add,
              Option.map_some, Prod.map_apply, id]
      · simp only [skipWhile_moved, Nat.add_left_cancel_iff, ByteArray.extract_append_size_add]
        split
        · rfl
        · rfl

theorem skipModifiers_moved (i : Nat) :
    skipModifiers (w ++ v) (w.size + i) = w.size + skipModifiers v i := by
  unfold skipModifiers
  generalize modifiers = words
  induction words generalizing i with
  | nil => rfl
  | cons word rest ih =>
      simp only [List.foldl_cons, matchWord_moved]
      split
      · rw [Nat.add_assoc, skipSpace_moved, ih]
      · exact ih i

/-- The table an insert header names after its keyword, which ends at `k`, and the position
after the name. -/
def tableAfter (buf : ByteArray) (k : Nat) : Option (ByteArray × Nat) :=
  match readIdent buf (skipModifiers buf (skipSpace buf k)) with
  | none => none
  | some (name, next) => if atEq buf next dot then readIdent buf (next + 1) else some (name, next)

theorem insertHeader_eq (buf : ByteArray) (i : Nat) :
    insertHeader buf i =
      (if matchWord buf i "INSERT" then some (i + 6)
        else if matchWord buf i "REPLACE" then some (i + 7) else none).bind (tableAfter buf) := by
  unfold insertHeader tableAfter
  split
  · rfl
  · split <;> rfl

theorem tableAfter_moved (k : Nat) :
    tableAfter (w ++ v) (w.size + k) = (tableAfter v k).map (Prod.map id (w.size + ·)) := by
  unfold tableAfter
  rw [skipSpace_moved, skipModifiers_moved, readIdent_moved]
  cases readIdent v (skipModifiers v (skipSpace v k)) with
  | none => rfl
  | some found =>
      obtain ⟨name, next⟩ := found
      simp only [Option.map_some, Prod.map_apply, id, atEq_moved]
      split
      · rw [Nat.add_assoc, readIdent_moved]
      · rfl

theorem insertHeader_moved (i : Nat) :
    insertHeader (w ++ v) (w.size + i) = (insertHeader v i).map (Prod.map id (w.size + ·)) := by
  rw [insertHeader_eq, insertHeader_eq]
  simp only [matchWord_moved]
  split
  · rw [Option.bind_some, Option.bind_some, Nat.add_assoc, tableAfter_moved]
  · split
    · rw [Option.bind_some, Option.bind_some, Nat.add_assoc, tableAfter_moved]
    · rfl

theorem skipParens_moved (i : Nat) (depth : Int) :
    skipParens (w ++ v) (w.size + i) depth =
      moveResult w.size (w.size + ·) (skipParens v i depth) := by
  fun_induction skipParens v i depth with
  | case1 i depth inside opens ih =>
      rw [skipParens, dif_pos (lt_size_moved.2 inside), getElem_moved, if_pos opens,
        Nat.add_assoc, ih]
  | case2 i depth inside notOpen closes last =>
      rw [skipParens, dif_pos (lt_size_moved.2 inside), getElem_moved, if_neg notOpen,
        if_pos closes, if_pos last, moveResult_ok, Nat.add_assoc]
  | case3 i depth inside notOpen closes deeper ih =>
      rw [skipParens, dif_pos (lt_size_moved.2 inside), getElem_moved, if_neg notOpen,
        if_pos closes, if_neg deeper, Nat.add_assoc, ih]
  | case4 i depth inside notOpen notClose isQuote next quoted _ ih =>
      have inMoved : w.size + i < (w ++ v).size := lt_size_moved.2 inside
      have byte := getElem_moved inMoved
      rw [skipParens_at_quote inMoved (byte ▸ notOpen) (byte ▸ notClose) (byte ▸ isQuote),
        Literal.skipQuoted_moved, quoted, moveResult_ok]
      exact ih
  | case5 i depth inside notOpen notClose isQuote e quoted =>
      have inMoved : w.size + i < (w ++ v).size := lt_size_moved.2 inside
      have byte := getElem_moved inMoved
      rw [skipParens_at_quote inMoved (byte ▸ notOpen) (byte ▸ notClose) (byte ▸ isQuote),
        Literal.skipQuoted_moved, quoted, moveResult_error]
      rfl
  | case6 i depth inside notOpen notClose notQuote ih =>
      rw [skipParens, dif_pos (lt_size_moved.2 inside), getElem_moved, if_neg notOpen,
        if_neg notClose, if_neg notQuote, Nat.add_assoc, ih]
  | case7 i depth past =>
      rw [skipParens, dif_neg (mt lt_size_moved.1 past), moveResult_error,
        ScanError.shift_endOfInput]

theorem columnsEnd_moved (i : Nat) :
    columnsEnd (w ++ v) (w.size + i) = moveResult w.size (w.size + ·) (columnsEnd v i) := by
  unfold columnsEnd
  rw [atEq_moved]
  split
  · rw [skipParens_moved, moveResult_bind skipTrivia_moved]
  · rfl

theorem keywordAt_moved (i : Nat) :
    keywordAt (w ++ v) (w.size + i) = moveResult w.size (w.size + ·) (keywordAt v i) := by
  unfold keywordAt
  simp only [ByteArray.size_append, ge_iff_le, Nat.add_le_add_iff_left, matchWord_moved,
    ScanError.unexpected_moved, Nat.add_assoc, apply_ite (moveResult w.size (w.size + ·)),
    moveResult_ok, moveResult_error, ScanError.shift_endOfInput]

theorem openTuple_moved (i : Nat) :
    openTuple (w ++ v) (w.size + i) = moveResult w.size (w.size + ·) (openTuple v i) := by
  unfold openTuple
  simp only [ByteArray.size_append, ge_iff_le, Nat.add_le_add_iff_left, atEq_moved,
    ScanError.unexpected_moved, apply_ite (moveResult w.size (w.size + ·)), moveResult_ok,
    moveResult_error, ScanError.shift_endOfInput]

theorem valuesClause_moved (i : Nat) :
    valuesClause (w ++ v) (w.size + i) = moveResult w.size (w.size + ·) (valuesClause v i) := by
  rw [valuesClause_eq, valuesClause_eq, skipTrivia_moved, moveResult_bind columnsEnd_moved,
    moveResult_bind keywordAt_moved, moveResult_bind skipTrivia_moved,
    moveResult_bind openTuple_moved]

end Statement

namespace Value

variable {d o : Nat}

/-! A moved value keeps its content and writes its offsets with the move first. -/

@[simp] theorem shift_text (t : Text) :
    Value.shift d ⟨.text t, o⟩ = ⟨.text { t with origin := t.origin.map (d + ·) }, d + o⟩ := by
  have comm : (fun x => x + d) = (d + ·) := funext fun x => Nat.add_comm x d
  simp only [Value.shift, comm, Nat.add_comm o d]

@[simp] theorem shift_null : Value.shift d ⟨.null, o⟩ = ⟨.null, d + o⟩ := by
  simp only [Value.shift, Nat.add_comm o d]

@[simp] theorem shift_integer (n : Int64) : Value.shift d ⟨.integer n, o⟩ = ⟨.integer n, d + o⟩ := by
  simp only [Value.shift, Nat.add_comm o d]

@[simp] theorem shift_float (x : Float) : Value.shift d ⟨.float x, o⟩ = ⟨.float x, d + o⟩ := by
  simp only [Value.shift, Nat.add_comm o d]

end Value

namespace Literal

variable {w v : ByteArray}

abbrev moveLiteral (d : Nat) : Value × Nat → Value × Nat := Prod.map (Value.shift d) id

theorem unescapeFrom_moved (start i : Nat) (out : ByteArray) :
    unescapeFrom (w ++ v) (w.size + start) (w.size + i) out =
      moveResult w.size (moveLiteral w.size) (unescapeFrom v start i out) := by
  fun_induction unescapeFrom v start i out with
  | case1 i out inside c escape e next ih =>
      have escape : (v[i] == backslash) = true := escape
      rw [unescapeFrom, dif_pos (lt_size_moved.2 inside)]
      simp only [getElem_moved, escape, ↓reduceIte]
      split
      · rename_i e' found
        rw [Nat.add_assoc, at_moved, next, Option.some.injEq] at found
        subst found
        rw [Nat.add_assoc, ih]
      · rename_i found
        rw [Nat.add_assoc, at_moved, next] at found
        cases found
  | case2 i out inside c escape last =>
      have escape : (v[i] == backslash) = true := escape
      rw [unescapeFrom, dif_pos (lt_size_moved.2 inside)]
      simp only [getElem_moved, escape, ↓reduceIte]
      split
      · rename_i e' found
        rw [Nat.add_assoc, at_moved, last] at found
        cases found
      · rw [moveResult_error, ScanError.shift_lexical]
  | case3 i out inside c plain isQuote doubled ih =>
      have plain : ¬ (v[i] == backslash) = true := plain
      have isQuote : (v[i] == singleQuote) = true := isQuote
      rw [unescapeFrom, dif_pos (lt_size_moved.2 inside)]
      simp only [getElem_moved, plain, isQuote, Nat.add_assoc, atEq_moved, doubled,
        Bool.false_eq_true, ↓reduceIte, ih]
  | case4 i out inside c plain isQuote single =>
      have plain : ¬ (v[i] == backslash) = true := plain
      have isQuote : (v[i] == singleQuote) = true := isQuote
      rw [unescapeFrom, dif_pos (lt_size_moved.2 inside)]
      simp only [getElem_moved, plain, isQuote, Nat.add_assoc, atEq_moved, single,
        Bool.false_eq_true, ↓reduceIte, moveResult_ok, Prod.map_apply, Value.shift_text,
        Option.map_none, id, Nat.add_sub_add_left]
  | case5 i out inside c plain other ih =>
      have plain : ¬ (v[i] == backslash) = true := plain
      have other : ¬ (v[i] == singleQuote) = true := other
      rw [unescapeFrom, dif_pos (lt_size_moved.2 inside)]
      simp only [getElem_moved, plain, other, Nat.add_assoc, Bool.false_eq_true, ↓reduceIte]
      exact ih
  | case6 i out past =>
      rw [unescapeFrom, dif_neg (mt lt_size_moved.1 past), moveResult_error,
        ScanError.shift_endOfInput]

theorem stringFrom_moved (start opening i : Nat) :
    stringFrom (w ++ v) (w.size + start) (w.size + opening) (w.size + i) =
      moveResult w.size (moveLiteral w.size) (stringFrom v start opening i) := by
  fun_induction stringFrom v start opening i with
  | case1 i inside c escape =>
      have escape : (v[i] == backslash) = true := escape
      rw [stringFrom, dif_pos (lt_size_moved.2 inside)]
      simp only [getElem_moved, escape, ↓reduceIte, Nat.add_assoc,
        ByteArray.extract_append_size_add, unescapeFrom_moved]
  | case2 i inside c plain isQuote doubled =>
      have plain : ¬ (v[i] == backslash) = true := plain
      have isQuote : (v[i] == singleQuote) = true := isQuote
      rw [stringFrom, dif_pos (lt_size_moved.2 inside)]
      simp only [getElem_moved, plain, isQuote, Nat.add_assoc, atEq_moved, doubled,
        Bool.false_eq_true, ↓reduceIte, ByteArray.extract_append_size_add, unescapeFrom_moved]
  | case3 i inside c plain isQuote single body text =>
      have plain : ¬ (v[i] == backslash) = true := plain
      have isQuote : (v[i] == singleQuote) = true := isQuote
      rw [stringFrom, dif_pos (lt_size_moved.2 inside)]
      simp only [getElem_moved, plain, isQuote, Nat.add_assoc, atEq_moved, single,
        Bool.false_eq_true, ↓reduceIte, ByteArray.extract_append_size_add, moveResult_ok,
        Prod.map_apply, id, Nat.add_sub_add_left, Value.shift_text]
      -- A borrowed body remembers where it starts, which moves with it.
      by_cases valid : Utf8.isValid (v.extract (opening + 1) i) = true <;> simp [text, body, valid]
  | case4 i inside c plain other ih =>
      have plain : ¬ (v[i] == backslash) = true := plain
      have other : ¬ (v[i] == singleQuote) = true := other
      rw [stringFrom, dif_pos (lt_size_moved.2 inside)]
      simp only [getElem_moved, plain, other, Nat.add_assoc, Bool.false_eq_true, ↓reduceIte, ih]
  | case5 i past =>
      rw [stringFrom, dif_neg (mt lt_size_moved.1 past), moveResult_error,
        ScanError.shift_endOfInput]

theorem readString_moved (start opening : Nat) :
    readString (w ++ v) (w.size + start) (w.size + opening) =
      moveResult w.size (moveLiteral w.size) (readString v start opening) := by
  rw [readString, readString, Nat.add_assoc, stringFrom_moved]

theorem numberTextEnd_moved (start e : Nat) :
    numberTextEnd (w ++ v) (w.size + start) (w.size + e) = w.size + numberTextEnd v start e := by
  fun_induction numberTextEnd v start e with
  | case1 e inside c goesOn ih =>
      have goesOn : (e - start < 64 &&
          (isWordByte v[e] || v[e] == dot || v[e] == minus || v[e] == plus)) = true := goesOn
      rw [numberTextEnd, dif_pos (lt_size_moved.2 inside)]
      simp only [getElem_moved, Nat.add_sub_add_left, goesOn, ↓reduceIte, Nat.add_assoc, ih]
  | case2 e inside c stops =>
      have stops : ¬ (e - start < 64 &&
          (isWordByte v[e] || v[e] == dot || v[e] == minus || v[e] == plus)) = true := stops
      rw [numberTextEnd, dif_pos (lt_size_moved.2 inside)]
      simp only [getElem_moved, Nat.add_sub_add_left, stops, Bool.false_eq_true, ↓reduceIte]
  | case3 e past => rw [numberTextEnd, dif_neg (mt lt_size_moved.1 past)]

theorem numberError_moved (start stop : Nat) :
    numberError (w ++ v) (w.size + start) (w.size + stop) = (numberError v start stop).shift w.size := by
  rw [numberError, numberError, numberTextEnd_moved, ByteArray.extract_append_size_add,
    ScanError.shift_lexical]

theorem fractionPart_moved (pos digitsEnd : Nat) :
    fractionPart (w ++ v) (w.size + pos) (w.size + digitsEnd) =
      moveResult w.size (Prod.map (w.size + ·) id) (fractionPart v pos digitsEnd) := by
  simp only [fractionPart, atEq_moved, Nat.add_assoc, skipWhile_moved, Nat.add_left_cancel_iff,
    numberError_moved, apply_ite (moveResult w.size (Prod.map (w.size + ·) id)), moveResult_ok,
    moveResult_error, Prod.map_apply, id]

theorem exponentPart_moved (pos i : Nat) :
    exponentPart (w ++ v) (w.size + pos) (w.size + i) =
      moveResult w.size (Prod.map (w.size + ·) id) (exponentPart v pos i) := by
  unfold exponentPart
  simp only [atEq_moved, Nat.add_assoc]
  split
  · -- The digits of the exponent start after its sign, at the same byte moved.
    by_cases signed : (atEq v (i + 1) minus || atEq v (i + 1) plus) = true
    · simp only [signed, ↓reduceIte, skipWhile_moved, Nat.add_left_cancel_iff, numberError_moved,
        apply_ite (moveResult w.size (Prod.map (w.size + ·) id)), moveResult_ok, moveResult_error,
        Prod.map_apply, id]
    · simp only [signed, Bool.false_eq_true, ↓reduceIte, skipWhile_moved, Nat.add_left_cancel_iff,
        numberError_moved, apply_ite (moveResult w.size (Prod.map (w.size + ·) id)),
        moveResult_ok, moveResult_error, Prod.map_apply, id]
  · rfl

theorem numberValue_moved (pos i : Nat) (hasFraction hasExponent : Bool) :
    numberValue (w ++ v) (w.size + pos) (w.size + i) hasFraction hasExponent =
      moveResult w.size (moveLiteral w.size) (numberValue v pos i hasFraction hasExponent) := by
  unfold numberValue
  rw [atIs_moved, ByteArray.extract_append_size_add, Nat.add_sub_add_left]
  split
  · rw [numberError_moved, moveResult_error]
  · dsimp only
    split
    · cases Numeral.readFloat (asciiText (v.extract pos i)) with
      | ok x => simp only [moveResult_ok, Prod.map_apply, Value.shift_float, id]
      | error _ => rw [numberError_moved, moveResult_error]
    · cases Numeral.readInt (asciiText (v.extract pos i)) 64 with
      | ok n => simp only [moveResult_ok, Prod.map_apply, Value.shift_integer, id]
      | error _ => rw [numberError_moved, moveResult_error]

theorem readNumber_moved (pos : Nat) :
    readNumber (w ++ v) (w.size + pos) = moveResult w.size (moveLiteral w.size) (readNumber v pos) := by
  rw [readNumber_eq, readNumber_eq]
  simp only [atEq_moved]
  -- The digits start after the sign, at the same byte moved.
  have sign : (if (atEq v pos minus || atEq v pos plus) = true then w.size + pos + 1 else w.size + pos) =
      w.size + (if (atEq v pos minus || atEq v pos plus) = true then pos + 1 else pos) := by
    split <;> rfl
  simp only [sign]
  generalize (if (atEq v pos minus || atEq v pos plus) = true then pos + 1 else pos) = afterSign
  simp only [skipWhile_moved, Nat.add_left_cancel_iff, ByteArray.size_append, ge_iff_le,
    Nat.add_le_add_iff_left]
  split
  · split
    · rw [moveResult_error, ScanError.shift_endOfInput]
    · rw [numberError_moved, moveResult_error]
  · rw [fractionPart_moved]
    cases fractionPart v pos (skipWhile isDigit v afterSign) with
    | error e => rfl
    | ok found =>
        obtain ⟨i, hasFraction⟩ := found
        simp only [moveResult_ok, Prod.map_apply, id]
        rw [exponentPart_moved]
        cases exponentPart v pos i with
        | error e => rfl
        | ok found =>
            obtain ⟨i', hasExponent⟩ := found
            simp only [moveResult_ok, Prod.map_apply, id]
            exact numberValue_moved pos i' hasFraction hasExponent

theorem readHex_moved (pos : Nat) :
    readHex (w ++ v) (w.size + pos) = moveResult w.size (moveLiteral w.size) (readHex v pos) := by
  simp only [readHex, Nat.add_assoc, skipWhile_moved, Nat.add_left_cancel_iff, atIs_moved,
    numberError_moved, ByteArray.extract_append_size_add, Nat.add_sub_add_left,
    apply_ite (moveResult w.size (moveLiteral w.size)), moveResult_ok, moveResult_error,
    Prod.map_apply, Value.shift_text, Option.map_none, id]

theorem readQuotedHex_moved (pos : Nat) :
    readQuotedHex (w ++ v) (w.size + pos) =
      moveResult w.size (moveLiteral w.size) (readQuotedHex v pos) := by
  simp only [readQuotedHex, Nat.add_assoc, skipWhile_moved, ByteArray.size_append, ge_iff_le,
    Nat.add_le_add_iff_left, atEq_moved, numberError_moved, ByteArray.extract_append_size_add,
    Nat.add_sub_add_left, apply_ite (moveResult w.size (moveLiteral w.size)), moveResult_ok,
    moveResult_error, ScanError.shift_endOfInput, Prod.map_apply, Value.shift_text,
    Option.map_none, id]

theorem readIntroduced_moved (pos : Nat) :
    readIntroduced (w ++ v) (w.size + pos) =
      moveResult w.size (moveLiteral w.size) (readIntroduced v pos) := by
  simp only [readIntroduced, Nat.add_assoc, skipWhile_moved, Nat.add_left_cancel_iff,
    skipSpace_moved, ByteArray.size_append, ge_iff_le, Nat.add_le_add_iff_left, atEq_moved,
    ScanError.unexpected_moved, readString_moved,
    apply_ite (moveResult w.size (moveLiteral w.size)), moveResult_error,
    ScanError.shift_endOfInput]

theorem read_moved (pos : Nat) :
    read (w ++ v) (w.size + pos) = moveResult w.size (moveLiteral w.size) (read v pos) := by
  unfold read
  rw [at_moved]
  cases at? v pos with
  | none => rw [moveResult_error, ScanError.shift_endOfInput]
  | some c =>
      simp only [readString_moved, matchWord_moved, Nat.add_assoc, atEq_moved, readHex_moved,
        readQuotedHex_moved, readNumber_moved, readIntroduced_moved,
        ScanError.unexpected_moved, apply_ite (moveResult w.size (moveLiteral w.size)),
        moveResult_ok, moveResult_error, Prod.map_apply, Value.shift_null, id]

theorem read_moved_of_ok {pos n : Nat} {val : Value} (literal : read v pos = .ok (val, n)) :
    read (w ++ v) (w.size + pos) = .ok (val.shift w.size, n) := by
  rw [read_moved, literal]
  rfl

end Literal

/-- A tuple read `d` bytes further into a buffer: its values, its end and its error moved. -/
def TupleRead.shift (d : Nat) (t : TupleRead) : TupleRead :=
  ⟨t.values.map (Value.shift d), d + t.next, t.error.map (ScanError.shift d)⟩

@[simp] theorem TupleRead.shift_mk (d : Nat) (values : Array Value) (next : Nat)
    (error : Option ScanError) :
    TupleRead.shift d ⟨values, next, error⟩ =
      ⟨values.map (Value.shift d), d + next, error.map (ScanError.shift d)⟩ := rfl

namespace Tuple

variable {w v : ByteArray}

theorem readItems_of_literal {buf : ByteArray} {start : Nat} {width : Int} {i : Nat}
    {values : Array Value} {val : Value} {n : Nat} (inside : i < buf.size)
    (literal : Literal.read buf i = .ok (val, n)) :
    readItems buf start width i values =
      match at? buf (skipSpace buf (i + n)) with
      | none => ⟨values.push val, skipSpace buf (i + n),
          some (ScanError.endOfInput (skipSpace buf (i + n)) "',' or ')'")⟩
      | some c =>
        if c == comma then
          readItems buf start width (skipSpace buf (skipSpace buf (i + n) + 1)) (values.push val)
        else if c == closeParen then
          if ((values.push val).size : Int) = width then
            ⟨values.push val, skipSpace buf (i + n) + 1, none⟩
          else ⟨values.push val, skipSpace buf (i + n),
            some (.columnCount "" start width (values.push val).size)⟩
        else ⟨values.push val, skipSpace buf (i + n),
          some (ScanError.unexpected buf (skipSpace buf (i + n)) "',' or ')'")⟩ := by
  rw [readItems, if_neg (Nat.not_le_of_lt inside), literal]
  dsimp only
  split
  · rename_i absent
    rw [absent]
  · rename_i c present
    rw [present]

theorem readItems_moved (start : Nat) (width : Int) (i : Nat) (values : Array Value) :
    readItems (w ++ v) (w.size + start) width (w.size + i) (values.map (Value.shift w.size)) =
      (readItems v start width i values).shift w.size := by
  fun_induction readItems v start width i values with
  | case1 i values past =>
      rw [readItems, if_pos (by rw [ByteArray.size_append]; omega)]
      simp
  | case2 i values inside e failed =>
      rw [readItems, if_neg (by rw [ByteArray.size_append]; omega), Literal.read_moved, failed]
      simp
  | case3 i values inside val n literal pushed j absent =>
      have absent : at? v (skipSpace v (i + n)) = none := absent
      rw [readItems_of_literal (lt_size_moved.2 (Nat.lt_of_not_le inside))
        (Literal.read_moved_of_ok literal)]
      simp [Nat.add_assoc, skipSpace_moved, absent, pushed, j]
  | case4 i values inside val n literal pushed j c found isComma _ _ _ _ ih =>
      have found : at? v (skipSpace v (i + n)) = some c := found
      rw [readItems_of_literal (lt_size_moved.2 (Nat.lt_of_not_le inside))
        (Literal.read_moved_of_ok literal)]
      simp only [Nat.add_assoc, skipSpace_moved, at_moved, found, isComma, ↓reduceIte,
        ← Array.map_push]
      exact ih
  | case5 i values inside val n literal pushed j c found notComma isClose complete =>
      have found : at? v (skipSpace v (i + n)) = some c := found
      rw [readItems_of_literal (lt_size_moved.2 (Nat.lt_of_not_le inside))
        (Literal.read_moved_of_ok literal)]
      simp [pushed] at complete
      simp [Nat.add_assoc, skipSpace_moved, found, notComma, isClose, complete, pushed, j]
  | case6 i values inside val n literal pushed j c found notComma isClose short =>
      have found : at? v (skipSpace v (i + n)) = some c := found
      rw [readItems_of_literal (lt_size_moved.2 (Nat.lt_of_not_le inside))
        (Literal.read_moved_of_ok literal)]
      simp [pushed] at short
      simp [Nat.add_assoc, skipSpace_moved, found, notComma, isClose, short, pushed, j]
  | case7 i values inside val n literal pushed j c found notComma notClose =>
      have found : at? v (skipSpace v (i + n)) = some c := found
      rw [readItems_of_literal (lt_size_moved.2 (Nat.lt_of_not_le inside))
        (Literal.read_moved_of_ok literal)]
      simp [Nat.add_assoc, skipSpace_moved, found, notComma, notClose, ScanError.unexpected_moved,
        pushed, j]

theorem read_moved (pos : Nat) (width : Int) :
    read (w ++ v) (w.size + pos) width = (read v pos width).shift w.size := by
  unfold read
  rw [at_moved]
  cases at? v pos with
  | none => simp
  | some c =>
      simp only [ScanError.unexpected_moved, Nat.add_assoc, skipSpace_moved, atEq_moved,
        apply_ite (TupleRead.shift w.size), TupleRead.shift_mk, Array.map_empty, Option.map_some,
        Option.map_none, ScanError.shift_columnCount]
      split
      · rfl
      · split
        · rfl
        · have items := readItems_moved (w := w) (v := v) pos width (skipSpace v (pos + 1)) #[]
          rw [Array.map_empty] at items
          exact items

end Tuple

end WikiDump

