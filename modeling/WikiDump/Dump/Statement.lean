import WikiDump.Dump.Literal
/-!
# Statements of a dump

A dump is a sequence of statements ended by `;`, with blanks, comments and empty statements
between them. Comments are `#` to the end of the line, `--` followed by a blank or the end of the
buffer to the end of the line, and `/* … */`, which also holds the conditional comments
`/*!NNNNN … */`. Inside a statement, quoted tokens and comments are skipped whole, so a `;`
inside them does not end the statement.

An `INSERT` or `REPLACE` statement names its table after optional modifiers
(`LOW_PRIORITY`, `DELAYED`, `HIGH_PRIORITY`, `IGNORE`, `INTO`, in this order), as a bare word
or a backtick-quoted name, possibly qualified by a database name; after an optional column
list comes `VALUES` or `VALUE` and the first `(` of its tuples, the body.

Every step here moves forward: the lemmas beside the definitions say by how much, and they are
what makes the loops of the scanner end.
-/

namespace WikiDump

open Bytes

namespace Literal

theorem skipQuotedFrom_gt {buf : ByteArray} {quote : UInt8} {i j : Nat}
    (h : skipQuotedFrom buf quote i = .ok j) : i < j := by
  revert h
  fun_induction skipQuotedFrom buf quote i
  all_goals intro h
  all_goals (try simp_all)
  all_goals omega

theorem skipQuotedFrom_le {buf : ByteArray} {quote : UInt8} {i j : Nat}
    (h : skipQuotedFrom buf quote i = .ok j) : j ≤ buf.size := by
  revert h
  fun_induction skipQuotedFrom buf quote i
  all_goals intro h
  all_goals (try simp_all)
  all_goals omega

theorem skipQuoted_bounds {buf : ByteArray} {i j : Nat} (h : skipQuoted buf i = .ok j) :
    i < j ∧ j ≤ buf.size := by
  unfold skipQuoted at h
  split at h
  · exact ⟨by have := skipQuotedFrom_gt h; omega, skipQuotedFrom_le h⟩
  · cases h

end Literal

namespace Statement

/-- Whether a statement inserts rows. -/
inductive Kind where
  | insert
  | other
  deriving Repr, BEq, DecidableEq, Inhabited

end Statement

/-- A statement found in a dump: where it starts, where its tuples start when it inserts rows
into a table, and the position after its `;`. -/
structure Statement where
  kind : Statement.Kind
  /-- The table an insert names; empty for other statements. -/
  table : ByteArray
  start : Nat
  body : Option Nat
  stop : Nat
  deriving Inhabited

namespace Statement

def skipLine (buf : ByteArray) (i : Nat) : Nat :=
  if h : i < buf.size then
    if buf[i] == newline then i + 1 else skipLine buf (i + 1)
  else buf.size
termination_by buf.size - i

theorem skipLine_bounds (buf : ByteArray) (i : Nat) (h : i < buf.size) :
    i < skipLine buf i ∧ skipLine buf i ≤ buf.size := by
  unfold skipLine
  rw [dif_pos h]
  split
  · omega
  · by_cases h' : i + 1 < buf.size
    · have := skipLine_bounds buf (i + 1) h'; omega
    · unfold skipLine; rw [dif_neg h']; omega
termination_by buf.size - i

def closeComment (buf : ByteArray) (i : Nat) : Option Nat :=
  if h : i + 1 < buf.size then
    if buf[i]? == some star && buf[i + 1]? == some slash then some (i + 2) else closeComment buf (i + 1)
  else none
termination_by buf.size - i

theorem closeComment_bounds {buf : ByteArray} {i j : Nat} (h : closeComment buf i = some j) :
    i + 2 ≤ j ∧ j ≤ buf.size := by
  unfold closeComment at h
  split at h
  · split at h
    · cases h; omega
    · have := closeComment_bounds h; omega
  · cases h
termination_by buf.size - i

/-- The end of the comment that starts at `i`; `none` when no comment starts there, and an
error for a block comment that is never closed. -/
def commentEnd (buf : ByteArray) (i : Nat) : Except ScanError (Option Nat) :=
  match at? buf i with
  | some c =>
    if c == hash then .ok (some (skipLine buf i))
    else if c == minus && atEq buf (i + 1) minus &&
        (i + 2 == buf.size || atIs buf (i + 2) isSpace) then .ok (some (skipLine buf i))
    else if c == slash && atEq buf (i + 1) star then
      match closeComment buf (i + 2) with
      | some j => .ok (some j)
      | none => .error (ScanError.endOfInput buf.size "'*/'")
    else .ok none
  | none => .ok none

theorem commentEnd_bounds {buf : ByteArray} {i j : Nat} (h : commentEnd buf i = .ok (some j)) :
    i < j ∧ j ≤ buf.size := by
  unfold commentEnd at h
  split at h
  · rename_i c hc
    have hi : i < buf.size := by
      unfold at? at hc; split at hc
      · assumption
      · cases hc
    split at h
    · cases h; exact skipLine_bounds buf i hi
    · split at h
      · cases h; exact skipLine_bounds buf i hi
      · split at h
        · split at h
          · cases h; rename_i hj; have := closeComment_bounds hj; omega
          · cases h
        · cases h
  · cases h

def skipTrivia (buf : ByteArray) (i : Nat) : Except ScanError Nat :=
  let j := skipSpace buf i
  if hj : j < buf.size then
    match h : commentEnd buf j with
    | .error e => .error e
    | .ok none => .ok j
    | .ok (some k) =>
      have : j < k := (commentEnd_bounds h).1
      have : i ≤ j := le_skipWhile _ _ _
      have : buf.size - k < buf.size - i := by omega
      skipTrivia buf k
  else .ok j
termination_by buf.size - i

theorem skipTrivia_ge {buf : ByteArray} {i j : Nat} (h : skipTrivia buf i = .ok j) : i ≤ j := by
  revert h
  fun_induction skipTrivia buf i with
  | case1 i _ _ e _ => intro h; simp_all
  | case2 i j' hj hc => intro h; injection h with h; rw [← h]; exact le_skipWhile _ _ _
  | case3 i j hj k hc _ _ _ ih => intro h; have := ih h; have : i ≤ j := le_skipWhile _ _ _; omega
  | case4 i j' hj => intro h; injection h with h; rw [← h]; exact le_skipWhile _ _ _

/-- The position after the `;` that ends the statement running at `i`. -/
def skipStatement (buf : ByteArray) (i : Nat) : Except ScanError Nat :=
  if h : i < buf.size then
    if buf[i] == semicolon then .ok (i + 1)
    else if buf[i] == singleQuote || buf[i] == doubleQuote || buf[i] == backtick then
      match hq : Literal.skipQuoted buf i with
      | .ok next =>
        have := (Literal.skipQuoted_bounds hq).1
        skipStatement buf next
      | .error e => .error e
    else if buf[i] == hash || buf[i] == minus || buf[i] == slash then
      match hc : commentEnd buf i with
      | .error e => .error e
      | .ok none => skipStatement buf (i + 1)
      | .ok (some next) =>
        have := (commentEnd_bounds hc).1
        skipStatement buf next
    else skipStatement buf (i + 1)
  else .error (ScanError.endOfInput i "';'")
termination_by buf.size - i

theorem skipStatement_bounds {buf : ByteArray} {i j : Nat} (h : skipStatement buf i = .ok j) :
    i < j ∧ j ≤ buf.size := by
  revert h
  fun_induction skipStatement buf i with
  | case1 => intro h; simp_all; omega
  | case2 i _ _ _ next hq _ ih =>
    intro h; have := (Literal.skipQuoted_bounds hq).1; have := ih h; omega
  | case3 => intro h; simp_all
  | case4 => intro h; simp_all
  | case5 i _ _ _ _ _ ih => intro h; have := ih h; omega
  | case6 i _ _ _ _ next hc _ ih =>
    intro h; have := (commentEnd_bounds hc).1; have := ih h; omega
  | case7 i _ _ _ _ ih => intro h; have := ih h; omega
  | case8 => intro h; simp_all

def undoubleBackticks : List UInt8 → List UInt8
  | a :: b :: rest =>
    if a == backtick && b == backtick then backtick :: undoubleBackticks rest
    else a :: undoubleBackticks (b :: rest)
  | rest => rest

def readIdent (buf : ByteArray) (i : Nat) : Option (ByteArray × Nat) :=
  match at? buf i with
  | none => none
  | some c =>
    if c == backtick then
      match Literal.skipQuoted buf i with
      | .error _ => none
      | .ok e => some (⟨(undoubleBackticks (buf.extract (i + 1) (e - 1)).toList).toArray⟩, e)
    else
      let j := skipWhile isWordByte buf i
      if j = i then none else some (buf.extract i j, j)

theorem readIdent_gt {buf : ByteArray} {i j : Nat} {name : ByteArray}
    (h : readIdent buf i = some (name, j)) : i < j := by
  unfold readIdent at h
  split at h
  · cases h
  · split at h
    · split at h
      · cases h
      · cases h; rename_i e he; exact (Literal.skipQuoted_bounds he).1
    · simp only at h
      split at h
      · cases h
      · cases h; have := le_skipWhile isWordByte buf i; omega

def modifiers : List String := ["LOW_PRIORITY", "DELAYED", "HIGH_PRIORITY", "IGNORE", "INTO"]

def skipModifiers (buf : ByteArray) (i : Nat) : Nat :=
  modifiers.foldl
    (fun k m => if matchWord buf k m then skipSpace buf (k + m.utf8ByteSize) else k) i

theorem le_skipModifiers (buf : ByteArray) (i : Nat) : i ≤ skipModifiers buf i := by
  unfold skipModifiers
  generalize modifiers = ms
  induction ms generalizing i with
  | nil => exact Nat.le_refl i
  | cons m rest ih =>
    simp only [List.foldl_cons]
    refine Nat.le_trans ?_ (ih _)
    split
    · exact Nat.le_trans (Nat.le_add_right i _) (le_skipWhile _ _ _)
    · exact Nat.le_refl i

def insertHeader (buf : ByteArray) (i : Nat) : Option (ByteArray × Nat) :=
  let keywordEnd :=
    if matchWord buf i "INSERT" then some (i + 6)
    else if matchWord buf i "REPLACE" then some (i + 7) else none
  match keywordEnd with
  | none => none
  | some k =>
    match readIdent buf (skipModifiers buf (skipSpace buf k)) with
    | none => none
    | some (name, next) =>
      if atEq buf next dot then readIdent buf (next + 1) else some (name, next)

theorem insertHeader_gt {buf : ByteArray} {i j : Nat} {name : ByteArray}
    (h : insertHeader buf i = some (name, j)) : i < j := by
  unfold insertHeader at h
  simp only at h
  have hk : ∀ k, (if matchWord buf i "INSERT" then some (i + 6)
      else if matchWord buf i "REPLACE" then some (i + 7) else none) = some k → i < k := by
    intro k hk
    split at hk
    · cases hk; omega
    · split at hk
      · cases hk; omega
      · cases hk
  split at h
  · cases h
  · rename_i k hkey
    have hik := hk k hkey
    have h1 : k ≤ skipSpace buf k := le_skipWhile _ _ _
    have h2 := le_skipModifiers buf (skipSpace buf k)
    split at h
    · cases h
    · rename_i name' next hid
      have := readIdent_gt hid
      split at h
      · have := readIdent_gt h; omega
      · cases h; omega

def skipParens (buf : ByteArray) (i : Nat) (depth : Int) : Except ScanError Nat :=
  if h : i < buf.size then
    if buf[i] == openParen then skipParens buf (i + 1) (depth + 1)
    else if buf[i] == closeParen then
      if depth - 1 = 0 then .ok (i + 1) else skipParens buf (i + 1) (depth - 1)
    else if buf[i] == singleQuote || buf[i] == doubleQuote || buf[i] == backtick then
      match hq : Literal.skipQuoted buf i with
      | .ok next =>
        have := (Literal.skipQuoted_bounds hq).1
        skipParens buf next depth
      | .error e => .error e
    else skipParens buf (i + 1) depth
  else .error (ScanError.endOfInput i "')'")
termination_by buf.size - i

theorem skipParens_ge {buf : ByteArray} {i j : Nat} {depth : Int}
    (h : skipParens buf i depth = .ok j) : i ≤ j := by
  revert h
  fun_induction skipParens buf i depth with
  | case1 i _ _ _ ih => intro h; have := ih h; omega
  | case2 => intro h; simp_all; omega
  | case3 i _ _ _ _ _ ih => intro h; have := ih h; omega
  | case4 i depth _ _ _ _ next hq _ ih =>
    intro h; have := (Literal.skipQuoted_bounds hq).1; have := ih h; omega
  | case5 => intro h; simp_all
  | case6 i _ _ _ _ _ ih => intro h; have := ih h; omega
  | case7 => intro h; simp_all

/-- After an insert's table name at `i`: an optional column list, then `VALUES` or `VALUE`,
then the position of the first tuple's `(`. -/
def valuesClause (buf : ByteArray) (i : Nat) : Except ScanError Nat := do
  let i ← skipTrivia buf i
  let i ← if atEq buf i openParen then skipParens buf i 0 >>= skipTrivia buf else pure i
  if i ≥ buf.size then throw (ScanError.endOfInput i "VALUES")
  let k ←
    if matchWord buf i "VALUES" then pure (i + 6)
    else if matchWord buf i "VALUE" then pure (i + 5)
    else throw (ScanError.unexpected buf i "VALUES")
  let i ← skipTrivia buf k
  if i ≥ buf.size then throw (ScanError.endOfInput i "'('")
  if !atEq buf i openParen then throw (ScanError.unexpected buf i "'('")
  pure i

/-- The next statement at or after `pos`, `none` at the end of the buffer. -/
def next (buf : ByteArray) (pos : Nat) : Except ScanError (Option Statement) :=
  match h : skipTrivia buf pos with
  | .error e => .error e
  | .ok i =>
    if hi : i < buf.size then
      if buf[i] == semicolon then
        have := skipTrivia_ge h
        next buf (i + 1)
      else if !isWordByte buf[i] then .error (ScanError.unexpected buf i "statement")
      else
        let (kind, table, body) :=
          match insertHeader buf i with
          | some (name, after) =>
            (Kind.insert, name, match valuesClause buf after with
              | .ok b => some b
              | .error _ => none)
          | none => (Kind.other, ByteArray.empty, none)
        match skipStatement buf i with
        | .error e => .error e
        | .ok stop => .ok (some ⟨kind, table, i, body, stop⟩)
    else .ok none
termination_by buf.size - pos

def nextChecked (buf : ByteArray) (pos : Int) : Except Fault (Except ScanError (Option Statement)) :=
  if pos < 0 then .error (.bounds .index pos buf.size) else .ok (next buf pos.toNat)

def sameName (a b : ByteArray) : Bool :=
  let lowerAscii := fun (c : UInt8) => if 0x41 ≤ c && c ≤ 0x5A then c + 0x20 else c
  a.size == b.size && (a.toList.zip b.toList).all (fun (x, y) => lowerAscii x == lowerAscii y)

end Statement

end WikiDump

