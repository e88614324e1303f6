import WikiDump.Proofs.ReadErrors
import WikiDump.Proofs.KnownBytes
/-!
# The grammar of a tuple

A tuple is `(`, blanks, then either `)` at once or a list of literals separated by `,` with blanks
around each, and `)` after the last. `Tuple.Parenthesized` lays this out position by position,
each literal being what `Literal.read` reads where it stands; blanks are any run of the six ASCII
blanks (`Tuple.Blanks`). The relation is declarative: it does not say where a literal ends by
skipping blanks, it only asks that what stands between two tokens be blanks.

Reading a tuple of a given width accepts exactly the tuples of the grammar with that many
literals (`Tuple.read_parenthesized`): the values read are the literals' values in order, with
their offsets in the buffer, and reading stops one past the `)`. A tuple of the grammar with
another number of literals is refused with a column count error that names the width, the number
of literals and the position of the `(`.
-/

namespace WikiDump

open Bytes

namespace Tuple

variable {buf : ByteArray}

/-- Blanks stand from `i` up to `j`. -/
def Blanks (buf : ByteArray) (i j : Nat) : Prop :=
  ∃ ws : List UInt8, Occurs buf i ws ∧ (∀ b ∈ ws, isSpace b = true) ∧ j = i + ws.length

theorem blanks_skipSpace (buf : ByteArray) (i : Nat) : Blanks buf i (skipSpace buf i) := by
  unfold skipSpace
  fun_induction skipWhile isSpace buf i with
  | case1 i inside blank ih =>
      obtain ⟨ws, occ, all, stop⟩ := ih
      refine ⟨buf[i] :: ws, ?_, ?_, ?_⟩
      · exact (Occurs.singleton (Statement.at_of_lt inside)).append (a := [buf[i]]) occ
      · intro b member
        rcases List.mem_cons.1 member with rfl | later
        · exact blank
        · exact all b later
      · rw [stop, List.length_cons]
        omega
  | case2 i => exact ⟨[], Occurs.nil, by simp, rfl⟩
  | case3 i => exact ⟨[], Occurs.nil, by simp, rfl⟩

theorem skipSpace_of_blanks {i j : Nat} (blanks : Blanks buf i j)
    (stops : atIs buf j isSpace = false) : skipSpace buf i = j := by
  obtain ⟨ws, occ, all, rfl⟩ := blanks
  unfold skipSpace
  rw [skipWhile_run occ all]
  cases found : at? buf (i + ws.length) with
  | none =>
      have past := size_le_of_at_none found
      unfold skipWhile
      rw [dif_neg (by omega)]
  | some c =>
      unfold atIs at stops
      rw [found] at stops
      exact skipWhile_stop found stops

/-- The literals of a tuple from `i` on, each read by `Literal.read`, separated by `,` with
blanks around, and the `)` after the last: their values and the position after the `)`. -/
inductive Literals (buf : ByteArray) : Nat → List Value → Nat → Prop where
  | last {i n j : Nat} {v : Value} (literal : Literal.read buf i = .ok (v, n))
      (blanks : Blanks buf (i + n) j) (close : at? buf j = some closeParen) :
      Literals buf i [v] (j + 1)
  | more {i n j k next : Nat} {v : Value} {rest : List Value}
      (literal : Literal.read buf i = .ok (v, n)) (blanks : Blanks buf (i + n) j)
      (separator : at? buf j = some comma) (spaced : Blanks buf (j + 1) k)
      (later : Literals buf k rest next) : Literals buf i (v :: rest) next

/-- A tuple at `pos`: `(`, blanks, and then `)` or its literals. -/
inductive Parenthesized (buf : ByteArray) (pos : Nat) : List Value → Nat → Prop where
  | empty {i : Nat} (opens : at? buf pos = some openParen) (blanks : Blanks buf (pos + 1) i)
      (close : at? buf i = some closeParen) : Parenthesized buf pos [] (i + 1)
  | items {i next : Nat} {values : List Value} (opens : at? buf pos = some openParen)
      (blanks : Blanks buf (pos + 1) i) (literals : Literals buf i values next) :
      Parenthesized buf pos values next

/-! ## Reading the literals -/

theorem atIs_of_at {i : Nat} {c : UInt8} (found : at? buf i = some c) (p : UInt8 → Bool) :
    atIs buf i p = p c := by
  unfold atIs
  rw [found]

theorem read_of_isSpace {i : Nat} {c : UInt8} (found : at? buf i = some c) (blank : isSpace c = true) :
    Literal.read buf i = .error (ScanError.unexpected buf i "literal") := by
  unfold Literal.read
  rw [found]
  simp only [isSpace, Bool.or_eq_true, beq_iff_eq] at blank
  rcases blank with ((((rfl | rfl) | rfl) | rfl) | rfl) | rfl <;> rfl

theorem read_start {i n : Nat} {v : Value} (literal : Literal.read buf i = .ok (v, n)) :
    i < buf.size ∧ atIs buf i isSpace = false := by
  cases found : at? buf i with
  | none =>
      unfold Literal.read at literal
      rw [found] at literal
      cases literal
  | some c =>
      refine ⟨Statement.lt_size_of_at found, ?_⟩
      rw [atIs_of_at found]
      cases blank : isSpace c with
      | false => rfl
      | true =>
          rw [read_of_isSpace found blank] at literal
          cases literal

theorem Literals.first {i next : Nat} {values : List Value} (literals : Literals buf i values next) :
    ∃ v n, Literal.read buf i = .ok (v, n) := by
  cases literals with
  | last literal => exact ⟨_, _, literal⟩
  | more literal => exact ⟨_, _, literal⟩

theorem Literals.start {i next : Nat} {values : List Value} (literals : Literals buf i values next) :
    i < buf.size ∧ atIs buf i isSpace = false := by
  obtain ⟨_, _, literal⟩ := literals.first
  exact read_start literal

theorem Literals.after_first {i n next : Nat} {v : Value} {values : List Value}
    (literals : Literals buf i values next) (read : Literal.read buf i = .ok (v, n)) :
    (values = [v] ∧ at? buf (skipSpace buf (i + n)) = some closeParen ∧
        next = skipSpace buf (i + n) + 1) ∨
      ∃ rest, values = v :: rest ∧ at? buf (skipSpace buf (i + n)) = some comma ∧
        Literals buf (skipSpace buf (skipSpace buf (i + n) + 1)) rest next := by
  cases literals with
  | last literal blanks close =>
      rw [read] at literal
      cases literal
      have ends := skipSpace_of_blanks blanks (by rw [atIs_of_at close]; rfl)
      exact .inl ⟨rfl, ends ▸ close, ends ▸ rfl⟩
  | more literal blanks separator spaced later =>
      rw [read] at literal
      cases literal
      have ends := skipSpace_of_blanks blanks (by rw [atIs_of_at separator]; rfl)
      have resumes := skipSpace_of_blanks spaced later.start.2
      exact .inr ⟨_, rfl, ends ▸ separator, by rw [ends, resumes]; exact later⟩

theorem readItems_of_literals {start : Nat} {width : Int} {i : Nat} {acc : Array Value} :
    ∀ {values : List Value} {next : Nat}, Literals buf i values next →
      readItems buf start width i acc =
        if ((acc.size + values.length : Nat) : Int) = width then ⟨acc ++ values.toArray, next, none⟩
        else ⟨acc ++ values.toArray, next - 1,
          some (.columnCount "" start width (acc.size + values.length))⟩ := by
  -- Each step of the reader meets the token the grammar puts after the literal it read.
  fun_induction readItems buf start width i acc with
  | case1 i acc past =>
      intro values next literals
      exact absurd literals.start.1 (by omega)
  | case2 i acc _ e unread =>
      intro values next literals
      obtain ⟨v, n, read⟩ := literals.first
      rw [unread] at read
      cases read
  | case3 i acc _ v n read _ =>
      rename_i j absent
      intro values next literals
      rcases literals.after_first read with ⟨-, close, -⟩ | ⟨-, -, separator, -⟩
      · rw [close] at absent
        cases absent
      · rw [separator] at absent
        cases absent
  | case4 i acc _ v n read _ j c found isComma _ _ _ =>
      rename_i _ ih
      intro values next literals
      rcases literals.after_first read with ⟨-, close, -⟩ | ⟨rest, rfl, -, later⟩
      · -- a `,` where the grammar has the closing `)`
        rw [close] at found
        cases found
        cases isComma
      · rw [ih later]
        have sizes : (acc.push v).size + rest.length = acc.size + (v :: rest).length := by
          simp only [Array.size_push, List.length_cons]
          omega
        have arrays : acc.push v ++ rest.toArray = acc ++ (v :: rest).toArray := by simp
        rw [sizes, arrays]
  | case5 i acc _ v n read pushed =>
      rename_i j c found notComma isClose counted
      intro values next literals
      rcases literals.after_first read with ⟨rfl, -, rfl⟩ | ⟨-, -, separator, -⟩
      · have sizes : (acc.push v).size = acc.size + [v].length := by simp
        rw [if_pos (by rw [← sizes]; exact counted)]
        simp [pushed, j]
      · rw [separator] at found
        cases found
        cases notComma rfl
  | case6 i acc _ v n read pushed =>
      rename_i j c found notComma isClose miscounted
      intro values next literals
      rcases literals.after_first read with ⟨rfl, -, rfl⟩ | ⟨-, -, separator, -⟩
      · have sizes : (acc.push v).size = acc.size + [v].length := by simp
        rw [if_neg (by rw [← sizes]; exact miscounted)]
        simp [sizes, pushed, j]
      · rw [separator] at found
        cases found
        cases notComma rfl
  | case7 i acc _ v n read _ =>
      rename_i j c found notComma notClose
      intro values next literals
      rcases literals.after_first read with ⟨-, close, -⟩ | ⟨-, -, separator, -⟩
      · rw [close] at found
        cases found
        cases notClose rfl
      · rw [separator] at found
        cases found
        cases notComma rfl

theorem literals_of_readItems {start : Nat} {width : Int} {i : Nat} {acc : Array Value}
    (clean : (readItems buf start width i acc).error = none) :
    ∃ values, Literals buf i values (readItems buf start width i acc).next ∧
      (readItems buf start width i acc).values = acc ++ values.toArray := by
  revert clean
  fun_induction readItems buf start width i acc with
  | case1 => intro clean; cases clean
  | case2 => intro clean; cases clean
  | case3 => intro clean; cases clean
  | case4 i acc _ v n read pushed j c found isComma _ _ _ =>
      rename_i _ ih
      intro clean
      obtain ⟨rest, later, collected⟩ := ih clean
      have separator : at? buf j = some comma := by rw [found, eq_of_beq isComma]
      refine ⟨v :: rest, .more read (blanks_skipSpace buf (i + n)) separator
        (blanks_skipSpace buf (j + 1)) later, ?_⟩
      rw [collected]
      simp [pushed]
  | case5 i acc _ v n read pushed =>
      rename_i j c found _ isClose _
      intro _
      have close : at? buf j = some closeParen := by rw [found, eq_of_beq isClose]
      exact ⟨[v], .last read (blanks_skipSpace buf (i + n)) close, by simp [pushed]⟩
  | case6 => intro clean; cases clean
  | case7 => intro clean; cases clean

theorem read_of_closeParen {i : Nat} (found : at? buf i = some closeParen) :
    Literal.read buf i = .error (ScanError.unexpected buf i "literal") := by
  unfold Literal.read
  rw [found]
  rfl

theorem Literals.not_closeParen {i next : Nat} {values : List Value}
    (literals : Literals buf i values next) : atEq buf i closeParen = false := by
  obtain ⟨v, n, literal⟩ := literals.first
  cases found : at? buf i with
  | none =>
      unfold atEq atIs
      rw [found]
  | some c =>
      unfold atEq atIs
      rw [found]
      cases close : (c == closeParen) with
      | false => exact close
      | true =>
          rw [eq_of_beq close] at found
          rw [read_of_closeParen found] at literal
          cases literal

theorem read_of_parenthesized {pos : Nat} {values : List Value} {next : Nat}
    (tuple : Parenthesized buf pos values next) (width : Nat) :
    read buf pos width =
      if values.length = width then ⟨values.toArray, next, none⟩
      else ⟨values.toArray, next - 1, some (.columnCount "" pos width values.length)⟩ := by
  cases tuple with
  | empty opens blanks close =>
      have ends := skipSpace_of_blanks blanks (by rw [atIs_of_at close]; rfl)
      have closed : atEq buf (skipSpace buf (pos + 1)) closeParen = true := by
        unfold atEq
        rw [ends, atIs_of_at close]
        rfl
      unfold read
      rw [opens]
      dsimp only
      rw [if_neg (by decide), if_pos closed]
      by_cases zero : width = 0
      · subst zero
        simp [ends]
      · rw [if_pos (by exact_mod_cast zero), if_neg (by simpa using Ne.symm zero)]
        simp [ends]
  | items opens blanks literals =>
      have ends := skipSpace_of_blanks blanks literals.start.2
      unfold read
      rw [opens]
      dsimp only
      rw [if_neg (by decide), ends, if_neg (by rw [literals.not_closeParen]; decide),
        readItems_of_literals literals]
      simp [Int.ofNat_inj]

theorem parenthesized_of_read {pos : Nat} {width : Int} (clean : (read buf pos width).error = none) :
    ∃ values, Parenthesized buf pos values (read buf pos width).next ∧
      (read buf pos width).values = values.toArray := by
  unfold read at clean ⊢
  cases opened : at? buf pos with
  | none =>
      rw [opened] at clean
      cases clean
  | some c =>
      rw [opened] at clean
      dsimp only at clean ⊢
      by_cases notOpen : (c != openParen) = true
      · rw [if_pos notOpen] at clean
        cases clean
      · rw [if_neg notOpen] at clean ⊢
        have isOpen : c = openParen := by simpa using notOpen
        subst isOpen
        by_cases empty : atEq buf (skipSpace buf (pos + 1)) closeParen = true
        · -- `()`: accepted only for a width of zero
          rw [if_pos empty] at clean ⊢
          by_cases nonzero : width ≠ 0
          · rw [if_pos nonzero] at clean
            cases clean
          · rw [if_neg nonzero]
            exact ⟨[], .empty opened (blanks_skipSpace buf (pos + 1)) (at_of_atEq empty), rfl⟩
        · rw [if_neg empty] at clean ⊢
          obtain ⟨values, literals, collected⟩ := literals_of_readItems clean
          exact ⟨values, .items opened (blanks_skipSpace buf (pos + 1)) literals,
            by rw [collected]; simp⟩

/-- Reading a tuple of width `width` at `pos` accepts exactly the tuples of the grammar with
`width` literals. On a tuple of the grammar it gives the literals' values in order and stops one
past the `)`, or, when the tuple has another number of literals, fails with a column count error
naming the width, that number and the position of the `(`. -/
theorem read_parenthesized (buf : ByteArray) (pos width : Nat) :
    ((read buf pos width).error = none ↔
      ∃ values next, Parenthesized buf pos values next ∧ values.length = width) ∧
    ∀ values next, Parenthesized buf pos values next →
      read buf pos width =
        if values.length = width then ⟨values.toArray, next, none⟩
        else ⟨values.toArray, next - 1, some (.columnCount "" pos width values.length)⟩ := by
  refine ⟨⟨fun clean => ?_, fun ⟨values, next, tuple, counted⟩ => ?_⟩,
    fun values next tuple => read_of_parenthesized tuple width⟩
  · obtain ⟨values, tuple, collected⟩ := parenthesized_of_read clean
    have counted := read_values_size clean
    rw [collected, List.size_toArray] at counted
    exact ⟨values, _, tuple, by exact_mod_cast counted⟩
  · rw [read_of_parenthesized tuple width, if_pos counted]

end Tuple

end WikiDump

