import WikiDump.Proofs.LiteralText
/-!
# Insert statements of a script

How the scanner reads an insert statement as a dump writer writes it. A statement into another
table is skipped whole, through the quoted strings of its literals and the backticks of its
names (`skipStatement_insert`). In a statement into any table, the header names the table
(`insertHeader_header`) and the `VALUES` clause leads to the first tuple (`valuesClause_clause`).

Outside its quoted tokens an insert holds words, digits, blanks and punctuation that neither end
a statement nor open a comment; the only `-` in it is the sign of a number, before a digit.
`Script.Quiet` names such runs of bytes, and the statement is skipped over them one byte at a
time.
-/

namespace WikiDump

open Bytes Statement Script

/-! ## Bytes a statement skips one at a time -/

/-- A byte outside quotes that neither ends a statement, opens a quoted token nor may start a
comment. -/
def Script.Plain (b : UInt8) : Bool :=
  b != semicolon && b != singleQuote && b != doubleQuote && b != backtick && b != hash &&
    b != minus && b != slash

/-- Bytes that a statement skips one at a time: plain bytes, and `-` before a byte other than `-`.
The last byte is plain, so that no `-` meets what follows the run. -/
def Script.Quiet : List UInt8 → Prop
  | [] => True
  | [b] => Plain b = true
  | b :: c :: rest => (Plain b = true ∨ (b = minus ∧ c ≠ minus)) ∧ Quiet (c :: rest)

theorem plain_of_ordinary {b : UInt8}
    (ordinary : b = semicolon ∨ b = singleQuote ∨ b = doubleQuote ∨ b = backtick ∨ b = hash ∨
      b = minus ∨ b = slash → False) : Plain b = true := by
  simp only [Plain, Bool.and_eq_true, bne_iff_ne, ne_eq]
  refine ⟨⟨⟨⟨⟨⟨?_, ?_⟩, ?_⟩, ?_⟩, ?_⟩, ?_⟩, ?_⟩ <;> intro same <;> exact ordinary (by simp [same])

theorem plain_of_isWordByte {b : UInt8} (word : isWordByte b = true) : Plain b = true :=
  plain_of_ordinary (by
    rintro (rfl | rfl | rfl | rfl | rfl | rfl | rfl) <;> exact absurd word (by decide))

theorem plain_of_isSpace {b : UInt8} (blank : isSpace b = true) : Plain b = true :=
  plain_of_ordinary (by
    rintro (rfl | rfl | rfl | rfl | rfl | rfl | rfl) <;> exact absurd blank (by decide))

theorem plain_of_isDigit {b : UInt8} (digit : isDigit b = true) : Plain b = true :=
  plain_of_ordinary (by
    rintro (rfl | rfl | rfl | rfl | rfl | rfl | rfl) <;> exact absurd digit (by decide))

theorem isSpace_eq_false_of_isWordByte {b : UInt8} (word : isWordByte b = true) :
    isSpace b = false := by
  cases blank : isSpace b
  · rfl
  · simp only [isSpace, Bool.or_eq_true, beq_iff_eq] at blank
    rcases blank with (((((rfl | rfl) | rfl) | rfl) | rfl) | rfl) <;> exact absurd word (by decide)

theorem plain_hexDigit {n : UInt8} (small : n < 16) : Plain (hexDigit n) = true := by
  have table : ∀ k : Fin 16, Plain (hexDigit (UInt8.ofNat k)) = true := by decide
  have bound : n.toNat < 16 := by simpa [UInt8.lt_iff_toNat_lt] using small
  simpa using table ⟨n.toNat, bound⟩

theorem plain_hexPair (b : UInt8) : ∀ x ∈ hexPair b, Plain x = true := by
  intro x member
  simp only [hexPair, List.mem_cons, List.mem_nil_iff, or_false] at member
  rcases member with rfl | rfl
  · exact plain_hexDigit (shiftRight_four_lt b)
  · exact plain_hexDigit (and_fifteen_lt b)

theorem plain_keywords :
    ∀ w ∈ ["INSERT", "REPLACE", "VALUE", "VALUES", "NULL", "_binary"] ++ modifiers,
      ∀ b ∈ word w, Plain b = true := by
  have letters : ((["INSERT", "REPLACE", "VALUE", "VALUES", "NULL", "_binary"] ++ modifiers).all
      fun w => (word w).all isWordByte) = true := by rfl
  simp only [List.all_eq_true] at letters
  exact fun w member b inWord => plain_of_isWordByte (letters w member b inWord)

namespace Script.Quiet

theorem tail {b : UInt8} {rest : List UInt8} (quiet : Quiet (b :: rest)) : Quiet rest := by
  cases rest with
  | nil => trivial
  | cons _ _ => exact quiet.2

theorem cons_plain {b : UInt8} {rest : List UInt8} (plain : Plain b = true) (quiet : Quiet rest) :
    Quiet (b :: rest) := by
  cases rest with
  | nil => exact plain
  | cons _ _ => exact ⟨.inl plain, quiet⟩

theorem of_plain {run : List UInt8} (plain : ∀ b ∈ run, Plain b = true) : Quiet run := by
  induction run with
  | nil => trivial
  | cons b rest ih =>
      exact cons_plain (plain b List.mem_cons_self) (ih fun c member => plain c (List.mem_cons_of_mem b member))

theorem append {a b : List UInt8} (first : Quiet a) (second : Quiet b) : Quiet (a ++ b) := by
  induction a with
  | nil => exact second
  | cons x rest ih =>
      cases rest with
      | nil => exact cons_plain first second
      | cons y more => exact ⟨first.1, ih first.2⟩

theorem signed {negative : Bool} {digits : List UInt8}
    (numeral : digits ≠ [] ∧ ∀ d ∈ digits, isDigit d = true) : Quiet (signText negative ++ digits) := by
  have plainDigits : Quiet digits := of_plain fun d member => plain_of_isDigit (numeral.2 d member)
  cases negative with
  | false => exact plainDigits
  | true =>
      obtain ⟨d, rest, rfl⟩ := List.exists_cons_of_ne_nil numeral.1
      have digit := numeral.2 d List.mem_cons_self
      refine ⟨.inr ⟨rfl, fun same => ?_⟩, plainDigits⟩
      rw [same] at digit
      cases digit

theorem floatText {negative : Bool} {whole fraction : List UInt8}
    {exponent : Option (Bool × List UInt8)}
    (numeral : whole ≠ [] ∧ (∀ d ∈ whole, isDigit d = true) ∧ (∀ d ∈ fraction, isDigit d = true) ∧
      (∀ e ∈ exponent, e.2 ≠ [] ∧ ∀ d ∈ e.2, isDigit d = true)) :
    Quiet (floatText negative whole fraction exponent) := by
  obtain ⟨wholeNonempty, wholeDigits, fractionDigits, exponentDigits⟩ := numeral
  have point : Quiet (fractionText fraction) := by
    unfold fractionText
    split
    · trivial
    · exact of_plain fun b member => by
        rcases List.mem_cons.1 member with rfl | digit
        · decide
        · exact plain_of_isDigit (fractionDigits b digit)
  have power : Quiet (exponentText exponent) := by
    cases exponent with
    | none => trivial
    | some e => exact cons_plain (by decide) (signed (exponentDigits e rfl))
  exact append (append (signed ⟨wholeNonempty, wholeDigits⟩) point) power

end Script.Quiet

/-! ## Skipping a statement into another table -/

section Skipping

variable {buf : ByteArray} {p : Nat}

theorem skipStatement_plain {b : UInt8} (found : at? buf p = some b) (plain : Plain b = true) :
    skipStatement buf p = skipStatement buf (p + 1) := by
  simp only [Plain, Bool.and_eq_true, bne_iff_ne, ne_eq] at plain
  obtain ⟨⟨⟨⟨⟨⟨notSemicolon, notSingle⟩, notDouble⟩, notTick⟩, notHash⟩, notMinus⟩, notSlash⟩ := plain
  exact skipStatement_byte found notSemicolon ⟨notSingle, notDouble, notTick⟩
    (commentEnd_none found notHash (fun dash => absurd dash notMinus)
      (fun isSlash => absurd isSlash notSlash))

theorem skipStatement_minus (found : at? buf p = some minus) {c : UInt8}
    (next : at? buf (p + 1) = some c) (notMinus : c ≠ minus) :
    skipStatement buf p = skipStatement buf (p + 1) :=
  skipStatement_byte found (by decide) (by decide)
    (commentEnd_none found (by decide) (fun _ same => notMinus (Option.some.inj (next.symm.trans same)))
      (fun isSlash => absurd isSlash (by decide)))

theorem skipStatement_quiet {run : List UInt8} (occ : Occurs buf p run) (quiet : Quiet run) :
    skipStatement buf p = skipStatement buf (p + run.length) := by
  induction run generalizing p with
  | nil => rfl
  | cons b rest ih =>
      have step : skipStatement buf p = skipStatement buf (p + 1) := by
        cases rest with
        | nil => exact skipStatement_plain occ.head quiet
        | cons c more =>
            rcases quiet.1 with plain | ⟨rfl, notMinus⟩
            · exact skipStatement_plain occ.head plain
            · exact skipStatement_minus occ.head occ.tail.head notMinus
      rw [step, ih occ.tail quiet.tail, List.length_cons, Nat.add_assoc, Nat.add_comm 1]

theorem skipStatement_blanks (bl : Blanks) (occ : Occurs buf p bl.bytes) :
    skipStatement buf p = skipStatement buf (p + bl.bytes.length) :=
  skipStatement_quiet occ (Quiet.of_plain fun b member => plain_of_isSpace (bl.blank b member))

theorem skipStatement_lit (l : Lit) {c : UInt8} (occ : Occurs buf p (l.render ++ [c]))
    (notQuote : c ≠ singleQuote) : skipStatement buf p = skipStatement buf (p + l.render.length) := by
  have string : ∀ {q : Nat} (bytes : List UInt8), Occurs buf q ((stringToken bytes).render ++ [c]) →
      skipStatement buf q = skipStatement buf (q + (stringToken bytes).render.length) := by
    intro q bytes tokenOcc
    refine skipStatement_quoted _ tokenOcc.left ?_
    rw [tokenOcc.right.head]
    exact fun same => notQuote (Option.some.inj same)
  cases l with
  | null =>
      exact skipStatement_quiet occ.left (Quiet.of_plain (plain_keywords "NULL" (by decide)))
  | integer negative digits numeral fits => exact skipStatement_quiet occ.left (Quiet.signed numeral)
  | float negative whole fraction exponent value numeral reads =>
      exact skipStatement_quiet occ.left
        (Quiet.floatText ⟨numeral.1, numeral.2.1, numeral.2.2.1, numeral.2.2.2.1⟩)
  | string bytes => exact string bytes occ
  | hex bytes nonempty =>
      refine skipStatement_quiet occ.left (Quiet.of_plain fun b member => ?_)
      rcases List.mem_cons.1 member with rfl | member
      · decide
      rcases List.mem_cons.1 member with rfl | member
      · decide
      obtain ⟨x, _, inPair⟩ := List.mem_flatMap.1 member
      exact plain_hexPair x b inPair
  | binary bytes =>
      have introducer : word "_binary " = word "_binary" ++ [Insert.space] := by decide
      have prefixQuiet : Quiet (word "_binary ") := by
        rw [introducer]
        exact Quiet.of_plain fun b member => by
          rcases List.mem_append.1 member with inWord | isSpace
          · exact plain_keywords "_binary" (by decide) b inWord
          · rw [List.mem_singleton.1 isSpace]
            decide
      simp only [Lit.render, List.append_assoc] at occ ⊢
      rw [skipStatement_quiet occ.left prefixQuiet, string bytes occ.right, List.length_append,
        Nat.add_assoc]

theorem skipStatement_items {items : List Lit} (occ : Occurs buf p (renderItems items ++ [closeParen])) :
    skipStatement buf p = skipStatement buf (p + (renderItems items).length) := by
  induction items generalizing p with
  | nil => rfl
  | cons l rest ih =>
      cases rest with
      | nil => exact skipStatement_lit l occ (by decide)
      | cons m more =>
          have shape : renderItems (l :: m :: more) = l.render ++ comma :: renderItems (m :: more) := rfl
          rw [shape, List.append_assoc, List.cons_append] at occ
          have litOcc : Occurs buf p (l.render ++ [comma]) :=
            (Occurs.append_iff.1 occ).1.append (Occurs.singleton (Occurs.append_iff.1 occ).2.head)
          rw [skipStatement_lit l litOcc (by decide), skipStatement_plain occ.right.head (by decide),
            ih occ.right.tail, shape]
          congr 1
          simp only [List.length_append, List.length_cons]
          omega

theorem skipStatement_tuple (t : Tuple) (occ : Occurs buf p t.render) :
    skipStatement buf p = skipStatement buf (p + t.render.length) := by
  rw [skipStatement_plain occ.head (by decide), skipStatement_items occ.tail,
    skipStatement_plain occ.tail.right.head (by decide)]
  congr 1
  simp only [Tuple.render, List.length_cons, List.length_append, List.length_nil]
  omega

theorem skipStatement_restText (rest : List (Blanks × Blanks × Tuple))
    (occ : Occurs buf p (Insert.restText rest)) :
    skipStatement buf p = skipStatement buf (p + (Insert.restText rest).length) := by
  induction rest generalizing p with
  | nil => rfl
  | cons entry more ih =>
      obtain ⟨before, after, t⟩ := entry
      simp only [Insert.restText, List.append_assoc, List.cons_append] at occ ⊢
      have afterComma := occ.right.tail
      rw [skipStatement_blanks before occ.left, skipStatement_plain occ.right.head (by decide),
        skipStatement_blanks after afterComma.left, skipStatement_tuple t afterComma.right.left,
        ih afterComma.right.right]
      congr 1
      simp only [List.length_append, List.length_cons]
      omega

theorem skipStatement_body (s : Insert) (occ : Occurs buf p s.body) :
    skipStatement buf p = .ok (p + s.body.length) := by
  simp only [Insert.body, List.append_assoc] at occ ⊢
  rw [skipStatement_tuple s.first occ.left, skipStatement_restText s.rest occ.right.left,
    skipStatement_blanks s.final occ.right.right.left, skipStatement_semicolon occ.right.right.right.head]
  congr 1
  simp only [List.length_append, List.length_singleton]
  omega

theorem skipStatement_ident (id : Ident) {c : UInt8} (occ : Occurs buf p (id.render ++ [c]))
    (notTick : c ≠ backtick) : skipStatement buf p = skipStatement buf (p + id.render.length) := by
  cases id with
  | quoted name =>
      change Occurs buf p ((backtickToken name).render ++ [c]) at occ
      refine skipStatement_quoted (backtickToken name) occ.left ?_
      rw [occ.right.head]
      exact fun same => notTick (Option.some.inj same)
  | bare name isWord =>
      exact skipStatement_quiet occ.left
        (Quiet.of_plain fun b member => plain_of_isWordByte (isWord.2 b member))

theorem Script.Insert.modifierWords_sublist (s : Insert) : s.modifierWords.Sublist modifiers := by
  unfold Insert.modifierWords
  cases s.priority with
  | none => cases s.ignore <;> decide
  | some priority => cases priority <;> cases s.ignore <;> decide

theorem Script.Insert.mem_modifiers (s : Insert) : ∀ m ∈ s.modifierWords, m ∈ modifiers :=
  fun _ member => s.modifierWords_sublist.subset member

theorem skipStatement_keywords (s : Insert) (occ : Occurs buf p s.keywords) :
    skipStatement buf p = skipStatement buf (p + s.keywords.length) := by
  refine skipStatement_quiet occ (Quiet.of_plain fun b member => ?_)
  simp only [Insert.keywords, List.mem_append, List.mem_singleton, List.mem_flatMap] at member
  rcases member with (inVerb | isSpace) | ⟨m, modifier, inWord | isSpace⟩
  · exact plain_keywords _ (by cases s.verb <;> decide) b inVerb
  · rw [isSpace]
    decide
  · exact plain_keywords _ (List.mem_append_right _ (s.mem_modifiers m modifier)) b inWord
  · rw [isSpace]
    decide

theorem skipStatement_qualifiedName (s : Insert) {c : UInt8}
    (occ : Occurs buf p (s.qualifiedName ++ [c])) (notTick : c ≠ backtick) :
    skipStatement buf p = skipStatement buf (p + s.qualifiedName.length) := by
  unfold Insert.qualifiedName at occ ⊢
  cases database : s.database with
  | none =>
      simp only [database, List.nil_append] at occ ⊢
      exact skipStatement_ident s.table occ notTick
  | some d =>
      simp only [database, List.append_assoc, List.singleton_append] at occ ⊢
      rw [skipStatement_ident d (c := dot)
          ((Occurs.append_iff.1 occ).1.append (Occurs.singleton occ.right.head)) (by decide),
        skipStatement_plain occ.right.head (by decide), skipStatement_ident s.table occ.right.tail notTick]
      congr 1
      simp only [List.length_append, List.length_cons]
      omega

theorem skipStatement_header (s : Insert) {c : UInt8} (occ : Occurs buf p (s.header ++ [c]))
    (notTick : c ≠ backtick) : skipStatement buf p = skipStatement buf (p + s.header.length) := by
  rw [Insert.header, List.append_assoc] at occ
  rw [skipStatement_keywords s occ.left, skipStatement_qualifiedName s occ.right notTick,
    Insert.header, List.length_append, Nat.add_assoc]

theorem skipStatement_columns {cs : List (List UInt8)}
    (occ : Occurs buf p (renderColumns cs ++ [closeParen])) :
    skipStatement buf p = skipStatement buf (p + (renderColumns cs).length) := by
  induction cs generalizing p with
  | nil => rfl
  | cons name rest ih =>
      have token : ∀ {x : UInt8}, Occurs buf p ((backtickToken name).render ++ [x]) → x ≠ backtick →
          skipStatement buf p = skipStatement buf (p + (backtickToken name).render.length) :=
        fun tokenOcc notTick => skipStatement_ident (.quoted name) tokenOcc notTick
      cases rest with
      | nil => exact token occ (by decide)
      | cons next more =>
          have shape : renderColumns (name :: next :: more) =
              (backtickToken name).render ++ comma :: renderColumns.space :: renderColumns (next :: more) := by
            simp [renderColumns]
          rw [shape, List.append_assoc, List.cons_append, List.cons_append] at occ
          have tokenOcc : Occurs buf p ((backtickToken name).render ++ [comma]) :=
            (Occurs.append_iff.1 occ).1.append (Occurs.singleton (Occurs.append_iff.1 occ).2.head)
          rw [token tokenOcc (by decide), skipStatement_plain occ.right.head (by decide),
            skipStatement_plain occ.right.tail.head (by decide), ih occ.right.tail.tail, shape]
          congr 1
          simp only [List.length_append, List.length_cons]
          omega

theorem skipStatement_columnList (s : Insert) (occ : Occurs buf p s.columnList) :
    skipStatement buf p = skipStatement buf (p + s.columnList.length) := by
  unfold Insert.columnList at occ ⊢
  cases columns : s.columns with
  | none => rfl
  | some cs =>
      simp only [columns, List.cons_append] at occ ⊢
      have listOcc := occ.tail
      rw [skipStatement_plain occ.head (by decide),
        skipStatement_columns ((Occurs.append_iff.1 listOcc).1.append (Occurs.singleton listOcc.right.head)),
        skipStatement_plain listOcc.right.head (by decide),
        skipStatement_plain listOcc.right.tail.head (by decide)]
      congr 1
      simp only [List.length_cons, List.length_append, List.length_nil]
      omega

theorem skipStatement_clause (s : Insert) (occ : Occurs buf p s.clause) :
    skipStatement buf p = skipStatement buf (p + s.clause.length) := by
  have keyword : Quiet (word s.valuesWord ++ [Insert.space]) := by
    refine Quiet.of_plain fun b member => ?_
    rcases List.mem_append.1 member with inWord | isSpace
    · exact plain_keywords _ (by unfold Insert.valuesWord; split <;> decide) b inWord
    · rw [List.mem_singleton.1 isSpace]
      decide
  simp only [Insert.clause, List.cons_append, List.append_assoc] at occ ⊢
  rw [skipStatement_plain occ.head (by decide), skipStatement_columnList s occ.tail.left,
    skipStatement_quiet occ.tail.right keyword]
  congr 1
  simp only [List.length_cons, List.length_append]
  omega

/-- An insert statement is skipped to the byte after its `;`. -/
theorem skipStatement_insert (s : Insert) (occ : Occurs buf p s.render) :
    skipStatement buf p = .ok (p + s.render.length) := by
  simp only [Insert.render, List.append_assoc] at occ ⊢
  have headerOcc : Occurs buf p (s.header ++ [Insert.space]) := by
    refine occ.left.append (Occurs.singleton ?_)
    have clauseHead := occ.right.left.head
    simpa [Insert.clause] using clauseHead
  rw [skipStatement_header s headerOcc (by decide), skipStatement_clause s occ.right.left,
    skipStatement_body s occ.right.right]
  congr 1
  simp only [List.length_append]
  omega

end Skipping

/-! ## Reading the header -/

theorem modifiers_differ : ∀ m ∈ modifiers, ∀ w ∈ modifiers, m ≠ w → wordsDiffer m w = true := by
  decide

theorem modifiers_lead : ∀ m ∈ modifiers, (word m).head?.map isSpace = some false := by
  decide

theorem undoubleBackticks_cons {b : UInt8} (notTick : b ≠ backtick) (rest : List UInt8) :
    undoubleBackticks (b :: rest) = b :: undoubleBackticks rest := by
  cases rest with
  | nil => rfl
  | cons c more => simp [undoubleBackticks, beq_false_of_ne notTick]

theorem undoubleBackticks_body (name : List UInt8) :
    undoubleBackticks (backtickToken name).body = name := by
  induction name with
  | nil => rfl
  | cons b rest ih =>
      have body : (backtickToken (b :: rest)).body =
          (backtickUnit b).render backtick ++ (backtickToken rest).body := by
        simp [Quoted.body, backtickToken]
      rw [body, backtickUnit]
      split
      · rename_i tick
        subst tick
        simp [QuoteUnit.render, undoubleBackticks, ih]
      · rename_i notTick
        simp only [QuoteUnit.render, List.singleton_append]
        rw [undoubleBackticks_cons notTick, ih]

section Reading

variable {buf : ByteArray} {p : Nat}

theorem readIdent_ident (id : Ident) {c : UInt8} (occ : Occurs buf p (id.render ++ [c]))
    (ends : isWordByte c = false) (notTick : c ≠ backtick) :
    readIdent buf p = some (⟨id.name.toArray⟩, p + id.render.length) := by
  cases id with
  | quoted name =>
      change Occurs buf p ((backtickToken name).render ++ [c]) at occ
      have closed := skipQuoted_quoted (backtickToken name) occ.left (by
        rw [occ.right.head]
        exact fun same => notTick (Option.some.inj same))
      have bodyOcc : Occurs buf (p + 1) (backtickToken name).body := occ.left.tail.left
      have bodyEnd : p + (backtickToken name).render.length - 1 = p + 1 + (backtickToken name).body.length := by
        simp [Quoted.render]
        omega
      unfold readIdent
      rw [occ.head]
      simp only [show (backtickToken name).quote = backtick from rfl, beq_self_eq_true, if_true, closed,
        bodyEnd, bodyOcc.extract_eq, Bytes.toList_mk, undoubleBackticks_body]
      rfl
  | bare name isWord =>
      obtain ⟨b, rest, rfl⟩ := List.exists_cons_of_ne_nil isWord.1
      change Occurs buf p ((b :: rest) ++ [c]) at occ
      have first : b ≠ backtick := fun same => by
        have word := isWord.2 b List.mem_cons_self
        rw [same] at word
        cases word
      have ended : skipWhile isWordByte buf p = p + (b :: rest).length :=
        skipWhile_before occ isWord.2 ends
      unfold readIdent
      rw [occ.head]
      simp only [beq_false_of_ne first, Bool.false_eq_true, if_false, ended]
      rw [if_neg (by simp)]
      show some (buf.extract p (p + (b :: rest).length), _) = some (⟨(b :: rest).toArray⟩, _)
      rw [occ.left.extract_eq]
      rfl

theorem skipSpace_single {b : UInt8} {rest : List UInt8} (occ : Occurs buf p (Insert.space :: b :: rest))
    (notBlank : isSpace b = false) : skipSpace buf p = p + 1 :=
  skipWhile_before (show Occurs buf p ([Insert.space] ++ b :: rest) from occ)
    (List.all_eq_true.1 rfl) notBlank

theorem modifiers_lead_byte {ws : List String} {next : String} (within : ∀ w ∈ ws, w ∈ modifiers)
    (nextIn : next ∈ modifiers) (rest : List UInt8) :
    ∃ b more, ws.flatMap (fun w => word w ++ [Insert.space]) ++ word next ++ rest = b :: more ∧
      isSpace b = false := by
  have lead : ∀ w ∈ modifiers, ∀ tail : List UInt8, ∃ b more, word w ++ tail = b :: more ∧ isSpace b = false := by
    intro w member tail
    have headBlank := modifiers_lead w member
    cases wordBytes : word w with
    | nil => rw [wordBytes] at headBlank; cases headBlank
    | cons b more =>
        rw [wordBytes] at headBlank
        exact ⟨b, more ++ tail, rfl, Option.some.inj headBlank⟩
  cases ws with
  | nil => simpa using lead next nextIn rest
  | cons w more =>
      obtain ⟨b, tail, shape, notBlank⟩ := lead w (within w List.mem_cons_self)
        ([Insert.space] ++ more.flatMap (fun w => word w ++ [Insert.space]) ++ word next ++ rest)
      refine ⟨b, tail, ?_, notBlank⟩
      rw [← shape]
      simp

theorem foldl_modifiers {ms ws : List String} (sub : ws.Sublist ms) (nodup : ms.Nodup)
    (within : ∀ m ∈ ms, m ∈ modifiers) {next : String} (nextIn : next ∈ modifiers) (fresh : next ∉ ms)
    {q : Nat} {rest : List UInt8}
    (occ : Occurs buf q (ws.flatMap (fun w => word w ++ [Insert.space]) ++ word next ++ rest)) :
    ms.foldl (fun k m => if matchWord buf k m then skipSpace buf (k + m.utf8ByteSize) else k) q =
      q + (ws.flatMap (fun w => word w ++ [Insert.space])).length := by
  induction sub generalizing q with
  | slnil => simp
  | @cons ws ms' m sub' ih =>
      -- `m` is not written: the text at `q` holds another modifier.
      obtain ⟨notHere, nodup'⟩ := List.nodup_cons.1 nodup
      have skipped : matchWord buf q m = false := by
        cases ws with
        | nil =>
            refine matchWord_of_differs (w := next) (by simpa using occ) ?_
            exact modifiers_differ m (within m List.mem_cons_self) next nextIn
              (fun same => fresh (same ▸ List.mem_cons_self))
        | cons w more =>
            refine matchWord_of_differs (w := w) (show Occurs buf q (word w ++ ([Insert.space] ++
              (more.flatMap (fun w => word w ++ [Insert.space]) ++ word next ++ rest))) by simpa using occ) ?_
            have wIn : w ∈ ms' := sub'.subset List.mem_cons_self
            exact modifiers_differ m (within m List.mem_cons_self) w (within w (List.mem_cons_of_mem m wIn))
              (fun same => notHere (same ▸ wIn))
      rw [List.foldl_cons, skipped]
      exact ih nodup' (fun w member => within w (List.mem_cons_of_mem m member))
        (fun member => fresh (List.mem_cons_of_mem m member)) occ
  | @cons_cons ws ms' m sub' ih =>
      -- `m` is written, with one blank after it.
      have wordOcc : Occurs buf q (word m ++ Insert.space ::
          (ws.flatMap (fun w => word w ++ [Insert.space]) ++ word next ++ rest)) := by
        simpa using occ
      have matched : matchWord buf q m = true :=
        matchWord_of_occurs ((Occurs.append_iff.1 wordOcc).1.append (Occurs.singleton wordOcc.right.head))
          (by decide)
      obtain ⟨b, more, shape, notBlank⟩ :=
        modifiers_lead_byte (fun w member => within w (List.mem_cons_of_mem m (sub'.subset member))) nextIn rest
      have spaced : skipSpace buf (q + m.utf8ByteSize) = q + (word m).length + 1 := by
        have spaceOcc := wordOcc.right
        rw [shape] at spaceOcc
        rw [show m.utf8ByteSize = (word m).length by simp [length_word]]
        exact skipSpace_single spaceOcc notBlank
      rw [List.foldl_cons, matched, if_pos rfl, spaced]
      rw [ih (List.nodup_cons.1 nodup).2 (fun w member => within w (List.mem_cons_of_mem m member))
        (fun member => fresh (List.mem_cons_of_mem m member)) wordOcc.right.tail]
      simp only [List.flatMap_cons, List.length_append, List.length_singleton]
      omega

theorem skipModifiers_modifierWords (s : Insert) {q : Nat} {b : UInt8} {rest : List UInt8}
    (occ : Occurs buf q (s.modifierWords.flatMap (fun m => word m ++ [Insert.space]) ++ b :: rest))
    (notBlank : isSpace b = false) :
    skipModifiers buf q = q + (s.modifierWords.flatMap (fun m => word m ++ [Insert.space])).length := by
  -- The modifiers before `INTO` are optional; `INTO` is always written, and ends the steps.
  have optional : ∃ ws, s.modifierWords = ws ++ ["INTO"] ∧
      ws.Sublist ["LOW_PRIORITY", "DELAYED", "HIGH_PRIORITY", "IGNORE"] := by
    refine ⟨_, rfl, ?_⟩
    cases s.priority with
    | none => cases s.ignore <;> decide
    | some priority => cases priority <;> cases s.ignore <;> decide
  obtain ⟨ws, words, sub⟩ := optional
  rw [words, List.flatMap_append] at occ ⊢
  have intoOcc : Occurs buf q (ws.flatMap (fun w => word w ++ [Insert.space]) ++ word "INTO" ++
      Insert.space :: b :: rest) := by
    simpa using occ
  unfold skipModifiers
  rw [show modifiers = ["LOW_PRIORITY", "DELAYED", "HIGH_PRIORITY", "IGNORE"] ++ ["INTO"] from rfl,
    List.foldl_append, foldl_modifiers sub (by decide) (by decide) (by decide) (by decide) intoOcc]
  have atInto : Occurs buf (q + (ws.flatMap (fun w => word w ++ [Insert.space])).length)
      (word "INTO" ++ Insert.space :: b :: rest) := by
    rw [List.append_assoc] at intoOcc
    exact intoOcc.right
  rw [List.foldl_cons, List.foldl_nil,
    matchWord_of_occurs ((Occurs.append_iff.1 atInto).1.append (Occurs.singleton atInto.right.head))
      (by decide),
    if_pos rfl, show "INTO".utf8ByteSize = (word "INTO").length by simp [length_word],
    skipSpace_single atInto.right notBlank]
  simp only [List.flatMap_cons, List.flatMap_nil, List.append_nil, List.length_append,
    List.length_singleton]
  omega

theorem Script.Ident.render_head (id : Ident) :
    ∃ b more, id.render = b :: more ∧ isSpace b = false ∧ b ≠ dot := by
  cases id with
  | quoted name => exact ⟨backtick, _, rfl, by decide, by decide⟩
  | bare name isWord =>
      obtain ⟨b, more, rfl⟩ := List.exists_cons_of_ne_nil isWord.1
      have word := isWord.2 b List.mem_cons_self
      refine ⟨b, more, rfl, isSpace_eq_false_of_isWordByte word, ?_⟩
      rintro rfl
      exact absurd word (by decide)

theorem Script.Insert.qualifiedName_head (s : Insert) :
    ∃ b more, s.qualifiedName = b :: more ∧ isSpace b = false := by
  unfold Insert.qualifiedName
  cases s.database with
  | none =>
      obtain ⟨b, more, shape, notBlank, _⟩ := s.table.render_head
      exact ⟨b, more, by simpa using shape, notBlank⟩
  | some d =>
      obtain ⟨b, more, shape, notBlank, _⟩ := d.render_head
      exact ⟨b, more ++ [dot] ++ s.table.render, by simp [shape], notBlank⟩

theorem readIdent_qualifiedName (s : Insert) {q : Nat}
    (occ : Occurs buf q (s.qualifiedName ++ [Insert.space])) :
    ∃ name next, readIdent buf q = some (name, next) ∧
      (if atEq buf next dot = true then readIdent buf (next + 1) else some (name, next)) =
        some (⟨s.table.name.toArray⟩, q + s.qualifiedName.length) := by
  unfold Insert.qualifiedName at occ ⊢
  cases database : s.database with
  | none =>
      simp only [database, List.nil_append] at occ ⊢
      refine ⟨_, _, readIdent_ident s.table occ (by decide) (by decide), ?_⟩
      rw [atEq_of_ne (by rw [occ.right.head]; decide), if_neg (by decide)]
  | some d =>
      simp only [database, List.append_assoc, List.singleton_append] at occ ⊢
      refine ⟨_, _, readIdent_ident d ((Occurs.append_iff.1 occ).1.append (Occurs.singleton occ.right.head))
        (by decide) (by decide), ?_⟩
      rw [atEq_of_at occ.right.head, if_pos rfl,
        readIdent_ident s.table occ.right.tail (by decide) (by decide)]
      simp only [List.length_append, List.length_cons]
      congr 2
      omega

/-- An insert's header names its table, and ends where its text does. -/
theorem insertHeader_header (s : Insert) (occ : Occurs buf p (s.header ++ [Insert.space])) :
    insertHeader buf p = some (⟨s.table.name.toArray⟩, p + s.header.length) := by
  have parts : Occurs buf p (word s.verb.word ++ Insert.space ::
      (s.modifierWords.flatMap (fun m => word m ++ [Insert.space]) ++ (s.qualifiedName ++ [Insert.space]))) := by
    simpa [Insert.header, Insert.keywords] using occ
  have verbEnd : (if matchWord buf p "INSERT" then some (p + 6)
      else if matchWord buf p "REPLACE" then some (p + 7) else none) =
      some (p + (word s.verb.word).length) := by
    have verbOcc : Occurs buf p (word s.verb.word ++ [Insert.space]) :=
      (Occurs.append_iff.1 parts).1.append (Occurs.singleton parts.right.head)
    cases verb : s.verb with
    | insert =>
        rw [verb] at verbOcc
        change Occurs buf p (word "INSERT" ++ [Insert.space]) at verbOcc
        rw [if_pos (matchWord_of_occurs verbOcc (by decide)),
          show (word Verb.insert.word).length = 6 by decide]
    | replace =>
        rw [verb] at verbOcc
        change Occurs buf p (word "REPLACE" ++ [Insert.space]) at verbOcc
        rw [matchWord_of_differs verbOcc (by decide), if_neg (by decide),
          if_pos (matchWord_of_occurs verbOcc (by decide)), show (word Verb.replace.word).length = 7 by decide]
  obtain ⟨b, more, nameShape, nameLead⟩ := s.qualifiedName_head
  have modifiersOcc := parts.right.tail
  rw [nameShape] at modifiersOcc
  obtain ⟨c, later, modifiersShape, modifiersLead⟩ : ∃ c later,
      s.modifierWords.flatMap (fun m => word m ++ [Insert.space]) ++ (b :: more ++ [Insert.space]) =
        c :: later ∧ isSpace c = false := by
    obtain ⟨ws, words⟩ : ∃ ws, s.modifierWords = ws ++ ["INTO"] := ⟨_, rfl⟩
    obtain ⟨c, later, shape, lead⟩ := @modifiers_lead_byte ws "INTO"
      (fun w member => s.mem_modifiers w (by rw [words]; exact List.mem_append_left _ member)) (by decide)
      ([Insert.space] ++ b :: more ++ [Insert.space])
    exact ⟨c, later, by rw [words, ← shape]; simp, lead⟩
  have spaceOcc := parts.right
  rw [nameShape, modifiersShape] at spaceOcc
  unfold insertHeader
  simp only
  rw [verbEnd]
  dsimp only
  rw [skipSpace_single spaceOcc modifiersLead, skipModifiers_modifierWords s modifiersOcc nameLead]
  rw [← nameShape] at modifiersOcc
  obtain ⟨name, next, first, named⟩ := readIdent_qualifiedName s modifiersOcc.right
  rw [first]
  dsimp only
  rw [named]
  simp only [Insert.header, Insert.keywords, List.length_append, List.length_singleton]
  congr 2
  omega

theorem insertHeader_other (s : Other) (occ : Occurs buf p s.render) : insertHeader buf p = none := by
  have letters : ∀ w ∈ ["INSERT", "REPLACE"], ∀ b ∈ word w, foldByte b ≠ foldByte semicolon := by
    have bytes : (["INSERT", "REPLACE"].all fun w =>
        (word w).all fun b => foldByte b != foldByte semicolon) = true := by rfl
    simpa using bytes
  unfold insertHeader
  simp only [matchWord_statement occ (letters "INSERT" (by decide)) s.notInsert,
    matchWord_statement occ (letters "REPLACE" (by decide)) s.notReplace]
  rfl

theorem target_header (s : Insert) (table : String) (occ : Occurs buf p (s.header ++ [Insert.space])) :
    Scan.target buf table.toUTF8 p = if s.into table then some (p + s.header.length) else none := by
  unfold Scan.target
  rw [insertHeader_header s occ]
  rfl

theorem target_other (s : Other) (table : ByteArray) (occ : Occurs buf p s.render) :
    Scan.target buf table p = none := by
  unfold Scan.target
  rw [insertHeader_other s occ]

end Reading

/-! ## The `VALUES` clause -/

section Clause

variable {buf : ByteArray} {p : Nat}

theorem skipParens_open (found : at? buf p = some openParen) (depth : Int) :
    skipParens buf p depth = skipParens buf (p + 1) (depth + 1) := by
  obtain ⟨inside, byte⟩ := at_eq_some found
  rw [skipParens, dif_pos inside, byte, if_pos (beq_self_eq_true _)]

theorem skipParens_close (found : at? buf p = some closeParen) : skipParens buf p 1 = .ok (p + 1) := by
  obtain ⟨inside, byte⟩ := at_eq_some found
  rw [skipParens, dif_pos inside, byte]
  simp [openParen, closeParen]

theorem skipParens_plain {b : UInt8} (found : at? buf p = some b)
    (other : b ≠ openParen ∧ b ≠ closeParen ∧ b ≠ singleQuote ∧ b ≠ doubleQuote ∧ b ≠ backtick)
    (depth : Int) : skipParens buf p depth = skipParens buf (p + 1) depth := by
  obtain ⟨inside, byte⟩ := at_eq_some found
  obtain ⟨notOpen, notClose, notSingle, notDouble, notTick⟩ := other
  rw [skipParens, dif_pos inside, byte]
  simp only [beq_false_of_ne notOpen, beq_false_of_ne notClose, beq_false_of_ne notSingle,
    beq_false_of_ne notDouble, beq_false_of_ne notTick, Bool.or_false, Bool.false_eq_true, if_false]

theorem skipParens_quoted (t : Quoted) (occ : Occurs buf p t.render)
    (after : at? buf (p + t.render.length) ≠ some t.quote) (depth : Int) :
    skipParens buf p depth = skipParens buf (p + t.render.length) depth := by
  obtain ⟨inside, byte⟩ := at_eq_some occ.head
  have isQuote : (t.quote == singleQuote || t.quote == doubleQuote || t.quote == backtick) = true := by
    rcases t.isQuote with q | q | q <;> simp [q]
  have notParen : t.quote ≠ openParen ∧ t.quote ≠ closeParen := by
    rcases t.isQuote with q | q | q <;> rw [q] <;> decide
  have skipped := skipQuoted_quoted t occ after
  rw [skipParens_at_quote inside (by simpa [byte] using notParen.1) (by simpa [byte] using notParen.2)
    (byte ▸ isQuote), skipped]
  rfl

theorem skipParens_columns {cs : List (List UInt8)} (occ : Occurs buf p (renderColumns cs ++ [closeParen])) :
    skipParens buf p 1 = .ok (p + (renderColumns cs).length + 1) := by
  induction cs generalizing p with
  | nil => exact skipParens_close occ.head
  | cons name rest ih =>
      have token : ∀ {x : UInt8}, Occurs buf p ((backtickToken name).render ++ [x]) → x ≠ backtick →
          skipParens buf p 1 = skipParens buf (p + (backtickToken name).render.length) 1 := by
        intro x tokenOcc notTick
        refine skipParens_quoted _ tokenOcc.left ?_ 1
        rw [tokenOcc.right.head]
        exact fun same => notTick (Option.some.inj same)
      cases rest with
      | nil =>
          rw [token occ (by decide)]
          exact skipParens_close occ.right.head
      | cons next more =>
          have shape : renderColumns (name :: next :: more) =
              (backtickToken name).render ++ comma :: renderColumns.space :: renderColumns (next :: more) := by
            simp [renderColumns]
          rw [shape, List.append_assoc, List.cons_append, List.cons_append] at occ
          have tokenOcc : Occurs buf p ((backtickToken name).render ++ [comma]) :=
            (Occurs.append_iff.1 occ).1.append (Occurs.singleton (Occurs.append_iff.1 occ).2.head)
          rw [token tokenOcc (by decide), skipParens_plain occ.right.head (by decide),
            skipParens_plain occ.right.tail.head (by decide), ih occ.right.tail.tail, shape]
          congr 1
          simp only [List.length_append, List.length_cons]
          omega

theorem skipTrivia_plain {b : UInt8} (found : at? buf p = some b) (plain : Plain b = true)
    (notBlank : isSpace b = false) : skipTrivia buf p = .ok p := by
  simp only [Plain, Bool.and_eq_true, bne_iff_ne, ne_eq] at plain
  exact skipTrivia_start found notBlank
    (commentEnd_none found plain.1.1.2 (fun dash => absurd dash plain.1.2) (fun isSlash => absurd isSlash plain.2))

theorem skipTrivia_space {b : UInt8} {rest : List UInt8} (occ : Occurs buf p (Insert.space :: b :: rest))
    (plain : Plain b = true) (notBlank : isSpace b = false) : skipTrivia buf p = .ok (p + 1) := by
  rw [skipTrivia_blank occ.head (by decide)]
  exact skipTrivia_plain occ.tail.head plain notBlank

theorem Script.Insert.valuesWord_head (s : Insert) :
    ∃ more, word s.valuesWord = 0x56 :: more := by
  unfold Insert.valuesWord
  split
  · exact ⟨[0x41, 0x4C, 0x55, 0x45], by decide⟩
  · exact ⟨[0x41, 0x4C, 0x55, 0x45, 0x53], by decide⟩

theorem keywordAt_valuesWord (s : Insert) (occ : Occurs buf p (word s.valuesWord ++ [Insert.space])) :
    keywordAt buf p = .ok (p + (word s.valuesWord).length) := by
  have inside : ¬ p ≥ buf.size := by
    have := occ.lt_size (k := 0) (by simp)
    omega
  unfold keywordAt
  rw [if_neg inside]
  unfold Insert.valuesWord at occ ⊢
  cases singular : s.singular with
  | true =>
      -- `VALUE` and its blank are no `VALUES`.
      simp only [singular, if_true] at occ ⊢
      have notPlural : matchWord buf p "VALUES" = false := by
        refine matchWord_mismatch (k := 5) (c := Insert.space) (d := 0x53) ?_ (by decide) (by decide)
        exact occ.right.head
      rw [notPlural, if_neg (by decide), if_pos (matchWord_of_occurs occ (by decide)),
        show (word "VALUE").length = 5 by decide]
  | false =>
      simp only [singular, Bool.false_eq_true, if_false] at occ ⊢
      rw [if_pos (matchWord_of_occurs occ (by decide)), show (word "VALUES").length = 6 by decide]

theorem columnsEnd_columnList (s : Insert) {rest : List UInt8}
    (occ : Occurs buf p (s.columnList ++ word s.valuesWord ++ rest)) :
    columnsEnd buf p = .ok (p + s.columnList.length) := by
  obtain ⟨more, keyword⟩ := s.valuesWord_head
  unfold columnsEnd
  unfold Insert.columnList at occ ⊢
  cases columns : s.columns with
  | none =>
      simp only [columns, List.nil_append, keyword] at occ
      rw [atEq_of_ne (by rw [occ.head]; decide), if_neg (by decide)]
      rfl
  | some cs =>
      simp only [columns, keyword, List.cons_append, List.append_assoc] at occ ⊢
      have listOcc := occ.tail
      rw [atEq_of_at occ.head, if_pos rfl, skipParens_open occ.head, show (0 : Int) + 1 = 1 from rfl,
        skipParens_columns ((Occurs.append_iff.1 listOcc).1.append (Occurs.singleton listOcc.right.head))]
      have trivia : skipTrivia buf (p + 1 + (renderColumns cs).length + 1) =
          .ok (p + 1 + (renderColumns cs).length + 1 + 1) :=
        skipTrivia_space listOcc.right.tail (by decide) (by decide)
      simp only [bind, Except.bind, trivia, List.length_cons, List.length_append, List.length_nil]
      congr 1
      omega

/-- The `VALUES` clause of an insert leads to the `(` of its first tuple. -/
theorem valuesClause_clause (s : Insert) {rest : List UInt8}
    (occ : Occurs buf p (s.clause ++ openParen :: rest)) :
    valuesClause buf p = .ok (p + s.clause.length) := by
  obtain ⟨more, keyword⟩ := s.valuesWord_head
  have parts : Occurs buf p (Insert.space :: (s.columnList ++ (word s.valuesWord ++
      (Insert.space :: openParen :: rest)))) := by
    simpa [Insert.clause] using occ
  have afterSpace := parts.tail
  have listed : Occurs buf (p + 1) (s.columnList ++ word s.valuesWord ++ Insert.space :: openParen :: rest) := by
    simpa using afterSpace
  have opening : skipTrivia buf p = .ok (p + 1) := by
    have lead : ∃ b more, s.columnList ++ (word s.valuesWord ++ (Insert.space :: openParen :: rest)) = b :: more ∧
        Plain b = true ∧ isSpace b = false := by
      unfold Insert.columnList
      cases s.columns with
      | none => exact ⟨0x56, more ++ Insert.space :: openParen :: rest, by simp [keyword], by decide, by decide⟩
      | some cs => exact ⟨openParen, _, rfl, by decide, by decide⟩
    obtain ⟨b, more', shape, plain, notBlank⟩ := lead
    rw [shape] at parts
    exact skipTrivia_space parts plain notBlank
  have wordOcc := afterSpace.right
  have keywordEnd := keywordAt_valuesWord s
    ((Occurs.append_iff.1 wordOcc).1.append (Occurs.singleton wordOcc.right.head))
  have closing : skipTrivia buf (p + 1 + s.columnList.length + (word s.valuesWord).length) =
      .ok (p + 1 + s.columnList.length + (word s.valuesWord).length + 1) :=
    skipTrivia_space wordOcc.right (by decide) (by decide)
  have bodyAt := wordOcc.right.tail.head
  have length : s.clause.length = 1 + s.columnList.length + (word s.valuesWord).length + 1 := by
    simp [Insert.clause]
    omega
  refine valuesClause_eq_ok.2 ⟨p + 1, p + 1 + s.columnList.length,
    p + 1 + s.columnList.length + (word s.valuesWord).length, opening,
    columnsEnd_columnList s listed, keywordEnd, ?_, ?_, ?_⟩
  · rw [closing, length]
    congr 1
    omega
  · rw [length]
    have := lt_size_of_at bodyAt
    omega
  · rw [length, show p + (1 + s.columnList.length + (word s.valuesWord).length + 1) =
      p + 1 + s.columnList.length + (word s.valuesWord).length + 1 by omega]
    exact atEq_of_at bodyAt

end Clause

end WikiDump

