import WikiDump.Proofs.InsertText
import WikiDump.Proofs.Regions
/-!
# The rows of a script

The scan of a script the dump writer writes yields exactly the script's rows for the table, in
order, and stops without error (`collect_script_rows`). The scan goes item by item: trivia are
passed over, an empty statement is passed over at its `;`, a statement that holds no rows or an
insert into another table is skipped to the byte after its `;`, and an insert into the table
yields the rows of its tuples (`rowsFrom_item`).
-/

namespace WikiDump

open Bytes Statement Script

theorem Script.Insert.render_head (s : Insert) :
    ∃ b more, s.render = b :: more ∧ isWordByte b = true ∧ b ≠ semicolon := by
  have verbs : ∀ v : Verb, ∃ b more, word v.word = b :: more ∧ isWordByte b = true ∧ b ≠ semicolon := by
    intro v
    cases v
    · exact ⟨0x49, [0x4E, 0x53, 0x45, 0x52, 0x54], by decide, by decide, by decide⟩
    · exact ⟨0x52, [0x45, 0x50, 0x4C, 0x41, 0x43, 0x45], by decide, by decide, by decide⟩
  obtain ⟨b, more, shape, wordByte, notSemicolon⟩ := verbs s.verb
  refine ⟨b, more ++ ([Insert.space] ++ s.modifierWords.flatMap (fun m => word m ++ [Insert.space]) ++
    s.qualifiedName ++ s.clause ++ s.body), ?_, wordByte, notSemicolon⟩
  simp [Insert.render, Insert.header, Insert.keywords, shape]

theorem Script.Other.render_head (s : Other) :
    ∃ b more, s.render = b :: more ∧ isWordByte b = true ∧ b ≠ semicolon := by
  obtain ⟨b, rest, pieces, wordByte⟩ := s.first
  have notSemicolon : b ≠ semicolon := (s.outside (.byte b) (by rw [pieces]; exact List.mem_cons_self)).1
  exact ⟨b, rest.flatMap Piece.render ++ [semicolon], by simp [Other.render, pieces, Piece.render], wordByte,
    notSemicolon⟩

namespace Scan

variable {R : Type} {buf : ByteArray} {p : Nat}

theorem seek_congr {table : ByteArray} {q i : Nat} (atP : skipTrivia buf p = .ok i)
    (atQ : skipTrivia buf q = .ok i) : seek buf table p = seek buf table q := by
  by_cases inside : i < buf.size
  · rw [seek_round atP (at_of_lt inside), seek_round atQ (at_of_lt inside)]
  · rw [seek_end atP (by omega), seek_end atQ (by omega)]

theorem rowsFrom_congr {dec : Decoder R} {q : Nat} (same : skipTrivia buf p = skipTrivia buf q) :
    rowsFrom dec buf p = rowsFrom dec buf q := by
  cases trivia : skipTrivia buf p with
  | error e =>
      rw [rowsFrom_eq, seek_trivia_error trivia, rowsFrom_eq, seek_trivia_error (same ▸ trivia)]
  | ok i => rw [rowsFrom_eq, rowsFrom_eq, seek_congr trivia (same ▸ trivia)]

theorem skipTrivia_word {b : UInt8} (found : at? buf p = some b) (word : isWordByte b = true) :
    skipTrivia buf p = .ok p :=
  skipTrivia_plain found (plain_of_isWordByte word) (isSpace_eq_false_of_isWordByte word)

theorem rowsFrom_skipped {dec : Decoder R} {text : List UInt8} (occ : Occurs buf p text)
    (lead : ∃ b more, text = b :: more ∧ isWordByte b = true ∧ b ≠ semicolon)
    (other : target buf dec.table.toUTF8 p = none) (skipped : skipStatement buf p = .ok (p + text.length)) :
    rowsFrom dec buf p = rowsFrom dec buf (p + text.length) := by
  obtain ⟨b, more, shape, word, notSemicolon⟩ := lead
  rw [shape] at occ
  rw [rowsFrom_other (skipTrivia_word occ.head word) occ.head (beq_false_of_ne notSemicolon) word other,
    skipped]

theorem rowsFrom_insertInto {table : String} {width : Nat} (s : Insert) (occ : Occurs buf p s.render)
    (into : s.into table = true) (widths : ∀ t ∈ s.tuples, t.items.length = width) :
    ∃ rows : List (Array Value),
      rowsFrom (Decoder.raw table width) buf p =
        (rows ++ (rowsFrom (Decoder.raw table width) buf (p + s.render.length)).1,
          (rowsFrom (Decoder.raw table width) buf (p + s.render.length)).2) ∧
      rows.map (fun row => row.toList.map (·.content.erase)) = s.tuples.map (·.items.map Lit.content) := by
  obtain ⟨b, more, shape, word, notSemicolon⟩ := s.render_head
  have found : at? buf p = some b := by
    rw [shape] at occ
    exact occ.head
  simp only [Insert.render, List.append_assoc] at occ
  have headerOcc : Occurs buf p (s.header ++ [Insert.space]) :=
    occ.left.append (Occurs.singleton (by simpa [Insert.clause] using occ.right.left.head))
  have named : target buf (Decoder.raw table width).table.toUTF8 p = some (p + s.header.length) := by
    rw [show (Decoder.raw table width).table = table from rfl, target_header s table headerOcc, if_pos into]
  obtain ⟨more', firstShape⟩ : ∃ more', s.body = openParen :: more' := ⟨_, rfl⟩
  have clauseOcc := occ.right
  rw [firstShape] at clauseOcc
  have entered := valuesClause_clause s clauseOcc
  obtain ⟨rows, statement, contents⟩ := @statementRows_body buf table width s _ occ.right.right widths
  refine ⟨rows, ?_, contents⟩
  rw [rowsFrom_target (skipTrivia_word found word) found (beq_false_of_ne notSemicolon) word named,
    entered]
  simp only [thenRows, statement]
  simp only [Insert.render, List.length_append, Nat.add_assoc]

/-- What one item of a script yields to the scan, and where the scan goes on. -/
theorem rowsFrom_item {table : String} {width : Nat} (item : Item) (occ : Occurs buf p item.render)
    (widths : ∀ s, item = .insert s → s.into table = true → ∀ t ∈ s.tuples, t.items.length = width) :
    ∃ rows : List (Array Value),
      rowsFrom (Decoder.raw table width) buf p =
        (rows ++ (rowsFrom (Decoder.raw table width) buf (p + item.render.length)).1,
          (rowsFrom (Decoder.raw table width) buf (p + item.render.length)).2) ∧
      rows.map (fun row => row.toList.map (·.content.erase)) = item.rows table := by
  cases item with
  | trivia t =>
      refine ⟨[], ?_, rfl⟩
      rw [rowsFrom_congr (skipTrivia_trivia t occ)]
      rfl
  | empty =>
      refine ⟨[], ?_, rfl⟩
      have found : at? buf p = some semicolon := occ.head
      have start : skipTrivia buf p = .ok p :=
        skipTrivia_start found (by decide) (commentEnd_none found (by decide)
          (fun same => absurd same (by decide)) (fun same => absurd same (by decide)))
      rw [rowsFrom_semicolon start found]
      rfl
  | other s =>
      refine ⟨[], ?_, rfl⟩
      rw [rowsFrom_skipped occ s.render_head (target_other s _ occ) (skipStatement_other s occ)]
      rfl
  | insert s =>
      by_cases into : s.into table = true
      · obtain ⟨rows, scanned, contents⟩ := rowsFrom_insertInto s occ into (widths s rfl into)
        exact ⟨rows, scanned, by simp [Item.rows, into, contents]⟩
      · refine ⟨[], ?_, by simp [Item.rows, into]⟩
        have headerOcc : Occurs buf p (s.header ++ [Insert.space]) := by
          have parts := occ
          simp only [Item.render, Insert.render, List.append_assoc] at parts
          exact parts.left.append (Occurs.singleton (by simpa [Insert.clause] using parts.right.left.head))
        have other : target buf (Decoder.raw table width).table.toUTF8 p = none := by
          rw [show (Decoder.raw table width).table = table from rfl, target_header s table headerOcc,
            if_neg into]
        rw [rowsFrom_skipped occ s.render_head other (skipStatement_insert s occ)]
        rfl

theorem rowsFrom_items {table : String} {width : Nat} (items : List Item)
    (occ : Occurs buf p (items.flatMap Item.render))
    (widths : ∀ s, Item.insert s ∈ items → s.into table = true → ∀ t ∈ s.tuples, t.items.length = width) :
    ∃ rows : List (Array Value),
      rowsFrom (Decoder.raw table width) buf p =
        (rows ++ (rowsFrom (Decoder.raw table width) buf (p + (items.flatMap Item.render).length)).1,
          (rowsFrom (Decoder.raw table width) buf (p + (items.flatMap Item.render).length)).2) ∧
      rows.map (fun row => row.toList.map (·.content.erase)) = items.flatMap (·.rows table) := by
  induction items generalizing p with
  | nil => exact ⟨[], by simp, rfl⟩
  | cons item rest ih =>
      rw [List.flatMap_cons] at occ
      obtain ⟨first, scanned, firstContents⟩ := rowsFrom_item item occ.left
        (fun s same into => widths s (same ▸ List.mem_cons_self) into)
      obtain ⟨later, scannedRest, laterContents⟩ := ih occ.right
        (fun s member into => widths s (List.mem_cons_of_mem item member) into)
      refine ⟨first ++ later, ?_, by simp [firstContents, laterContents]⟩
      rw [scanned, scannedRest, List.flatMap_cons, List.length_append, Nat.add_assoc]
      simp

/-- The scan of a script the dump writer writes yields exactly the script's rows for the table, in
order, and stops without error. -/
theorem collect_script_rows (s : Script) (table : String) (width : Nat)
    (widths : s.TuplesHaveWidth table width) :
    ((Scan.whole s.bytes (Decoder.raw table width)).collect.1.map
        fun row => row.toList.map (·.content.erase)) = s.rows table ∧
      (Scan.whole s.bytes (Decoder.raw table width)).collect.2 = none := by
  obtain ⟨rows, scanned, contents⟩ := @rowsFrom_items s.bytes 0 table width s.items (Occurs.self s.render)
    (fun ins member into => widths ins member into)
  have size : s.bytes.size = s.render.length := by
    simp [Script.bytes, ByteArray.size]
  have ended : rowsFrom (Decoder.raw table width) s.bytes (0 + (s.items.flatMap Item.render).length) =
      ([], none) :=
    rowsFrom_past (Nat.le_of_eq (by rw [size, Script.render, Nat.zero_add]))
  rw [collect_whole, scanned, ended]
  refine ⟨?_, rfl⟩
  simpa [Script.rows] using contents

def setNames : Other where
  pieces := [0x53, 0x45, 0x54, 0x20, 0x4E, 0x41, 0x4D, 0x45, 0x53, 0x20, 0x75, 0x74, 0x66, 0x38].map .byte
  first := ⟨0x53, _, rfl, by decide⟩
  outside := by simp [Piece.Outside, semicolon, singleQuote, doubleQuote, backtick, Bytes.hash]
  sequenced := by simp [Sequenced, Piece.Precedes, minus, slash, Bytes.star]
  notInsert := by decide
  notReplace := by decide

/-- A small dump: a comment, a `SET` statement, an insert into `user`, an empty statement, and
`REPLACE LOW_PRIORITY IGNORE INTO wiki.`page` (`id`, `title`) VALUES (1,'Main'), (2,'Talk');`. -/
def sampleDump : Script where
  items :=
    [.trivia (.hashLine [0x20, 0x64, 0x75, 0x6D, 0x70] (by decide)), .trivia (.blank newline (by decide)),
      .other setNames, .trivia (.blank newline (by decide)),
      .insert
        { verb := .insert, priority := none, ignore := false, database := none,
          table := .quoted [0x75, 0x73, 0x65, 0x72], columns := none, singular := false,
          first := ⟨[.null]⟩, rest := [], final := ⟨[], by simp⟩ },
      .empty,
      .insert
        { verb := .replace, priority := some .low, ignore := true,
          database := some (.bare [0x77, 0x69, 0x6B, 0x69] ⟨by simp, List.all_eq_true.1 rfl⟩),
          table := .quoted [0x70, 0x61, 0x67, 0x65],
          columns := some [[0x69, 0x64], [0x74, 0x69, 0x74, 0x6C, 0x65]], singular := false,
          first := ⟨[.integer false [0x31] ⟨by simp, List.all_eq_true.1 rfl⟩ (by decide),
            .string [0x4D, 0x61, 0x69, 0x6E]]⟩,
          rest := [(⟨[], by simp⟩, ⟨[0x20], List.all_eq_true.1 rfl⟩,
            ⟨[.integer false [0x32] ⟨by simp, List.all_eq_true.1 rfl⟩ (by decide),
              .string [0x54, 0x61, 0x6C, 0x6B]]⟩)],
          final := ⟨[], by simp⟩ }]

theorem sampleDump_widths : sampleDump.TuplesHaveWidth "page" 2 := by
  intro ins member into t tuple
  simp only [sampleDump, List.mem_cons, List.not_mem_nil, reduceCtorEq, Item.insert.injEq, false_or,
    or_false] at member
  rcases member with rfl | rfl
  · exact absurd into (by decide +kernel)
  · simp only [Insert.tuples, List.map_cons, List.map_nil, List.mem_cons, List.not_mem_nil, or_false] at tuple
    rcases tuple with rfl | rfl <;> rfl

theorem collect_sampleDump :
    sampleDump.TuplesHaveWidth "page" 2 ∧
      (((Scan.whole sampleDump.bytes (Decoder.raw "page" 2)).collect.1.map
          fun row => row.toList.map (·.content.erase)) = sampleDump.rows "page" ∧
        (Scan.whole sampleDump.bytes (Decoder.raw "page" 2)).collect.2 = none) :=
  ⟨sampleDump_widths, collect_script_rows sampleDump "page" 2 sampleDump_widths⟩

end Scan

end WikiDump

