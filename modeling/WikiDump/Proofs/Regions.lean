import WikiDump.Proofs.Truncation
import WikiDump.Dump.Source
import WikiDump.Schema.Tables
/-!
# A dump scanned in regions

To count rows in parallel, a dump is cut into regions (`Region.split`) and each region is scanned
on its own, in the buffer cut at the region's end. Run one after another, up to the first that
fails, the scans of the regions give `Scan.collectRegions`.

The cuts fall where `Statement.next` ends a statement: at the first `;` outside quotes and
comments. The scan ends a target statement at the `;` after its last tuple instead, and reads the
column list before `VALUES` by brackets alone, passing over `;`, `#`, `--` and `/*` there. The two
ends can differ, and a cut that falls strictly inside a statement as the scan delimits it makes
the scan of the region before it fail where the scan of the whole dump does not
(`count_cut_in_column_list`).

Where every cut is the end of a statement as the scan of the whole dump delimits it
(`Scan.CutsBetweenStatements`), splitting changes nothing: the scans of the regions yield the rows
of the scan of the whole dump and end with its error, and the count of rows is the count of a
single scan (`Scan.scan_in_regions`). The proof follows the scan of the whole dump from one
statement end to the next (`Scan.Passes`); on the way it reads no byte past the next end, so the
scan of a region cut there reads the same.
-/

namespace WikiDump

namespace Region

/-- `regions` follow one another from `start` to `stop`, none of them empty. -/
inductive Covers : Nat → List Region → Nat → Prop where
  | nil (start : Nat) : Covers start [] start
  | cons {start stop : Nat} {r : Region} {rest : List Region} (begins : r.start = start)
      (nonempty : start < r.stop) (covers : Covers r.stop rest stop) : Covers start (r :: rest) stop

namespace Covers

variable {start stop : Nat} {regions : List Region}

theorem le (covers : Covers start regions stop) : start ≤ stop := by
  induction covers with
  | nil => exact Nat.le_refl _
  | cons _ nonempty _ ih => omega

theorem stops (covers : Covers start regions stop) : ∀ r ∈ regions, start < r.stop ∧ r.stop ≤ stop := by
  induction covers with
  | nil => intro r member; cases member
  | cons _ nonempty rest ih =>
      intro r member
      rcases List.mem_cons.1 member with rfl | later
      · exact ⟨nonempty, rest.le⟩
      · have further := ih r later
        omega

theorem append {middle : Nat} {more : List Region} (first : Covers start regions middle)
    (second : Covers middle more stop) : Covers start (regions ++ more) stop := by
  induction first with
  | nil => exact second
  | cons begins nonempty _ ih => exact .cons begins nonempty (ih second)

end Covers

theorem splitFrom_covers {buf : ByteArray} {parts target start pos : Nat}
    {closed result : Array Region} (nonempty : 0 < buf.size)
    (covered : Covers 0 closed.toList start) (opened : start ≤ pos) (fits : start ≤ buf.size)
    (first : closed.isEmpty = true → start = 0)
    (walked : splitFrom buf parts target start pos closed = .ok result) :
    Covers 0 result.toList buf.size := by
  revert covered opened fits first walked
  fun_induction splitFrom buf parts target start pos closed with
  | case1 => intro _ _ _ _ walked; cases walked
  | case2 start pos closed _ remains =>
      intro covered _ fits first walked
      cases walked
      -- the open region is the last one; it is nonempty, or it is the only one
      have before : start < buf.size := by
        rcases Bool.or_eq_true_iff.1 remains with short | empty
        · exact of_decide_eq_true short
        · have zero := first empty
          omega
      rw [Array.toList_push]
      exact covered.append (.cons rfl before (.nil _))
  | case3 start pos closed _ ended =>
      intro covered _ fits _ walked
      cases walked
      have atEnd : start = buf.size := by
        simp only [Bool.or_eq_true, decide_eq_true_eq, not_or] at ended
        omega
      exact atEnd ▸ covered
  | case4 start pos closed st found bounds _ ih =>
      intro covered opened _ _ walked
      refine ih ?_ (Nat.le_refl _) bounds.2 (fun empty => by simp at empty) walked
      rw [Array.toList_push]
      exact covered.append (.cons rfl (show start < st.stop by omega) (.nil _))
  | case5 start pos closed st found bounds _ ih =>
      intro covered opened fits first walked
      exact ih covered (by omega) fits first walked

theorem split_covers {buf : ByteArray} {parts : Int} {regions : List Region}
    (splitOk : split buf parts = .ok regions) : regions = [whole buf] ∨ Covers 0 regions buf.size := by
  unfold split at splitOk
  by_cases single : (parts ≤ 1 || buf.size = 0) = true
  · rw [if_pos single] at splitOk
    cases splitOk
    exact .inl rfl
  · rw [if_neg single] at splitOk
    dsimp only at splitOk
    have nonempty : 0 < buf.size := by
      simp only [Bool.or_eq_true, decide_eq_true_eq, not_or] at single
      omega
    cases walked : splitFrom buf parts.toNat (buf.size / parts.toNat) 0 0 #[] with
    | error e =>
        rw [walked] at splitOk
        cases splitOk
    | ok result =>
        rw [walked] at splitOk
        cases splitOk
        exact .inr (splitFrom_covers nonempty (.nil 0) (Nat.le_refl 0) (Nat.zero_le _)
          (fun _ => rfl) walked)

theorem split_one (buf : ByteArray) : split buf 1 = .ok [whole buf] := by
  simp [split]

end Region

namespace Scan

open Bytes Statement

variable {R : Type} {u : ByteArray}

/-! ## The scan at the end of a buffer -/

theorem skipTrivia_past {buf : ByteArray} {pos : Nat} (past : buf.size ≤ pos) :
    skipTrivia buf pos = .ok pos := by
  have spaced : skipSpace buf pos = pos := by
    unfold skipSpace skipWhile
    rw [dif_neg (Nat.not_lt_of_le past)]
  unfold skipTrivia
  simp only [spaced, dif_neg (Nat.not_lt_of_le past)]

theorem rowsFrom_past {dec : Decoder R} {buf : ByteArray} {pos : Nat} (past : buf.size ≤ pos) :
    rowsFrom dec buf pos = ([], none) := by
  rw [rowsFrom_eq, seek_end (skipTrivia_past past) past]

/-! ## From one statement end to the next -/

/-- The scan of every buffer that agrees with `u` before `stop` goes from `pos` to `stop`, two
positions between statements, and yields `rows` on the way. -/
def Passes (dec : Decoder R) (u : ByteArray) (pos stop : Nat) (rows : List R) : Prop :=
  ∀ v, Agree u v stop →
    rowsFrom dec v pos = (rows ++ (rowsFrom dec v stop).1, (rowsFrom dec v stop).2)

theorem Passes.trans {dec : Decoder R} {pos middle stop : Nat} {first second : List R}
    (toMiddle : Passes dec u pos middle first) (toStop : Passes dec u middle stop second)
    (ordered : middle ≤ stop) : Passes dec u pos stop (first ++ second) := by
  intro v agree
  rw [toMiddle v (agree.mono ordered), toStop v agree, List.append_assoc]

theorem Passes.cut {dec : Decoder R} {pos stop : Nat} {rows : List R}
    (passes : Passes dec u pos stop rows) (fits : stop ≤ u.size) :
    rowsFrom dec (u.extract 0 stop) pos = (rows, none) ∧
      rowsFrom dec u pos = (rows ++ (rowsFrom dec u stop).1, (rowsFrom dec u stop).2) := by
  have cutSize : (u.extract 0 stop).size = stop := by
    simp only [ByteArray.size_extract]
    omega
  refine ⟨?_, passes u (fun _ _ => rfl)⟩
  rw [passes _ (agree_extract u stop).symm, rowsFrom_past (Nat.le_of_eq cutSize), List.append_nil]

theorem passes_semicolon {dec : Decoder R} {pos i : Nat} (trivia : skipTrivia u pos = .ok i)
    (found : at? u i = some semicolon) : Passes dec u pos (i + 1) [] := by
  intro v agree
  have triviaV := skipTrivia_agree agree trivia (Nat.lt_succ_self i)
    (plainAt_of_statement found (.inl rfl))
  have foundV : at? v i = some semicolon := (agree i (Nat.lt_succ_self i)).symm.trans found
  rw [rowsFrom_semicolon triviaV foundV, List.nil_append]

theorem passes_target {dec : Decoder R} {pos i after body stop : Nat} {c : UInt8}
    (trivia : skipTrivia u pos = .ok i) (found : at? u i = some c)
    (notSemicolon : (c == semicolon) = false) (word : isWordByte c = true)
    (named : target u dec.table.toUTF8 i = some after) (entered : valuesClause u after = .ok body)
    (ended : (statementRows dec u body).2 = .ok stop) :
    Passes dec u pos stop (statementRows dec u body).1 := by
  intro v agree
  have bodyBefore := (statementRows_end ended).1
  have header := target_stopsBefore named entered
  have inside : i < stop := Nat.lt_of_lt_of_le header.lt bodyBefore
  have triviaV := skipTrivia_agree agree trivia inside (plainAt_of_statement found (.inr word))
  have foundV : at? v i = some c := (agree i inside).symm.trans found
  have namedV : target v dec.table.toUTF8 i = some after :=
    (target_agree agree (header.mono bodyBefore)).trans named
  rw [rowsFrom_target triviaV foundV notSemicolon word namedV,
    valuesClause_agree agree entered bodyBefore]
  dsimp only
  rw [statementRows_stops_agree agree ended (Nat.le_refl _)]
  simp only [thenRows, ended]

theorem passes_other {dec : Decoder R} {pos i stop : Nat} {c : UInt8}
    (trivia : skipTrivia u pos = .ok i) (found : at? u i = some c)
    (notSemicolon : (c == semicolon) = false) (word : isWordByte c = true)
    (other : target u dec.table.toUTF8 i = none) (skipped : skipStatement u i = .ok stop) :
    Passes dec u pos stop [] := by
  intro v agree
  have inside := (skipStatement_bounds skipped).1
  have triviaV := skipTrivia_agree agree trivia inside (plainAt_of_statement found (.inr word))
  have foundV : at? v i = some c := (agree i inside).symm.trans found
  have otherV : target v dec.table.toUTF8 i = none :=
    (target_agree agree (skipStatement_stopsBefore skipped)).trans other
  simp only [rowsFrom_other triviaV foundV notSemicolon word otherV,
    skipStatement_agree agree skipped (Nat.le_refl _), List.nil_append]

theorem passes_cons {dec : Decoder R} {pos i stop : Nat} {span : Nat × Nat} {first : List R}
    (step : Passes dec u pos stop first)
    (rest : span ∈ spansFrom dec u stop → ∃ rows, Passes dec u stop span.2 rows)
    (member : span ∈ (i, stop) :: spansFrom dec u stop) : ∃ rows, Passes dec u pos span.2 rows := by
  rcases List.mem_cons.1 member with rfl | later
  · exact ⟨first, step⟩
  · obtain ⟨rows, further⟩ := rest later
    have bounds := spansFrom_bounds span later
    exact ⟨first ++ rows, step.trans further (by omega)⟩

theorem passes_of_mem {dec : Decoder R} {pos : Nat} {span : Nat × Nat}
    (member : span ∈ spansFrom dec u pos) : ∃ rows, Passes dec u pos span.2 rows := by
  revert member
  fun_induction spansFrom dec u pos with
  | case1 => intro member; cases member
  | case2 => intro member; cases member
  | case3 pos i trivia c found _ _ isSemicolon ih =>
      have semicolonAt : at? u i = some semicolon := by rw [found, eq_of_beq isSemicolon]
      exact passes_cons (passes_semicolon trivia semicolonAt) ih
  | case4 => intro member; cases member
  | case5 pos i trivia c found _ _ notSemicolon word after named body entered stop ended _ _ _ ih =>
      exact passes_cons (passes_target trivia found (by simpa using notSemicolon)
        (by simpa using word) named entered ended) ih
  | case6 => intro member; cases member
  | case7 => intro member; cases member
  | case8 pos i trivia c found _ _ notSemicolon word other stop skipped _ ih =>
      exact passes_cons (passes_other trivia found (by simpa using notSemicolon)
        (by simpa using word) other skipped) ih
  | case9 => intro member; cases member

theorem end_cons {dec : Decoder R} {i stop : Nat} {span later : Nat × Nat}
    (rest : span ∈ spansFrom dec u stop → later ∈ spansFrom dec u stop →
      later ∈ spansFrom dec u span.2)
    (after : span.2 < later.2) (first : span ∈ (i, stop) :: spansFrom dec u stop)
    (second : later ∈ (i, stop) :: spansFrom dec u stop) : later ∈ spansFrom dec u span.2 := by
  rcases List.mem_cons.1 first with rfl | firstLater
  · rcases List.mem_cons.1 second with rfl | secondLater
    · exact absurd after (Nat.lt_irrefl _)
    · exact secondLater
  · rcases List.mem_cons.1 second with rfl | secondLater
    · have bounds := spansFrom_bounds span firstLater
      dsimp only at after
      omega
    · exact rest firstLater secondLater

theorem mem_spansFrom_of_end {dec : Decoder R} {pos : Nat} {span later : Nat × Nat}
    (first : span ∈ spansFrom dec u pos) (second : later ∈ spansFrom dec u pos)
    (after : span.2 < later.2) : later ∈ spansFrom dec u span.2 := by
  revert first second
  fun_induction spansFrom dec u pos with
  | case1 => intro first; cases first
  | case2 => intro first; cases first
  | case3 pos i _ _ _ _ _ _ ih => exact end_cons ih after
  | case4 => intro first; cases first
  | case5 pos i _ _ _ _ _ _ _ _ _ _ _ _ _ _ _ _ ih => exact end_cons ih after
  | case6 => intro first; cases first
  | case7 => intro first; cases first
  | case8 pos i _ _ _ _ _ _ _ _ _ _ _ ih => exact end_cons ih after
  | case9 => intro first; cases first

/-! ## Regions scanned one after another -/

/-- The rows of scans run one after another, up to and including the first that fails, and the
error of that one. -/
def chain : List (List R × Option ScanError) → List R × Option ScanError
  | [] => ([], none)
  | (rows, some e) :: _ => (rows, some e)
  | (rows, none) :: rest => (rows ++ (chain rest).1, (chain rest).2)

/-- The scans of `regions` of `buf`, run in order until one fails. -/
def collectRegions (buf : ByteArray) (dec : Decoder R) (regions : List Region) :
    List R × Option ScanError :=
  chain (regions.map fun r => (start buf r dec).collect)

theorem chain_single (scan : List R × Option ScanError) : chain [scan] = scan := by
  obtain ⟨rows, _ | e⟩ := scan
  · simp [chain]
  · rfl

theorem findSome_chain (scans : List (List R × Option ScanError)) :
    scans.findSome? (·.2) = (chain scans).2 := by
  induction scans with
  | nil => rfl
  | cons scan rest ih =>
      obtain ⟨rows, _ | e⟩ := scan
      · simp only [List.findSome?_cons, chain, ih]
      · rfl

theorem foldl_length_chain (scans : List (List R × Option ScanError))
    (clean : (chain scans).2 = none) (n : Nat) :
    scans.foldl (fun n scan => n + scan.1.length) n = n + (chain scans).1.length := by
  induction scans generalizing n with
  | nil => simp [chain]
  | cons scan rest ih =>
      obtain ⟨rows, _ | e⟩ := scan
      · simp only [chain] at clean ⊢
        rw [List.foldl_cons, ih clean, List.length_append]
        dsimp only
        omega
      · cases clean

theorem collectRegions_whole (buf : ByteArray) (dec : Decoder R) :
    collectRegions buf dec [Region.whole buf] = (whole buf dec).collect :=
  chain_single _

theorem countRows_of_split {buf : ByteArray} {t : Table} {workers : Int} {regions : List Region}
    (splitOk : Region.split buf workers = .ok regions) :
    countRows buf t workers =
      match (collectRegions buf t.decoder regions).2 with
      | none => .ok (collectRegions buf t.decoder regions).1.length
      | some e => .error e := by
  unfold countRows tally collectRegions
  rw [splitOk]
  cases clean : (chain (regions.map fun r => (start buf r t.decoder).collect)).2 with
  | none =>
      simp only [findSome_chain, clean, foldl_length_chain _ clean 0, Nat.zero_add]
  | some e =>
      simp only [findSome_chain, clean]

theorem collectRegions_covers {dec : Decoder R} {pos : Nat} {regions : List Region}
    (covers : Region.Covers pos regions u.size)
    (cuts : ∀ r ∈ regions, r.stop < u.size → ∃ span ∈ spansFrom dec u pos, span.2 = r.stop) :
    collectRegions u dec regions = rowsFrom dec u pos := by
  induction regions generalizing pos with
  | nil =>
      cases covers
      rw [rowsFrom_past (Nat.le_refl _)]
      rfl
  | cons r rest ih =>
      cases covers with
      | cons begins nonempty restCovers =>
      have fits : r.stop ≤ u.size := restCovers.le
      have scanned : (start u r dec).collect = rowsFrom dec (u.extract 0 r.stop) pos := by
        rw [collect_start u r dec (by omega) fits, begins]
      by_cases inner : r.stop < u.size
      · -- the scan of the region stops cleanly where the scan of the whole buffer passes
        obtain ⟨span, member, ends⟩ := cuts r List.mem_cons_self inner
        obtain ⟨rows, passes⟩ := passes_of_mem member
        rw [ends] at passes
        obtain ⟨cut, through⟩ := passes.cut fits
        have later : ∀ r' ∈ rest, r'.stop < u.size →
            ∃ span' ∈ spansFrom dec u r.stop, span'.2 = r'.stop := by
          intro r' member' inner'
          obtain ⟨span', member'', ends'⟩ := cuts r' (List.mem_cons_of_mem r member') inner'
          have beyond := (restCovers.stops r' member').1
          exact ⟨span', ends ▸ mem_spansFrom_of_end member member'' (by omega), ends'⟩
        rw [through, ← ih restCovers later]
        simp only [collectRegions, List.map_cons, chain, scanned, cut]
      · -- the last region runs to the end of the buffer
        have whole : r.stop = u.size := by omega
        have restNil : rest = [] := by
          cases rest with
          | nil => rfl
          | cons r' more =>
              have bounds := restCovers.stops r' List.mem_cons_self
              omega
        subst restNil
        rw [whole, ByteArray.extract_zero_size] at scanned
        simp only [collectRegions, List.map_cons, List.map_nil, scanned]
        exact chain_single _

/-- Every region of `regions` that ends before the end of `buf` ends where a statement ends, as
the scan of the whole buffer delimits its statements. -/
def CutsBetweenStatements (dec : Decoder R) (buf : ByteArray) (regions : List Region) : Prop :=
  ∀ r ∈ regions, r.stop < buf.size → ∃ span ∈ statementSpans dec buf, span.2 = r.stop

instance (dec : Decoder R) (buf : ByteArray) (regions : List Region) :
    Decidable (CutsBetweenStatements dec buf regions) :=
  inferInstanceAs
    (Decidable (∀ r ∈ regions, r.stop < buf.size → ∃ span ∈ statementSpans dec buf, span.2 = r.stop))

theorem collectRegions_of_split {buf : ByteArray} {parts : Int} {regions : List Region}
    (splitOk : Region.split buf parts = .ok regions) (dec : Decoder R)
    (cuts : CutsBetweenStatements dec buf regions) :
    collectRegions buf dec regions = (whole buf dec).collect := by
  rcases Region.split_covers splitOk with rfl | covers
  · exact collectRegions_whole buf dec
  · rw [collect_whole]
    exact collectRegions_covers covers cuts

/-- Where a split cuts a dump only at ends of statements as its scan delimits them, the scans of
the regions, run one after another until one fails, yield the rows of the scan of the whole dump
and end with its error; and a count of rows in as many regions counts as a single scan does. -/
theorem scan_in_regions (buf : ByteArray) (parts : Int) (regions : List Region)
    (splitOk : Region.split buf parts = .ok regions) :
    (∀ {R : Type} (dec : Decoder R), CutsBetweenStatements dec buf regions →
        collectRegions buf dec regions = (whole buf dec).collect) ∧
      ∀ t : Table, CutsBetweenStatements t.decoder buf regions →
        countRows buf t parts = countRows buf t 1 := by
  refine ⟨fun dec cuts => collectRegions_of_split splitOk dec cuts, fun t cuts => ?_⟩
  rw [countRows_of_split splitOk, countRows_of_split (Region.split_one buf),
    collectRegions_of_split splitOk t.decoder cuts, collectRegions_whole]

-- Split results and counts are compared by `decide`.
deriving instance DecidableEq for Except

theorem scan_in_regions_two_inserts :
    Region.split "INSERT INTO t VALUES (1);INSERT INTO t VALUES (2);".toUTF8 2 =
        .ok [⟨0, 25⟩, ⟨25, 50⟩] ∧
      CutsBetweenStatements (Decoder.raw "t" 1)
        "INSERT INTO t VALUES (1);INSERT INTO t VALUES (2);".toUTF8 [⟨0, 25⟩, ⟨25, 50⟩] ∧
      collectRegions "INSERT INTO t VALUES (1);INSERT INTO t VALUES (2);".toUTF8
          (Decoder.raw "t" 1) [⟨0, 25⟩, ⟨25, 50⟩] =
        (whole "INSERT INTO t VALUES (1);INSERT INTO t VALUES (2);".toUTF8
          (Decoder.raw "t" 1)).collect := by
  have splitOk : Region.split "INSERT INTO t VALUES (1);INSERT INTO t VALUES (2);".toUTF8 2 =
      .ok [⟨0, 25⟩, ⟨25, 50⟩] := by
    decide +kernel
  have cuts : CutsBetweenStatements (Decoder.raw "t" 1)
      "INSERT INTO t VALUES (1);INSERT INTO t VALUES (2);".toUTF8 [⟨0, 25⟩, ⟨25, 50⟩] := by
    decide +kernel
  exact ⟨splitOk, cuts, (scan_in_regions _ 2 _ splitOk).1 _ cuts⟩

/-- A `;` in the column list of an insert: the split cuts the dump after it, inside the one
statement of the dump as its scan delimits it, and the scan of the first region fails at its
end, where the scan of the whole dump counts one row. -/
theorem count_cut_in_column_list :
    Region.split "INSERT INTO user_former_groups (a;b) VALUES (1,'sysop');".toUTF8 2 =
        .ok [⟨0, 34⟩, ⟨34, 56⟩] ∧
      statementSpans Tables.userFormerGroups.decoder
        "INSERT INTO user_former_groups (a;b) VALUES (1,'sysop');".toUTF8 = [(0, 56)] ∧
      countRows "INSERT INTO user_former_groups (a;b) VALUES (1,'sysop');".toUTF8
        Tables.userFormerGroups 1 = .ok 1 ∧
      countRows "INSERT INTO user_former_groups (a;b) VALUES (1,'sysop');".toUTF8
        Tables.userFormerGroups 2 = .error (ScanError.endOfInput 34 "')'") := by
  decide +kernel

end Scan

end WikiDump

