import WikiDump.Proofs.ReadErrors
import WikiDump.Proofs.Regions
/-!
# The error that stops a scan

A scan stops with an error in one of three ways, and each says where (`Scan.StopsWith`):

* a lexical error (`ScanError.LexicalIn`), between where the scan started and the end of its
  buffer, and an unexpected end at the end itself;
* a tuple with the wrong number of values: the error names the decoder's table and points at the
  tuple's `(`;
* a tuple whose values the decoder refuses: the error is the decoder's own, for the values of a
  tuple read without fault.

The search for a target statement fails only with lexical errors (`Scan.seek_failed`), a target
statement stops in one of the three ways (`Scan.statementRows_stops`), and so does the scan from
one statement to the next (`Scan.rowsFrom_stops`), by induction on the statements it passes.

A table's decoder refuses a tuple at its first column whose converter refuses the value
(`Table.decodeRow_refused`), and a converter refuses with invalid UTF-8, an invalid timestamp or
a type conversion (`Converter.convert_cause`); the raw decoder refuses nothing. So the error that
stops the scan of a region, with either decoder of a table, lies inside the region and reports
the cause of its kind (`Scan.scan_error_located`).
-/

namespace WikiDump

open Bytes

def Cause.isConversion : Cause → Bool
  | .invalidUtf8 | .invalidTimestamp | .typeConversion => true
  | _ => false

/-! ## What converters and tables refuse -/

namespace Converter

theorem map_eq_error {α β : Type} {x : Except ConversionError α} {f : α → β}
    {err : ConversionError} (failed : x.map f = .error err) : x = .error err := by
  cases x with
  | error e => cases failed; rfl
  | ok a => cases failed

theorem kindError_cause (c : Content) (want : String) :
    (kindError c want).cause = .typeConversion := by
  cases c <;> rfl

theorem readText_cause {c : Content} {err : ConversionError} (failed : readText c = .error err) :
    err.cause.isConversion = true := by
  unfold readText at failed
  split at failed
  · split at failed
    · cases failed
    · cases failed
      rfl
  · cases failed
    rw [kindError_cause]
    rfl

theorem readInstant_cause {b : ByteArray} {err : ConversionError}
    (failed : readInstant b = .error err) : err.cause = .invalidTimestamp := by
  unfold readInstant at failed
  -- the layout is one of the two shapes, or none; then the digits must name a real second
  generalize (if b.size == 14 && allDigits b then some false
    else if isSpacedShape b then some true else none) = shape at failed
  cases shape with
  | none =>
      cases failed
      rfl
  | some spaced =>
      dsimp only at failed
      split at failed
      · cases failed
      · cases failed
        rfl

theorem kindError_isConversion (c : Content) (want : String) :
    (kindError c want).cause.isConversion = true := by
  rw [kindError_cause]
  rfl

theorem read_cause {conv : Converter} {c : Content} {err : ConversionError}
    (failed : conv.read c = .error err) : err.cause.isConversion = true := by
  cases conv with
  | integer k =>
      simp only [read] at failed
      split at failed
      · split at failed
        · cases failed
        · cases failed
          rfl
      · cases failed
        exact kindError_isConversion _ _
  | boolean =>
      simp only [read] at failed
      split at failed
      · split at failed
        · cases failed
        · split at failed
          · cases failed
          · cases failed
            rfl
      · cases failed
        exact kindError_isConversion _ _
  | number =>
      simp only [read] at failed
      split at failed
      · split at failed
        · cases failed
          rfl
        · cases failed
      · cases failed
      · cases failed
        exact kindError_isConversion _ _
  | text k => exact readText_cause (map_eq_error failed)
  | title =>
      simp only [read] at failed
      split at failed
      · rename_i unread
        cases failed
        exact readText_cause unread
      · split at failed
        · cases failed
          rfl
        · cases failed
  | bytes =>
      simp only [read] at failed
      split at failed
      · cases failed
      · cases failed
        exact kindError_isConversion _ _
  | pageType =>
      simp only [read] at failed
      split at failed
      · rename_i unread
        cases failed
        exact readText_cause unread
      · split at failed
        · cases failed
        · cases failed
          rfl
  | timestamp =>
      simp only [read] at failed
      split at failed
      · rw [readInstant_cause (map_eq_error failed)]
        rfl
      · cases failed
        exact kindError_isConversion _ _
  | expiry =>
      simp only [read] at failed
      split at failed
      · split at failed
        · cases failed
        · rw [readInstant_cause (map_eq_error failed)]
          rfl
      · cases failed
        exact kindError_isConversion _ _

theorem convert_cause {conv : Converter} {nullable : Bool} {c : Content} {err : ConversionError}
    (failed : conv.convert nullable c = .error err) : err.cause.isConversion = true := by
  unfold convert at failed
  split at failed
  · split at failed
    · cases failed
    · exact read_cause failed
  · exact read_cause failed

end Converter

namespace Table

/-- Column `index` of `columns`, `c`, is the first whose converter refuses its value `v` among
`values`, with `err`: every column before it accepts its value. -/
structure FirstRefusal (columns : List Column) (values : List Value) (index : Nat) (c : Column)
    (v : Value) (err : ConversionError) : Prop where
  column : columns[index]? = some c
  value : values[index]? = some v
  refuses : c.converter.convert c.nullable v.content = .error err
  earlier : ∀ k < index, ∃ c' v' d, columns[k]? = some c' ∧ values[k]? = some v' ∧
    c'.converter.convert c'.nullable v'.content = .ok d

namespace FirstRefusal

theorem head {c : Column} {v : Value} {err : ConversionError} (cs : List Column) (vs : List Value)
    (refuses : c.converter.convert c.nullable v.content = .error err) :
    FirstRefusal (c :: cs) (v :: vs) 0 c v err :=
  ⟨rfl, rfl, refuses, fun _ below => absurd below (Nat.not_lt_zero _)⟩

theorem cons {cs : List Column} {vs : List Value} {index : Nat} {c c' : Column} {v v' : Value}
    {err : ConversionError} {d : Datum} (first : FirstRefusal cs vs index c v err)
    (accepts : c'.converter.convert c'.nullable v'.content = .ok d) :
    FirstRefusal (c' :: cs) (v' :: vs) (index + 1) c v err := by
  refine ⟨first.column, first.value, first.refuses, ?_⟩
  intro k below
  cases k with
  | zero => exact ⟨c', v', d, rfl, rfl, accepts⟩
  | succ k => exact first.earlier k (by omega)

end FirstRefusal

theorem decodeFrom_refused (table : String) {index : Nat} {cs : List Column} {vs : List Value}
    {e : ScanError} (failed : decodeFrom table index cs vs = .error e) :
    ∃ k c v err, FirstRefusal cs vs k c v err ∧
      e = .rowDecode table (index + k) c.name v.raw v.offset err := by
  induction cs generalizing index vs with
  | nil => cases failed
  | cons c cs ih =>
      cases vs with
      | nil => cases failed
      | cons v vs =>
          simp only [decodeFrom] at failed
          cases accepted : c.converter.convert c.nullable v.content with
          | error err =>
              rw [accepted] at failed
              cases failed
              exact ⟨0, c, v, err, .head cs vs accepted, rfl⟩
          | ok d =>
              rw [accepted] at failed
              cases rest : decodeFrom table (index + 1) cs vs with
              | ok row =>
                  rw [rest] at failed
                  cases failed
              | error e' =>
                  rw [rest] at failed
                  cases failed
                  obtain ⟨k, c', v', err, first, same⟩ := ih rest
                  refine ⟨k + 1, c', v', err, first.cons accepted, ?_⟩
                  rw [same, show index + 1 + k = index + (k + 1) by omega]

/-- A table refuses the values of a tuple at the first column whose converter refuses its
value; the error names the table, that column, the value and where it starts. -/
theorem decodeRow_refused {t : Table} {values : Array Value} {e : ScanError}
    (failed : t.decodeRow values = .error e) :
    ∃ index c v err, FirstRefusal t.columns values.toList index c v err ∧
      e = .rowDecode t.name index c.name v.raw v.offset err := by
  obtain ⟨k, c, v, err, first, same⟩ := decodeFrom_refused t.name failed
  exact ⟨k, c, v, err, first, by rw [same, Nat.zero_add]⟩

end Table

theorem Statement.HeaderRun.le_size {buf : ByteArray} {p j : Nat} (run : HeaderRun buf p j)
    (inside : p ≤ buf.size) : j ≤ buf.size := by
  induction run with
  | refl => exact inside
  | byte present _ _ _ ih => exact ih (Statement.lt_size_of_at present)
  | quoted _ closed _ ih => exact ih (Literal.skipQuoted_bounds closed).2

namespace Scan

variable {R : Type}

/-- How a scan of `buf` with `dec` from `lo` on can stop with an error. -/
inductive StopsWith (dec : Decoder R) (buf : ByteArray) (lo : Nat) : ScanError → Prop
  /-- A lexical error from `lo` on. -/
  | lexical {e : ScanError} : e.LexicalIn buf lo → StopsWith dec buf lo e
  /-- A tuple opened at `pos` with `found` values where the decoder's width was required. -/
  | columnCount {pos found : Nat} : lo ≤ pos → at? buf pos = some openParen →
      (found : Int) ≠ dec.width → StopsWith dec buf lo (.columnCount dec.table pos dec.width found)
  /-- The decoder refuses the values of the tuple at `pos`, read without fault. -/
  | refused {pos : Nat} {e : ScanError} : lo ≤ pos → (Tuple.read buf pos dec.width).error = none →
      dec.decodeRow (Tuple.read buf pos dec.width).values = .error e → StopsWith dec buf lo e

theorem StopsWith.mono {dec : Decoder R} {buf : ByteArray} {lo lo' : Nat} {e : ScanError}
    (stops : StopsWith dec buf lo e) (earlier : lo' ≤ lo) : StopsWith dec buf lo' e := by
  cases stops with
  | lexical placed => exact .lexical (placed.mono earlier)
  | columnCount after paren miscounted => exact .columnCount (by omega) paren miscounted
  | refused after clean refusal => exact .refused (by omega) clean refusal

/-- The search for a target statement fails only with a lexical error. -/
theorem seek_failed {buf table : ByteArray} {pos i : Nat} {e : ScanError}
    (failed : seek buf table pos = .failed i e) (inside : pos ≤ buf.size) : e.LexicalIn buf pos := by
  revert failed inside
  fun_induction seek buf table pos with
  | case1 pos e' trivia =>
      intro failed inside
      cases failed
      exact (Statement.skipTrivia_reads inside).lexicalIn_of_error trivia
  | case2 pos i _ afterTrivia inBuffer _ ih =>
      intro failed _
      exact (ih failed inBuffer).mono (by omega)
  | case3 pos i _ afterTrivia inBuffer _ _ =>
      intro failed _
      cases failed
      exact ScanError.unexpected_lexicalIn afterTrivia (Nat.le_of_lt inBuffer)
  | case4 => intro failed; cases failed
  | case5 pos i _ afterTrivia inBuffer _ _ _ after chosen e' unclosed =>
      intro failed _
      cases failed
      have named : target buf table i = some after := chosen
      have ahead := lt_of_target chosen
      have within := (target_run named).le_size (Nat.le_of_lt inBuffer)
      exact ((Statement.valuesClause_reads within).lexicalIn_of_error unclosed).mono (by omega)
  | case6 pos i _ afterTrivia _ _ _ _ _ stop skipped _ ih =>
      intro failed _
      have bounds := Statement.skipStatement_bounds skipped
      exact (ih failed bounds.2).mono (by omega)
  | case7 pos i _ afterTrivia inBuffer _ _ _ _ e' unended =>
      intro failed _
      cases failed
      exact ((Statement.skipStatement_reads (Nat.le_of_lt inBuffer)).lexicalIn_of_error
        unended).mono afterTrivia
  | case8 => intro failed; cases failed

/-- A target statement stops in one of the three ways, from the tuple it was entered at on. -/
theorem statementRows_stops {dec : Decoder R} {buf : ByteArray} {pos : Nat} {e : ScanError}
    (failed : (statementRows dec buf pos).2 = .error e) (inside : pos ≤ buf.size) :
    StopsWith dec buf pos e := by
  revert failed inside
  fun_induction statementRows dec buf pos with
  | case1 pos t e' faulty =>
      intro failed inside
      cases failed
      rcases Tuple.read_error inside faulty with placed | ⟨found, counted, paren, miscounted⟩
      · rw [placed.inTable]
        exact .lexical placed
      · subst counted
        exact .columnCount (Nat.le_refl pos) paren miscounted
  | case2 pos t clean _ e' refusal =>
      intro failed _
      cases failed
      exact .refused (Nat.le_refl pos) clean refusal
  | case3 pos t clean read row _ i absent =>
      intro failed _
      cases failed
      have bounds : pos < t.next ∧ t.next ≤ buf.size := ⟨read.1, read.2.1⟩
      have spaced : t.next ≤ i := Tuple.le_skipSpace buf t.next
      have within : i ≤ buf.size := skipWhile_le_size _ _ _ bounds.2
      have past := size_le_of_at_none absent
      exact .lexical (ScanError.endOfInput_lexicalIn (by omega) (by omega))
  | case4 pos t clean read row _ i c found _ _ ih =>
      intro failed _
      have bounds : pos < t.next ∧ t.next ≤ buf.size := ⟨read.1, read.2.1⟩
      have spaced : t.next ≤ i := Tuple.le_skipSpace buf t.next
      have inBuffer := Statement.lt_size_of_at found
      have next := Tuple.le_skipSpace buf (i + 1)
      have within : skipSpace buf (i + 1) ≤ buf.size := skipWhile_le_size _ _ _ inBuffer
      exact (ih failed within).mono (by omega)
  | case5 => intro failed; cases failed
  | case6 pos t clean read row _ i c found _ _ =>
      intro failed _
      cases failed
      have bounds : pos < t.next ∧ t.next ≤ buf.size := ⟨read.1, read.2.1⟩
      have spaced : t.next ≤ i := Tuple.le_skipSpace buf t.next
      have inBuffer := Statement.lt_size_of_at found
      exact .lexical (ScanError.unexpected_lexicalIn (by omega)
        (Nat.le_of_lt inBuffer))

/-- The scan from a position between statements stops in one of the three ways. The induction
follows the statements the scan passes; only the search and target statements can fail. -/
theorem rowsFrom_stops {dec : Decoder R} {buf : ByteArray} {pos : Nat} {e : ScanError}
    (failed : (rowsFrom dec buf pos).2 = some e) (inside : pos ≤ buf.size) :
    StopsWith dec buf pos e := by
  revert failed inside
  fun_induction rowsFrom dec buf pos with
  | case1 => intro failed; cases failed
  | case2 pos i e' searched =>
      intro failed inside
      cases failed
      exact .lexical (seek_failed searched inside)
  | case3 pos body entered _ e' stopped =>
      intro failed _
      cases failed
      have bounds := seek_entered entered
      exact (statementRows_stops stopped (Nat.le_of_lt bounds.2)).mono bounds.1
  | case4 pos body entered _ stop ended _ _ ih =>
      intro failed _
      have bounds := seek_entered entered
      have ends := statementRows_end ended
      exact (ih failed ends.2).mono (by omega)

theorem collect_start_past (buf : ByteArray) (region : Region) (dec : Decoder R)
    (fits : region.stop ≤ buf.size) (past : region.stop < region.start) :
    (start buf region dec).collect = ([], none) := by
  have size := start_buf_size buf region dec fits
  have finished :
      seek (start buf region dec).buf (start buf region dec).decoder.table.toUTF8 region.start =
      .finished region.start :=
    seek_end (skipTrivia_past (by omega)) (by omega)
  have stopped : (start buf region dec).next =
      (false, { start buf region dec with pos := region.start, state := .done }) := by
    change enter (start buf region dec) region.start = _
    unfold enter
    rw [finished]
  unfold collect run
  rw [runFuel, stopped]
  rfl

theorem collect_stops {buf : ByteArray} {region : Region} {dec : Decoder R} {e : ScanError}
    (fits : region.stop ≤ buf.size) (failed : (start buf region dec).collect.2 = some e) :
    StopsWith dec (buf.extract 0 region.stop) region.start e := by
  by_cases ordered : region.start ≤ region.stop
  · rw [collect_start buf region dec ordered fits] at failed
    have size := start_buf_size buf region dec fits
    exact rowsFrom_stops failed (by simp only [start] at size; omega)
  · rw [collect_start_past buf region dec fits (by omega)] at failed
    cases failed

/-! ## The error of a region's scan -/

/-- Where an error that stops the scan of `region` of `buf`, for the rows of table `t`, points
and what it reports, by its kind. A lexical error lies inside the region and reports a lexical
cause, an unexpected end at the region's end. A column count error names the table and points at
the `(` of a tuple inside the region. A refused value names the table and the first column of a
tuple, read in the region, whose converter refuses its value; it points at that value and
reports the cause of a conversion. The three sets of causes are disjoint, so the cause an error
reports tells its kind. -/
inductive Located (t : Table) (buf : ByteArray) (region : Region) : ScanError → Prop
  | lexical {cause : Cause} {offset : Nat} {expected found : String} :
      cause.isLexical = true → region.start ≤ offset → offset ≤ region.stop →
      (cause = .unexpectedEnd → offset = region.stop) →
      Located t buf region (.lexical cause offset expected found)
  | columnCount {offset found : Nat} :
      region.start ≤ offset → offset < region.stop → at? buf offset = some openParen →
      (found : Int) ≠ t.width → Located t buf region (.columnCount t.name offset t.width found)
  | rowDecode {pos index : Nat} {c : Column} {v : Value} {err : ConversionError} :
      region.start ≤ pos → (Tuple.read (buf.extract 0 region.stop) pos t.width).error = none →
      Table.FirstRefusal t.columns (Tuple.read (buf.extract 0 region.stop) pos t.width).values.toList
        index c v err →
      region.start ≤ v.offset → v.offset < region.stop → err.cause.isConversion = true →
      Located t buf region (.rowDecode t.name index c.name v.raw v.offset err)

theorem Located.offset_mem {t : Table} {buf : ByteArray} {region : Region} {e : ScanError}
    (located : Located t buf region e) : region.start ≤ e.offset ∧ e.offset ≤ region.stop := by
  cases located with
  | lexical _ after inside _ => exact ⟨after, inside⟩
  | columnCount after inside _ _ => exact ⟨after, Nat.le_of_lt inside⟩
  | rowDecode _ _ _ after inside _ => exact ⟨after, Nat.le_of_lt inside⟩

theorem located_of_stops {t : Table} {dec : Decoder R} {buf : ByteArray} {region : Region}
    {e : ScanError} (fits : region.stop ≤ buf.size) (named : dec.table = t.name)
    (wide : dec.width = t.width)
    (refusals : ∀ values e, dec.decodeRow values = .error e → t.decodeRow values = .error e)
    (stops : StopsWith dec (buf.extract 0 region.stop) region.start e) : Located t buf region e := by
  have size : (buf.extract 0 region.stop).size = region.stop := by
    simp only [ByteArray.size_extract]
    omega
  cases stops with
  | lexical placed =>
      cases e with
      | lexical cause offset expected found =>
          obtain ⟨after, inside, lexicalCause, atEnd⟩ := placed
          exact .lexical lexicalCause after (size ▸ inside) (fun same => size ▸ atEnd same)
      | columnCount => exact placed.elim
      | rowDecode => exact placed.elim
  | @columnCount pos found after paren miscounted =>
      have inBuffer := Statement.lt_size_of_at paren
      have same := agree_extract buf region.stop pos (by omega)
      rw [named, wide]
      rw [wide] at miscounted
      exact .columnCount after (by omega) (same ▸ paren) miscounted
  | refused after clean refusal =>
      rw [wide] at clean refusal
      obtain ⟨index, c, v, err, first, same⟩ := Table.decodeRow_refused (refusals _ _ refusal)
      subst same
      have spread := (Tuple.read_offsets clean).2.2
      have member := List.mem_of_getElem? first.value
      have placed := spread.2 v member
      have bounds := Tuple.read_offsets clean
      exact .rowDecode after clean first (by omega) (by omega)
        (Converter.convert_cause first.refuses)

/-- Every error that stops the scan of `region` of `buf` for table `t`, with the table's decoder
or with the raw decoder of its name and width, is located. -/
def ErrorsLocated (buf : ByteArray) (region : Region) (t : Table) : Prop :=
  (∀ e, (start buf region t.decoder).collect.2 = some e → Located t buf region e) ∧
    ∀ e, (start buf region (Decoder.raw t.name t.width)).collect.2 = some e → Located t buf region e

/-- The error that stops the scan of a region of a buffer, with a table's decoder or with the
raw decoder, lies inside the region and reports the cause of its kind. -/
theorem scan_error_located (buf : ByteArray) (region : Region) (t : Table)
    (fits : region.stop ≤ buf.size) : ErrorsLocated buf region t :=
  ⟨fun _ failed => located_of_stops fits rfl rfl (fun _ _ refusal => refusal)
      (collect_stops fits failed),
    fun _ failed => located_of_stops fits rfl rfl (fun _ _ refusal => by cases refusal)
      (collect_stops fits failed)⟩

theorem page_scan_error_located :
    (⟨0, 28⟩ : Region).stop ≤ "INSERT INTO page VALUES (1);".toUTF8.size ∧
      ErrorsLocated "INSERT INTO page VALUES (1);".toUTF8 ⟨0, 28⟩ Tables.pages :=
  ⟨by decide, scan_error_located _ _ _ (by decide)⟩

end Scan

end WikiDump

