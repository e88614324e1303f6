import WikiDump.Proofs.IntegerRange
import WikiDump.Proofs.ReadErrors
import WikiDump.Proofs.ScanRun
import WikiDump.Proofs.TimestampColumns
import WikiDump.Schema.Tables
/-!
# The values a decoded row exposes

A row exposes one plain value per column, in column order (`Table.values`). The type of that value
depends only on the column: an integer column exposes 64-bit integers, a boolean column booleans,
a number column doubles, a byte-string column bytes, and every other column text, with instants in
RFC 3339 form. A column exposes nothing exactly when it is nullable and its literal is NULL
(`Column.Exposes`).

The proof follows a row back to the tuple the scan read. Each field is what its column's converter
reads from the tuple's value (`Table.decodeFrom_entries`); each converter reads literals as
`Converter.Shows` says (`Converter.read_shows`); so every row a scan yields exposes its values as
`Column.Exposes` says (`Table.yielded_row_exposes`). An integer column keeps the literal's own 64-bit
value whatever the width of its kind, since the converter's two range tests accept only values
that the conversion keeps (`IntKind.wrap_eq_of_fits`).
-/

namespace WikiDump

namespace IntKind

/-- A 64-bit value that passes the converter's two tests is kept by the conversion, whatever the
kind's width. -/
theorem wrap_eq_of_fits {k : IntKind} {n : Int64} (fits : k.fits n.toInt = true) :
    k.wrap n.toInt = n.toInt := by
  obtain ⟨low, high⟩ := toInt64_range n
  simp only [IntKind.fits, Bool.and_eq_true, beq_iff_eq, decide_eq_decide] at fits
  obtain ⟨widened, sameSign⟩ := fits
  by_cases inRange : -9223372036854775808 ≤ k.wrap n.toInt ∧ k.wrap n.toInt < 9223372036854775808
  · rw [widen_of_range inRange.1 inRange.2] at widened
    exact widened
  · exfalso
    have whole : 0 < Nat.pow 2 k.bits := Nat.two_pow_pos k.bits
    cases signed : k.signed
    · -- An unsigned conversion leaves 64 signed bits only for a negative value, whose result is
      -- positive: the sign test refuses it.
      rw [wrap_of_unsigned signed] at inRange sameSign
      have nonneg := Int.emod_nonneg n.toInt (b := ((Nat.pow 2 k.bits : Nat) : Int)) (by omega)
      by_cases negative : n.toInt < 0
      · have := sameSign.1 (by omega)
        omega
      · have below := Int.emod_lt_of_pos n.toInt (b := ((Nat.pow 2 k.bits : Nat) : Int)) (by omega)
        by_cases small : n.toInt < Nat.pow 2 k.bits
        · rw [Int.emod_eq_of_lt (by omega) small] at inRange
          omega
        · omega
    · -- A signed conversion leaves 64 signed bits only when it is wider than 64 bits, and then it
      -- keeps every 64-bit value.
      rw [wrap_of_signed signed] at inRange
      have least := @Int.le_bmod n.toInt (Nat.pow 2 k.bits) whole
      have greatest := @Int.bmod_lt n.toInt (Nat.pow 2 k.bits) whole
      by_cases narrow : Nat.pow 2 k.bits ≤ 18446744073709551616
      · omega
      · rw [Int.bmod_eq_of_le (by omega) (by omega)] at inRange
        omega

end IntKind

namespace Datum

theorem exposed_int (k : IntKind) (n : Int64) : (Datum.int k n.toInt).exposed = .int n := by
  obtain ⟨low, high⟩ := IntKind.toInt64_range n
  have half : ((Nat.pow 2 63 : Nat) : Int) = 9223372036854775808 := rfl
  have plainInt : (Datum.int k n.toInt).plain = .int n := by
    rw [plain, if_neg (by omega), Int64.ofInt_toInt]
  unfold exposed
  rw [plainInt]

end Datum

namespace Converter

/-- The type of the values that a column of the converter exposes, named as values name their
types. -/
def exposedType : Converter → String
  | .integer _ => "int64"
  | .boolean => "bool"
  | .number => "float64"
  | .bytes => "[]uint8"
  | .text _ | .title | .pageType | .timestamp | .expiry => "string"

/-- What a column of the converter reads a literal as, and the value it exposes for it, when the
literal is not NULL in a nullable column. An integer is exposed as the literal's own 64-bit value,
which is the field's value; text as its UTF-8 decoding; a byte string as its bytes; an instant in
RFC 3339 form, and the expiry that never comes as the text `infinity`. -/
def Shows : Converter → Content → Datum → Variant → Prop
  | .integer k, lit, d, x => ∃ n : Int64, lit = .integer n ∧ d = .int k n.toInt ∧ x = .int n
  | .boolean, lit, d, x => ∃ n : Int64, lit = .integer n ∧
      (n.toInt = 0 ∧ d = .bool false ∧ x = .bool false ∨ n.toInt = 1 ∧ d = .bool true ∧ x = .bool true)
  | .number, lit, d, x => ∃ y : Float,
      (lit = .float y ∧ y.isNaN = false ∨ ∃ n : Int64, lit = .integer n ∧ y = Binary64.ofInt n.toInt) ∧
      d = .float y ∧ x = .float y
  | .text k, lit, d, x => ∃ (tx : Text) (s : String), lit = .text tx ∧ Utf8.decode? tx.bytes = some s ∧
      d = .text k s ∧ x = .str s
  | .title, lit, d, x => ∃ (tx : Text) (s : String), lit = .text tx ∧ Utf8.decode? tx.bytes = some s ∧
      s.contains ' ' = false ∧ d = .text .title s ∧ x = .str s
  | .pageType, lit, d, x => ∃ (tx : Text) (s : String), lit = .text tx ∧ Utf8.decode? tx.bytes = some s ∧
      TextKind.pageTypes.contains s = true ∧ d = .text .pageType s ∧ x = .str s
  | .bytes, lit, d, x => ∃ tx : Text, lit = .text tx ∧ d = .blob tx.bytes ∧ x = .bytes tx.bytes
  | .timestamp, lit, d, x => ∃ (tx : Text) (i : Instant), lit = .text tx ∧ readInstant tx.bytes = .ok i ∧
      d = .instant i ∧ x = .str i.rfc3339
  | .expiry, lit, d, x => ∃ tx : Text, lit = .text tx ∧
      (tx.bytes = "infinity".toUTF8 ∧ d = .expiry none ∧ x = .str "infinity" ∨
        ∃ i : Instant, readInstant tx.bytes = .ok i ∧ d = .expiry (some i) ∧ x = .str i.rfc3339)

theorem readText_eq_ok {lit : Content} {s : String} :
    readText lit = .ok s ↔ ∃ tx : Text, lit = .text tx ∧ Utf8.decode? tx.bytes = some s := by
  constructor
  · intro read
    unfold readText at read
    split at read
    · rename_i tx
      split at read
      · rename_i decoded
        cases read
        exact ⟨tx, rfl, decoded⟩
      · cases read
    · cases read
  · rintro ⟨tx, rfl, decoded⟩
    unfold readText
    dsimp only
    rw [decoded]

theorem read_integer_shows {k : IntKind} {lit : Content} {d : Datum}
    (read : (Converter.integer k).read lit = .ok d) : (Converter.integer k).Shows lit d d.exposed := by
  cases lit with
  | integer n =>
      simp only [Converter.read] at read
      split at read
      · rename_i fits
        cases read
        rw [IntKind.wrap_eq_of_fits fits]
        exact ⟨n, rfl, rfl, Datum.exposed_int k n⟩
      · cases read
  | null => cases read
  | float x => cases read
  | text tx => cases read

theorem read_boolean_shows {lit : Content} {d : Datum} (read : Converter.boolean.read lit = .ok d) :
    Converter.boolean.Shows lit d d.exposed := by
  cases lit with
  | integer n =>
      simp only [Converter.read] at read
      split at read
      · rename_i zero
        cases read
        exact ⟨n, rfl, .inl ⟨zero, rfl, rfl⟩⟩
      · split at read
        · rename_i one
          cases read
          exact ⟨n, rfl, .inr ⟨one, rfl, rfl⟩⟩
        · cases read
  | null => cases read
  | float x => cases read
  | text tx => cases read

theorem read_number_shows {lit : Content} {d : Datum} (read : Converter.number.read lit = .ok d) :
    Converter.number.Shows lit d d.exposed := by
  cases lit with
  | float y =>
      simp only [Converter.read] at read
      split at read
      · cases read
      · rename_i finite
        cases read
        exact ⟨y, .inl ⟨rfl, Bool.eq_false_iff.2 finite⟩, rfl, rfl⟩
  | integer n =>
      cases read
      exact ⟨_, .inr ⟨n, rfl, rfl⟩, rfl, rfl⟩
  | null => cases read
  | text tx => cases read

theorem read_text_shows {k : TextKind} {lit : Content} {d : Datum}
    (read : (Converter.text k).read lit = .ok d) : (Converter.text k).Shows lit d d.exposed := by
  obtain ⟨s, text, rfl⟩ := map_eq_ok_iff.1 read
  obtain ⟨tx, rfl, decoded⟩ := readText_eq_ok.1 text
  exact ⟨tx, s, rfl, decoded, rfl, rfl⟩

theorem read_title_shows {lit : Content} {d : Datum} (read : Converter.title.read lit = .ok d) :
    Converter.title.Shows lit d d.exposed := by
  simp only [Converter.read] at read
  split at read
  · cases read
  · rename_i s text
    split at read
    · cases read
    · rename_i spaceless
      cases read
      obtain ⟨tx, rfl, decoded⟩ := readText_eq_ok.1 text
      have noSpace : s.contains ' ' = false := by
        simpa [String.contains_char_eq] using spaceless
      exact ⟨tx, s, rfl, decoded, noSpace, rfl, rfl⟩

theorem read_pageType_shows {lit : Content} {d : Datum} (read : Converter.pageType.read lit = .ok d) :
    Converter.pageType.Shows lit d d.exposed := by
  simp only [Converter.read] at read
  split at read
  · cases read
  · rename_i s text
    split at read
    · rename_i known
      cases read
      obtain ⟨tx, rfl, decoded⟩ := readText_eq_ok.1 text
      exact ⟨tx, s, rfl, decoded, known, rfl, rfl⟩
    · cases read

theorem read_bytes_shows {lit : Content} {d : Datum} (read : Converter.bytes.read lit = .ok d) :
    Converter.bytes.Shows lit d d.exposed := by
  cases lit with
  | text tx =>
      cases read
      exact ⟨tx, rfl, rfl, rfl⟩
  | null => cases read
  | integer n => cases read
  | float x => cases read

theorem read_timestamp_shows {lit : Content} {d : Datum} (read : Converter.timestamp.read lit = .ok d) :
    Converter.timestamp.Shows lit d d.exposed := by
  cases lit with
  | text tx =>
      obtain ⟨i, instant, rfl⟩ := map_eq_ok_iff.1 read
      exact ⟨tx, i, rfl, instant, rfl, rfl⟩
  | null => cases read
  | integer n => cases read
  | float x => cases read

theorem read_expiry_shows {lit : Content} {d : Datum} (read : Converter.expiry.read lit = .ok d) :
    Converter.expiry.Shows lit d d.exposed := by
  cases lit with
  | text tx =>
      refine ⟨tx, rfl, ?_⟩
      rcases Classical.em (tx.bytes = "infinity".toUTF8) with infinity | finite
      · rw [read_expiry_infinity infinity] at read
        cases read
        exact .inl ⟨infinity, rfl, rfl⟩
      · rw [read_expiry_instant finite] at read
        obtain ⟨i, instant, rfl⟩ := map_eq_ok_iff.1 read
        exact .inr ⟨i, instant, rfl, rfl⟩
  | null => cases read
  | integer n => cases read
  | float x => cases read

/-- Every value a converter reads is exposed as `Shows` says. -/
theorem read_shows {conv : Converter} {lit : Content} {d : Datum} (read : conv.read lit = .ok d) :
    conv.Shows lit d d.exposed := by
  cases conv with
  | integer k => exact read_integer_shows read
  | boolean => exact read_boolean_shows read
  | number => exact read_number_shows read
  | text k => exact read_text_shows read
  | title => exact read_title_shows read
  | bytes => exact read_bytes_shows read
  | pageType => exact read_pageType_shows read
  | timestamp => exact read_timestamp_shows read
  | expiry => exact read_expiry_shows read

theorem Shows.typeName {conv : Converter} {lit : Content} {d : Datum} {x : Variant}
    (shows : conv.Shows lit d x) : x.typeName = conv.exposedType := by
  cases conv with
  | integer k =>
      obtain ⟨_, _, _, rfl⟩ := shows
      rfl
  | boolean =>
      obtain ⟨_, _, ⟨_, _, rfl⟩ | ⟨_, _, rfl⟩⟩ := shows <;> rfl
  | number =>
      obtain ⟨_, _, _, rfl⟩ := shows
      rfl
  | text k =>
      obtain ⟨_, _, _, _, _, rfl⟩ := shows
      rfl
  | title =>
      obtain ⟨_, _, _, _, _, _, rfl⟩ := shows
      rfl
  | bytes =>
      obtain ⟨_, _, _, rfl⟩ := shows
      rfl
  | pageType =>
      obtain ⟨_, _, _, _, _, _, rfl⟩ := shows
      rfl
  | timestamp =>
      obtain ⟨_, _, _, _, _, rfl⟩ := shows
      rfl
  | expiry =>
      obtain ⟨_, _, ⟨_, _, rfl⟩ | ⟨_, _, _, rfl⟩⟩ := shows <;> rfl

theorem exposedType_ne_nil (conv : Converter) : conv.exposedType ≠ "<nil>" := by
  cases conv <;> simp only [exposedType] <;> decide

theorem Shows.ne_null {conv : Converter} {lit : Content} {d : Datum} {x : Variant}
    (shows : conv.Shows lit d x) : x ≠ .null := by
  intro null
  have typed := shows.typeName
  rw [null] at typed
  exact exposedType_ne_nil conv typed.symm

theorem convert_eq_read {conv : Converter} {nullable : Bool} {lit : Content}
    (present : ¬(nullable = true ∧ lit = .null)) : conv.convert nullable lit = conv.read lit := by
  cases lit with
  | null =>
      show (if nullable = true then .ok .absent else conv.read .null) = conv.read .null
      rw [if_neg (fun nullable => present ⟨nullable, rfl⟩)]
  | integer n => rfl
  | float x => rfl
  | text tx => rfl

end Converter

namespace Column

/-- What a column exposes for a literal `lit` that it read as the field value `d`: nothing exactly
when the column is nullable and the literal is NULL, and otherwise a value of the column's type,
as `Converter.Shows` says. -/
structure Exposes (c : Column) (lit : Content) (d : Datum) (x : Variant) : Prop where
  null : x = .null ↔ c.nullable = true ∧ lit = .null
  typed : x ≠ .null → x.typeName = c.converter.exposedType
  shows : x ≠ .null → c.converter.Shows lit d x

theorem convert_exposes {c : Column} {lit : Content} {d : Datum}
    (converted : c.converter.convert c.nullable lit = .ok d) : c.Exposes lit d d.exposed := by
  rcases Classical.em (c.nullable = true ∧ lit = .null) with ⟨nullable, rfl⟩ | present
  · -- NULL in a nullable column is the absent field, exposed as nothing.
    have absent : c.converter.convert c.nullable .null = .ok .absent := by
      show (if c.nullable = true then .ok .absent else c.converter.read .null) = .ok .absent
      rw [if_pos nullable]
    rw [absent] at converted
    cases converted
    exact ⟨⟨fun _ => ⟨nullable, rfl⟩, fun _ => rfl⟩, fun shown => absurd rfl shown,
      fun shown => absurd rfl shown⟩
  · rw [Converter.convert_eq_read present] at converted
    have shows := Converter.read_shows converted
    exact ⟨⟨fun null => absurd null shows.ne_null, fun absent => absurd absent present⟩,
      fun _ => shows.typeName, fun _ => shows⟩

end Column

namespace Table

/-- Each field of a decoded row is what its column converts the tuple's value to. -/
theorem decodeFrom_entries {table : String} {index : Nat} {cs : List Column} {vs : List Value}
    {row : Row} (decoded : decodeFrom table index cs vs = .ok row) :
    ∀ (i : Nat) (c : Column) (v : Value) (d : Datum), cs[i]? = some c → vs[i]? = some v →
      row[i]? = some d → c.converter.convert c.nullable v.content = .ok d := by
  induction cs generalizing index vs row with
  | nil =>
      intro i c v d column
      simp at column
  | cons c cs ih =>
      cases vs with
      | nil =>
          intro i c' v d _ value
          simp at value
      | cons v vs =>
          simp only [decodeFrom] at decoded
          split at decoded
          · cases decoded
          · rename_i d converted
            split at decoded
            · cases decoded
            · rename_i rest restDecoded
              cases decoded
              intro i c' v' d' column value entry
              cases i with
              | zero =>
                  simp only [List.getElem?_cons_zero, Option.some.injEq] at column value entry
                  subst column value entry
                  exact converted
              | succ i =>
                  simp only [List.getElem?_cons_succ] at column value entry
                  exact ih restDecoded i c' v' d' column value entry

/-- What a call of `next` on a scan of table `t` yields: a row decoded from a tuple of the table's
width, whose exposed values stand one per column, each as `Column.Exposes` says. -/
def YieldsExposed (t : Table) (s : Scan Row) : Prop :=
  ∃ (values : Array Value) (row : Row), s.next.2.row = some row ∧ values.size = t.width ∧
    t.decodeRow values = .ok row ∧ (Table.values row).length = t.width ∧
    ∀ (i : Nat) (c : Column) (v : Value) (d : Datum) (x : Variant), t.columns[i]? = some c →
      values[i]? = some v → row[i]? = some d → (Table.values row)[i]? = some x →
        c.Exposes v.content d x

/-- Every row a scan of a table yields exposes, for each column in order, nothing exactly when the
column is nullable and its literal is NULL, and otherwise a value of the column's one type. -/
theorem yielded_row_exposes (t : Table) (s : Scan Row) (decoder : s.decoder = t.decoder)
    (inside : s.pos ≤ s.buf.size) (yielded : s.next.1 = true) : t.YieldsExposed s := by
  have live : ¬ s.Stopped := by
    intro stopped
    rw [Scan.next_of_stopped stopped] at yielded
    cases yielded
  obtain ⟨_, _, start, row, _, clean, _, decoded, newRow⟩ := (Scan.next_steps live inside).yields yielded
  rw [decoder] at clean decoded
  have size : (Tuple.read s.buf start t.width).values.size = t.width := by
    have counted := Tuple.read_values_size clean
    exact_mod_cast counted
  refine ⟨_, row, newRow, size, decoded, ?_, ?_⟩
  · rw [Table.values, List.length_map]
    exact decodeRow_length t _ row size decoded
  · intro i c v d x column value entry exposed
    have converted := decodeFrom_entries decoded i c v d column
      (by rw [Array.getElem?_toList]; exact value) entry
    rw [Table.values, List.getElem?_map, entry] at exposed
    cases exposed
    exact Column.convert_exposes converted

def userGroupScan : Scan Row :=
  { buf := "(1,'sysop',NULL)".toUTF8, decoder := Tables.userGroups.decoder, pos := 0,
    state := .inTarget }

theorem userGroupScan_exposes :
    userGroupScan.decoder = Tables.userGroups.decoder ∧ userGroupScan.pos ≤ userGroupScan.buf.size ∧
      userGroupScan.next.1 = true ∧ Tables.userGroups.YieldsExposed userGroupScan := by
  have yields : userGroupScan.next.1 = true := by decide +kernel
  exact ⟨rfl, Nat.zero_le _, yields, yielded_row_exposes _ _ rfl (Nat.zero_le _) yields⟩

end Table

end WikiDump

