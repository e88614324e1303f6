import WikiDump.Dump.Tuple
import WikiDump.Dump.Statement
/-!
# Scanning a dump for one table's rows

A scan walks a region of a dump statement by statement. It skips every statement that is not an
`INSERT` or `REPLACE` into its table (names compare in ASCII case-insensitively), and inside a
target statement it reads the tuples one by one, `,` between them and `;` after the last. Each
tuple must hold the table's width of literals and is turned into a row by the table's decoder.

A scan is a state machine. Each call of `next` either yields one row, or stops: at the end of
the region (state `done`) or at the first error (state `failed`). Once stopped it stays
stopped. The position only moves forward, and the counters say how many rows and target
statements were seen.
-/

namespace WikiDump

open Bytes

/-- Where a scan stands. -/
inductive ScanState where
  | scanning
  | inTarget
  | skipping
  | done
  | failed
  deriving Repr, BEq, DecidableEq, Inhabited

namespace ScanState

def all : List ScanState := [.scanning, .inTarget, .skipping, .done, .failed]

def name : ScanState → String
  | .scanning => "scanning"
  | .inTarget => "in-target-statement"
  | .skipping => "skipping-statement"
  | .done => "done"
  | .failed => "error"

def nameOfCode (n : Nat) : String :=
  match all[n]? with
  | some s => s.name
  | none => "unknown"

end ScanState

/-- Turns the values of a tuple into a row of type `R`, for a table of a fixed width. -/
structure Decoder (R : Type) where
  table : String
  width : Nat
  decodeRow : Array Value → Except ScanError R

def Decoder.raw (table : String) (width : Nat) : Decoder (Array Value) :=
  ⟨table, width, fun values => .ok values⟩

/-- A stretch `[start, stop)` of a buffer. -/
structure Region where
  start : Nat
  stop : Nat
  deriving Repr, BEq, DecidableEq, Inhabited

def Region.whole (buf : ByteArray) : Region := ⟨0, buf.size⟩

def Region.length (r : Region) : Nat := r.stop - r.start

/-- A scan in progress. -/
structure Scan (R : Type) where
  /-- The buffer, cut at the end of the region. -/
  buf : ByteArray
  decoder : Decoder R
  pos : Nat
  state : ScanState := .scanning
  afterTuple : Bool := false
  row : Option R := none
  error : Option ScanError := none
  rows : Nat := 0
  statements : Nat := 0

/-- What looking for the next target statement found. -/
inductive Seek where
  /-- The end of the buffer, reached at `pos`. -/
  | finished (pos : Nat)
  /-- An error, with the scan left at `pos`. -/
  | failed (pos : Nat) (error : ScanError)
  /-- A target statement, whose first tuple starts at `body`. -/
  | entered (body : Nat)
  deriving Inhabited

namespace Scan

/-- Skips trivia, empty statements and statements of other tables from `pos` on, until a
target statement, the end, or an error. -/
def seek (buf : ByteArray) (table : ByteArray) (pos : Nat) : Seek :=
  match h : Statement.skipTrivia buf pos with
  | .error e => .failed pos e
  | .ok i =>
    have : pos ≤ i := Statement.skipTrivia_ge h
    if hi : i < buf.size then
      if buf[i] == semicolon then seek buf table (i + 1)
      else if !isWordByte buf[i] then .failed i (ScanError.unexpected buf i "statement")
      else
        let target :=
          match Statement.insertHeader buf i with
          | some (name, after) => if Statement.sameName name table then some after else none
          | none => none
        match target with
        | some after =>
          match Statement.valuesClause buf after with
          | .ok body => .entered body
          | .error e => .failed i e
        | none =>
          match hs : Statement.skipStatement buf i with
          | .ok stop =>
            have := (Statement.skipStatement_bounds hs).1
            seek buf table stop
          | .error e => .failed i e
    else .finished i
termination_by buf.size - pos

def fail (s : Scan R) (e : ScanError) : Scan R :=
  { s with state := .failed, error := some e, row := none }

def readRow (s : Scan R) : Bool × Scan R :=
  let t := Tuple.read s.buf s.pos s.decoder.width
  match t.error with
  | some e => (false, s.fail (e.inTable s.decoder.table))
  | none =>
    match s.decoder.decodeRow t.values with
    | .error e => (false, s.fail e)
    | .ok row =>
      (true, { s with pos := t.next, row := some row, rows := s.rows + 1, afterTuple := true })

def enter (s : Scan R) (pos : Nat) : Bool × Scan R :=
  match seek s.buf s.decoder.table.toUTF8 pos with
  | .finished i => (false, { s with pos := i, state := .done })
  | .failed i e => (false, ({ s with pos := i } : Scan R).fail e)
  | .entered body =>
    readRow { s with pos := body, statements := s.statements + 1, state := .inTarget,
                     afterTuple := false }

/-- One step: the next row, or `false` once the scan has stopped. -/
def next (s : Scan R) : Bool × Scan R :=
  match s.state with
  | .scanning => s.enter s.pos
  | .skipping =>
    match Statement.skipStatement s.buf s.pos with
    | .ok stop => s.enter stop
    | .error e => (false, s.fail e)
  | .inTarget =>
    if s.afterTuple then
      let i := skipSpace s.buf s.pos
      let s := { s with afterTuple := false }
      match at? s.buf i with
      | none => (false, s.fail (ScanError.endOfInput i "',' or ';'"))
      | some c =>
        if c == comma then readRow { s with pos := skipSpace s.buf (i + 1) }
        else if c == semicolon then s.enter (i + 1)
        else (false, s.fail (ScanError.unexpected s.buf i "',' or ';'"))
    else readRow s
  | .done => (false, s)
  | .failed => (false, s)

/-- A scan of `region` of `buf`. -/
def start (buf : ByteArray) (region : Region) (decoder : Decoder R) : Scan R :=
  { buf := buf.extract 0 region.stop, decoder, pos := region.start }

def whole (buf : ByteArray) (decoder : Decoder R) : Scan R := start buf (Region.whole buf) decoder

/-- A scan of a region given by integer bounds and of a width that may be negative: a region
end outside the buffer, a negative start or a negative width is a fault. -/
def startChecked (buf : ByteArray) (start stop : Int) (width : Int) (table : String)
    (decodeRow : Array Value → Except ScanError R) : Except Fault (Scan R) :=
  if stop < 0 then .error (.bounds .sliceEndCapacity stop buf.size)
  else if stop > buf.size then .error (.bounds .sliceEndCapacity stop buf.size)
  else if width < 0 then .error .capacityOutOfRange
  else if start < 0 then .error (.bounds .index start (min stop.toNat buf.size))
  else .ok (Scan.start buf ⟨start.toNat, stop.toNat⟩ ⟨table, width.toNat, decodeRow⟩)

/-- The steps of a scan until it stops: each row with the scan after it, then the stopped
scan. A scan yields at most one row per byte, so `fuel` of the buffer size plus one is
enough. -/
def runFuel (s : Scan R) : Nat → List (R × Scan R) × Scan R
  | 0 => ([], s)
  | fuel + 1 =>
    match s.next with
    | (true, s') =>
      let (rest, last) := runFuel s' fuel
      (((s'.row.map (fun r => [(r, s')])).getD []) ++ rest, last)
    | (false, s') => ([], s')

/-- Runs a scan to its end: the rows with the scan after each, and the stopped scan. -/
def run (s : Scan R) : List (R × Scan R) × Scan R := runFuel s (s.buf.size + 1)

def collect (s : Scan R) : List R × Option ScanError :=
  let (steps, last) := s.run
  (steps.map (·.1), last.error)

end Scan

end WikiDump

