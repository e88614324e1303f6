import WikiDump.Text.Quoted
import WikiDump.Dump.Bytes
/-!
# Scan errors

Every failure while reading a dump names one cause and a byte offset. A lexical error says
what was expected and, when a token stood there, which one. A tuple with the wrong number of
values names its table and the offset of its `(`. A value that its column cannot hold names the
table, the column, the literal as written and the offset of that literal, and carries the
conversion error of the column.

A fault is a broken precondition of an operation (an index outside the buffer, a negative
capacity); it is reported as such and never mixed with scan errors.
-/

namespace WikiDump

/-- The causes a scan or a conversion reports. -/
inductive Cause where
  | unexpectedEnd
  | unexpectedToken
  | invalidEscape
  | invalidNumber
  | invalidUtf8
  | columnCount
  | invalidTimestamp
  | typeConversion
  deriving Repr, BEq, DecidableEq, Inhabited

def Cause.message : Cause → String
  | .unexpectedEnd => "unexpected end of input"
  | .unexpectedToken => "unexpected token"
  | .invalidEscape => "invalid escape sequence"
  | .invalidNumber => "invalid numeric literal"
  | .invalidUtf8 => "invalid utf-8 where required"
  | .columnCount => "column count mismatch"
  | .invalidTimestamp => "invalid timestamp"
  | .typeConversion => "type conversion error"

/-- Why a literal cannot become a field value. -/
inductive Reason where
  | missing
  | wrongKind
  | outOfRange
  | encoding
  | format
  | unknownEnum
  deriving Repr, BEq, DecidableEq, Inhabited

def Reason.message : Reason → String
  | .missing => "null where a value is required"
  | .wrongKind => "wrong literal kind"
  | .outOfRange => "out of range"
  | .encoding => "not valid utf-8"
  | .format => "bad format"
  | .unknownEnum => "unknown enumeration value"

/-- A literal that a column cannot hold. -/
structure ConversionError where
  reason : Reason
  detail : String := ""
  /-- The cause it reports: invalid UTF-8 or an invalid timestamp where one applies. -/
  cause : Cause := .typeConversion
  deriving Repr, BEq, DecidableEq, Inhabited

def ConversionError.message (e : ConversionError) : String :=
  if e.detail.isEmpty then e.reason.message else e.reason.message ++ ": " ++ e.detail

/-- A failure while reading a dump. -/
inductive ScanError where
  /-- A byte sequence that does not fit the grammar at `offset`. -/
  | lexical (cause : Cause) (offset : Nat) (expected found : String)
  /-- A tuple, opened at `offset`, with `found` values where `expected` were required. -/
  | columnCount (table : String) (offset : Nat) (expected : Int) (found : Nat)
  /-- The literal of column `column` at `offset`, written `raw`, does not convert. -/
  | rowDecode (table : String) (column : Nat) (columnName raw : String) (offset : Nat)
      (error : ConversionError)
  deriving Repr, BEq, DecidableEq, Inhabited

namespace ScanError

def endOfInput (offset : Nat) (expected : String) : ScanError :=
  .lexical .unexpectedEnd offset expected ""

def message : ScanError → String
  | .lexical cause offset expected found =>
    let head := cause.message ++ " at offset " ++ toString offset
    if !expected.isEmpty && !found.isEmpty then head ++ ": expected " ++ expected ++ ", found " ++ found
    else if !expected.isEmpty then head ++ ": expected " ++ expected
    else head
  | .columnCount table offset expected found =>
    let body := "tuple at offset " ++ toString offset ++ " has " ++ toString found ++
      " values, expected " ++ toString expected
    if table.isEmpty then body else table ++ ": " ++ body
  | .rowDecode table column columnName raw offset error =>
    table ++ "." ++ columnName ++ " (column " ++ toString column ++ ") at offset " ++
      toString offset ++ ": value " ++ raw ++ ": " ++ error.message

def offset : ScanError → Nat
  | .lexical _ offset _ _ => offset
  | .columnCount _ offset _ _ => offset
  | .rowDecode _ _ _ _ offset _ => offset

def cause : ScanError → Cause
  | .lexical cause _ _ _ => cause
  | .columnCount .. => .columnCount
  | .rowDecode _ _ _ _ _ error => error.cause

def inTable (table : String) : ScanError → ScanError
  | .columnCount _ offset expected found => .columnCount table offset expected found
  | e => e

/-- The same error moved `shift` bytes further into a buffer. -/
def shift (d : Nat) : ScanError → ScanError
  | .lexical cause offset expected found => .lexical cause (offset + d) expected found
  | .columnCount table offset expected found => .columnCount table (offset + d) expected found
  | .rowDecode table column name raw offset error => .rowDecode table column name raw (offset + d) error

end ScanError

/-- What a bounds check refused. -/
inductive BoundsCheck where
  /-- Reading element `x` of a sequence of length `y`. -/
  | index
  /-- Cutting a sequence at end `x` beyond its length `y`. -/
  | sliceEndLength
  /-- Cutting a sequence at end `x` beyond its capacity `y`. -/
  | sliceEndCapacity
  /-- Cutting a sequence from `x` to an end `y` before it. -/
  | sliceOrder
  deriving Repr, BEq, Inhabited

/-- A broken precondition of an operation. -/
inductive Fault where
  | bounds (check : BoundsCheck) (x : Int) (y : Nat)
  /-- A buffer of negative capacity was requested. -/
  | capacityOutOfRange
  deriving Repr, BEq, Inhabited

def Fault.message : Fault → String
  | .capacityOutOfRange => "runtime error: makeslice: cap out of range"
  | .bounds check x y =>
    let xs := toString x
    let body :=
      if x < 0 then
        match check with
        | .index => "index out of range [" ++ xs ++ "]"
        | .sliceEndLength | .sliceEndCapacity => "slice bounds out of range [:" ++ xs ++ "]"
        | .sliceOrder => "slice bounds out of range [" ++ xs ++ ":]"
      else
        match check with
        | .index => "index out of range [" ++ xs ++ "] with length " ++ toString y
        | .sliceEndLength => "slice bounds out of range [:" ++ xs ++ "] with length " ++ toString y
        | .sliceEndCapacity => "slice bounds out of range [:" ++ xs ++ "] with capacity " ++ toString y
        | .sliceOrder => "slice bounds out of range [" ++ xs ++ ":" ++ toString y ++ "]"
    "runtime error: " ++ body

namespace Diagnostic

/-- The bytes around `offset`, `width` on each side, quoted; the offset is first clamped into
the buffer. A negative width cuts the buffer backwards, which is a fault. -/
def snippet (buf : ByteArray) (offset width : Int) : Except Fault String :=
  let clamped : Int := if offset < 0 then 0 else if offset > buf.size then buf.size else offset
  let start := max (clamped - width) 0
  let stop := min (clamped + width) buf.size
  if stop < 0 then .error (.bounds .sliceEndCapacity stop buf.size)
  else if start > stop then .error (.bounds .sliceOrder start stop.toNat)
  else .ok (Quoted.ofBytes (buf.extract start.toNat stop.toNat))

/-- What stands at `offset`: the word starting there (at most 32 bytes), a single byte, or the
end of input. -/
def describe (buf : ByteArray) (offset : Nat) : String :=
  if offset ≥ buf.size then "end of input"
  else if Bytes.atIs buf offset Bytes.isWordByte then
    let stop := Bytes.skipWhile Bytes.isWordByte buf offset
    Quoted.ofBytes (buf.extract offset (min stop (offset + 32)))
  else Quoted.ofBytes (buf.extract offset (offset + 1))

end Diagnostic

namespace ScanError

def unexpected (buf : ByteArray) (offset : Nat) (expected : String) : ScanError :=
  .lexical .unexpectedToken offset expected (Diagnostic.describe buf offset)

/-- The message of an error followed by the input around its offset, forty bytes on each
side, as the command line reports a failed scan. -/
def withContext (e : ScanError) (buf : ByteArray) : String :=
  e.message ++ "\n  near byte " ++ toString e.offset ++ ": " ++
    ((Diagnostic.snippet buf e.offset 40).toOption.getD "")

end ScanError

end WikiDump

