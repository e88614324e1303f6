import WikiDump.Archive.Inflate
import WikiDump.Archive.Crc
/-!
# gzip files

A gzip file is one or more members. A member is a ten-byte header (the magic bytes `1f 8b`,
method 8, flags, time, extra flags and system), the optional fields the flags announce (extra
data, a name, a comment, a header checksum), a DEFLATE stream, and a trailer with the CRC-32 and
the length modulo `2 ^ 32` of the member's bytes.

Reading a file fails when it is empty or its first header is cut short (the reader cannot be
opened), when a header is not a gzip header, when the input ends inside a member, when a DEFLATE
stream is corrupt, and when a trailer does not match what was inflated. Whatever follows a
member must be another member.

Files are written here as one member of stored DEFLATE blocks, which every reader accepts.
-/

namespace WikiDump

namespace Gzip

/-- Why a gzip file could not be read. -/
inductive GzipError where
  /-- The file is empty: there is no first header. -/
  | empty
  /-- The input ends inside a header, a stream or a trailer. -/
  | unexpectedEnd
  | invalidHeader
  | corrupt (offset : Nat)
  | invalidChecksum
  deriving Inhabited, BEq, Repr

def GzipError.message : GzipError → String
  | .empty => "EOF"
  | .unexpectedEnd => "unexpected EOF"
  | .invalidHeader => "gzip: invalid header"
  | .corrupt n => "flate: corrupt input before offset " ++ toString n
  | .invalidChecksum => "gzip: invalid checksum"

def GzipError.atOpen (e : GzipError) (first : Bool) : Bool :=
  first && match e with
    | .empty | .unexpectedEnd | .invalidHeader => true
    | _ => false

def littleEndian (data : ByteArray) (i n : Nat) : Nat :=
  (List.range n).foldr (fun k acc => acc * 256 + (data[i + k]?.getD 0).toNat) 0

/-- The position after a zero-terminated field that starts at `i`, which may hold at most 511
bytes before its terminator. -/
def afterZero (data : ByteArray) (i : Nat) : Except GzipError Nat :=
  let rec go (j : Nat) : Nat → Except GzipError Nat
    | 0 => .error .invalidHeader
    | fuel + 1 =>
      match data[j]? with
      | some 0 => .ok (j + 1)
      | some _ => go (j + 1) fuel
      | none => .error .unexpectedEnd
  go i 512

def header (data : ByteArray) (i : Nat) : Except GzipError Nat := do
  if i ≥ data.size then throw .empty
  if i + 10 > data.size then throw .unexpectedEnd
  let byte := fun (k : Nat) => (data[i + k]?.getD 0).toNat
  if byte 0 != 0x1f ∨ byte 1 != 0x8b ∨ byte 2 != 8 then throw .invalidHeader
  let flags := byte 3
  let mut pos := i + 10
  if flags &&& 4 != 0 then
    if pos + 2 > data.size then throw .unexpectedEnd
    let len := littleEndian data pos 2
    if pos + 2 + len > data.size then throw .unexpectedEnd
    pos := pos + 2 + len
  if flags &&& 8 != 0 then pos ← afterZero data pos
  if flags &&& 16 != 0 then pos ← afterZero data pos
  if flags &&& 2 != 0 then
    if pos + 2 > data.size then throw .unexpectedEnd
    let sum := (Crc.crc32 (data.extract i pos)).toNat % 65536
    if sum != littleEndian data pos 2 then throw .invalidHeader
    pos := pos + 2
  return pos

def members (data : ByteArray) : Nat → Nat → ByteArray → Bool → Except GzipError ByteArray
  | 0, _, out, _ => .ok out
  | fuel + 1, i, out, first =>
    if ¬first ∧ i ≥ data.size then .ok out
    else do
      let start ← header data i
      let (bytes, stop) ← match Inflate.inflate data start with
        | .ok r => pure r
        | .error .unexpectedEnd => throw .unexpectedEnd
        | .error (.corrupt n) => throw (.corrupt n)
      if stop + 8 > data.size then throw .unexpectedEnd
      let crc := littleEndian data stop 4
      let size := littleEndian data (stop + 4) 4
      if crc != (Crc.crc32 bytes).toNat ∨ size != bytes.size % Nat.pow 2 32 then throw .invalidChecksum
      members data fuel (stop + 8) (out ++ bytes) false

def decompress (data : ByteArray) : Except GzipError ByteArray := members data (data.size + 1) 0 .empty true

def storedBlocks (data : ByteArray) (i : Nat) (fuel : Nat) : ByteArray :=
  match fuel with
  | 0 => .empty
  | fuel + 1 =>
    let len := min 65535 (data.size - i)
    let final := i + len ≥ data.size
    let head := ByteArray.mk #[if final then 1 else 0, (len % 256).toUInt8, (len / 256).toUInt8,
      ((65535 - len) % 256).toUInt8, ((65535 - len) / 256).toUInt8]
    let block := head ++ data.extract i (i + len)
    if final then block else block ++ storedBlocks data (i + len) fuel

def word32 (n : Nat) : ByteArray :=
  ByteArray.mk #[(n % 256).toUInt8, (n / 256 % 256).toUInt8, (n / 65536 % 256).toUInt8,
    (n / 16777216 % 256).toUInt8]

def compress (data : ByteArray) : ByteArray :=
  ByteArray.mk #[0x1f, 0x8b, 8, 0, 0, 0, 0, 0, 0, 0xff] ++ storedBlocks data 0 (data.size / 65535 + 1) ++
    word32 (Crc.crc32 data).toNat ++ word32 (data.size % Nat.pow 2 32)

end Gzip

end WikiDump

