import WikiDump.Archive.Lzma
import WikiDump.Archive.Crc
import WikiDump.Hash.Sha256
/-!
# xz files

An xz file is one or more streams, possibly separated by padding of zero bytes in groups of four.
A stream is a twelve-byte header (magic bytes, the check type and their CRC-32), blocks, an
index of the blocks and a twelve-byte footer ending in `YZ`. A block is a header that names its
sizes when known and its filter (here one LZMA2 filter with its dictionary size), the LZMA2
chunks of its data, padding to a multiple of four bytes, and the check of its data: nothing,
its CRC-32, its CRC-64 or its SHA-256. The index lists each block's unpadded size (header, data
and check) and uncompressed size, and must agree with the blocks read; the footer repeats the
index's size and the header's check type.

Reading follows the input as a stream and stops at the first thing wrong, in the order a
reader meets it. Where a block header should start, the end of the input ends the stream, as
does a header cut short or one whose fields run out of bytes: reading then goes on with the
next stream from where it stopped, and at the end of the input after a stream the file is
complete. An index or footer cut short, and a first stream without a header, are refused.

Files are written here as one stream with one block of stored chunks and a CRC-32 check.
-/

namespace WikiDump

namespace Xz

/-- Why an xz file could not be read. -/
inductive XzError where
  | unexpectedEnd
  /-- Four zero bytes where the first stream should start. -/
  | padding
  | headerMagic
  | headerChecksum
  | invalidFlags
  | varintOverflow
  | blockHeaderChecksum
  | reservedBlockFlags
  | sizeOverflow
  | filterCount
  | reservedFilter
  | invalidFilter
  | filterSize
  | dictionarySize
  | uncompressedSize
  | compressedSize
  | blockPadding
  | blockChecksum
  | recordCount
  /-- An index listing `found` blocks where `want` were read. -/
  | indexLength (found want : Nat)
  | unpaddedNegative
  | uncompressedNegative
  | indexPadding
  | indexChecksum
  /-- A block whose sizes as read differ from those the index lists. -/
  | record (i : Nat) (found want : Nat × Nat)
  | footerMagic
  | footerChecksum
  | footerFlags
  | indexSize
  | lzma (e : Lzma.LzmaError)
  deriving Inhabited, BEq, Repr

def recordText (r : Nat × Nat) : String := "\x7b" ++ toString r.1 ++ " " ++ toString r.2 ++ "\x7d"

def XzError.message : XzError → String
  | .unexpectedEnd => "unexpected EOF"
  | .padding => "xz: padding (4 zero bytes) encountered"
  | .headerMagic => "xz: invalid header magic bytes"
  | .headerChecksum => "xz: invalid checksum for file header"
  | .invalidFlags => "xz: invalid flags"
  | .varintOverflow => "xz: uvarint overflows 64-bit unsigned integer"
  | .blockHeaderChecksum => "xz: checksum error for block header"
  | .reservedBlockFlags => "xz: reserved block header flags set"
  | .sizeOverflow => "xz: size overflow in block header"
  | .filterCount => "xz: unsupported filter count"
  | .reservedFilter => "xz: reserved filter id in block stream header"
  | .invalidFilter => "xz: invalid filter id"
  | .filterSize => "xz: wrong LZMA2 filter size"
  | .dictionarySize => "xz: wrong LZMA2 dictionary size property"
  | .uncompressedSize => "xz: wrong uncompressed size for block"
  | .compressedSize => "xz: wrong compressed size for block"
  | .blockPadding => "xz: non-zero block padding"
  | .blockChecksum => "xz: checksum error for block"
  | .recordCount => "xz: record number overflow"
  | .indexLength found want => "xz: index length is " ++ toString found ++ "; want " ++ toString want
  | .unpaddedNegative => "xz: unpadded size negative"
  | .uncompressedNegative => "xz: uncompressed size negative"
  | .indexPadding => "xz: non-zero byte in index padding"
  | .indexChecksum => "xz: wrong checksum for index"
  | .record i found want =>
    "xz: record " ++ toString i ++ " is " ++ recordText found ++ "; want " ++ recordText want
  | .footerMagic => "xz: footer magic invalid"
  | .footerChecksum => "xz: footer checksum error"
  | .footerFlags => "xz: footer flags incorrect"
  | .indexSize => "xz: index size in footer wrong"
  | .lzma e => e.message

def headerMagic : List UInt8 := [0xfd, 0x37, 0x7a, 0x58, 0x5a, 0x00]

def littleEndian (data : ByteArray) (i n : Nat) : Nat :=
  (List.range n).foldr (fun k acc => acc * 256 + (data[i + k]?.getD 0).toNat) 0

def bytesLE (value n : Nat) : ByteArray :=
  ByteArray.mk ((List.range n).toArray.map fun k => (value / Nat.pow 256 k % 256).toUInt8)


def varintBytes (n : Nat) : ByteArray :=
  let rec go (n : Nat) : Nat → List UInt8
    | 0 => [n.toUInt8]
    | fuel + 1 => if n < 128 then [n.toUInt8] else (n % 128 + 128).toUInt8 :: go (n / 128) fuel
  ByteArray.mk (go n 10).toArray


/-- Reads a variable-length number at `i` from the bytes before `stop`: seven bits per byte, low
bits first, in at most ten bytes of which the tenth is at most one. Failing with `none` means
the bytes ran out. -/
def varint (data : ByteArray) (stop i : Nat) : Except (Option XzError) (Nat × Nat) :=
  go i 0 0 11
where
  /-- Reads the byte at `j`, with the bits so far in `acc`. -/
  go (j shift acc : Nat) : Nat → Except (Option XzError) (Nat × Nat)
    | 0 => .error (some .varintOverflow)
    | fuel + 1 =>
      match (if j < stop then data[j]? else none) with
      | none => .error none
      | some b =>
        let count := j - i + 1
        if count > 10 then .error (some .varintOverflow)
        else if b.toNat < 128 then
          if count = 10 ∧ b.toNat > 1 then .error (some .varintOverflow)
          else .ok (acc + b.toNat * Nat.pow 2 shift, j + 1)
        else go (j + 1) (shift + 7) (acc + b.toNat % 128 * Nat.pow 2 shift) fuel

def validCheck (check : Nat) : Bool := check = 0 ∨ check = 1 ∨ check = 4 ∨ check = 10

def checkSize (check : Nat) : Nat :=
  if check = 0 then 0 else if check = 1 then 4 else if check = 4 then 8 else 32

def checkOf (check : Nat) (bytes : ByteArray) : ByteArray :=
  if check = 1 then bytesLE (Crc.crc32 bytes).toNat 4
  else if check = 4 then bytesLE (Crc.crc64 bytes).toNat 8
  else if check = 10 then Sha256.digest bytes
  else .empty

def padLength (n : Nat) : Nat := (4 - n % 4) % 4

/-- What is found where a stream may start. -/
inductive StreamStart where
  /-- The end of the input. -/
  | ended
  /-- Four zero bytes. -/
  | padding
  /-- A stream header with its check type. -/
  | header (check : Nat)

def streamStart (data : ByteArray) (i : Nat) : Except XzError StreamStart :=
  if i ≥ data.size then .ok .ended
  else if i + 4 > data.size then .error .unexpectedEnd
  else if (data.extract i (i + 4)).toList = [0, 0, 0, 0] then .ok .padding
  else if i + 12 > data.size then .error .unexpectedEnd
  else if (data.extract i (i + 6)).toList != headerMagic then .error .headerMagic
  else if littleEndian data (i + 8) 4 != (Crc.crc32 (data.extract (i + 6) (i + 8))).toNat then
    .error .headerChecksum
  else
    let check := (data[i + 7]?.getD 0).toNat
    if (data[i + 6]?.getD 0) != 0 ∨ !validCheck check then .error .invalidFlags
    else .ok (.header check)

def streamHeader (data : ByteArray) (i : Nat) : Except XzError Nat :=
  match streamStart data i with
  | .error e => .error e
  | .ok .ended => .error .unexpectedEnd
  | .ok .padding => .error .padding
  | .ok (.header check) => .ok check

/-- A block header: its length in bytes, the sizes it gives, and the dictionary capacity of its
LZMA2 filter. -/
structure BlockHeader where
  length : Nat
  compressed : Option Nat
  uncompressed : Option Nat
  dictCap : Nat

/-- What is found where a block may start. -/
inductive BlockStart where
  /-- The index indicator. -/
  | index
  /-- The end of the input: the stream ends, and reading goes on at `pos`. -/
  | ended (pos : Nat)
  | block (h : BlockHeader)

def sizeField (data : ByteArray) (stop : Nat) (present : Bool) (i : Nat) :
    Except (Option XzError) (Option Nat × Nat) :=
  if !present then .ok (none, i)
  else
    match varint data stop i with
    | .error e => .error e
    | .ok (n, j) => if n ≥ Nat.pow 2 63 then .error (some .sizeOverflow) else .ok (some n, j)

def dictCapOf (c : Nat) : Nat := (2 + c % 2) * Nat.pow 2 (11 + c / 2)

/-- Reads the fields of a block header at `i` whose checked bytes end at `stop`: the sizes, one
LZMA2 filter, and zero padding. Failing with `none` means the bytes ran out. -/
def blockFields (data : ByteArray) (i stop flags length : Nat) :
    Except (Option XzError) BlockHeader := do
  let (compressed, j) ← sizeField data stop (flags &&& 0x40 != 0) (i + 2)
  let (uncompressed, j) ← sizeField data stop (flags &&& 0x80 != 0) j
  if flags % 4 != 0 then throw (some .filterCount)
  let (id, j) ← varint data stop j
  if id != 0x21 then throw (some (if id ≥ Nat.pow 2 62 then .reservedFilter else .invalidFilter))
  if j ≥ stop then throw none
  if j + 1 ≥ stop then throw (some .unexpectedEnd)
  let prop := (data[j + 1]?.getD 0).toNat
  if (data[j]?.getD 0) != 1 then throw (some .filterSize)
  if prop ≥ 40 then throw (some .dictionarySize)
  if (data.extract (j + 2) stop).toList.any (· != 0) then throw (some .padding)
  return { length, compressed, uncompressed, dictCap := dictCapOf prop }

def blockStart (data : ByteArray) (i : Nat) : Except XzError BlockStart :=
  match data[i]? with
  | none => .ok (.ended i)
  | some s =>
    if s = 0 then .ok .index
    else
      let length := (s.toNat + 1) * 4
      if i + length > data.size then .ok (.ended data.size)
      else
        let stop := i + length - 4
        if littleEndian data stop 4 != (Crc.crc32 (data.extract i stop)).toNat then
          .error .blockHeaderChecksum
        else
          let flags := (data[i + 1]?.getD 0).toNat
          if flags &&& 0x3C != 0 then .error .reservedBlockFlags
          else
            match blockFields data i stop flags length with
            | .ok h => .ok (.block h)
            | .error none => .ok (.ended (i + length))
            | .error (some e) => .error e

/-- Reads the data, padding and check of the block whose header `h` starts at `i`: its bytes,
its unpadded and uncompressed size, and the position after it. The sizes the header gives are
checked first, against what was read when reading stopped. -/
def blockData (data : ByteArray) (check i : Nat) (h : BlockHeader) :
    Except XzError (ByteArray × (Nat × Nat) × Nat) :=
  let start := i + h.length
  let oversize := fun (produced consumed : Nat) =>
    if h.uncompressed.any fun u => decide (produced > u) then some XzError.uncompressedSize
    else if h.compressed.any fun c => decide (consumed > c) then some XzError.compressedSize
    else none
  match Lzma.decodeLzma2 data start h.dictCap with
  | .error (e, produced, stopped) => .error ((oversize produced (stopped - start)).getD (.lzma e))
  | .ok (bytes, stopped) =>
    let consumed := stopped - start
    match oversize bytes.size consumed with
    | some e => .error e
    | none =>
      if h.uncompressed.any (fun u => decide (bytes.size < u)) ∨
          h.compressed.any (fun c => decide (consumed < c)) then .error .unexpectedEnd
      else
        let pad := padLength consumed
        let size := checkSize check
        if stopped + pad + size > data.size then .error .unexpectedEnd
        else if (data.extract stopped (stopped + pad)).toList.any (· != 0) then .error .blockPadding
        else if (data.extract (stopped + pad) (stopped + pad + size)).toList != (checkOf check bytes).toList then
          .error .blockChecksum
        else .ok (bytes, (h.length + consumed + size, bytes.size), stopped + pad + size)

def indexNumber (data : ByteArray) (i : Nat) : Except XzError (Nat × Nat) :=
  match varint data data.size i with
  | .ok r => .ok r
  | .error none => .error .unexpectedEnd
  | .error (some e) => .error e

def indexRecords (data : ByteArray) : Nat → Nat → Except XzError (List (Nat × Nat) × Nat)
  | 0, i => .ok ([], i)
  | count + 1, i => do
    let (unpadded, i) ← indexNumber data i
    if unpadded ≥ Nat.pow 2 63 then throw .unpaddedNegative
    let (uncompressed, i) ← indexNumber data i
    if uncompressed ≥ Nat.pow 2 63 then throw .uncompressedNegative
    let (rest, i) ← indexRecords data count i
    return ((unpadded, uncompressed) :: rest, i)

def firstMismatch : Nat → List (Nat × Nat) → List (Nat × Nat) → Option XzError
  | k, r :: rs, l :: ls => if r != l then some (.record k r l) else firstMismatch (k + 1) rs ls
  | _, _, _ => none

/-- Reads the index whose indicator is stopped `i`, which must list the blocks read, `records`, and
the footer after it, which must repeat the stream's check type: the position after the
footer. -/
def tail (data : ByteArray) (i : Nat) (records : List (Nat × Nat)) (check : Nat) :
    Except XzError Nat := do
  let (count, j) ← indexNumber data (i + 1)
  if count ≥ Nat.pow 2 63 then throw .recordCount
  if count != records.length then throw (.indexLength count records.length)
  let (listed, j) ← indexRecords data count j
  let pad := padLength (j - i)
  if j + pad > data.size then throw .unexpectedEnd
  if (data.extract j (j + pad)).toList.any (· != 0) then throw .indexPadding
  let j := j + pad
  if j + 4 > data.size then throw .unexpectedEnd
  if littleEndian data j 4 != (Crc.crc32 (data.extract i j)).toNat then throw .indexChecksum
  let j := j + 4
  if let some e := firstMismatch 0 records listed then throw e
  if j + 12 > data.size then throw .unexpectedEnd
  if (data.extract (j + 10) (j + 12)).toList != [0x59, 0x5A] then throw .footerMagic
  if littleEndian data j 4 != (Crc.crc32 (data.extract (j + 4) (j + 10))).toNat then
    throw .footerChecksum
  let flags := (data[j + 9]?.getD 0).toNat
  if (data[j + 8]?.getD 0) != 0 ∨ !validCheck flags then throw .invalidFlags
  if flags != check then throw .footerFlags
  if (littleEndian data (j + 4) 4 + 1) * 4 != j - i then throw .indexSize
  return j + 12

/-- Reads the blocks of a stream from `i` on, appending their bytes to `out` and their sizes to
`records`: the bytes and where the stream ends. -/
def blocks (data : ByteArray) (check : Nat) : Nat → Nat → ByteArray → List (Nat × Nat) →
    Except XzError (ByteArray × Nat)
  | 0, i, out, _ => .ok (out, i)
  | fuel + 1, i, out, records =>
    match blockStart data i with
    | .error e => .error e
    | .ok (.ended stopped) => .ok (out, stopped)
    | .ok .index =>
      match tail data i records check with
      | .error e => .error e
      | .ok stopped => .ok (out, stopped)
    | .ok (.block h) =>
      match blockData data check i h with
      | .error e => .error e
      | .ok (bytes, record, stopped) => blocks data check fuel stopped (out ++ bytes) (records ++ [record])

/-- Reads the streams from `i` on, appending their bytes to `out`; `first` says whether no
stream was read yet. -/
def streams (data : ByteArray) : Nat → Nat → ByteArray → Bool → Except XzError ByteArray
  | 0, _, out, _ => .ok out
  | fuel + 1, i, out, first =>
    match streamStart data i with
    | .error e => .error e
    | .ok .ended => if first then .error .unexpectedEnd else .ok out
    | .ok .padding => if first then .error .padding else streams data fuel (i + 4) out false
    | .ok (.header check) =>
      match blocks data check (data.size + 1) (i + 12) .empty [] with
      | .error e => .error e
      | .ok (bytes, stopped) => streams data fuel stopped (out ++ bytes) false

def decompress (data : ByteArray) : Except XzError ByteArray :=
  streams data (data.size + 1) 0 .empty true

/-- LZMA2 stored chunks holding `data` from `i` on, at most 65536 bytes each; the first resets
the dictionary. -/
def storedChunks (data : ByteArray) (i : Nat) (first : Bool) : Nat → ByteArray
  | 0 => ByteArray.mk #[0]
  | fuel + 1 =>
    if i ≥ data.size then ByteArray.mk #[0]
    else
      let len := min 65536 (data.size - i)
      ByteArray.mk #[if first then 1 else 2, ((len - 1) / 256).toUInt8, ((len - 1) % 256).toUInt8] ++
        data.extract i (i + len) ++ storedChunks data (i + len) false fuel

def compress (data : ByteArray) : ByteArray :=
  let flags := ByteArray.mk #[0, 1]
  let header := ByteArray.mk headerMagic.toArray ++ flags ++ bytesLE (Crc.crc32 flags).toNat 4
  let blockHead0 := ByteArray.mk #[2, 0, 0x21, 1, 22, 0, 0, 0]
  let blockHead := blockHead0 ++ bytesLE (Crc.crc32 blockHead0).toNat 4
  let chunks := storedChunks data 0 true (data.size / 65536 + 1)
  let padding := ByteArray.mk (List.replicate ((4 - chunks.size % 4) % 4) (0 : UInt8)).toArray
  let blockBytes := if data.size = 0 then ByteArray.empty
    else blockHead ++ chunks ++ padding ++ bytesLE (Crc.crc32 data).toNat 4
  let records := if data.size = 0 then ByteArray.mk #[0, 0]
    else ByteArray.mk #[0, 1] ++ varintBytes (blockHead.size + chunks.size + 4) ++ varintBytes data.size
  let indexPadding := ByteArray.mk (List.replicate ((4 - records.size % 4) % 4) (0 : UInt8)).toArray
  let indexBody := records ++ indexPadding
  let indexBytes := indexBody ++ bytesLE (Crc.crc32 indexBody).toNat 4
  let footerBody := bytesLE (indexBytes.size / 4 - 1) 4 ++ flags
  header ++ blockBytes ++ indexBytes ++ bytesLE (Crc.crc32 footerBody).toNat 4 ++ footerBody ++
    ByteArray.mk #[0x59, 0x5a]

end Xz

end WikiDump

