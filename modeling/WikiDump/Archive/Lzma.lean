/-!
# LZMA and LZMA2 data

LZMA codes a byte string as literals, matches (a length and a distance back into what was
already produced) and repeated matches (a length and one of the last four distances), with a
range coder whose bit probabilities adapt as they are used. What kind of item comes next, and
the bits of literals, lengths and distances, are each read with their own probabilities, which
depend on a state of the last items, the position modulo `2 ^ pb`, and the `lc` high bits of
the previous byte and `lp` low bits of the position. A match whose distance is all ones marks
the end of the data.

LZMA2 cuts the data into chunks, each announced by a header: the end chunk, stored chunks (with
or without a dictionary reset) and LZMA chunks, whose header says whether they keep the state,
reset it, reset it with new properties, or also reset the dictionary. A chunk may only follow
certain others: the data starts with a dictionary reset; after a stored chunk that reset the
dictionary, LZMA chunks must give new properties; nothing follows the end chunk.

Each LZMA chunk has a range coder of its own, which reads at most the chunk's packed size; the
next chunk starts where that coder stopped reading. A chunk's coder that runs out of bytes while
it starts makes the data end there, as if the end chunk had come. A chunk must produce exactly
the size its header gives: after its last item, a coder that is not at a possible end must
decode an end marker. The dictionary holds at most the capacity the container names, and a
match may reach only as far back as it holds, counted from its last reset.
-/

namespace WikiDump

namespace Lzma

/-- Why LZMA2 data could not be decoded. -/
inductive LzmaError where
  | unexpectedEnd
  /-- A chunk header byte that names no chunk. -/
  | headerByte
  /-- A properties byte past the largest `lc`, `lp` and `pb`. -/
  | propertiesCode
  /-- A chunk that may not follow the chunks before it. -/
  | chunkType
  /-- A range coder whose first byte is not zero. -/
  | firstByte
  /-- A range coder whose starting code is not below its range. -/
  | codeRange
  /-- An end marker where the coder is not at a possible end. -/
  | dataAfterEnd
  /-- A chunk that produces more or less than its header gives. -/
  | size
  /-- A match reaching further back than the dictionary holds. -/
  | distance
  deriving Inhabited, BEq, Repr

def LzmaError.message : LzmaError → String
  | .unexpectedEnd => "unexpected EOF"
  | .headerByte => "lzma: unsupported chunk header byte"
  | .propertiesCode => "lzma: invalid properties code"
  | .chunkType => "lzma: unexpected chunk type"
  | .firstByte => "newRangeDecoder: first byte not zero"
  | .codeRange => "newRangeDecoder: d.code >= d.nrange"
  | .dataAfterEnd => "lzma: data after end of stream marker"
  | .size => "lzma: wrong uncompressed data size"
  | .distance => "writeMatch: distance out of range"

/-- The range decoder of one chunk: the input, the next byte to read, where the chunk's bytes
end, the range and the code, and whether a byte was wanted past the end. -/
structure RangeDecoder where
  data : ByteArray
  pos : Nat
  limit : Nat
  range : Nat
  code : Nat
  exhausted : Bool := false

namespace RangeDecoder

def byteAt (data : ByteArray) (limit i : Nat) : Option Nat :=
  if i < limit then data[i]?.map UInt8.toNat else none

/-- Starts decoding at `pos` with the bytes before `limit`: a zero byte, then the code in four
big-endian bytes, which must be below the full range. `none` when the bytes run out. -/
def start (data : ByteArray) (pos limit : Nat) : Except (Option LzmaError) RangeDecoder :=
  let get := fun (k : Nat) => byteAt data limit (pos + k)
  match get 0 with
  | none => .error none
  | some first =>
    if first ≠ 0 then .error (some .firstByte)
    else
      match get 1, get 2, get 3, get 4 with
      | some a, some b, some c, some d =>
        let code := ((a * 256 + b) * 256 + c) * 256 + d
        if code ≥ 0xFFFFFFFF then .error (some .codeRange)
        else .ok { data, pos := pos + 5, limit, range := 0xFFFFFFFF, code }
      | _, _, _, _ => .error none

/-- Takes in a byte when the range has become small; past the chunk's bytes it notes that the
input ran out. -/
def normalize (r : RangeDecoder) : RangeDecoder :=
  if r.range < 0x1000000 then
    match byteAt r.data r.limit r.pos with
    | some b =>
      { r with range := r.range * 256 % 0x100000000, code := (r.code * 256 + b) % 0x100000000,
               pos := r.pos + 1 }
    | none => { r with range := r.range * 256 % 0x100000000, exhausted := true }
  else r

/-- Decodes `n` bits of equal probability, the first most significant. The code is compared
with the halved range by a 32-bit subtraction whose top bit says which is larger. -/
def direct (r : RangeDecoder) : Nat → Nat × RangeDecoder
  | 0 => (0, r)
  | n + 1 =>
    let range := r.range / 2
    let lowered := (r.code + 0x100000000 - range) % 0x100000000
    let (bit, code) := if lowered ≥ 0x80000000 then (0, r.code) else (1, lowered)
    let r := normalize { r with range, code }
    let (rest, r) := direct r n
    (bit * Nat.pow 2 n + rest, r)

end RangeDecoder

def isMatchAt : Nat := 0
def isRepAt : Nat := 192
def isRepG0At : Nat := 204
def isRepG1At : Nat := 216
def isRepG2At : Nat := 228
def isRep0LongAt : Nat := 240
def posSlotAt : Nat := 432
def specPosAt : Nat := 688
def alignAt : Nat := 802
def lengthAt : Nat := 818
def repLengthAt : Nat := 1332
def literalAt : Nat := 1846

/-- The decoder of an LZMA2 stream: the range decoder, the probabilities, the properties, the
state and the last four distances, the output, where the dictionary was last reset in it, and
the dictionary's capacity. -/
structure Decoder where
  rc : RangeDecoder
  probs : Array Nat
  lc : Nat
  lp : Nat
  pb : Nat
  state : Nat
  reps : Nat × Nat × Nat × Nat
  out : ByteArray
  dictStart : Nat
  dictCap : Nat

/-- An item of LZMA data. -/
inductive Item where
  | literal (b : UInt8)
  /-- A copy of `len` bytes from `dist` bytes back. -/
  | copy (len dist : Nat)
  | endMarker

namespace Decoder

def bit (d : Decoder) (i : Nat) : Nat × Decoder :=
  let prob := d.probs.getD i 1024
  let bound := d.rc.range / 2048 * prob
  if d.rc.code < bound then
    (0, { d with probs := d.probs.set! i (prob + (2048 - prob) / 32),
                 rc := RangeDecoder.normalize { d.rc with range := bound } })
  else
    (1, { d with probs := d.probs.set! i (prob - prob / 32),
                 rc := RangeDecoder.normalize
                   { d.rc with range := d.rc.range - bound, code := d.rc.code - bound } })

def tree (d : Decoder) (base : Nat) (n : Nat) : Nat × Decoder :=
  let (m, d) := (List.range n).foldl (fun (m, d) _ =>
    let (b, d) := d.bit (base + m)
    (2 * m + b, d)) (1, d)
  (m - Nat.pow 2 n, d)

def reverseTree (d : Decoder) (base : Nat) (n : Nat) : Nat × Decoder :=
  let (_, sym, d) := (List.range n).foldl (fun (m, sym, d) i =>
    let (b, d) := d.bit (base + m)
    (2 * m + b, sym + b * Nat.pow 2 i, d)) (1, 0, d)
  (sym, d)

def length (d : Decoder) (base posState : Nat) : Nat × Decoder :=
  let (c, d) := d.bit base
  if c = 0 then d.tree (base + 2 + posState * 8) 3
  else
    let (c2, d) := d.bit (base + 1)
    if c2 = 0 then
      let (n, d) := d.tree (base + 130 + posState * 8) 3
      (8 + n, d)
    else
      let (n, d) := d.tree (base + 258) 8
      (16 + n, d)

def distance (d : Decoder) (len : Nat) : Nat × Decoder :=
  let (slot, d) := d.tree (posSlotAt + min len 3 * 64) 6
  if slot < 4 then (slot, d)
  else
    let directBits := slot / 2 - 1
    let base := (2 + slot % 2) * Nat.pow 2 directBits
    if slot < 14 then
      let (n, d) := d.reverseTree (specPosAt + base - slot) directBits
      (base + n, d)
    else
      let (high, rc) := d.rc.direct (directBits - 4)
      let d := { d with rc }
      let (low, d) := d.reverseTree alignAt 4
      (base + high * 16 + low, d)

def position (d : Decoder) : Nat := d.out.size - d.dictStart

def reach (d : Decoder) : Nat := min d.position d.dictCap

def byteAt (d : Decoder) (dist : Nat) : Nat :=
  if 0 < dist ∧ dist ≤ d.reach then (d.out[d.out.size - dist]?.getD 0).toNat else 0

def literal (d : Decoder) : UInt8 × Decoder :=
  let prev := d.byteAt 1
  let litState := (d.position % Nat.pow 2 d.lp) * Nat.pow 2 d.lc + prev / Nat.pow 2 (8 - d.lc)
  let base := literalAt + 0x300 * litState
  let (sym, d) :=
    if d.state ≥ 7 then
      let matchByte := d.byteAt (d.reps.1 + 1)
      -- Bits agree with the byte at the last distance until the first that differs.
      let (sym, _, _, d) := (List.range 8).foldl (fun (sym, mb, agree, d) _ =>
        if agree then
          let matchBit := mb / 128 % 2
          let (b, d) := d.bit (base + (1 + matchBit) * 256 + sym)
          (2 * sym + b, (mb * 2) % 256, matchBit == b, d)
        else
          let (b, d) := d.bit (base + sym)
          (2 * sym + b, mb, false, d)) (1, matchByte, true, d)
      (sym, d)
    else
      (List.range 8).foldl (fun (sym, d) _ =>
        let (b, d) := d.bit (base + sym)
        (2 * sym + b, d)) (1, d)
  let state := if d.state < 4 then 0 else if d.state < 10 then d.state - 3 else d.state - 6
  ((sym - 256).toUInt8, { d with state })

def item (d : Decoder) : Item × Decoder :=
  let posState := d.position % Nat.pow 2 d.pb
  let state := d.state
  let (isMatch, d) := d.bit (isMatchAt + state * 16 + posState)
  if isMatch = 0 then
    let (b, d) := d.literal
    (.literal b, d)
  else
    let (isRep, d) := d.bit (isRepAt + state)
    let (r0, r1, r2, r3) := d.reps
    if isRep = 0 then
      let (len, d) := d.length lengthAt posState
      let (dist, d) := d.distance len
      let d := { d with reps := (dist, r0, r1, r2), state := if state < 7 then 7 else 10 }
      if dist = 0xFFFFFFFF then (.endMarker, d) else (.copy (len + 2) (dist + 1), d)
    else
      let (g0, d) := d.bit (isRepG0At + state)
      if g0 = 0 then
        let (long, d) := d.bit (isRep0LongAt + state * 16 + posState)
        if long = 0 then (.copy 1 (r0 + 1), { d with state := if state < 7 then 9 else 11 })
        else
          let (len, d) := d.length repLengthAt posState
          (.copy (len + 2) (r0 + 1), { d with state := if state < 7 then 8 else 11 })
      else
        let (g1, d) := d.bit (isRepG1At + state)
        let (dist, reps, d) :=
          if g1 = 0 then (r1, (r1, r0, r2, r3), d)
          else
            let (g2, d) := d.bit (isRepG2At + state)
            if g2 = 0 then (r2, (r2, r0, r1, r3), d) else (r3, (r3, r0, r1, r2), d)
        let (len, d) := d.length repLengthAt posState
        (.copy (len + 2) (dist + 1), { d with reps, state := if state < 7 then 8 else 11 })

def copyMatch (d : Decoder) (dist : Nat) : Nat → Decoder
  | 0 => d
  | len + 1 =>
    copyMatch { d with out := d.out.push (d.out[d.out.size - dist]?.getD 0) } dist len

def apply (d : Decoder) : Item → Except LzmaError Decoder
  | .literal b => .ok { d with out := d.out.push b }
  | .copy len dist =>
    if 0 < dist ∧ dist ≤ d.reach then .ok (d.copyMatch dist len) else .error .distance
  | .endMarker => .ok d

/-- Decodes the items of a chunk until the output has grown to `goal` bytes. A failure gives
where the range decoder stopped reading. -/
def run (d : Decoder) (goal : Nat) : Nat → Except (LzmaError × Nat) Decoder
  | 0 => .error (.size, d.rc.pos)
  | fuel + 1 =>
    let (it, d) := d.item
    if d.rc.exhausted then .error (.unexpectedEnd, d.rc.pos)
    else
      match it with
      | .endMarker =>
        if d.rc.code ≠ 0 then .error (.dataAfterEnd, d.rc.pos)
        else if d.out.size ≠ goal then .error (.size, d.rc.pos)
        else .ok d
      | it =>
        match d.apply it with
        | .error e => .error (e, d.rc.pos)
        | .ok d =>
          if d.out.size < goal then run d goal fuel
          else if d.out.size > goal then .error (.size, d.rc.pos)
          else if d.rc.code = 0 then .ok d
          else
            -- Not at a possible end: only an end marker may follow.
            let (it, d) := d.item
            if d.rc.exhausted then .error (.unexpectedEnd, d.rc.pos)
            else
              match it with
              | .endMarker => .ok d
              | _ => .error (.size, d.rc.pos)

def reset (d : Decoder) (lc lp pb : Nat) : Decoder :=
  { d with probs := Array.replicate (literalAt + 0x300 * Nat.pow 2 (lc + lp)) 1024, lc, lp, pb,
           state := 0, reps := (0, 0, 0, 0) }

end Decoder

/-- The kinds of chunk. -/
inductive ChunkKind where
  | finish
  | storedReset
  | stored
  /-- An LZMA chunk that keeps the state. -/
  | lzma
  | lzmaState
  | lzmaProps
  | lzmaDict
  deriving Inhabited, BEq, Repr

/-- What the chunks so far allow next: the start, after LZMA data, after a dictionary reset that
still needs new properties, after stored data, and after the end. -/
inductive ChunkState where
  | start
  | lzma
  | needProps
  | stored
  | stop
  deriving Inhabited, BEq, Repr

/-- The state after a chunk of a kind, when that chunk may come next. -/
def ChunkState.next : ChunkState → ChunkKind → Option ChunkState
  | .start, .finish => some .stop
  | .start, .storedReset => some .needProps
  | .start, .lzmaDict => some .lzma
  | .lzma, .finish => some .stop
  | .lzma, .storedReset => some .needProps
  | .lzma, .stored => some .stored
  | .lzma, .lzma | .lzma, .lzmaState | .lzma, .lzmaProps | .lzma, .lzmaDict => some .lzma
  | .needProps, .finish => some .stop
  | .needProps, .storedReset | .needProps, .stored => some .needProps
  | .needProps, .lzmaProps | .needProps, .lzmaDict => some .lzma
  | .stored, .finish => some .stop
  | .stored, .storedReset => some .needProps
  | .stored, .stored => some .stored
  | .stored, .lzma | .stored, .lzmaState | .stored, .lzmaProps | .stored, .lzmaDict => some .lzma
  | _, _ => none

def ChunkKind.ofByte (h : Nat) : Option ChunkKind :=
  if h < 0x80 then
    if h = 0 then some .finish else if h = 1 then some .storedReset
    else if h = 2 then some .stored else none
  else
    let k := h / 32 % 4
    some (if k = 0 then .lzma else if k = 1 then .lzmaState else if k = 2 then .lzmaProps
      else .lzmaDict)

def ChunkKind.headerLength : ChunkKind → Nat
  | .finish => 1
  | .storedReset | .stored => 3
  | .lzma | .lzmaState => 5
  | .lzmaProps | .lzmaDict => 6

def ChunkKind.isLzma : ChunkKind → Bool
  | .lzma | .lzmaState | .lzmaProps | .lzmaDict => true
  | _ => false

/-- A chunk header: its kind, the size it produces less one, the size of its LZMA data less
one, and its properties byte. -/
structure ChunkHeader where
  kind : ChunkKind
  unpacked : Nat
  packed : Nat
  props : Nat

def bigEndian16 (data : ByteArray) (i : Nat) : Nat :=
  (data[i]?.getD 0).toNat * 256 + (data[i + 1]?.getD 0).toNat

/-- Reads a chunk header at `pos`: the header and the position after it, or a failure and the
position reading stopped at. -/
def readHeader (data : ByteArray) (pos : Nat) : Except (LzmaError × Nat) (ChunkHeader × Nat) :=
  match data[pos]? with
  | none => .error (.unexpectedEnd, pos)
  | some h =>
    match ChunkKind.ofByte h.toNat with
    | none => .error (.headerByte, pos + 1)
    | some kind =>
      let stop := pos + kind.headerLength
      if stop > data.size then .error (.unexpectedEnd, data.size)
      else
        let high := if kind.isLzma then h.toNat % 32 * 65536 else 0
        let props := (data[pos + 5]?.getD 0).toNat
        if kind.headerLength = 6 ∧ props > 224 then .error (.propertiesCode, stop)
        else .ok (⟨kind, high + bigEndian16 data (pos + 1), bigEndian16 data (pos + 3), props⟩, stop)

/-- How LZMA2 data ended: its bytes and where reading stopped; or why it failed, how many bytes
had been handed on by then, and where reading stopped. -/
abbrev Outcome := Except (LzmaError × Nat × Nat) (ByteArray × Nat)

/-- Decodes chunks from `pos`, in chunk state `cs`; `started` says whether an LZMA chunk has
set up the state. -/
def chunks (data : ByteArray) : Nat → ChunkState → Bool → Decoder → Nat → Outcome
  | 0, _, _, d, pos => .error (.unexpectedEnd, d.out.size, pos)
  | fuel + 1, cs, started, d, pos =>
    match readHeader data pos with
    | .error (e, stopped) => .error (e, d.out.size, stopped)
    | .ok (h, hpos) =>
      match cs.next h.kind with
      | none => .error (.chunkType, d.out.size, hpos)
      | some .stop => .ok (d.out, hpos)
      | some cs =>
        let d := if h.kind == .storedReset ∨ h.kind == .lzmaDict then { d with dictStart := d.out.size }
          else d
        let size := h.unpacked + 1
        if !h.kind.isLzma then
          if hpos + size > data.size then
            .error (.unexpectedEnd, d.out.size + (data.size - hpos), data.size)
          else
            chunks data fuel cs started { d with out := d.out ++ data.extract hpos (hpos + size) }
              (hpos + size)
        else
          let lc := h.props % 9
          let lp := h.props / 9 % 5
          let pb := h.props / 45 % 5
          let d :=
            if !started ∨ h.kind == .lzmaProps ∨ h.kind == .lzmaDict then d.reset lc lp pb
            else if h.kind == .lzmaState then d.reset d.lc d.lp d.pb
            else d
          let limit := hpos + h.packed + 1
          match RangeDecoder.start data hpos limit with
          | .error none => .ok (d.out, min limit data.size)
          | .error (some e) =>
            .error (e, d.out.size, if e == .firstByte then hpos + 1 else hpos + 5)
          | .ok rc =>
            match Decoder.run { d with rc } (d.out.size + size) (size + 1) with
            | .error (e, stopped) => .error (e, d.out.size, stopped)
            | .ok d => chunks data fuel cs true d d.rc.pos

def decodeLzma2 (data : ByteArray) (pos dictCap : Nat) : Outcome :=
  chunks data (data.size + 1) .start false
    ⟨⟨data, pos, pos, 0, 0, false⟩, #[], 0, 0, 0, 0, (0, 0, 0, 0), .empty, 0, dictCap⟩ pos

end Lzma

end WikiDump

