/-!
# Inflating DEFLATE streams

A DEFLATE stream is a sequence of blocks read bit by bit, least significant bit first. Each block
starts with a bit that marks the last block and two bits of type: stored (its length, the
length's complement and the bytes), compressed with the fixed codes, or compressed with codes
whose lengths the block describes. A compressed block is a sequence of literals and
back-references, ended by symbol 256.

Codes are canonical Huffman codes given by their lengths. A set of lengths must describe a
complete code, except that a single code of length one is allowed and that a code with no
lengths at all is accepted until it is used.

Input is taken a byte at a time into a buffer of bits, and only when the bits held do not
suffice: a header takes three bits, a code table's counts fourteen, and a symbol first as many
bits as the shortest code (for the literal code of a described block, at least the length of
the end-of-block code), then, while the code that the held bits start — reading missing bits as
zeros — is longer than what is held, enough bytes for that code. A stored block drops the bits
held and reads whole bytes.

Reading fails in one of two ways: the input ends inside the stream, or the stream is corrupt (a
block type of 3, a stored length that does not match its complement, too many codes, a code
that is not complete, a repeat with nothing to repeat or past the end of the lengths, a symbol
no code has, or a back-reference before the start of the output). A corrupt stream is reported
with the number of input bytes taken in when the problem was seen.
-/

namespace WikiDump

namespace Inflate

/-- Why a stream could not be inflated. -/
inductive InflateError where
  /-- The input ended inside the stream. -/
  | unexpectedEnd
  /-- The stream is corrupt; the input bytes taken in when this was seen. -/
  | corrupt (offset : Nat)
  deriving Inhabited, BEq, Repr

/-- The input of a stream: the bytes, where the stream starts, the next byte to take in, and
the bits taken in but not yet used, the earliest least significant. -/
structure Bits where
  data : ByteArray
  start : Nat
  pos : Nat
  held : Nat := 0
  count : Nat := 0

namespace Bits

def offset (r : Bits) : Nat := r.pos - r.start

def corrupt (r : Bits) : InflateError := .corrupt r.offset

def more (r : Bits) : Except InflateError Bits :=
  match r.data[r.pos]? with
  | some b =>
    let held := r.held + (b.toNat <<< r.count)
    .ok { r with pos := r.pos + 1, held, count := r.count + 8 }
  | none => .error .unexpectedEnd

def needFrom (n : Nat) : Nat → Bits → Except InflateError Bits
  | 0, r => .ok r
  | fuel + 1, r =>
    if r.count ≥ n then .ok r
    else
      match r.more with
      | .ok r => needFrom n fuel r
      | .error e => .error e

def need (r : Bits) (n : Nat) : Except InflateError Bits := needFrom n (n / 8 + 1) r

def take (r : Bits) (n : Nat) : Nat × Bits :=
  (r.held % (1 <<< n), { r with held := r.held >>> n, count := r.count - n })

/-- Reads `n` bits as a number. -/
def read (r : Bits) (n : Nat) : Except InflateError (Nat × Bits) := do
  let r ← r.need n
  pure (r.take n)

end Bits

/-- A canonical Huffman code: how many codes each length from 0 to 15 has, the symbols in order
of their codes, and the number of bits to hold before looking a symbol up. -/
structure Code where
  counts : Array Nat
  symbols : Array Nat
  least : Nat
  deriving Inhabited

/-- The code of a list of lengths, symbol `i` having length `lengths[i]` (0 for none); `none`
when the lengths describe no complete code. -/
def Code.ofLengths (lengths : List Nat) : Option Code :=
  let counts := (List.range 16).toArray.map fun len =>
    if len = 0 then 0 else (lengths.filter (· == len)).length
  let used := lengths.filter (· != 0)
  let maxLen := used.foldl max 0
  let minLen := used.foldl min maxLen
  let symbols := ((List.range 16).drop 1).flatMap fun len =>
    (lengths.zipIdx.filter (·.1 == len)).map (·.2)
  -- The number of codes of the greatest length that the lengths fill, with the shorter
  -- codes counted as the codes of that length they stand for.
  let filled := ((List.range 16).drop 1).foldl (fun acc len =>
    if len ≤ maxLen then acc * 2 + counts.getD len 0 else acc) 0
  if maxLen = 0 then some ⟨counts, #[], 0⟩
  else if filled = 1 <<< maxLen ∨ (filled = 1 ∧ maxLen = 1) then
    some ⟨counts, symbols.toArray, minLen⟩
  else none

/-- The length and symbol of the code that the bits `bits` start, bits past those given being
zeros, trying lengths from `len` on; none when no code starts so. -/
def Code.lookupFrom (h : Code) (bits len code first index : Nat) : Option (Nat × Nat) :=
  if len > 15 then none
  else
    let code := code + (bits >>> (len - 1)) % 2
    let count := h.counts.getD len 0
    if code < first + count then (h.symbols[index + (code - first)]?).map (len, ·)
    else h.lookupFrom bits (len + 1) (code * 2) ((first + count) * 2) (index + count)
termination_by 16 - len

def Code.lookup (h : Code) (bits : Nat) : Option (Nat × Nat) := h.lookupFrom bits 1 0 0 0

/-- Decodes one symbol, holding at least `n` bits before each look-up; `fuel` bounds the
look-ups. -/
def Code.decodeFrom (h : Code) : Nat → Nat → Bits → Except InflateError (Nat × Bits)
  | 0, _, r => .error r.corrupt
  | fuel + 1, n, r => do
    let r ← r.need n
    match h.lookup r.held with
    | none => throw r.corrupt
    | some (len, sym) =>
      if len ≤ r.count then pure (sym, (r.take len).2)
      else h.decodeFrom fuel len r

/-- Decodes one symbol. -/
def Code.decode (h : Code) (r : Bits) : Except InflateError (Nat × Bits) := h.decodeFrom 17 h.least r

def lengthBase : Array Nat :=
  #[3, 4, 5, 6, 7, 8, 9, 10, 11, 13, 15, 17, 19, 23, 27, 31, 35, 43, 51, 59, 67, 83, 99, 115,
    131, 163, 195, 227, 258]

def lengthExtra : Array Nat :=
  #[0, 0, 0, 0, 0, 0, 0, 0, 1, 1, 1, 1, 2, 2, 2, 2, 3, 3, 3, 3, 4, 4, 4, 4, 5, 5, 5, 5, 0]

def fixedLiterals : Code :=
  (Code.ofLengths (List.replicate 144 8 ++ List.replicate 112 9 ++ List.replicate 24 7 ++
    List.replicate 8 8)).getD default

def reverse5 (x : Nat) : Nat :=
  (List.range 5).foldl (fun acc i => acc * 2 + (x >>> i) % 2) 0

/-- Copies `len` bytes from `dist` bytes back, one at a time, so that a copy may overlap what
it writes. -/
def copyBack (out : ByteArray) (dist : Nat) : Nat → ByteArray
  | 0 => out
  | len + 1 => copyBack (out.push (out[out.size - dist]?.getD 0)) dist len

def distanceSymbol (dist : Option Code) (r : Bits) : Except InflateError (Nat × Bits) :=
  match dist with
  | some h => h.decode r
  | none => do
    let (x, r) ← r.read 5
    pure (reverse5 x, r)

def distanceOf (sym : Nat) (r : Bits) : Except InflateError (Nat × Bits) :=
  if sym < 4 then .ok (sym + 1, r)
  else if sym < 30 then do
    let extra := (sym - 2) / 2
    let (more, r) ← r.read extra
    pure ((1 <<< (extra + 1)) + 1 + ((sym % 2) <<< extra) + more, r)
  else .error r.corrupt

def decodeSymbols (lit : Code) (dist : Option Code) : Nat → ByteArray → Bits →
    Except InflateError (ByteArray × Bits)
  | 0, _, r => .error r.corrupt
  | fuel + 1, out, r => do
    let (sym, r) ← lit.decode r
    if sym < 256 then decodeSymbols lit dist fuel (out.push sym.toUInt8) r
    else if sym = 256 then pure (out, r)
    else if sym ≥ 286 then throw r.corrupt
    else
      let i := sym - 257
      let (more, r) ← r.read (lengthExtra.getD i 0)
      let len := lengthBase.getD i 0 + more
      let (dsym, r) ← distanceSymbol dist r
      let (d, r) ← distanceOf dsym r
      if d > out.size then throw r.corrupt
      decodeSymbols lit dist fuel (copyBack out d len) r

def codeLengthOrder : List Nat := [16, 17, 18, 0, 8, 7, 9, 6, 10, 5, 11, 4, 12, 3, 13, 2, 14, 1, 15]

def readLengths (h : Code) (count : Nat) : Nat → List Nat → Bits →
    Except InflateError (List Nat × Bits)
  | 0, acc, r => if acc.length ≥ count then .ok (acc, r) else .error r.corrupt
  | fuel + 1, acc, r =>
    if acc.length ≥ count then .ok (acc, r)
    else do
      let (sym, r) ← h.decode r
      if sym < 16 then readLengths h count fuel (acc ++ [sym]) r
      else
        let (repeated, base, extra) ←
          if sym = 16 then
            match acc.getLast? with
            | none => throw r.corrupt
            | some prev => pure (prev, 3, 2)
          else if sym = 17 then pure (0, 3, 3)
          else pure (0, 11, 7)
        let (n, r) ← r.read extra
        if acc.length + base + n > count then throw r.corrupt
        readLengths h count fuel (acc ++ List.replicate (base + n) repeated) r

def readTriples : Nat → List Nat → Bits → Except InflateError (List Nat × Bits)
  | 0, acc, r => .ok (acc, r)
  | k + 1, acc, r => do
    let (n, r) ← r.read 3
    readTriples k (acc ++ [n]) r

def readCodes (r : Bits) : Except InflateError (Code × Code × Bits) := do
  let r ← r.need 14
  let (hlit, r) := r.take 5
  let nlit := hlit + 257
  if nlit > 286 then throw r.corrupt
  let (hdist, r) := r.take 5
  let ndist := hdist + 1
  if ndist > 30 then throw r.corrupt
  let (hclen, r) := r.take 4
  let (given, r) ← readTriples (hclen + 4) [] r
  let lengthsOf := codeLengthOrder.zipIdx.map fun (sym, i) => (sym, given.getD i 0)
  let clLengths := (List.range 19).map fun sym => ((lengthsOf.lookup sym).getD 0)
  let some clCode := Code.ofLengths clLengths | throw r.corrupt
  let (lengths, r) ← readLengths clCode (nlit + ndist) (nlit + ndist + 1) [] r
  let some litCode := Code.ofLengths (lengths.take nlit) | throw r.corrupt
  let some distCode := Code.ofLengths (lengths.drop nlit) | throw r.corrupt
  let endLength := lengths.getD 256 0
  let litCode := if litCode.least < endLength then { litCode with least := endLength } else litCode
  pure (litCode, distCode, r)

def storedBlock (out : ByteArray) (r : Bits) : Except InflateError (ByteArray × Bits) := do
  let r : Bits := { r with held := 0, count := 0 }
  if r.pos + 4 > r.data.size then throw .unexpectedEnd
  let byte := fun (i : Nat) => (r.data[r.pos + i]?.getD 0).toNat
  let len : Nat := byte 0 + 256 * byte 1
  let nlen : Nat := byte 2 + 256 * byte 3
  let r : Bits := { r with pos := r.pos + 4 }
  if len + nlen != 0xFFFF then throw r.corrupt
  if r.pos + len > r.data.size then throw .unexpectedEnd
  pure (out ++ r.data.extract r.pos (r.pos + len), { r with pos := r.pos + len })

def blocks : Nat → ByteArray → Bits → Except InflateError (ByteArray × Bits)
  | 0, _, r => .error r.corrupt
  | fuel + 1, out, r => do
    let r ← r.need 3
    let (final, r) := r.take 1
    let (kind, r) := r.take 2
    let (out, r) ←
      if kind = 0 then storedBlock out r
      else if kind = 1 then decodeSymbols fixedLiterals none (8 * r.data.size + 1) out r
      else if kind = 2 then do
        let (lit, dist, r) ← readCodes r
        decodeSymbols lit (some dist) (8 * r.data.size + 1) out r
      else throw r.corrupt
    if final = 1 then pure (out, r) else blocks fuel out r

/-- Inflates the stream that starts at byte `start` of `data`: the bytes it holds, and the
position of the first byte not taken in. -/
def inflate (data : ByteArray) (start : Nat) : Except InflateError (ByteArray × Nat) := do
  let (out, r) ← blocks (8 * data.size + 1) ByteArray.empty { data, start, pos := start }
  pure (out, r.pos)

end Inflate

end WikiDump

