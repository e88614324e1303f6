import WikiDump.Text.Hex
/-!
# BLAKE3

The 256-bit BLAKE3 digest of a byte string, in its plain hashing mode.

The input is cut into chunks of 1024 bytes (one empty chunk for empty input) and each chunk into
blocks of 64 bytes. A chunk is hashed by compressing its blocks in turn, the first flagged as the
chunk's start and the last as its end, with the chunk's index as counter. Chunk values are
combined in a binary tree whose left subtree always holds the largest power of two of chunks
that leaves at least one chunk to the right; a parent compresses its children's values as one
block. The root's last compression is flagged as the root, and its first eight words, in little
endian order, are the digest.

The compression function mixes a 16-word state, made of the chaining value, four words of the
initial value, the counter, the block length and the flags, with the 16 message words over seven
rounds, permuting the message words between rounds.
-/

namespace WikiDump

namespace Blake3

def iv : Vector UInt32 8 :=
  #v[0x6A09E667, 0xBB67AE85, 0x3C6EF372, 0xA54FF53A, 0x510E527F, 0x9B05688C, 0x1F83D9AB, 0x5BE0CD19]

def chunkStart : UInt32 := 1

def chunkEnd : UInt32 := 2

def parent : UInt32 := 4

def root : UInt32 := 8

def rotr (x : UInt32) (n : UInt32) : UInt32 := (x >>> n) ||| (x <<< (32 - n))

def g (v : Vector UInt32 16) (a b c d : Fin 16) (mx my : UInt32) : Vector UInt32 16 :=
  let v := v.set a (v[a] + v[b] + mx)
  let v := v.set d (rotr (v[d] ^^^ v[a]) 16)
  let v := v.set c (v[c] + v[d])
  let v := v.set b (rotr (v[b] ^^^ v[c]) 12)
  let v := v.set a (v[a] + v[b] + my)
  let v := v.set d (rotr (v[d] ^^^ v[a]) 8)
  let v := v.set c (v[c] + v[d])
  v.set b (rotr (v[b] ^^^ v[c]) 7)

def round (v m : Vector UInt32 16) : Vector UInt32 16 :=
  let v := g v 0 4 8 12 m[0] m[1]
  let v := g v 1 5 9 13 m[2] m[3]
  let v := g v 2 6 10 14 m[4] m[5]
  let v := g v 3 7 11 15 m[6] m[7]
  let v := g v 0 5 10 15 m[8] m[9]
  let v := g v 1 6 11 12 m[10] m[11]
  let v := g v 2 7 8 13 m[12] m[13]
  g v 3 4 9 14 m[14] m[15]

def permute (m : Vector UInt32 16) : Vector UInt32 16 :=
  #v[m[2], m[6], m[3], m[10], m[7], m[0], m[4], m[13], m[1], m[11], m[12], m[5], m[9], m[14],
    m[15], m[8]]

def rounds : Nat → Vector UInt32 16 → Vector UInt32 16 → Vector UInt32 16
  | 0, v, _ => v
  | n + 1, v, m => rounds n (round v m) (permute m)

/-- The compression function: sixteen output words, of which the first eight are the next
chaining value. -/
def compress (cv : Vector UInt32 8) (block : Vector UInt32 16) (counter : Nat) (blockLen : Nat)
    (flags : UInt32) : Vector UInt32 16 :=
  let state : Vector UInt32 16 :=
    #v[cv[0], cv[1], cv[2], cv[3], cv[4], cv[5], cv[6], cv[7], iv[0], iv[1], iv[2], iv[3],
      UInt32.ofNat (counter % Nat.pow 2 32), UInt32.ofNat (counter / Nat.pow 2 32 % Nat.pow 2 32),
      UInt32.ofNat blockLen, flags]
  let v := rounds 7 state block
  Vector.ofFn fun (i : Fin 16) =>
    if h : i.val < 8 then v[i] ^^^ v[i.val + 8] else v[i] ^^^ cv[i.val - 8]

def firstEight (v : Vector UInt32 16) : Vector UInt32 8 := Vector.ofFn fun (i : Fin 8) => v[i.val]

def wordAt (data : ByteArray) (stop i : Nat) : UInt32 :=
  let byte := fun (k : Nat) => if i + k < stop then (data[i + k]?.getD 0).toUInt32 else 0
  byte 0 ||| (byte 1 <<< 8) ||| (byte 2 <<< 16) ||| (byte 3 <<< 24)

def blockWords (data : ByteArray) (start stop : Nat) : Vector UInt32 16 :=
  Vector.ofFn fun (i : Fin 16) => wordAt data stop (start + 4 * i.val)

/-- A compression not yet made: it gives a chaining value, or the digest at the root. -/
structure Output where
  cv : Vector UInt32 8
  block : Vector UInt32 16
  counter : Nat
  blockLen : Nat
  flags : UInt32

def Output.chainingValue (o : Output) : Vector UInt32 8 :=
  firstEight (compress o.cv o.block o.counter o.blockLen o.flags)

def Output.digest (o : Output) : ByteArray :=
  let words := firstEight (compress o.cv o.block 0 o.blockLen (o.flags ||| root))
  ByteArray.mk <| (List.range 8).toArray.flatMap fun i =>
    let w := words.toArray.getD i 0
    #[w.toUInt8, (w >>> 8).toUInt8, (w >>> 16).toUInt8, (w >>> 24).toUInt8]

/-- Compresses the blocks of a chunk from block `k` on, all but the last, and returns the
output of the last. The chunk holds the bytes from `start` to `stop`, in `count` blocks. -/
def chunkBlocks (data : ByteArray) (start stop index count : Nat) (cv : Vector UInt32 8) :
    Nat → Output
  | k =>
    let flags := if k = 0 then chunkStart else 0
    let blockStart := start + 64 * k
    let words := blockWords data blockStart stop
    if k + 1 < count then
      chunkBlocks data start stop index count
        (firstEight (compress cv words index 64 flags)) (k + 1)
    else ⟨cv, words, index, stop - blockStart, flags ||| chunkEnd⟩
termination_by k => count - k

def chunkOutput (data : ByteArray) (index start stop : Nat) : Output :=
  let len := stop - start
  let count := max 1 ((len + 63) / 64)
  chunkBlocks data start stop index count iv 0

def parentOutput (left right : Vector UInt32 8) : Output :=
  ⟨iv, Vector.ofFn (fun (i : Fin 16) => if h : i.val < 8 then left[i.val] else right[i.val - 8]),
    0, 64, parent⟩

def leftChunks (n : Nat) : Nat := Nat.pow 2 (Nat.log2 (n - 1))

theorem leftChunks_pos (n : Nat) : 0 < leftChunks n := Nat.two_pow_pos _

theorem leftChunks_lt (n : Nat) (h : 2 ≤ n) : leftChunks n < n := by
  unfold leftChunks
  rw [Nat.pow_eq]
  have := Nat.log2_self_le (n := n - 1) (by omega)
  omega

/-- The output of the subtree over `count` chunks from chunk `first`, the input being
`data`. -/
def subtree (data : ByteArray) (first count : Nat) : Output :=
  if h : count ≤ 1 then
    chunkOutput data first (1024 * first) (min data.size (1024 * (first + 1)))
  else
    parentOutput (subtree data first (leftChunks count)).chainingValue
      (subtree data (first + leftChunks count) (count - leftChunks count)).chainingValue
termination_by count
decreasing_by
  all_goals
    have := leftChunks_lt count (by omega)
    have := leftChunks_pos count
    omega

def digest (data : ByteArray) : ByteArray :=
  (subtree data 0 (max 1 ((data.size + 1023) / 1024))).digest

def hexDigest (data : ByteArray) : String := Hex.encode (digest data)

end Blake3

end WikiDump

