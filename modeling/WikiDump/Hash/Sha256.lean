/-!
# SHA-256

The 256-bit SHA-256 digest of a byte string, as xz files carry it for the check of a block.

The input is padded with a one bit, zeros, and its length in bits as a 64-bit big-endian number,
to a multiple of 64 bytes. Each block of 64 bytes is read as sixteen big-endian words and
stretched to a schedule of 64 words; the compression function runs 64 rounds over a state of
eight words, one round per scheduled word and round constant, and adds the result to the
chaining value. The last chaining value, in big-endian order, is the digest.
-/

namespace WikiDump

namespace Sha256

def iv : Array UInt32 :=
  #[0x6A09E667, 0xBB67AE85, 0x3C6EF372, 0xA54FF53A, 0x510E527F, 0x9B05688C, 0x1F83D9AB, 0x5BE0CD19]

def roundConstants : Array UInt32 :=
  #[0x428A2F98, 0x71374491, 0xB5C0FBCF, 0xE9B5DBA5, 0x3956C25B, 0x59F111F1, 0x923F82A4, 0xAB1C5ED5,
    0xD807AA98, 0x12835B01, 0x243185BE, 0x550C7DC3, 0x72BE5D74, 0x80DEB1FE, 0x9BDC06A7, 0xC19BF174,
    0xE49B69C1, 0xEFBE4786, 0x0FC19DC6, 0x240CA1CC, 0x2DE92C6F, 0x4A7484AA, 0x5CB0A9DC, 0x76F988DA,
    0x983E5152, 0xA831C66D, 0xB00327C8, 0xBF597FC7, 0xC6E00BF3, 0xD5A79147, 0x06CA6351, 0x14292967,
    0x27B70A85, 0x2E1B2138, 0x4D2C6DFC, 0x53380D13, 0x650A7354, 0x766A0ABB, 0x81C2C92E, 0x92722C85,
    0xA2BFE8A1, 0xA81A664B, 0xC24B8B70, 0xC76C51A3, 0xD192E819, 0xD6990624, 0xF40E3585, 0x106AA070,
    0x19A4C116, 0x1E376C08, 0x2748774C, 0x34B0BCB5, 0x391C0CB3, 0x4ED8AA4A, 0x5B9CCA4F, 0x682E6FF3,
    0x748F82EE, 0x78A5636F, 0x84C87814, 0x8CC70208, 0x90BEFFFA, 0xA4506CEB, 0xBEF9A3F7, 0xC67178F2]

def rotr (x : UInt32) (n : UInt32) : UInt32 := (x >>> n) ||| (x <<< (32 - n))

def wordAt (data : ByteArray) (i : Nat) : UInt32 :=
  let byte := fun (k : Nat) => (data[i + k]?.getD 0).toUInt32
  (byte 0 <<< 24) ||| (byte 1 <<< 16) ||| (byte 2 <<< 8) ||| byte 3

/-- The 64 scheduled words of the block at `start`: its sixteen words, then each further word
mixed from four earlier ones. -/
def schedule (data : ByteArray) (start : Nat) : Array UInt32 :=
  let first := (List.range 16).toArray.map fun i => wordAt data (start + 4 * i)
  (List.range 48).foldl (fun w i =>
    let a := w.getD (i + 1) 0
    let b := w.getD (i + 14) 0
    let s0 := rotr a 7 ^^^ rotr a 18 ^^^ (a >>> 3)
    let s1 := rotr b 17 ^^^ rotr b 19 ^^^ (b >>> 10)
    w.push (w.getD i 0 + s0 + w.getD (i + 9) 0 + s1)) first

/-- The working state of the rounds. -/
structure Working where
  a : UInt32
  b : UInt32
  c : UInt32
  d : UInt32
  e : UInt32
  f : UInt32
  g : UInt32
  h : UInt32

def round (s : Working) (k w : UInt32) : Working :=
  let s1 := rotr s.e 6 ^^^ rotr s.e 11 ^^^ rotr s.e 25
  let ch := (s.e &&& s.f) ^^^ (~~~s.e &&& s.g)
  let t1 := s.h + s1 + ch + k + w
  let s0 := rotr s.a 2 ^^^ rotr s.a 13 ^^^ rotr s.a 22
  let maj := (s.a &&& s.b) ^^^ (s.a &&& s.c) ^^^ (s.b &&& s.c)
  ⟨t1 + s0 + maj, s.a, s.b, s.c, s.d + t1, s.e, s.f, s.g⟩

def compress (cv : Array UInt32) (data : ByteArray) (start : Nat) : Array UInt32 :=
  let w := schedule data start
  let word := fun (i : Nat) => cv.getD i 0
  let s := (List.range 64).foldl (fun s i => round s (roundConstants.getD i 0) (w.getD i 0))
    ⟨word 0, word 1, word 2, word 3, word 4, word 5, word 6, word 7⟩
  #[word 0 + s.a, word 1 + s.b, word 2 + s.c, word 3 + s.d, word 4 + s.e, word 5 + s.f,
    word 6 + s.g, word 7 + s.h]

def padding (data : ByteArray) : ByteArray :=
  let zeros := (119 - data.size % 64) % 64
  let bits := data.size * 8
  data ++ ByteArray.mk #[0x80] ++ ByteArray.mk (Array.replicate zeros 0) ++
    ByteArray.mk ((List.range 8).toArray.map fun k => (bits / Nat.pow 256 (7 - k) % 256).toUInt8)

def digest (data : ByteArray) : ByteArray :=
  let padded := padding data
  let cv := (List.range (padded.size / 64)).foldl (fun cv k => compress cv padded (64 * k)) iv
  ByteArray.mk <| (List.range 8).toArray.flatMap fun i =>
    let w := cv.getD i 0
    #[(w >>> 24).toUInt8, (w >>> 16).toUInt8, (w >>> 8).toUInt8, w.toUInt8]

end Sha256

end WikiDump

