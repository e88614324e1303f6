/-!
# Well-formed UTF-8

Dump text arrives as raw bytes, and much of what is written back depends on whether those
bytes are well-formed UTF-8: a well-formed text is shown as a string, anything else as bytes.

A sequence is well formed when its leading byte opens a sequence of one to four bytes, the
continuation bytes lie in the ranges of the Unicode standard (table 3-7), and so no sequence
is overlong, encodes a surrogate, or lies above `U+10FFFF`. Decoding stops at the first byte
that breaks the rule; the lossy reading replaces each such byte by `U+FFFD`.
-/

namespace WikiDump.Utf8

def sequenceLength (lead : UInt8) : Nat :=
  if lead < 0x80 then 1
  else if lead < 0xC2 then 0
  else if lead < 0xE0 then 2
  else if lead < 0xF0 then 3
  else if lead < 0xF5 then 4
  else 0

/-- The range of the second byte after a leading byte. The narrow ranges after `E0`, `ED`,
`F0` and `F4` are what exclude overlong forms, surrogates and values above `U+10FFFF`. -/
def secondByteRange (lead : UInt8) : UInt8 × UInt8 :=
  if lead = 0xE0 then (0xA0, 0xBF)
  else if lead = 0xED then (0x80, 0x9F)
  else if lead = 0xF0 then (0x90, 0xBF)
  else if lead = 0xF4 then (0x80, 0x8F)
  else (0x80, 0xBF)

def isContinuation (b : UInt8) : Bool := 0x80 ≤ b && b ≤ 0xBF

def byteAt? (bytes : ByteArray) (i : Nat) : Option UInt8 :=
  if h : i < bytes.size then some bytes[i] else none

def payload (b : UInt8) : Nat := (b &&& 0x3F).toNat

/-- The character that starts at byte `i` and the number of bytes it takes, when the bytes
there form a well-formed sequence. -/
def decodeAt? (bytes : ByteArray) (i : Nat) : Option (Char × Nat) := do
  let lead ← byteAt? bytes i
  match sequenceLength lead with
  | 1 => pure (Char.ofNat lead.toNat, 1)
  | 2 =>
    let b1 ← byteAt? bytes (i + 1)
    if isContinuation b1 then
      pure (Char.ofNat (((lead &&& 0x1F).toNat <<< 6) ||| payload b1), 2)
    else none
  | 3 =>
    let b1 ← byteAt? bytes (i + 1)
    let (lo, hi) := secondByteRange lead
    if lo ≤ b1 && b1 ≤ hi then
      let b2 ← byteAt? bytes (i + 2)
      if isContinuation b2 then
        pure (Char.ofNat (((lead &&& 0x0F).toNat <<< 12) ||| (payload b1 <<< 6) ||| payload b2), 3)
      else none
    else none
  | 4 =>
    let b1 ← byteAt? bytes (i + 1)
    let (lo, hi) := secondByteRange lead
    if lo ≤ b1 && b1 ≤ hi then
      let b2 ← byteAt? bytes (i + 2)
      let b3 ← byteAt? bytes (i + 3)
      if isContinuation b2 && isContinuation b3 then
        pure (Char.ofNat (((lead &&& 0x07).toNat <<< 18) ||| (payload b1 <<< 12)
          ||| (payload b2 <<< 6) ||| payload b3), 4)
      else none
    else none
  | _ => none

theorem decodeAt?_width_pos {bytes : ByteArray} {i : Nat} {c : Char} {w : Nat}
    (h : decodeAt? bytes i = some (c, w)) : 0 < w := by
  unfold decodeAt? at h
  cases hb : byteAt? bytes i with
  | none => simp [hb] at h
  | some lead =>
    simp only [hb, Option.bind_eq_bind, Option.bind_some] at h
    split at h
    · simp [pure] at h; omega
    · simp only [Option.bind_eq_some_iff] at h
      obtain ⟨b1, _, h⟩ := h
      split at h <;> simp_all [pure] <;> omega
    · simp only [Option.bind_eq_some_iff] at h
      obtain ⟨b1, _, h⟩ := h
      split at h
      · obtain ⟨b2, _, h⟩ := Option.bind_eq_some_iff.mp h
        split at h <;> simp_all [pure] <;> omega
      · simp at h
    · simp only [Option.bind_eq_some_iff] at h
      obtain ⟨b1, _, h⟩ := h
      split at h
      · obtain ⟨b2, _, h⟩ := Option.bind_eq_some_iff.mp h
        obtain ⟨b3, _, h⟩ := Option.bind_eq_some_iff.mp h
        split at h <;> simp_all [pure] <;> omega
      · simp at h
    · simp at h

def isValidFrom (bytes : ByteArray) (i : Nat) : Bool :=
  if i < bytes.size then
    match h : decodeAt? bytes i with
    | some (_, w) =>
      have : 0 < w := decodeAt?_width_pos h
      isValidFrom bytes (i + w)
    | none => false
  else true
termination_by bytes.size - i

def isValid (bytes : ByteArray) : Bool := isValidFrom bytes 0

/-- Reads characters from `i` on, replacing every byte that starts no well-formed sequence by
`U+FFFD`; each such byte is replaced on its own. -/
def decodeLossyFrom (bytes : ByteArray) (i : Nat) (acc : String) : String :=
  if i < bytes.size then
    match h : decodeAt? bytes i with
    | some (c, w) =>
      have : 0 < w := decodeAt?_width_pos h
      decodeLossyFrom bytes (i + w) (acc.push c)
    | none => decodeLossyFrom bytes (i + 1) (acc.push '�')
  else acc
termination_by bytes.size - i

def decodeLossy (bytes : ByteArray) : String := decodeLossyFrom bytes 0 ""

def decode? (bytes : ByteArray) : Option String :=
  if isValid bytes then some (decodeLossy bytes) else none

def slice (bytes : ByteArray) (start stop : Nat) : ByteArray :=
  bytes.extract start stop

end WikiDump.Utf8

