import WikiDump.Text.Utf8
/-!
# White space

The characters with the Unicode `White_Space` property: tab, line feed, line tabulation, form
feed, carriage return, space, next line, no-break space, ogham space mark, the spaces from en
quad to hair space, line and paragraph separators, narrow no-break space, medium mathematical
space and ideographic space. Trimming removes them from both ends of a text; in a byte string,
a byte that starts no well-formed character is not white space and stops the trimming.
-/

namespace WikiDump.Space

def isSpace (c : Char) : Bool :=
  let n := c.toNat
  (0x09 ≤ n && n ≤ 0x0D) || n = 0x20 || n = 0x85 || n = 0xA0 || n = 0x1680 ||
    (0x2000 ≤ n && n ≤ 0x200A) || n = 0x2028 || n = 0x2029 || n = 0x202F || n = 0x205F ||
    n = 0x3000

def trimChars (cs : List Char) : List Char :=
  ((cs.dropWhile isSpace).reverse.dropWhile isSpace).reverse

def trim (s : String) : String := String.ofList (trimChars s.toList)

def trimEnd (s : String) : String := String.ofList (s.toList.reverse.dropWhile isSpace).reverse

def skipLeading (b : ByteArray) (i : Nat) : Nat :=
  if _h : i < b.size then
    match hd : Utf8.decodeAt? b i with
    | some (c, w) =>
      if isSpace c then
        have : 0 < w := Utf8.decodeAt?_width_pos hd
        skipLeading b (i + w)
      else i
    | none => i
  else i
termination_by b.size - i

def charBefore (b : ByteArray) (stop : Nat) : Option (Char × Nat) :=
  [1, 2, 3, 4].findSome? fun w =>
    if w ≤ stop then
      match Utf8.decodeAt? b (stop - w) with
      | some (c, w') => if w' = w then some (c, w) else none
      | none => none
    else none

def skipTrailing (b : ByteArray) (start stop : Nat) : Nat :=
  if stop ≤ start then stop
  else
    match charBefore b stop with
    | some (c, w) => if isSpace c ∧ 0 < w ∧ w ≤ stop then skipTrailing b start (stop - w) else stop
    | none => stop
termination_by stop

def trimBytes (b : ByteArray) : ByteArray :=
  let start := skipLeading b 0
  let stop := skipTrailing b start b.size
  b.extract start stop

end WikiDump.Space

