import WikiDump.Proofs.Script
import WikiDump.Proofs.Locality
/-!
# Reading text whose bytes are known

`Occurs buf p bytes` says that `bytes` stand in `buf` from `p` on. Given that, the readers of
a dump go over the text of a script part by part: a run of blanks or word bytes, a keyword, a
comment, a quoted token, and a statement that holds no rows, which is skipped to the byte after
its `;`. Every lemma here reads one part of a script and says where the reader stops.
-/

namespace WikiDump

open Bytes Statement Script

theorem Bytes.at_eq_data (buf : ByteArray) (i : Nat) : at? buf i = buf.data.toList[i]? := by
  unfold at?
  split
  · rename_i inside
    rw [Array.getElem?_toList, Array.getElem?_eq_getElem inside, ByteArray.getElem_eq_getElem_data]
  · rename_i past
    rw [Array.getElem?_toList, Array.getElem?_eq_none (Nat.le_of_not_lt past)]

theorem Bytes.at_mk (l : List UInt8) (i : Nat) : at? ⟨l.toArray⟩ i = l[i]? := by
  rw [at_eq_data]

theorem Bytes.at_eq_some {buf : ByteArray} {i : Nat} {c : UInt8} (found : at? buf i = some c) :
    ∃ inside : i < buf.size, buf[i] = c := by
  unfold at? at found
  split at found
  · rename_i inside
    exact ⟨inside, Option.some.inj found⟩
  · cases found

def Occurs (buf : ByteArray) (p : Nat) (bytes : List UInt8) : Prop :=
  ∀ k, k < bytes.length → at? buf (p + k) = bytes[k]?

namespace Occurs

variable {buf : ByteArray} {p : Nat}

theorem append_iff {a b : List UInt8} :
    Occurs buf p (a ++ b) ↔ Occurs buf p a ∧ Occurs buf (p + a.length) b := by
  constructor
  · intro occ
    constructor
    · intro k inside
      rw [occ k (by simp; omega), List.getElem?_append_left inside]
    · intro k inside
      rw [Nat.add_assoc, occ (a.length + k) (by simp; omega),
        List.getElem?_append_right (by omega), Nat.add_sub_cancel_left]
  · rintro ⟨left, right⟩ k inside
    by_cases before : k < a.length
    · rw [left k before, List.getElem?_append_left before]
    · have later := right (k - a.length) (by simp at inside; omega)
      rw [show p + a.length + (k - a.length) = p + k by omega] at later
      rw [later, List.getElem?_append_right (by omega)]

theorem nil : Occurs buf p [] := fun _ inside => absurd inside (Nat.not_lt_zero _)

theorem singleton {b : UInt8} (found : at? buf p = some b) : Occurs buf p [b] := by
  intro k inside
  obtain rfl : k = 0 := by simpa using inside
  simpa using found

theorem left {a b : List UInt8} (occ : Occurs buf p (a ++ b)) : Occurs buf p a :=
  (append_iff.1 occ).1

theorem right {a b : List UInt8} (occ : Occurs buf p (a ++ b)) : Occurs buf (p + a.length) b :=
  (append_iff.1 occ).2

theorem append {a b : List UInt8} (first : Occurs buf p a) (second : Occurs buf (p + a.length) b) :
    Occurs buf p (a ++ b) :=
  append_iff.2 ⟨first, second⟩

theorem head {b : UInt8} {rest : List UInt8} (occ : Occurs buf p (b :: rest)) :
    at? buf p = some b := by
  simpa using occ 0 (by simp)

theorem tail {b : UInt8} {rest : List UInt8} (occ : Occurs buf p (b :: rest)) :
    Occurs buf (p + 1) rest :=
  right (a := [b]) occ

theorem get {bytes : List UInt8} (occ : Occurs buf p bytes) {k : Nat} (inside : k < bytes.length) :
    at? buf (p + k) = some bytes[k] := by
  rw [occ k inside, List.getElem?_eq_getElem inside]

theorem lt_size {bytes : List UInt8} (occ : Occurs buf p bytes) {k : Nat} (inside : k < bytes.length) :
    p + k < buf.size :=
  lt_size_of_at (occ.get inside)

theorem self (l : List UInt8) : Occurs ⟨l.toArray⟩ 0 l := by
  intro k _
  rw [Nat.zero_add, at_mk]

theorem extract_eq {bytes : List UInt8} (occ : Occurs buf p bytes) :
    buf.extract p (p + bytes.length) = ⟨bytes.toArray⟩ := by
  apply ByteArray.ext
  apply Array.ext
  · rcases bytes.eq_nil_or_concat with empty | ⟨init, last, rfl⟩
    · subst empty
      simp
    · have fits := occ.lt_size (k := init.length) (by simp)
      simp
      omega
  · intro k inExtract inBytes
    have same := occ.get (k := k) (by simpa using inBytes)
    obtain ⟨inBuf, byte⟩ := at_eq_some same
    simp only [ByteArray.data_extract, Array.getElem_extract, List.getElem_toArray]
    rw [← byte, ByteArray.getElem_eq_getElem_data]

end Occurs

/-! ## Runs of bytes and keywords -/

section Runs

variable {buf : ByteArray} {p : Nat}

theorem skipWhile_run {P : UInt8 → Bool} {run : List UInt8} (occ : Occurs buf p run)
    (all : ∀ b ∈ run, P b = true) : skipWhile P buf p = skipWhile P buf (p + run.length) := by
  induction run generalizing p with
  | nil => rfl
  | cons b rest ih =>
      obtain ⟨inside, byte⟩ := at_eq_some occ.head
      rw [skipWhile, dif_pos inside, byte, if_pos (all b List.mem_cons_self),
        ih occ.tail (fun c member => all c (List.mem_cons_of_mem b member))]
      simp only [List.length_cons]
      rw [Nat.add_assoc, Nat.add_comm 1]

theorem skipWhile_stop {P : UInt8 → Bool} {c : UInt8} (found : at? buf p = some c)
    (stops : P c = false) : skipWhile P buf p = p := by
  obtain ⟨inside, byte⟩ := at_eq_some found
  rw [skipWhile, dif_pos inside, byte, stops]
  rfl

theorem skipWhile_before {P : UInt8 → Bool} {run rest : List UInt8} {c : UInt8}
    (occ : Occurs buf p (run ++ c :: rest)) (all : ∀ b ∈ run, P b = true) (stops : P c = false) :
    skipWhile P buf p = p + run.length := by
  rw [skipWhile_run occ.left all]
  exact skipWhile_stop occ.right.head stops

theorem length_word (w : String) : (word w).length = w.toUTF8.size := by
  simp [word]

theorem at_toUTF8 (w : String) (k : Nat) : at? w.toUTF8 k = (word w)[k]? := at_eq_data _ k

theorem matchWord_of_occurs {w : String} {c : UInt8} (occ : Occurs buf p (word w ++ [c]))
    (ends : isWordByte c = false) : matchWord buf p w = true := by
  have after : at? buf (p + w.toUTF8.size) = some c := by
    simpa [length_word] using occ.right.head
  unfold matchWord
  simp only [Bool.and_eq_true, decide_eq_true_eq, List.all_eq_true, List.mem_range,
    Bool.not_eq_true', atIs, after, ends]
  refine ⟨⟨Nat.le_of_lt (lt_size_of_at after), fun k inside => ?_⟩, trivial⟩
  rw [occ.left k (by rwa [length_word]), at_toUTF8]
  have inWord : k < (word w).length := by rwa [length_word]
  rw [List.getElem?_eq_getElem inWord]
  exact beq_self_eq_true _

theorem matchWord_mismatch {w : String} {k : Nat} {c d : UInt8} (found : at? buf (p + k) = some c)
    (letter : (word w)[k]? = some d) (differs : foldByte c ≠ foldByte d) :
    matchWord buf p w = false := by
  cases matched : matchWord buf p w
  · rfl
  · have inWord : k < w.toUTF8.size := by
      rw [← length_word]
      exact (List.getElem?_eq_some_iff.1 letter).1
    obtain ⟨a, b, atBuf, atWord, same⟩ := matchWord_at matched inWord
    rw [found, Option.some.injEq] at atBuf
    rw [at_toUTF8, letter, Option.some.injEq] at atWord
    subst atBuf atWord
    exact absurd same differs

def Script.wordsDiffer (m w : String) : Bool :=
  ((word m).zip (word w)).any fun (a, b) => foldByte a != foldByte b

theorem matchWord_of_differs {m w : String} {rest : List UInt8} (occ : Occurs buf p (word w ++ rest))
    (differ : wordsDiffer m w = true) : matchWord buf p m = false := by
  unfold wordsDiffer at differ
  obtain ⟨⟨a, b⟩, member, differs⟩ := List.any_eq_true.1 differ
  obtain ⟨k, inside, pair⟩ := List.getElem_of_mem member
  simp only [List.getElem_zip, Prod.mk.injEq] at pair
  have inW : k < (word w).length := by simp at inside; omega
  have inM : k < (word m).length := by simp at inside; omega
  refine matchWord_mismatch (k := k) (c := b) (d := a) ?_ ?_ ?_
  · rw [(occ.left).get inW, pair.2]
  · rw [List.getElem?_eq_getElem inM, pair.1]
  · exact fun same => by simp [same] at differs

theorem matchWord_shift {u v : ByteArray} {i j : Nat} {w : String} {bytes : List UInt8}
    (atU : Occurs u i bytes) (atV : Occurs v j bytes) (covers : w.toUTF8.size < bytes.length) :
    matchWord u i w = matchWord v j w := by
  have same : ∀ k, k ≤ w.toUTF8.size → at? u (i + k) = at? v (j + k) := fun k upTo => by
    rw [atU k (by omega), atV k (by omega)]
  have fitsU := atU.lt_size covers
  have fitsV := atV.lt_size covers
  unfold matchWord
  simp only [atIs, same w.toUTF8.size (Nat.le_refl _)]
  apply Bool.eq_iff_iff.2
  simp only [Bool.and_eq_true, decide_eq_true_eq, List.all_eq_true, List.mem_range]
  constructor
  · rintro ⟨⟨_, matched⟩, boundary⟩
    refine ⟨⟨by omega, fun k lt => ?_⟩, boundary⟩
    rw [← same k (by omega)]
    exact matched k lt
  · rintro ⟨⟨_, matched⟩, boundary⟩
    refine ⟨⟨by omega, fun k lt => ?_⟩, boundary⟩
    rw [same k (by omega)]
    exact matched k lt

theorem matchWord_statement {w : String} {text : List UInt8}
    (occ : Occurs buf p (text ++ [semicolon])) (letters : ∀ b ∈ word w, foldByte b ≠ foldByte semicolon)
    (own : matchWord ⟨(text ++ [semicolon]).toArray⟩ 0 w = false) : matchWord buf p w = false := by
  by_cases short : text.length < (word w).length
  · -- The `;` stands where the keyword still has a letter.
    refine matchWord_mismatch (k := text.length) (c := semicolon)
      (d := (word w)[text.length]) ?_ (List.getElem?_eq_getElem short) ?_
    · simpa using occ.right.head
    · exact fun same => letters _ (List.getElem_mem short) same.symm
  · have covers : w.toUTF8.size < (text ++ [semicolon]).length := by
      rw [← length_word, List.length_append, List.length_singleton]
      omega
    rw [matchWord_shift occ (Occurs.self (text ++ [semicolon])) covers]
    exact own

end Runs

/-! ## Blanks and comments -/

section Comments

variable {buf : ByteArray} {p : Nat}

theorem atEq_of_at {i : Nat} {b : UInt8} (found : at? buf i = some b) : atEq buf i b = true := by
  simp [atEq, atIs, found]

theorem atEq_of_ne {i : Nat} {b : UInt8} (other : at? buf i ≠ some b) : atEq buf i b = false := by
  unfold atEq atIs
  split
  · rename_i c found
    rw [found] at other
    exact beq_false_of_ne fun same => other (congrArg some same)
  · rfl

theorem skipLine_over {text : List UInt8} (occ : Occurs buf p (text ++ [newline]))
    (oneLine : newline ∉ text) : skipLine buf p = p + text.length + 1 := by
  induction text generalizing p with
  | nil =>
      obtain ⟨inside, byte⟩ := at_eq_some occ.head
      rw [skipLine, dif_pos inside, byte, if_pos (beq_self_eq_true _)]
      rfl
  | cons b rest ih =>
      have other : b ≠ newline := fun same => oneLine (same ▸ List.mem_cons_self)
      rw [skipLine_of_at occ.head other,
        ih occ.tail fun member => oneLine (List.mem_cons_of_mem b member)]
      simp only [List.length_cons]
      omega

theorem closeComment_over {text : List UInt8} (occ : Occurs buf p (text ++ [Bytes.star, slash]))
    (open_ : ∀ k, text[k]? = some Bytes.star → text[k + 1]? ≠ some slash) :
    closeComment buf p = some (p + text.length + 2) := by
  induction text generalizing p with
  | nil =>
      have second : at? buf (p + 1) = some slash := occ.get (k := 1) (by simp)
      rw [closeComment, dif_pos (lt_size_of_at second), getElem?_eq_at, getElem?_eq_at, occ.head,
        second]
      rfl
  | cons b rest ih =>
      have later : Occurs buf (p + 1) (rest ++ [Bytes.star, slash]) := occ.tail
      have notClosing : ¬(b = Bytes.star ∧ at? buf (p + 1) = some slash) := by
        rintro ⟨rfl, closing⟩
        cases rest with
        | nil =>
            rw [later.head] at closing
            exact absurd (Option.some.inj closing) (by decide)
        | cons r rest' =>
            rw [later.head] at closing
            exact open_ 0 rfl closing
      have inside : p + 1 < buf.size := by simpa using later.lt_size (k := 0) (by simp)
      rw [closeComment, dif_pos inside, getElem?_eq_at, getElem?_eq_at, occ.head,
        if_neg (by simpa using notClosing), ih later fun k found => open_ (k + 1) found]
      congr 1
      simp only [List.length_cons]
      omega

theorem commentEnd_none {b : UInt8} (found : at? buf p = some b) (notHash : b ≠ hash)
    (notDash : b = minus → at? buf (p + 1) ≠ some minus)
    (notBlock : b = slash → at? buf (p + 1) ≠ some Bytes.star) : commentEnd buf p = .ok none := by
  unfold commentEnd
  rw [found]
  simp only [beq_false_of_ne notHash, Bool.false_eq_true, if_false]
  have dash : (b == minus && atEq buf (p + 1) minus) = false := by
    by_cases isDash : b = minus
    · rw [atEq_of_ne (notDash isDash), Bool.and_false]
    · rw [beq_false_of_ne isDash, Bool.false_and]
  have block : (b == slash && atEq buf (p + 1) Bytes.star) = false := by
    by_cases isSlash : b = slash
    · rw [atEq_of_ne (notBlock isSlash), Bool.and_false]
    · rw [beq_false_of_ne isSlash, Bool.false_and]
  simp only [dash, block, Bool.false_and, Bool.false_eq_true, if_false]

theorem commentEnd_hashLine {text : List UInt8} {oneLine : newline ∉ text}
    (occ : Occurs buf p (Trivia.hashLine text oneLine).render) :
    commentEnd buf p = .ok (some (p + (Trivia.hashLine text oneLine).render.length)) := by
  unfold commentEnd
  rw [occ.head]
  simp only [beq_self_eq_true, if_true]
  have line := skipLine_over (show Occurs buf p ((hash :: text) ++ [newline]) from occ)
    (by simp [oneLine]; decide)
  rw [line]
  simp [Trivia.render]
  omega

theorem commentEnd_dashLine {text : List UInt8} {oneLine : newline ∉ text}
    {spaced : ∀ b ∈ text.head?, isSpace b = true}
    (occ : Occurs buf p (Trivia.dashLine text oneLine spaced).render) :
    commentEnd buf p = .ok (some (p + (Trivia.dashLine text oneLine spaced).render.length)) := by
  have second : at? buf (p + 1) = some minus := occ.get (k := 1) (by simp [Trivia.render])
  have blank : atIs buf (p + 2) isSpace = true := by
    cases text with
    | nil =>
        have third : at? buf (p + 2) = some newline := occ.get (k := 2) (by simp [Trivia.render])
        simp [atIs, third]
        decide
    | cons b rest =>
        have third : at? buf (p + 2) = some b := occ.get (k := 2) (by simp [Trivia.render])
        simp [atIs, third, spaced b rfl]
  unfold commentEnd
  rw [occ.head]
  simp only [atEq_of_at second, blank, beq_self_eq_true, Bool.or_true, Bool.and_self,
    (by decide : (minus == hash) = false), Bool.false_eq_true, if_false, if_true]
  have line := skipLine_over (show Occurs buf p ((minus :: minus :: text) ++ [newline]) from occ)
    (by simp [oneLine]; decide)
  rw [line]
  simp [Trivia.render]
  omega

theorem commentEnd_block {text : List UInt8}
    {open_ : ∀ k, text[k]? = some Bytes.star → text[k + 1]? ≠ some slash}
    (occ : Occurs buf p (Trivia.block text open_).render) :
    commentEnd buf p = .ok (some (p + (Trivia.block text open_).render.length)) := by
  have second : at? buf (p + 1) = some Bytes.star := occ.get (k := 1) (by simp [Trivia.render])
  have closed := closeComment_over (show Occurs buf (p + 2) (text ++ [Bytes.star, slash]) from occ.tail.tail) open_
  unfold commentEnd
  rw [occ.head]
  simp only [atEq_of_at second, beq_self_eq_true, Bool.and_self,
    (by decide : (slash == hash) = false), (by decide : (slash == minus) = false),
    Bool.false_and, Bool.false_eq_true, if_false, if_true, closed]
  simp [Trivia.render]
  omega

def afterBlanks (buf : ByteArray) (j : Nat) : Except ScanError Nat :=
  if j < buf.size then
    match commentEnd buf j with
    | .error e => .error e
    | .ok none => .ok j
    | .ok (some k) => skipTrivia buf k
  else .ok j

theorem skipTrivia_eq (buf : ByteArray) (p : Nat) :
    skipTrivia buf p = afterBlanks buf (skipSpace buf p) := by
  rw [skipTrivia]
  unfold afterBlanks
  split
  · split
    · rename_i e found
      rw [found]
    · rename_i found
      rw [found]
    · rename_i k found
      simp only [found]
  · rfl

theorem skipTrivia_congr {q : Nat} (same : skipSpace buf p = skipSpace buf q) :
    skipTrivia buf p = skipTrivia buf q := by
  rw [skipTrivia_eq, skipTrivia_eq, same]

theorem skipTrivia_blank {b : UInt8} (found : at? buf p = some b) (blank : isSpace b = true) :
    skipTrivia buf p = skipTrivia buf (p + 1) := by
  apply skipTrivia_congr
  obtain ⟨inside, byte⟩ := at_eq_some found
  unfold skipSpace
  rw [skipWhile, dif_pos inside, byte, if_pos blank]

theorem skipTrivia_comment {k : Nat} {b : UInt8} (found : at? buf p = some b)
    (notBlank : isSpace b = false) (ends : commentEnd buf p = .ok (some k)) :
    skipTrivia buf p = skipTrivia buf k := by
  have spaced : skipSpace buf p = p := skipWhile_stop found notBlank
  rw [skipTrivia_eq, spaced, afterBlanks, if_pos (lt_size_of_at found), ends]

theorem skipTrivia_start {b : UInt8} (found : at? buf p = some b) (notBlank : isSpace b = false)
    (absent : commentEnd buf p = .ok none) : skipTrivia buf p = .ok p := by
  have spaced : skipSpace buf p = p := skipWhile_stop found notBlank
  rw [skipTrivia_eq, spaced, afterBlanks, if_pos (lt_size_of_at found), absent]

theorem skipTrivia_trivia (t : Trivia) (occ : Occurs buf p t.render) :
    skipTrivia buf p = skipTrivia buf (p + t.render.length) := by
  cases t with
  | blank b isBlank => exact skipTrivia_blank occ.head isBlank
  | hashLine text oneLine => exact skipTrivia_comment (b := hash) occ.head (by decide) (commentEnd_hashLine occ)
  | dashLine text oneLine spaced =>
      exact skipTrivia_comment (b := minus) occ.head (by decide) (commentEnd_dashLine occ)
  | block text open_ => exact skipTrivia_comment (b := slash) occ.head (by decide) (commentEnd_block occ)

end Comments

/-! ## Quoted tokens -/

section Quoted

variable {buf : ByteArray} {p : Nat}

theorem QuoteUnit.ne_backslash {quote : UInt8}
    (isQuote : quote = singleQuote ∨ quote = doubleQuote ∨ quote = backtick) : quote ≠ backslash := by
  rcases isQuote with rfl | rfl | rfl <;> decide

theorem skipQuotedFrom_units {quote : UInt8}
    (isQuote : quote = singleQuote ∨ quote = doubleQuote ∨ quote = backtick) {units : List QuoteUnit}
    (fits : ∀ u ∈ units, u.Fits quote) {e : Nat}
    (occ : Occurs buf p (units.flatMap (·.render quote) ++ [quote]))
    (atEnd : p + (units.flatMap (·.render quote)).length + 1 = e) (after : at? buf e ≠ some quote) :
    Literal.skipQuotedFrom buf quote p = .ok e := by
  have notEscape : (quote == backslash) = false := beq_false_of_ne (QuoteUnit.ne_backslash isQuote)
  induction units generalizing p with
  | nil =>
      obtain ⟨inside, byte⟩ := at_eq_some occ.head
      simp only [List.flatMap_nil, List.length_nil, Nat.add_zero] at atEnd
      subst atEnd
      rw [Literal.skipQuotedFrom, dif_pos inside]
      simp only [byte, notEscape, Bool.false_and, Bool.false_eq_true, if_false, beq_self_eq_true,
        if_true, atEq_of_ne after]
  | cons u rest ih =>
      have fitsRest : ∀ u ∈ rest, u.Fits quote := fun u member => fits u (List.mem_cons_of_mem _ member)
      simp only [List.flatMap_cons, List.append_assoc, List.length_append] at occ atEnd
      have fitsFirst := fits u List.mem_cons_self
      cases u with
      | escaped b =>
          have unquoted : quote ≠ backtick := fitsFirst
          rw [show (QuoteUnit.escaped b).render quote = [backslash, b] from rfl] at occ atEnd
          simp only [List.cons_append, List.nil_append, List.length_cons, List.length_nil] at occ atEnd
          obtain ⟨inside, byte⟩ := at_eq_some occ.head
          have more : p + 1 < buf.size := lt_size_of_at occ.tail.head
          rw [Literal.skipQuotedFrom, dif_pos inside]
          simp only [byte, beq_self_eq_true, bne_iff_ne.2 unquoted, Bool.and_self, if_true,
            if_pos more]
          exact ih fitsRest occ.tail.tail (by omega)
      | doubled =>
          rw [show QuoteUnit.doubled.render quote = [quote, quote] from rfl] at occ atEnd
          simp only [List.cons_append, List.nil_append, List.length_cons, List.length_nil] at occ atEnd
          obtain ⟨inside, byte⟩ := at_eq_some occ.head
          rw [Literal.skipQuotedFrom, dif_pos inside]
          simp only [byte, notEscape, Bool.false_and, Bool.false_eq_true, if_false, beq_self_eq_true,
            if_true, atEq_of_at occ.tail.head]
          exact ih fitsRest occ.tail.tail (by omega)
      | plain b =>
          obtain ⟨notQuote, notBackslash⟩ : b ≠ quote ∧ (quote ≠ backtick → b ≠ backslash) := fitsFirst
          have noEscape : (b == backslash && quote != backtick) = false := by
            by_cases ticks : quote = backtick
            · simp [ticks]
            · simp [notBackslash ticks]
          rw [show (QuoteUnit.plain b).render quote = [b] from rfl] at occ atEnd
          simp only [List.cons_append, List.nil_append, List.length_cons, List.length_nil] at occ atEnd
          obtain ⟨inside, byte⟩ := at_eq_some occ.head
          rw [Literal.skipQuotedFrom, dif_pos inside]
          simp only [byte, noEscape, beq_false_of_ne notQuote, Bool.false_eq_true, if_false]
          exact ih fitsRest occ.tail (by omega)

theorem skipQuoted_quoted (t : Quoted) (occ : Occurs buf p t.render)
    (after : at? buf (p + t.render.length) ≠ some t.quote) :
    Literal.skipQuoted buf p = .ok (p + t.render.length) := by
  have length : t.render.length = t.body.length + 2 := by simp [Quoted.render]
  unfold Literal.skipQuoted
  rw [occ.head]
  exact skipQuotedFrom_units t.isQuote t.fits occ.tail (by unfold Quoted.body at length; omega) after

end Quoted

/-! ## Statements that hold no rows -/

def Script.Piece.lead : Piece → UInt8
  | .byte b => b
  | .quoted t => t.quote

def Script.nextLead : List Piece → UInt8
  | [] => semicolon
  | q :: _ => q.lead

theorem Script.Sequenced.tail {q : Piece} {rest : List Piece} (sequenced : Sequenced (q :: rest)) :
    Sequenced rest := by
  cases rest with
  | nil => trivial
  | cons _ _ => exact sequenced.2

theorem Script.Quoted.quote_cases (t : Quoted) :
    t.quote ≠ semicolon ∧ t.quote ≠ minus ∧ t.quote ≠ Bytes.star ∧ t.quote ≠ hash ∧ t.quote ≠ slash := by
  rcases t.isQuote with q | q | q <;> rw [q] <;> decide

theorem Script.nextLead_after_byte {b : UInt8} {rest : List Piece}
    (sequenced : Sequenced (.byte b :: rest)) :
    (b = minus → nextLead rest ≠ minus) ∧ (b = slash → nextLead rest ≠ Bytes.star) := by
  cases rest with
  | nil => exact ⟨fun _ => by decide, fun _ => by decide⟩
  | cons q rest =>
      cases q with
      | byte c =>
          obtain ⟨noDash, noBlock⟩ := sequenced.1
          exact ⟨fun dash same => noDash ⟨dash, same⟩, fun isSlash same => noBlock ⟨isSlash, same⟩⟩
      | quoted t =>
          have cases := t.quote_cases
          exact ⟨fun _ => cases.2.1, fun _ => cases.2.2.1⟩

theorem Script.nextLead_after_quoted {t : Quoted} {rest : List Piece}
    (outside : ∀ q ∈ rest, q.Outside) (sequenced : Sequenced (.quoted t :: rest)) :
    nextLead rest ≠ t.quote := by
  cases rest with
  | nil => exact (t.quote_cases).1.symm
  | cons q rest =>
      cases q with
      | byte c =>
          obtain ⟨_, notSingle, notDouble, notTick, _⟩ : Piece.Outside (.byte c) :=
            outside _ List.mem_cons_self
          rcases t.isQuote with q | q | q <;> rw [q] <;> assumption
      | quoted t' => exact fun same => sequenced.1 same.symm

section Statements

variable {buf : ByteArray} {p : Nat}

theorem at_nextLead {rest : List Piece} (occ : Occurs buf p (rest.flatMap Piece.render ++ [semicolon])) :
    at? buf p = some (nextLead rest) := by
  cases rest with
  | nil => exact occ.head
  | cons q rest =>
      cases q with
      | byte b => exact occ.head
      | quoted t => exact occ.head

theorem skipStatement_semicolon (found : at? buf p = some semicolon) :
    skipStatement buf p = .ok (p + 1) := by
  obtain ⟨inside, byte⟩ := at_eq_some found
  exact skipStatement_at_semicolon inside (by rw [byte, beq_self_eq_true])

theorem skipStatement_byte {b : UInt8} (found : at? buf p = some b) (notSemicolon : b ≠ semicolon)
    (notQuote : b ≠ singleQuote ∧ b ≠ doubleQuote ∧ b ≠ backtick)
    (absent : commentEnd buf p = .ok none) : skipStatement buf p = skipStatement buf (p + 1) := by
  obtain ⟨inside, byte⟩ := at_eq_some found
  obtain ⟨notSingle, notDouble, notTick⟩ := notQuote
  have unquoted : ¬(buf[p] == singleQuote || buf[p] == doubleQuote || buf[p] == backtick) = true := by
    simp [byte, notSingle, notDouble, notTick]
  have unended : ¬(buf[p] == semicolon) = true := by simp [byte, notSemicolon]
  -- A comment opener that opens no comment is passed over like any other byte.
  by_cases opener : (buf[p] == hash || buf[p] == minus || buf[p] == slash) = true
  · rw [skipStatement_at_opener inside unended unquoted opener, absent]
    rfl
  · exact skipStatement_at_other inside unended unquoted opener

theorem skipStatement_quoted (t : Quoted) (occ : Occurs buf p t.render)
    (after : at? buf (p + t.render.length) ≠ some t.quote) :
    skipStatement buf p = skipStatement buf (p + t.render.length) := by
  obtain ⟨inside, byte⟩ := at_eq_some occ.head
  have isQuote : (t.quote == singleQuote || t.quote == doubleQuote || t.quote == backtick) = true := by
    rcases t.isQuote with q | q | q <;> simp [q]
  have skipped := skipQuoted_quoted t occ after
  rw [skipStatement_at_quote inside (by simpa [byte] using t.quote_cases.1) (byte ▸ isQuote), skipped]
  rfl

theorem skipStatement_pieces {pieces : List Piece} (outside : ∀ q ∈ pieces, q.Outside)
    (sequenced : Sequenced pieces) (occ : Occurs buf p (pieces.flatMap Piece.render ++ [semicolon])) :
    skipStatement buf p = .ok (p + (pieces.flatMap Piece.render).length + 1) := by
  induction pieces generalizing p with
  | nil => exact skipStatement_semicolon occ.head
  | cons q rest ih =>
      have outsideRest : ∀ q ∈ rest, q.Outside := fun q' member => outside q' (List.mem_cons_of_mem q member)
      rw [List.flatMap_cons, List.append_assoc] at occ
      have after := at_nextLead occ.right
      have skipRest := ih outsideRest sequenced.tail occ.right
      rw [List.flatMap_cons, List.length_append]
      cases q with
      | byte b =>
          obtain ⟨notSemicolon, notSingle, notDouble, notTick, notHash⟩ : Piece.Outside (.byte b) :=
            outside _ List.mem_cons_self
          obtain ⟨noDash, noBlock⟩ := nextLead_after_byte sequenced
          have absent : commentEnd buf p = .ok none :=
            commentEnd_none occ.head notHash
              (fun dash same => noDash dash (Option.some.inj (after.symm.trans same)))
              (fun isSlash same => noBlock isSlash (Option.some.inj (after.symm.trans same)))
          rw [show (Piece.byte b).render.length = 1 from rfl] at skipRest ⊢
          rw [skipStatement_byte occ.head notSemicolon ⟨notSingle, notDouble, notTick⟩ absent, skipRest]
          congr 1
          omega
      | quoted t =>
          have unquoted : at? buf (p + t.render.length) ≠ some t.quote := fun same =>
            nextLead_after_quoted outsideRest sequenced (Option.some.inj (after.symm.trans same))
          rw [show (Piece.quoted t).render = t.render from rfl] at skipRest ⊢
          rw [skipStatement_quoted t occ.left unquoted, skipRest]
          congr 1
          omega

theorem skipStatement_other (s : Other) (occ : Occurs buf p s.render) :
    skipStatement buf p = .ok (p + s.render.length) := by
  rw [skipStatement_pieces s.outside s.sequenced occ]
  simp only [Other.render, List.length_append, List.length_singleton, Nat.add_assoc]

end Statements

end WikiDump

