import WikiDump.Proofs.KnownBytes
import WikiDump.Proofs.WrittenCondition
/-!
# Scanning a written expression for its joining words

Reading a written expression cuts it at a joining word (` OR `, then ` AND `) wherever the
scan of its bytes stands outside quotes and at parenthesis depth zero. The scan looks for the
word in the uppercase form of the text, at the position it has reached in the text itself.

This module follows that scan byte by byte. `Query.scanStep` is what one byte does to the
scan's state, and `Query.quiet` says that across some bytes the scan never finds the joining
word where it looks for it. From these, `Query.splitPieces_joined` gives the pieces a text falls
into when it is a row of pieces joined by the word, and `Query.depthBefore_group` gives the
depth that tells a text wholly inside one pair of parentheses.

For ASCII text the uppercase form is as long as the text, byte for byte. Then the scan can
never leave either, and reading never faults (`Query.ascii_reads_without_fault`).
-/

namespace WikiDump

namespace Query

open Bytes

/-! ## The scan -/

/-- What one byte does to the scan's state, the quote it is inside and the parenthesis depth:
outside quotes a quote opens and a parenthesis moves the depth; inside, only the closing quote
counts. -/
def scanStep (st : Option UInt8 × Int) (c : UInt8) : Option UInt8 × Int :=
  st.1.elim
    (if c == 0x27 || c == 0x22 then (some c, st.2)
      else if c == 0x28 then (none, st.2 + 1)
      else if c == 0x29 then (none, st.2 - 1)
      else (none, st.2))
    fun q => (if c == q then none else some q, st.2)

def scanFrom (st : Option UInt8 × Int) (bs : List UInt8) : Option UInt8 × Int :=
  bs.foldl scanStep st

def grouping (c : UInt8) : Bool := c == 0x27 || c == 0x22 || c == 0x28 || c == 0x29

/-- Whether the scan looks for a joining word at byte `c`, met in state `st`: outside quotes,
at depth zero, and not at a quote or parenthesis. -/
def looksAt (st : Option UInt8 × Int) (c : UInt8) : Bool :=
  st.1.isNone && st.2 == 0 && !grouping c

def upperByte (b : UInt8) : UInt8 := if 97 ≤ b && b ≤ 122 then b - 32 else b

/-- Scanning `bs` from `st`, with `ahead` following them, never finds `op` where it looks:
the uppercase of the text from there on never starts with it. -/
def quiet (op : List UInt8) : Option UInt8 × Int → List UInt8 → List UInt8 → Bool
  | _, [], _ => true
  | st, c :: cs, ahead =>
    (!looksAt st c || !op.isPrefixOf ((c :: cs ++ ahead).map upperByte)) &&
      quiet op (scanStep st c) cs ahead

@[simp] theorem scanFrom_nil (st : Option UInt8 × Int) : scanFrom st [] = st := rfl

@[simp] theorem scanFrom_cons (st : Option UInt8 × Int) (c : UInt8) (cs : List UInt8) :
    scanFrom st (c :: cs) = scanFrom (scanStep st c) cs := rfl

theorem scanFrom_append (st : Option UInt8 × Int) (a b : List UInt8) :
    scanFrom st (a ++ b) = scanFrom (scanFrom st a) b := List.foldl_append

theorem quiet_cons {op : List UInt8} {st : Option UInt8 × Int} {c : UInt8} {cs ahead : List UInt8} :
    quiet op st (c :: cs) ahead = true ↔
      (looksAt st c = true → ¬ op <+: (c :: cs ++ ahead).map upperByte) ∧
        quiet op (scanStep st c) cs ahead = true := by
  have unmatched : ∀ l : List UInt8, op.isPrefixOf l = false ↔ ¬ op <+: l := fun l => by
    rw [← List.isPrefixOf_iff_prefix, Bool.not_eq_true]
  simp only [quiet, Bool.and_eq_true, Bool.or_eq_true, Bool.not_eq_true', unmatched]
  cases looksAt st c <;> simp

theorem quiet_append {op : List UInt8} {st : Option UInt8 × Int} {a b ahead : List UInt8} :
    quiet op st (a ++ b) ahead = true ↔
      quiet op st a (b ++ ahead) = true ∧ quiet op (scanFrom st a) b ahead = true := by
  induction a generalizing st with
  | nil => simp [quiet]
  | cons c cs ih => simp [quiet_cons, ih, and_assoc]

/-! ## The splitter, byte by byte -/

section Split

variable {s upper op : ByteArray} {last : Nat} {acc : Array ByteArray}

theorem splitPieces_step {i : Nat} (inside : i < s.size) {quote : Option UInt8} {depth : Int}
    (unseen : looksAt (quote, depth) s[i] = true → i ≤ upper.size ∧ bytesAt upper op i = false) :
    splitPieces s upper op i quote depth last acc =
      splitPieces s upper op (i + 1) (scanStep (quote, depth) s[i]).1
        (scanStep (quote, depth) s[i]).2 last acc := by
  rw [splitPieces, dif_pos inside]
  cases quote with
  | some q => rfl
  | none =>
    simp only [scanStep, Option.elim]
    by_cases isQuote : (s[i] == 0x27 || s[i] == 0x22) = true
    · rw [if_pos isQuote, if_pos isQuote]
    rw [if_neg isQuote, if_neg isQuote]
    by_cases isOpen : (s[i] == 0x28) = true
    · rw [if_pos isOpen, if_pos isOpen]
    rw [if_neg isOpen, if_neg isOpen]
    by_cases isClose : (s[i] == 0x29) = true
    · rw [if_pos isClose, if_pos isClose]
    rw [if_neg isClose, if_neg isClose]
    by_cases level : (depth == 0) = true
    · have looks : looksAt (none, depth) s[i] = true := by
        simp only [Bool.or_eq_true, not_or, Bool.not_eq_true] at isQuote
        simp [looksAt, grouping, level, isQuote.1, isQuote.2, isOpen, isClose]
      obtain ⟨within, absent⟩ := unseen looks
      rw [if_pos level, if_neg (by omega), absent]
      rfl
    · rw [if_neg level]

theorem splitPieces_cut {i : Nat} (inside : i < s.size) (plain : grouping s[i] = false)
    (within : i ≤ upper.size) (found : bytesAt upper op i = true) (nonempty : 0 < op.size) :
    splitPieces s upper op i none 0 last acc =
      splitPieces s upper op (i + op.size) none 0 (i + op.size)
        (acc.push (Space.trimBytes (s.extract last i))) := by
  simp only [grouping, Bool.or_eq_false_iff] at plain
  rw [splitPieces, dif_pos inside]
  simp only [plain.1.1.1, plain.1.1.2, plain.1.2, plain.2, Bool.or_self, Bool.false_eq_true,
    if_false, beq_self_eq_true, if_true, if_neg (show ¬ i > upper.size by omega), found]
  rw [show i + (op.size - 1) + 1 = i + op.size by omega]

theorem splitPieces_past {i : Nat} (past : s.size ≤ i) {quote : Option UInt8} {depth : Int}
    (lastIn : last ≤ s.size) :
    splitPieces s upper op i quote depth last acc =
      .ok (acc.push (Space.trimBytes (s.extract last s.size))) := by
  rw [splitPieces, dif_neg (by omega), if_neg (by omega)]

end Split

/-! ## Reading the uppercase form -/

def UpperOf (upper s : ByteArray) : Prop := ∀ k, at? upper k = (at? s k).map upperByte

theorem at_of_ends {s : ByteArray} {i : Nat} {rest : List UInt8} (occ : Occurs s i rest)
    (ends : i + rest.length = s.size) (k : Nat) : at? s (i + k) = rest[k]? := by
  by_cases inRest : k < rest.length
  · exact occ k inRest
  · rw [List.getElem?_eq_none (by omega)]
    unfold at?
    rw [dif_neg (by omega)]

theorem occurs_upper_iff {upper s : ByteArray} (upperOf : UpperOf upper s) {i : Nat}
    {rest pat : List UInt8} (occ : Occurs s i rest) (ends : i + rest.length = s.size) :
    Occurs upper i pat ↔ pat <+: rest.map upperByte := by
  have upperAt : ∀ k, at? upper (i + k) = (rest.map upperByte)[k]? := fun k => by
    rw [upperOf, at_of_ends occ ends, List.getElem?_map]
  rw [List.prefix_iff_getElem?]
  constructor
  · intro found k inPat
    rw [← upperAt, found k inPat, List.getElem?_eq_getElem inPat]
  · intro found k inPat
    rw [upperAt, found k inPat, List.getElem?_eq_getElem inPat]

theorem bytesAt_iff_occurs {b pat : ByteArray} {i : Nat} (nonempty : 0 < pat.size) :
    bytesAt b pat i = true ↔ Occurs b i pat.data.toList := by
  have same : ∀ k, (b[i + k]? == pat[k]?) = true ↔ at? b (i + k) = pat.data.toList[k]? := fun k => by
    rw [beq_iff_eq, ← getElem?_eq_at, Array.getElem?_toList]
    rfl
  simp only [bytesAt, Bool.and_eq_true, decide_eq_true_eq, List.all_eq_true, List.mem_range, same]
  constructor
  · rintro ⟨-, found⟩ k inPat
    exact found k (by simpa using inPat)
  · intro found
    refine ⟨?_, fun k inPat => found k (by simpa using inPat)⟩
    have fits := found.lt_size (k := pat.size - 1) (by simp; omega)
    omega

/-! ## Runs of the splitter -/

section Runs

variable {s upper op : ByteArray} (upperOf : UpperOf upper s) (nonempty : 0 < op.size)
  {last : Nat} {acc : Array ByteArray}
include upperOf nonempty

theorem splitPieces_quiet {p : Nat} {mid ahead : List UInt8} (occ : Occurs s p (mid ++ ahead))
    (ends : p + (mid ++ ahead).length = s.size) {st : Option UInt8 × Int}
    (unseen : quiet op.data.toList st mid ahead = true) :
    splitPieces s upper op p st.1 st.2 last acc =
      splitPieces s upper op (p + mid.length) (scanFrom st mid).1 (scanFrom st mid).2 last acc := by
  induction mid generalizing p st with
  | nil => rfl
  | cons c cs ih =>
    obtain ⟨here, rest⟩ := quiet_cons.1 unseen
    obtain ⟨inside, byte⟩ := at_eq_some (occ.head (b := c))
    have step := @splitPieces_step s upper op last acc p inside st.1 st.2 fun looks => by
      rw [byte] at looks
      have upperHere : at? upper p = some (upperByte c) := by rw [upperOf, occ.head]; rfl
      refine ⟨Nat.le_of_lt (Statement.lt_size_of_at upperHere), ?_⟩
      rw [Bool.eq_false_iff]
      intro found
      rw [bytesAt_iff_occurs nonempty, occurs_upper_iff upperOf occ ends] at found
      exact here looks found
    rw [step, byte, ih occ.tail (by simp at ends ⊢; omega) rest]
    simp [Nat.add_assoc, Nat.add_comm 1]

end Runs

def joined (first : List UInt8) (joins : List (List UInt8 × List UInt8)) : List UInt8 :=
  first ++ (joins.map fun j => j.1 ++ j.2).flatten

@[simp] theorem joined_nil (first : List UInt8) : joined first [] = first := by
  simp [joined]

theorem joined_cons (first : List UInt8) (j : List UInt8 × List UInt8)
    (js : List (List UInt8 × List UInt8)) :
    joined first (j :: js) = first ++ (j.1 ++ joined j.2 js) := by
  simp [joined, List.append_assoc]

/-- A joined text the splitter cuts at its words: each piece, with what follows it, scans back
to the start state without finding `op`, and each word reads as `op` in uppercase. -/
def Joins (op : List UInt8) : List UInt8 → List (List UInt8 × List UInt8) → Prop
  | first, [] => quiet op (none, 0) first [] = true
  | first, j :: js => quiet op (none, 0) first (j.1 ++ joined j.2 js) = true ∧
      scanFrom (none, 0) first = (none, 0) ∧ j.1.map upperByte = op ∧ Joins op j.2 js

theorem upperByte_eq_space {b : UInt8} (space : upperByte b = 0x20) : b = 0x20 := by
  unfold upperByte at space
  split at space
  · rename_i letter
    simp only [Bool.and_eq_true, decide_eq_true_eq, UInt8.le_iff_toNat_le, UInt8.reduceToNat] at letter
    have enough : (32 : UInt8) ≤ b := by
      simp only [UInt8.le_iff_toNat_le, UInt8.reduceToNat]
      omega
    have value := congrArg UInt8.toNat space
    rw [UInt8.toNat_sub_of_le _ _ enough] at value
    simp only [UInt8.reduceToNat] at value
    omega
  · exact space

theorem isSome_at {b : ByteArray} {k : Nat} : (at? b k).isSome = decide (k < b.size) := by
  unfold at?
  split <;> simp_all

theorem UpperOf.size_eq {upper s : ByteArray} (upperOf : UpperOf upper s) : upper.size = s.size := by
  have same : ∀ k, k < upper.size ↔ k < s.size := fun k => by
    have present := congrArg Option.isSome (upperOf k)
    rw [Option.isSome_map, isSome_at, isSome_at] at present
    simpa using present
  exact Nat.le_antisymm (Nat.le_of_not_lt fun more => Nat.lt_irrefl _ ((same _).1 more))
    (Nat.le_of_not_lt fun more => Nat.lt_irrefl _ ((same _).2 more))

/-- A text made of pieces joined by words that read as the joining word falls into those pieces,
each trimmed. -/
theorem splitPieces_joined {s upper op : ByteArray} (upperOf : UpperOf upper s) {pat : List UInt8}
    (opIs : op.data.toList = pat) (space : pat.head? = some 0x20) {p : Nat} {first : List UInt8}
    {joins : List (List UInt8 × List UInt8)} (occ : Occurs s p (joined first joins))
    (ends : p + (joined first joins).length = s.size) (ok : Joins pat first joins)
    (acc : Array ByteArray) :
    splitPieces s upper op p none 0 p acc =
      .ok (acc ++ ((first :: joins.map (·.2)).map fun piece =>
        Space.trimBytes ⟨piece.toArray⟩).toArray) := by
  have size : op.size = pat.length := by rw [← opIs]; simp
  have nonempty : 0 < op.size := by
    rw [size]
    cases pat with
    | nil => cases space
    | cons b bs => simp
  induction joins generalizing p first acc with
  | nil =>
    rw [joined_nil] at occ ends
    have run := @splitPieces_quiet s upper op upperOf nonempty p acc p first [] (by simpa using occ)
      (by simpa using ends) (none, 0) (by rw [opIs]; exact ok)
    rw [run, splitPieces_past (by omega) (by omega), show s.size = p + first.length by omega,
      occ.extract_eq]
    simp
  | cons j js ih =>
    obtain ⟨unseen, back, word, rest⟩ := ok
    rw [joined_cons] at occ ends
    have run := @splitPieces_quiet s upper op upperOf nonempty p acc p first _ occ ends (none, 0)
      (by rw [opIs]; exact unseen)
    rw [back] at run
    have wordLength : j.1.length = op.size := by rw [size, ← word, List.length_map]
    obtain ⟨b, bs, wordIs⟩ : ∃ b bs, j.1 = b :: bs := List.exists_cons_of_ne_nil (by
      intro empty
      rw [empty] at wordLength
      simp at wordLength
      omega)
    have bSpace : b = 0x20 := by
      rw [wordIs, List.map_cons] at word
      rw [← word] at space
      exact upperByte_eq_space (by simpa using space)
    have wordAt : Occurs s (p + first.length) (j.1 ++ joined j.2 js) := occ.right
    obtain ⟨inside, byte⟩ := at_eq_some (by rw [wordIs] at wordAt; exact wordAt.head)
    have found : bytesAt upper op (p + first.length) = true := by
      rw [bytesAt_iff_occurs nonempty, occurs_upper_iff upperOf wordAt (by simp at ends ⊢; omega),
        opIs, List.map_append, word]
      exact List.prefix_append _ _
    have cut := @splitPieces_cut s upper op p acc (p + first.length) inside
      (by rw [byte, bSpace]; rfl) (by rw [upperOf.size_eq]; omega) found nonempty
    have nextOcc : Occurs s (p + first.length + op.size) (joined j.2 js) := by
      have later := wordAt.right
      rwa [wordLength] at later
    rw [run, cut, (occ.left).extract_eq,
      ih nextOcc (by simp at ends; rw [← wordLength]; omega) rest]
    simp

/-! ## What follows a piece -/

theorem quiet_of_unblank {op : List UInt8} (space : op.head? = some 0x20) {st : Option UInt8 × Int}
    {cs ahead : List UInt8} (unblank : ∀ c ∈ cs, c ≠ 0x20) : quiet op st cs ahead = true := by
  induction cs generalizing st with
  | nil => rfl
  | cons c cs ih =>
    refine quiet_cons.2 ⟨fun _ seen => ?_, ih fun x member => unblank x (List.mem_cons_of_mem c member)⟩
    obtain ⟨rest, whole⟩ := seen
    cases op with
    | nil => cases space
    | cons b bs =>
      simp only [List.head?_cons, Option.some.injEq] at space
      simp only [List.cons_append, List.map_cons, List.cons.injEq] at whole
      exact unblank c List.mem_cons_self (upperByte_eq_space (whole.1 ▸ space))

theorem prefix_of_blank_ahead {op u ahead : List UInt8}
    (inner : ∀ i, 0 < i → i + 1 < op.length → op[i]? ≠ some 0x20) (nonempty : u ≠ [])
    (follows : ahead = [] ∨ ahead.head? = some 0x20) (seen : op <+: (u ++ ahead).map upperByte) :
    op <+: (u ++ [0x20]).map upperByte := by
  rw [List.prefix_iff_getElem?] at seen ⊢
  intro i inOp
  have atI := seen i inOp
  rw [List.getElem?_map] at atI ⊢
  by_cases inU : i < u.length
  · rwa [List.getElem?_append_left inU] at atI ⊢
  -- The word reaches past `u`: what follows starts with a blank, and that blank ends the word.
  have atU := seen u.length (by omega)
  rw [List.getElem?_map, List.getElem?_append_right (Nat.le_refl _), Nat.sub_self] at atU
  rcases follows with rfl | start
  · simp at atU
  rw [← List.head?_eq_getElem?, start] at atU
  have blank : op[u.length]? = some 0x20 := by
    rw [List.getElem?_eq_getElem (by omega)]
    simpa [upperByte] using atU.symm
  have ends : op.length = u.length + 1 := by
    have wide : 0 < u.length := List.length_pos_iff.2 nonempty
    by_cases short : u.length + 1 < op.length
    · exact absurd blank (inner u.length wide short)
    · omega
  obtain rfl : i = u.length := by omega
  rw [List.getElem?_append_right (Nat.le_refl _), Nat.sub_self]
  simpa [upperByte] using atU

theorem quiet_of_blank_ahead {op : List UInt8}
    (inner : ∀ i, 0 < i → i + 1 < op.length → op[i]? ≠ some 0x20) {st : Option UInt8 × Int}
    {cs ahead : List UInt8} (follows : ahead = [] ∨ ahead.head? = some 0x20)
    (unseen : quiet op st cs [0x20] = true) : quiet op st cs ahead = true := by
  induction cs generalizing st with
  | nil => rfl
  | cons c cs ih =>
    obtain ⟨here, rest⟩ := quiet_cons.1 unseen
    exact quiet_cons.2 ⟨fun looks seen =>
      here looks (prefix_of_blank_ahead inner (List.cons_ne_nil c cs) follows seen), ih rest⟩

theorem quiet_of_blank_cons {op : List UInt8} {cs ahead : List UInt8}
    (unseen : quiet op (none, 0) (0x20 :: cs) ahead = true) : quiet op (none, 0) cs ahead = true :=
  (quiet_cons.1 unseen).2

theorem joins_of_pieces {op : List UInt8} (space : op.head? = some 0x20)
    (inner : ∀ i, 0 < i → i + 1 < op.length → op[i]? ≠ some 0x20) {first : List UInt8}
    {joins : List (List UInt8 × List UInt8)}
    (pieces : ∀ p ∈ first :: joins.map (·.2),
      quiet op (none, 0) (0x20 :: p) [0x20] = true ∧ scanFrom (none, 0) p = (none, 0))
    (words : ∀ j ∈ joins, j.1.map upperByte = op) : Joins op first joins := by
  induction joins generalizing first with
  | nil =>
    exact quiet_of_blank_cons (quiet_of_blank_ahead inner (Or.inl rfl) (pieces first List.mem_cons_self).1)
  | cons j js ih =>
    obtain ⟨unseen, back⟩ := pieces first List.mem_cons_self
    have word := words j List.mem_cons_self
    have start : (j.1 ++ joined j.2 js).head? = some 0x20 := by
      obtain ⟨b, bs, wordIs⟩ : ∃ b bs, j.1 = b :: bs := List.exists_cons_of_ne_nil (by
        rintro empty
        rw [empty, List.map_nil] at word
        rw [← word] at space
        cases space)
      rw [wordIs, List.map_cons] at word
      rw [← word, List.head?_cons, Option.some.injEq] at space
      rw [wordIs, List.cons_append, List.head?_cons, upperByte_eq_space space]
    exact ⟨quiet_of_blank_cons (quiet_of_blank_ahead inner (Or.inr start) unseen), back, word,
      @ih j.2 (fun p member => pieces p (List.mem_cons_of_mem first member))
        fun j' member => words j' (List.mem_cons_of_mem j member)⟩

/-! ## Inside parentheses -/

def Above (d : Int) (st : Option UInt8 × Int) (bs : List UInt8) : Prop :=
  ∀ k ≤ bs.length, d ≤ (scanFrom st (bs.take k)).2

theorem Above.nil {d : Int} {st : Option UInt8 × Int} (level : d ≤ st.2) : Above d st [] := by
  intro k _
  simpa using level

theorem above_cons {d : Int} {st : Option UInt8 × Int} {c : UInt8} {cs : List UInt8} :
    Above d st (c :: cs) ↔ d ≤ st.2 ∧ Above d (scanStep st c) cs := by
  constructor
  · intro above
    refine ⟨by simpa using above 0 (by simp), fun k within => ?_⟩
    simpa using above (k + 1) (by simp; omega)
  · rintro ⟨level, rest⟩ k within
    cases k with
    | zero => simpa using level
    | succ k => simpa using rest k (by simp at within; omega)

theorem above_append {d : Int} {st : Option UInt8 × Int} {a b : List UInt8} :
    Above d st (a ++ b) ↔ Above d st a ∧ Above d (scanFrom st a) b := by
  induction a generalizing st with
  | nil =>
    constructor
    · intro above
      exact ⟨Above.nil (by simpa using above 0 (by simp)), above⟩
    · exact fun both => both.2
  | cons c cs ih => simp only [List.cons_append, above_cons, ih, scanFrom_cons, and_assoc]

theorem quiet_of_above {op : List UInt8} {st : Option UInt8 × Int} {bs ahead : List UInt8}
    (above : Above 1 st bs) : quiet op st bs ahead = true := by
  induction bs generalizing st with
  | nil => rfl
  | cons c cs ih =>
    obtain ⟨level, rest⟩ := above_cons.1 above
    refine quiet_cons.2 ⟨fun looks => ?_, ih rest⟩
    simp only [looksAt, Bool.and_eq_true, beq_iff_eq] at looks
    omega

theorem foldl_unclosed {f : Option UInt8 × Int × Bool → UInt8 → Option UInt8 × Int × Bool}
    (step : ∀ (q : Option UInt8) (d : Int) (c : UInt8), 1 ≤ (scanStep (q, d) c).2 →
      f (q, d, false) c = ((scanStep (q, d) c).1, (scanStep (q, d) c).2, false))
    (q : Option UInt8) (d : Int) {bs : List UInt8}
    (above : ∀ k, 1 ≤ k → k ≤ bs.length → 1 ≤ (scanFrom (q, d) (bs.take k)).2) :
    bs.foldl f (q, d, false) = ((scanFrom (q, d) bs).1, (scanFrom (q, d) bs).2, false) := by
  induction bs generalizing q d with
  | nil => rfl
  | cons c cs ih =>
    have first : 1 ≤ (scanStep (q, d) c).2 := by simpa using above 1 (Nat.le_refl 1) (by simp)
    rw [List.foldl_cons, step q d c first, ih (scanStep (q, d) c).1 (scanStep (q, d) c).2
      fun k least within => by simpa using above (k + 1) (by omega) (by simp; omega)]
    rfl

/-- A text wholly inside one pair of parentheses has depth one just before its last byte. -/
theorem depthBefore_group {inner : List UInt8} (above : Above 1 (none, 1) inner)
    (back : (scanFrom (none, 1) inner).2 = 1) :
    depthBefore ⟨(0x28 :: inner ++ [0x29]).toArray⟩ (inner.length + 1) = 1 := by
  have bytes : (ByteArray.extract ⟨(0x28 :: inner ++ [0x29]).toArray⟩ 0
      (inner.length + 1)).toList = 0x28 :: inner := by
    have front := (Occurs.self (0x28 :: inner ++ [0x29])).left.extract_eq
    simp only [Nat.zero_add, List.length_cons] at front
    rw [front, Bytes.toList_mk]
  have opened : ∀ k, 1 ≤ k → k ≤ (0x28 :: inner).length →
      1 ≤ (scanFrom (none, 0) ((0x28 :: inner).take k)).2 := by
    intro k least within
    obtain ⟨k, rfl⟩ : ∃ j, k = j + 1 := ⟨k - 1, by omega⟩
    simpa [scanStep] using above k (by simp at within; omega)
  unfold depthBefore
  dsimp only
  rw [bytes, @foldl_unclosed _ ?_ none 0 _ opened]
  · simpa [scanStep] using back
  · intro q d c deep
    cases q with
    | some q => rfl
    | none =>
      simp only [scanStep, Option.elim, Bool.false_eq_true, ↓reduceIte] at deep ⊢
      by_cases isQuote : (c == 0x27 || c == 0x22) = true
      · rw [if_pos isQuote, if_pos isQuote]
      rw [if_neg isQuote, if_neg isQuote] at *
      by_cases isOpen : (c == 0x28) = true
      · rw [if_pos isOpen, if_pos isOpen]
      rw [if_neg isOpen, if_neg isOpen] at *
      by_cases isClose : (c == 0x29) = true
      · rw [if_pos isClose] at deep
        rw [if_pos isClose, if_pos isClose, show (d - 1 == 0) = false by simp at deep ⊢; omega]
      · rw [if_neg isClose, if_neg isClose]

theorem scanStep_shift (q : Option UInt8) (d n : Int) (c : UInt8) :
    scanStep (q, d + n) c = ((scanStep (q, d) c).1, (scanStep (q, d) c).2 + n) := by
  cases q with
  | some q => rfl
  | none =>
    simp only [scanStep, Option.elim]
    repeat' split
    all_goals simp only [Prod.mk.injEq, true_and]
    all_goals omega

theorem scanFrom_shift (q : Option UInt8) (d n : Int) (bs : List UInt8) :
    scanFrom (q, d + n) bs = ((scanFrom (q, d) bs).1, (scanFrom (q, d) bs).2 + n) := by
  induction bs generalizing q d with
  | nil => rfl
  | cons c cs ih =>
    rw [scanFrom_cons, scanFrom_cons, scanStep_shift, ih]

theorem Above.shift {m : Int} {q : Option UInt8} {d : Int} {bs : List UInt8} (above : Above m (q, d) bs)
    (n : Int) : Above (m + n) (q, d + n) bs := by
  intro k within
  rw [scanFrom_shift]
  have level := above k within
  simp only at level ⊢
  omega

theorem Above.mono {m m' : Int} {st : Option UInt8 × Int} {bs : List UInt8} (above : Above m st bs)
    (lower : m' ≤ m) : Above m' st bs :=
  fun k within => Int.le_trans lower (above k within)

theorem scanFrom_plain {d : Int} {bs : List UInt8} (plain : ∀ c ∈ bs, grouping c = false) :
    scanFrom (none, d) bs = (none, d) := by
  induction bs with
  | nil => rfl
  | cons c cs ih =>
    have here := plain c List.mem_cons_self
    simp only [grouping, Bool.or_eq_false_iff, beq_eq_false_iff_ne, ne_eq] at here
    rw [scanFrom_cons, show scanStep (none, d) c = (none, d) by simp [scanStep, here],
      ih fun x member => plain x (List.mem_cons_of_mem c member)]

theorem depth_scanFrom_unparenthesized {st : Option UInt8 × Int} {bs : List UInt8}
    (flat : ∀ c ∈ bs, c ≠ 0x28 ∧ c ≠ 0x29) : (scanFrom st bs).2 = st.2 := by
  induction bs generalizing st with
  | nil => rfl
  | cons c cs ih =>
    obtain ⟨notOpen, notClose⟩ := flat c List.mem_cons_self
    rw [scanFrom_cons, ih fun x member => flat x (List.mem_cons_of_mem c member)]
    obtain ⟨q, d⟩ := st
    cases q with
    | some q => rfl
    | none =>
      simp only [scanStep, Option.elim]
      repeat' split
      all_goals first | rfl | simp_all

/-! ## ASCII text -/

def Ascii (b : ByteArray) : Prop := ∀ x ∈ b.data.toList, x < 0x80

theorem Ascii.extract {b : ByteArray} (ascii : Ascii b) (i j : Nat) : Ascii (b.extract i j) := by
  intro x member
  rw [ByteArray.data_extract, Array.toList_extract, List.extract_eq_take_drop] at member
  exact ascii x (List.mem_of_mem_drop (List.mem_of_mem_take member))

theorem Ascii.trimBytes {b : ByteArray} (ascii : Ascii b) : Ascii (Space.trimBytes b) :=
  ascii.extract _ _

theorem toNat_ofNat_ascii : ∀ n, n < 128 → (Char.ofNat n).toNat = n := by decide

theorem toNat_upper_ascii {c : Char} (small : c.toNat < 128) : (CaseMap.upper c).toNat < 128 := by
  rw [CaseMap.upper, if_pos small, toNat_toUpper]
  split <;> omega

theorem size_upperBytes {b : ByteArray} (ascii : Ascii b) : (upperBytes b).size = b.size := by
  have chars : ∀ c ∈ (b.data.toList.map fun x => Char.ofNat x.toNat).map CaseMap.upper,
      c.toNat < 128 := by
    intro c member
    simp only [List.map_map, List.mem_map, Function.comp_apply] at member
    obtain ⟨x, inB, rfl⟩ := member
    have small : x.toNat < 128 := by simpa [UInt8.lt_iff_toNat_lt] using ascii x inB
    exact toNat_upper_ascii (by rw [toNat_ofNat_ascii _ small]; exact small)
  have decoded : Utf8.decodeLossy b = String.ofList (b.data.toList.map fun x => Char.ofNat x.toNat) := by
    apply String.toList_inj.1
    rw [Utf8.decodeLossy, decodeLossyFrom_ascii ascii, String.toList_ofList]
    simp
  have upperText : CaseMap.upperText (Utf8.decodeLossy b) =
      String.ofList ((b.data.toList.map fun x => Char.ofNat x.toNat).map CaseMap.upper) := by
    apply String.toList_inj.1
    rw [CaseMap.upperText, String.toList_map, decoded, String.toList_ofList, String.toList_ofList]
  rw [upperBytes, upperText, toUTF8_size_ascii chars, List.length_map, List.length_map,
    Array.length_toList, ByteArray.size]

theorem toNat_upperByte (b : UInt8) :
    (upperByte b).toNat = if 97 ≤ b.toNat ∧ b.toNat ≤ 122 then b.toNat - 32 else b.toNat := by
  unfold upperByte
  have bounds : (97 ≤ b && b ≤ 122) = true ↔ 97 ≤ b.toNat ∧ b.toNat ≤ 122 := by
    simp only [Bool.and_eq_true, decide_eq_true_eq, UInt8.le_iff_toNat_le, UInt8.reduceToNat]
  by_cases letter : 97 ≤ b.toNat ∧ b.toNat ≤ 122
  · have enough : (32 : UInt8) ≤ b := by
      simp only [UInt8.le_iff_toNat_le, UInt8.reduceToNat]
      omega
    rw [if_pos (bounds.2 letter), if_pos letter, UInt8.toNat_sub_of_le _ _ enough]
    rfl
  · rw [if_neg (mt bounds.1 letter), if_neg letter]

theorem upperByte_ascii {c : Char} (small : c.toNat < 128) :
    upperByte c.toNat.toUInt8 = c.toUpper.toNat.toUInt8 := by
  have upperSmall : c.toUpper.toNat < 128 := by
    rw [toNat_toUpper]
    split <;> omega
  apply UInt8.toNat_inj.1
  rw [toNat_upperByte, toUInt8_toNat_ascii small, toUInt8_toNat_ascii upperSmall, toNat_toUpper]

theorem word_ascii {t : String} (ascii : ∀ c ∈ t.toList, c.toNat < 128) :
    Script.word t = t.toList.map fun c => c.toNat.toUInt8 := by
  have bytes := toUTF8_ascii ascii
  rw [String.ofList_toList] at bytes
  rw [Script.word, bytes]

theorem upperOf_text {t : String} (ascii : ∀ c ∈ t.toList, c.toNat < 128) :
    UpperOf (upperBytes t.toUTF8) t.toUTF8 := by
  have upperAscii : ∀ c ∈ t.toList.map CaseMap.upper, c.toNat < 128 := by
    intro c member
    obtain ⟨x, inText, rfl⟩ := List.mem_map.1 member
    exact toNat_upper_ascii (ascii x inText)
  have upper : upperBytes t.toUTF8 = (String.ofList (t.toList.map CaseMap.upper)).toUTF8 := by
    have text := decodeLossy_ascii ascii
    rw [String.ofList_toList] at text
    rw [upperBytes, text]
    congr 1
    apply String.toList_inj.1
    rw [CaseMap.upperText, String.toList_map, String.toList_ofList]
  intro k
  have bytes := toUTF8_getElem?_ascii ascii k
  rw [String.ofList_toList] at bytes
  rw [← getElem?_eq_at, ← getElem?_eq_at, upper, toUTF8_getElem?_ascii upperAscii, bytes,
    List.getElem?_map]
  cases found : t.toList[k]? with
  | none => rfl
  | some c =>
    have small := ascii c (List.mem_of_getElem? found)
    simp only [Option.map_some, CaseMap.upper, if_pos small, upperByte_ascii small]

theorem splitPieces_ok {s upper op : ByteArray} (sameSize : upper.size = s.size) (ascii : Ascii s)
    {i : Nat} {quote : Option UInt8} {depth : Int} {last : Nat} {acc : Array ByteArray}
    (lastIn : last ≤ s.size) (done : ∀ p ∈ acc, Ascii p) :
    ∃ pieces, splitPieces s upper op i quote depth last acc = .ok pieces ∧ ∀ p ∈ pieces, Ascii p := by
  fun_induction splitPieces s upper op i quote depth last acc
  case case1 i depth last acc inside c q ih => exact ih lastIn done
  case case2 i depth last acc inside c isQuote ih => exact ih lastIn done
  case case3 i depth last acc inside c notQuote isOpen ih => exact ih lastIn done
  case case4 i depth last acc inside c notQuote notOpen isClose ih => exact ih lastIn done
  case case5 i depth last acc inside c notQuote notOpen notClose atLevel past => omega
  case case6 i depth last acc inside c notQuote notOpen notClose atLevel within found ih =>
    have fits : i + op.size ≤ upper.size := by
      simp only [bytesAt, Bool.and_eq_true, decide_eq_true_eq] at found
      exact found.1
    refine ih (by omega) fun p member => ?_
    rcases Array.mem_push.1 member with old | new
    · exact done p old
    · exact new ▸ (ascii.extract last i).trimBytes
  case case7 i depth last acc inside c notQuote notOpen notClose atLevel within notFound ih =>
    exact ih lastIn done
  case case8 i depth last acc inside c notQuote notOpen notClose deeper ih => exact ih lastIn done
  case case9 i depth last acc past beyond => omega
  case case10 i depth last acc past within =>
    refine ⟨_, rfl, fun p member => ?_⟩
    rcases Array.mem_push.1 member with old | new
    · exact done p old
    · exact new ▸ (ascii.extract last s.size).trimBytes

def faulted : Except ExpressionError Expression → Bool
  | .error (.fault _) => true
  | _ => false

theorem faulted_of_or_search {fuel : Nat} {b : ByteArray} (filled : (Space.trimBytes b).size ≠ 0)
    (search : (splitPieces (Space.trimBytes b) (upperBytes (Space.trimBytes b)) " OR ".toUTF8 0 none 0 0
      #[]).isOk = false) :
    faulted (readExpression (fuel + 1) b) = true := by
  rw [readExpression, if_neg filled]
  dsimp only
  cases found : splitPieces (Space.trimBytes b) (upperBytes (Space.trimBytes b)) " OR ".toUTF8 0 none 0 0 #[] with
  | error f => rfl
  | ok pieces =>
    rw [found] at search
    cases search

section Joining

variable {fuel : Nat} (reads : ∀ b, Ascii b → faulted (readExpression fuel b) = false)
  (join : Expression → Expression → Expression)
include reads

theorem joinRest_no_fault (acc : Expression) (pieces : List ByteArray) (ascii : ∀ p ∈ pieces, Ascii p) :
    faulted (joinRest fuel join acc pieces) = false := by
  induction pieces generalizing acc with
  | nil => rw [joinRest]; rfl
  | cons p ps ih =>
    rw [joinRest]
    have first := reads p (ascii p List.mem_cons_self)
    cases read : readExpression fuel p with
    | error e => rw [read] at first; exact first
    | ok e => exact ih _ fun q member => ascii q (List.mem_cons_of_mem p member)

theorem joinPieces_no_fault (pieces : List ByteArray) (ascii : ∀ p ∈ pieces, Ascii p) :
    faulted (joinPieces fuel join pieces) = false := by
  cases pieces with
  | nil => rw [joinPieces]; rfl
  | cons p ps =>
    rw [joinPieces]
    have first := reads p (ascii p List.mem_cons_self)
    cases read : readExpression fuel p with
    | error e => rw [read] at first; exact first
    | ok e => exact joinRest_no_fault reads join e ps fun q member => ascii q (List.mem_cons_of_mem p member)

end Joining

theorem readExpression_no_fault (fuel : Nat) : ∀ b, Ascii b → faulted (readExpression fuel b) = false := by
  induction fuel with
  | zero => intro b _; rw [readExpression]; rfl
  | succ fuel ih =>
    intro b ascii
    have trimmed := ascii.trimBytes
    have sameSize := size_upperBytes trimmed
    rw [readExpression]
    dsimp only
    by_cases empty : (Space.trimBytes b).size = 0
    · rw [if_pos empty]
      rfl
    rw [if_neg empty]
    obtain ⟨orPieces, orSplit, orAscii⟩ := @splitPieces_ok _ _ " OR ".toUTF8 sameSize trimmed 0 none 0 0 #[]
      (Nat.zero_le _) (by simp)
    rw [orSplit]
    dsimp only
    by_cases many : orPieces.size > 1
    · rw [if_pos many]
      exact joinPieces_no_fault ih _ _ fun p member => orAscii p (Array.mem_toList_iff.1 member)
    rw [if_neg many]
    obtain ⟨andPieces, andSplit, andAscii⟩ := @splitPieces_ok _ _ " AND ".toUTF8 sameSize trimmed 0 none 0 0 #[]
      (Nat.zero_le _) (by simp)
    rw [andSplit]
    dsimp only
    by_cases several : andPieces.size > 1
    · rw [if_pos several]
      exact joinPieces_no_fault ih _ _ fun p member => andAscii p (Array.mem_toList_iff.1 member)
    rw [if_neg several]
    split
    · exact ih _ (trimmed.extract _ _)
    · split <;> rfl

/-! ## Fuel

Reading a text takes one unit of fuel for each nesting level, and every text read again is
shorter than the one it came from: a piece between joining words leaves out at least the word,
and a text in parentheses leaves out the two. So fuel beyond the length of the text never runs
out, and the reader gives the same answer for every such fuel. -/

theorem size_trimBytes_le (b : ByteArray) : (Space.trimBytes b).size ≤ b.size := by
  rw [Space.trimBytes, ByteArray.size_extract]
  omega

theorem size_trim_extract_lt {s : ByteArray} {last i : Nat} (inside : i < s.size) :
    (Space.trimBytes (s.extract last i)).size < s.size :=
  Nat.lt_of_le_of_lt (size_trimBytes_le _) (by rw [ByteArray.size_extract]; omega)

theorem splitPieces_shorter {s upper op : ByteArray} (nonempty : 0 < op.size) {i : Nat}
    {quote : Option UInt8} {depth : Int} {last : Nat} {acc : Array ByteArray}
    (shorter : ∀ p ∈ acc, p.size < s.size) (started : acc.size = 0 ∨ 0 < last) :
    ∀ pieces, splitPieces s upper op i quote depth last acc = .ok pieces → 1 < pieces.size →
      ∀ p ∈ pieces, p.size < s.size := by
  fun_induction splitPieces s upper op i quote depth last acc
  case case1 i depth last acc inside c q ih => exact ih shorter started
  case case2 i depth last acc inside c isQuote ih => exact ih shorter started
  case case3 i depth last acc inside c notQuote isOpen ih => exact ih shorter started
  case case4 i depth last acc inside c notQuote notOpen isClose ih => exact ih shorter started
  case case5 => intro pieces failed; cases failed
  case case6 i depth last acc inside c notQuote notOpen notClose atLevel within found ih =>
    refine ih (fun p member => ?_) (.inr (by omega))
    rcases Array.mem_push.1 member with old | new
    · exact shorter p old
    · exact new ▸ size_trim_extract_lt inside
  case case7 i depth last acc inside c notQuote notOpen notClose atLevel within notFound ih =>
    exact ih shorter started
  case case8 i depth last acc inside c notQuote notOpen notClose deeper ih => exact ih shorter started
  case case9 => intro pieces failed; cases failed
  case case10 i depth last acc past within =>
    intro pieces done many p member
    cases done
    rw [Array.size_push] at many
    rcases Array.mem_push.1 member with old | new
    · exact shorter p old
    · -- a cut was made, so the last piece starts past the start of the text
      obtain ⟨q, earlier⟩ : ∃ q, q ∈ acc := ⟨acc[0], Array.getElem_mem (by omega)⟩
      have positive := shorter q earlier
      subst new
      refine Nat.lt_of_le_of_lt (size_trimBytes_le _) ?_
      rw [ByteArray.size_extract]
      omega

theorem splitPieces_start_shorter {s upper op : ByteArray} (nonempty : 0 < op.size)
    {pieces : Array ByteArray} (split : splitPieces s upper op 0 none 0 0 #[] = .ok pieces)
    (many : 1 < pieces.size) : ∀ p ∈ pieces.toList, p.size < s.size := fun p member =>
  splitPieces_shorter nonempty (by simp) (.inl rfl) pieces split many p (Array.mem_toList_iff.1 member)

section Joining

variable {n m : Nat} (join : Expression → Expression → Expression)

theorem joinRest_fuel_congr (acc : Expression) (pieces : List ByteArray)
    (same : ∀ p ∈ pieces, readExpression n p = readExpression m p) :
    joinRest n join acc pieces = joinRest m join acc pieces := by
  induction pieces generalizing acc with
  | nil => rw [joinRest, joinRest]
  | cons p ps ih =>
    rw [joinRest, joinRest, same p List.mem_cons_self]
    cases readExpression m p with
    | error e => rfl
    | ok e => exact ih _ fun q member => same q (List.mem_cons_of_mem p member)

theorem joinPieces_fuel_congr (pieces : List ByteArray)
    (same : ∀ p ∈ pieces, readExpression n p = readExpression m p) :
    joinPieces n join pieces = joinPieces m join pieces := by
  cases pieces with
  | nil => rw [joinPieces, joinPieces]
  | cons p ps =>
    rw [joinPieces, joinPieces, same p List.mem_cons_self]
    cases readExpression m p with
    | error e => rfl
    | ok e => exact joinRest_fuel_congr join e ps fun q member => same q (List.mem_cons_of_mem p member)

end Joining

theorem readExpression_fuel_congr : ∀ n m (b : ByteArray), b.size < n → b.size < m →
    readExpression n b = readExpression m b
  | 0, _, _, enough, _ => absurd enough (Nat.not_lt_zero _)
  | _, 0, _, _, enough => absurd enough (Nat.not_lt_zero _)
  | n + 1, m + 1, b, enoughN, enoughM => by
    have trimmed := size_trimBytes_le b
    -- every text read again is shorter than the trimmed text, so both fuels left cover it
    have again : ∀ p : ByteArray, p.size < (Space.trimBytes b).size →
        readExpression n p = readExpression m p := fun p shorter =>
      readExpression_fuel_congr n m p (by omega) (by omega)
    rw [readExpression, readExpression]
    dsimp only
    by_cases empty : (Space.trimBytes b).size = 0
    · rw [if_pos empty, if_pos empty]
    rw [if_neg empty, if_neg empty]
    cases orSplit : splitPieces (Space.trimBytes b) (upperBytes (Space.trimBytes b)) " OR ".toUTF8 0
        none 0 0 #[] with
    | error f => rfl
    | ok orPieces =>
      dsimp only
      by_cases many : orPieces.size > 1
      · rw [if_pos many, if_pos many]
        exact joinPieces_fuel_congr _ _ fun p member =>
          again p (splitPieces_start_shorter (by decide) orSplit many p member)
      rw [if_neg many, if_neg many]
      cases andSplit : splitPieces (Space.trimBytes b) (upperBytes (Space.trimBytes b)) " AND ".toUTF8
          0 none 0 0 #[] with
      | error f => rfl
      | ok andPieces =>
        dsimp only
        by_cases several : andPieces.size > 1
        · rw [if_pos several, if_pos several]
          exact joinPieces_fuel_congr _ _ fun p member =>
            again p (splitPieces_start_shorter (by decide) andSplit several p member)
        rw [if_neg several, if_neg several]
        split
        · exact again _ (by rw [ByteArray.size_extract]; omega)
        · rfl

theorem readExpression_fuel_irrelevant (text : String) {fuel : Nat} (enough : text.utf8ByteSize < fuel) :
    readExpression fuel text.toUTF8 = Expression.ofText text :=
  readExpression_fuel_congr fuel _ text.toUTF8 enough (Nat.lt_succ_self _)

/-- Reading an ASCII text never faults. -/
theorem ascii_reads_without_fault {text : String} (ascii : ∀ c ∈ text.toList, c.toNat < 128) :
    faulted (Expression.ofText text) = false := by
  refine readExpression_no_fault _ _ fun x member => ?_
  have bytes := toUTF8_ascii ascii
  rw [String.ofList_toList] at bytes
  rw [bytes] at member
  simp only [List.mem_map] at member
  obtain ⟨c, inText, rfl⟩ := member
  have small := ascii c inText
  rw [UInt8.lt_iff_toNat_lt, toUInt8_toNat_ascii small]
  exact small

end Query

end WikiDump

