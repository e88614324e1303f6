import WikiDump.Proofs.ScanBounds
/-!
# Readers see only what lies before where they stop

Every reader of the scanner looks at the bytes from where it starts up to where it stops, and
at most a byte or two past that. Two buffers that hold the same bytes below a position `m`
(`Agree u v m`) therefore give a reader the same answer whenever the answer, read in one of
them, stops early enough before `m`: the lemmas here say so for each reader, each with the
margin it needs (the byte at the stop, the lookahead of a comment opener or a doubled quote).
The relation is symmetric, so one lemma serves both directions: a reading of a cut buffer
carries over to the whole one, and a reading of the whole buffer that stops before the cut
carries over to the cut one.

A cut buffer `buf.extract 0 k` agrees with `buf` below `k` (`agree_extract`).
-/

namespace WikiDump

open Bytes

/-- Two buffers agree below `m`: each position before `m` holds the same byte in both, or lies
past the end of both. -/
def Agree (u v : ByteArray) (m : Nat) : Prop := ∀ i, i < m → at? u i = at? v i

/-- A buffer cut at `k` agrees with the whole buffer below `k`. -/
theorem agree_extract (buf : ByteArray) (k : Nat) : Agree (buf.extract 0 k) buf k := by
  intro i below
  unfold at?
  by_cases inBuffer : i < buf.size
  · have inCut : i < (buf.extract 0 k).size := by simp; omega
    rw [dif_pos inCut, dif_pos inBuffer, ByteArray.getElem_extract]
    simp
  · have pastCut : ¬ i < (buf.extract 0 k).size := by simp; omega
    rw [dif_neg pastCut, dif_neg inBuffer]

namespace Agree

variable {u v : ByteArray} {m : Nat}

theorem symm (agree : Agree u v m) : Agree v u m := fun i below => (agree i below).symm

theorem mono (agree : Agree u v m) {m' : Nat} (le : m' ≤ m) : Agree u v m' :=
  fun i below => agree i (Nat.lt_of_lt_of_le below le)

theorem lt_size_iff (agree : Agree u v m) {i : Nat} (below : i < m) :
    i < u.size ↔ i < v.size := by
  have same := agree i below
  unfold at? at same
  constructor
  · intro inU
    by_cases inV : i < v.size
    · exact inV
    · simp [inU, inV] at same
  · intro inV
    by_cases inU : i < u.size
    · exact inU
    · simp [inU, inV] at same

theorem getElem_eq (agree : Agree u v m) {i : Nat} (below : i < m) (inU : i < u.size)
    (inV : i < v.size) : u[i] = v[i] := by
  have same := agree i below
  unfold at? at same
  simpa [inU, inV] using same

theorem atIs_eq (agree : Agree u v m) {i : Nat} (below : i < m) (p : UInt8 → Bool) :
    atIs u i p = atIs v i p := by
  unfold atIs
  rw [agree i below]

theorem atEq_eq (agree : Agree u v m) {i : Nat} (below : i < m) (b : UInt8) :
    atEq u i b = atEq v i b :=
  agree.atIs_eq below _

theorem size_eq (agree : Agree u v m) (short : u.size < m) : u.size = v.size := by
  have notInV : ¬ u.size < v.size := fun inV =>
    Nat.lt_irrefl _ ((agree.lt_size_iff short).2 inV)
  have notPastV : ¬ v.size < u.size := fun inU =>
    Nat.lt_irrefl _ ((agree.lt_size_iff (Nat.lt_trans inU short)).1 inU)
  omega

theorem eq_of_size_lt (agree : Agree u v m) (short : u.size < m) : u = v := by
  have sizes := agree.size_eq short
  apply ByteArray.ext_getElem sizes
  intro i inU inV
  exact agree.getElem_eq (by omega) inU inV

theorem le_size_iff (agree : Agree u v m) {j : Nat} (upTo : j ≤ m) :
    j ≤ u.size ↔ j ≤ v.size := by
  by_cases shortU : u.size < j
  · rw [agree.size_eq (Nat.lt_of_lt_of_le shortU upTo)]
  · by_cases shortV : v.size < j
    · rw [agree.symm.size_eq (Nat.lt_of_lt_of_le shortV upTo)]
    · omega

theorem beq_size_eq (agree : Agree u v m) {j : Nat} (below : j < m) :
    (j == u.size) = (j == v.size) := by
  by_cases endU : j = u.size
  · rw [endU, agree.size_eq (by omega)]
  · by_cases endV : j = v.size
    · rw [endV, ← agree.symm.size_eq (by omega)]
    · rw [beq_false_of_ne endU, beq_false_of_ne endV]

theorem min_size_eq (agree : Agree u v m) {e : Nat} (upTo : e ≤ m) :
    min e u.size = min e v.size := by
  by_cases shortU : u.size < e
  · rw [agree.size_eq (Nat.lt_of_lt_of_le shortU upTo)]
  · by_cases shortV : v.size < e
    · rw [(agree.symm.size_eq (Nat.lt_of_lt_of_le shortV upTo))]
    · omega

theorem extract_eq (agree : Agree u v m) {b e : Nat} (upTo : e ≤ m) :
    u.extract b e = v.extract b e := by
  apply ByteArray.ext_getElem
  · simp only [ByteArray.size_extract, agree.min_size_eq upTo]
  · intro i inU inV
    simp only [ByteArray.size_extract] at inU inV
    rw [ByteArray.getElem_extract, ByteArray.getElem_extract]
    exact agree.getElem_eq (by omega) (by omega) (by omega)

end Agree

namespace Bytes

variable {u v : ByteArray} {m : Nat}

theorem getElem?_eq_at (buf : ByteArray) (i : Nat) : buf[i]? = at? buf i := by
  unfold at?
  split <;> simp_all

theorem at_of_atEq {buf : ByteArray} {i : Nat} {b : UInt8} (found : atEq buf i b = true) :
    at? buf i = some b := by
  unfold atEq atIs at found
  split at found
  · rename_i c present
    rw [present, eq_of_beq found]
  · cases found

theorem skipWhile_agree (agree : Agree u v m) (p : UInt8 → Bool) {i : Nat}
    (stops : skipWhile p u i < m) : skipWhile p v i = skipWhile p u i := by
  revert stops
  fun_induction skipWhile p u i with
  | case1 i inU holds ih =>
      intro stops
      have below : i < m := Nat.lt_of_lt_of_le (Nat.lt_succ_self i)
        (Nat.le_trans (le_skipWhile p u (i + 1)) (Nat.le_of_lt stops))
      have inV : i < v.size := (agree.lt_size_iff below).1 inU
      rw [skipWhile, dif_pos inV, ← agree.getElem_eq below inU inV, if_pos holds]
      exact ih stops
  | case2 i inU fails =>
      intro stops
      have inV : i < v.size := (agree.lt_size_iff stops).1 inU
      rw [skipWhile, dif_pos inV, ← agree.getElem_eq stops inU inV, if_neg fails]
  | case3 i pastU =>
      intro stops
      have pastV : ¬ i < v.size := fun inV => pastU ((agree.lt_size_iff stops).2 inV)
      rw [skipWhile, dif_neg pastV]

theorem matchWord_agree (agree : Agree u v m) {pos : Nat} {word : String}
    (fits : pos + word.toUTF8.size < m) : matchWord u pos word = matchWord v pos word := by
  unfold matchWord
  have sizes := agree.le_size_iff (Nat.le_of_lt fits)
  simp only [agree.atIs_eq fits]
  apply Bool.eq_iff_iff.2
  simp only [Bool.and_eq_true, decide_eq_true_eq, List.all_eq_true, List.mem_range, sizes]
  constructor
  · rintro ⟨⟨fitsV, matched⟩, boundary⟩
    refine ⟨⟨fitsV, fun k lt => ?_⟩, boundary⟩
    rw [← agree (pos + k) (by omega)]
    exact matched k lt
  · rintro ⟨⟨fitsV, matched⟩, boundary⟩
    refine ⟨⟨fitsV, fun k lt => ?_⟩, boundary⟩
    rw [agree (pos + k) (by omega)]
    exact matched k lt

theorem matchWord_at {buf : ByteArray} {pos : Nat} {word : String}
    (found : matchWord buf pos word = true) {k : Nat} (lt : k < word.toUTF8.size) :
    ∃ a b, at? buf (pos + k) = some a ∧ at? word.toUTF8 k = some b ∧ foldByte a = foldByte b := by
  unfold matchWord at found
  simp only [Bool.and_eq_true, decide_eq_true_eq, List.all_eq_true, List.mem_range] at found
  have letter := found.1.2 k lt
  split at letter
  · rename_i a b atBuf atWord
    exact ⟨a, b, atBuf, atWord, eq_of_beq letter⟩
  · cases letter

theorem matchWord_boundary {buf : ByteArray} {pos : Nat} {word : String}
    (found : matchWord buf pos word = true) :
    atIs buf (pos + word.toUTF8.size) isWordByte = false := by
  unfold matchWord at found
  simp only [Bool.and_eq_true, Bool.not_eq_true'] at found
  exact found.2

theorem isWordByte_of_foldByte {a : UInt8} (low : 0x61 ≤ foldByte a) (high : foldByte a ≤ 0x7A) :
    isWordByte a = true := by
  unfold isWordByte
  unfold foldByte at low high
  simp [low, high]

end Bytes

namespace Literal

variable {u v : ByteArray} {m : Nat}

theorem skipQuotedFrom_agree (agree : Agree u v m) {quote : UInt8} {i r : Nat}
    (closed : skipQuotedFrom u quote i = .ok r) (stops : r < m) :
    skipQuotedFrom v quote i = .ok r := by
  have below : i < m := Nat.lt_trans (skipQuotedFrom_gt closed) stops
  revert closed stops below
  fun_induction skipQuotedFrom u quote i with
  | case1 i inU c escape nextInU ih =>
      intro closed stops below
      have inV : i < v.size := (agree.lt_size_iff below).1 inU
      have after := skipQuotedFrom_gt closed
      have nextInV : i + 1 < v.size := (agree.lt_size_iff (by omega)).1 nextInU
      have escape : (u[i] == backslash && quote != backtick) = true := escape
      rw [skipQuotedFrom, dif_pos inV]
      simp only [← agree.getElem_eq below inU inV, escape, nextInV, if_true]
      exact ih closed stops (by omega)
  | case2 => intro closed; cases closed
  | case3 i inU c plain isQuote doubled ih =>
      intro closed stops below
      have inV : i < v.size := (agree.lt_size_iff below).1 inU
      have after := skipQuotedFrom_gt closed
      have plain : ¬ (u[i] == backslash && quote != backtick) = true := plain
      have isQuote : (u[i] == quote) = true := isQuote
      rw [skipQuotedFrom, dif_pos inV]
      simp only [← agree.getElem_eq below inU inV, plain, isQuote, if_true,
        ← agree.atEq_eq (show i + 1 < m by omega), doubled]
      exact ih closed stops (by omega)
  | case4 i inU c plain isQuote single =>
      intro closed stops below
      cases closed
      have inV : i < v.size := (agree.lt_size_iff below).1 inU
      have plain : ¬ (u[i] == backslash && quote != backtick) = true := plain
      have isQuote : (u[i] == quote) = true := isQuote
      rw [skipQuotedFrom, dif_pos inV]
      simp only [← agree.getElem_eq below inU inV, plain, isQuote, if_true,
        ← agree.atEq_eq stops, single, Bool.false_eq_true, if_false]
  | case5 i inU c plain other ih =>
      intro closed stops below
      have inV : i < v.size := (agree.lt_size_iff below).1 inU
      have after := skipQuotedFrom_gt closed
      have plain : ¬ (u[i] == backslash && quote != backtick) = true := plain
      have other : ¬ (u[i] == quote) = true := other
      rw [skipQuotedFrom, dif_pos inV]
      simp only [← agree.getElem_eq below inU inV, plain, other]
      exact ih closed stops (by omega)
  | case6 => intro closed; cases closed

theorem skipQuoted_agree (agree : Agree u v m) {i r : Nat} (closed : skipQuoted u i = .ok r)
    (stops : r < m) : skipQuoted v i = .ok r := by
  unfold skipQuoted at closed ⊢
  have below : i < m := Nat.lt_trans (skipQuoted_bounds closed).1 stops
  rw [← agree i below]
  split at closed
  · exact skipQuotedFrom_agree agree closed stops
  · cases closed

end Literal

namespace Statement

variable {u v : ByteArray} {m : Nat}

/-- The byte at `i`, if there is one, is neither `-` nor `/`: whether a comment opens there is
read from that byte alone. -/
def PlainAt (buf : ByteArray) (i : Nat) : Prop := ∀ c, at? buf i = some c → c ≠ minus ∧ c ≠ slash

theorem PlainAt.of_atEq {buf : ByteArray} {i : Nat} {b : UInt8} (found : atEq buf i b = true)
    (notDash : b ≠ minus) (notSlash : b ≠ slash) : PlainAt buf i := by
  intro c present
  rw [at_of_atEq found] at present
  cases present
  exact ⟨notDash, notSlash⟩

theorem le_skipLine (buf : ByteArray) {i : Nat} (inside : i ≤ buf.size) : i ≤ skipLine buf i := by
  by_cases inBuffer : i < buf.size
  · exact Nat.le_of_lt (skipLine_bounds buf i inBuffer).1
  · unfold skipLine
    rw [dif_neg inBuffer]
    exact inside

theorem skipLine_of_at {buf : ByteArray} {i : Nat} {c : UInt8} (present : at? buf i = some c)
    (other : c ≠ newline) : skipLine buf i = skipLine buf (i + 1) := by
  have inBuffer := lt_size_of_at present
  have byte : buf[i] = c := by
    unfold at? at present
    simpa [inBuffer] using present
  rw [skipLine, dif_pos inBuffer, byte, if_neg (by simpa using other)]

theorem skipLine_agree (agree : Agree u v m) {i : Nat} (stops : skipLine u i < m) :
    skipLine v i = skipLine u i := by
  revert stops
  fun_induction skipLine u i with
  | case1 i inU isNewline =>
      intro stops
      have inV : i < v.size := (agree.lt_size_iff (by omega)).1 inU
      rw [skipLine, dif_pos inV, ← agree.getElem_eq (by omega) inU inV, if_pos isNewline]
  | case2 i inU other ih =>
      intro stops
      have below : i < m :=
        Nat.lt_of_lt_of_le (Nat.lt_succ_self i) (Nat.le_trans (le_skipLine u inU) (Nat.le_of_lt stops))
      have inV : i < v.size := (agree.lt_size_iff below).1 inU
      rw [skipLine, dif_pos inV, ← agree.getElem_eq below inU inV, if_neg other]
      exact ih stops
  | case3 i pastU =>
      intro stops
      rw [← agree.eq_of_size_lt stops, skipLine, dif_neg pastU]

theorem closeComment_agree (agree : Agree u v m) {i r : Nat} (closed : closeComment u i = some r)
    (stops : r ≤ m) : closeComment v i = some r := by
  revert closed stops
  fun_induction closeComment u i with
  | case1 i nextInU found =>
      intro closed stops
      cases closed
      have nextInV : i + 1 < v.size := (agree.lt_size_iff (by omega)).1 nextInU
      simp only [getElem?_eq_at] at found
      rw [closeComment, dif_pos nextInV]
      simp only [getElem?_eq_at, ← agree i (by omega), ← agree (i + 1) (by omega), found, if_true]
  | case2 i nextInU other ih =>
      intro closed stops
      have after := (closeComment_bounds closed).1
      have nextInV : i + 1 < v.size := (agree.lt_size_iff (by omega)).1 nextInU
      simp only [getElem?_eq_at] at other
      rw [closeComment, dif_pos nextInV]
      simp only [getElem?_eq_at, ← agree i (by omega), ← agree (i + 1) (by omega), other]
      exact ih closed stops
  | case3 => intro closed; cases closed

theorem commentEnd_some_agree (agree : Agree u v m) {i r : Nat}
    (found : commentEnd u i = .ok (some r)) (stops : r < m) : commentEnd v i = .ok (some r) := by
  by_cases whole : u.size < m
  · rw [← agree.eq_of_size_lt whole]
    exact found
  have bounds := commentEnd_bounds found
  unfold commentEnd at found ⊢
  rw [← agree i (by omega)]
  cases byte : at? u i with
  | none => simp [byte] at found
  | some c =>
      simp only [byte] at found ⊢
      by_cases isHash : (c == hash) = true
      · simp only [isHash, if_true, Except.ok.injEq, Option.some.injEq] at found ⊢
        rw [← found]
        exact skipLine_agree agree (by omega)
      simp only [isHash, Bool.false_eq_true, if_false] at found ⊢
      by_cases dash : c = minus
      · subst dash
        simp only [beq_self_eq_true, Bool.true_and, show (minus == slash) = false by decide,
          Bool.false_and, Bool.false_eq_true, if_false] at found ⊢
        split at found
        · rename_i dashes
          simp only [Except.ok.injEq, Option.some.injEq] at found
          have second : atEq u (i + 1) minus = true := by
            simp only [Bool.and_eq_true] at dashes
            exact dashes.1
          -- The line runs on over both dashes, so it ends at `i + 2` or later.
          have secondByte := at_of_atEq second
          have far : i + 2 ≤ skipLine u i := by
            rw [skipLine_of_at byte (by decide), skipLine_of_at secondByte (by decide)]
            exact le_skipLine u (lt_size_of_at secondByte)
          have lookahead : i + 2 < m := by omega
          rw [← agree.atEq_eq (show i + 1 < m by omega), ← agree.atIs_eq lookahead,
            ← agree.beq_size_eq lookahead, if_pos dashes, ← found,
            skipLine_agree agree (by omega)]
        · cases found
      · by_cases isSlash : c = slash
        · subst isSlash
          simp only [show (slash == minus) = false by decide, Bool.false_and, Bool.false_eq_true,
            if_false, beq_self_eq_true, Bool.true_and] at found ⊢
          split at found
          · rename_i starred
            split at found
            · rename_i j closed
              simp only [Except.ok.injEq, Option.some.injEq] at found
              subst found
              have far := (closeComment_bounds closed).1
              rw [← agree.atEq_eq (show i + 1 < m by omega), if_pos starred,
                closeComment_agree agree closed (by omega)]
            · cases found
          · cases found
        · simp [dash, isSlash] at found

theorem commentEnd_none_agree (agree : Agree u v m) {i : Nat}
    (absent : commentEnd u i = .ok none) (seen : i + 1 < m)
    (lookahead : atEq u (i + 1) minus = true → i + 2 < m) : commentEnd v i = .ok none := by
  unfold commentEnd at absent ⊢
  rw [← agree i (by omega), ← agree.atEq_eq seen, ← agree.atEq_eq seen]
  cases byte : at? u i with
  | none => rfl
  | some c =>
      simp only [byte] at absent ⊢
      split at absent
      · cases absent
      rename_i notHash
      split at absent
      · cases absent
      rename_i noDashes
      split at absent
      · rename_i slashes
        split at absent <;> cases absent
      rename_i noSlash
      -- The third test of the dashes only matters after a second dash, where it lies before `m`.
      have noDashesV : ¬ (c == minus && atEq u (i + 1) minus &&
          (i + 2 == v.size || atIs v (i + 2) isSpace)) = true := by
        by_cases second : atEq u (i + 1) minus = true
        · rwa [← agree.atIs_eq (lookahead second), ← agree.beq_size_eq (lookahead second)]
        · simp [second]
      rw [if_neg notHash, if_neg noDashesV, if_neg noSlash]

theorem commentEnd_none_of_plain (agree : Agree u v m) {i : Nat}
    (absent : commentEnd u i = .ok none) (seen : i < m)
    (plain : PlainAt u i) : commentEnd v i = .ok none := by
  unfold commentEnd at absent ⊢
  rw [← agree i seen]
  cases byte : at? u i with
  | none => rfl
  | some c =>
      obtain ⟨notDash, notSlash⟩ := plain c byte
      simp only [byte] at absent ⊢
      split at absent
      · cases absent
      rename_i notHash
      simp only [notHash, beq_false_of_ne notDash, beq_false_of_ne notSlash, Bool.false_and,
        Bool.false_eq_true, if_false]

theorem skipTrivia_agree (agree : Agree u v m) {i r : Nat} (skipped : skipTrivia u i = .ok r)
    (stops : r < m) (plain : PlainAt u r) : skipTrivia v i = .ok r := by
  revert skipped stops plain
  fun_induction skipTrivia u i with
  | case1 => intro skipped; cases skipped
  | case2 i j inU absent =>
      intro skipped stops plain
      obtain rfl : j = r := Except.ok.inj skipped
      have space : skipSpace v i = j := skipWhile_agree agree isSpace stops
      have inV : j < v.size := (agree.lt_size_iff stops).1 inU
      have absentV := commentEnd_none_of_plain agree absent stops plain
      rw [skipTrivia]
      simp only [space]
      rw [dif_pos inV]
      split
      · rename_i e failed
        rw [space, absentV] at failed
        cases failed
      · rfl
      · rename_i k found
        rw [space, absentV] at found
        cases found
  | case3 i j inU k found _ _ _ ih =>
      intro skipped stops plain
      have rest := ih skipped stops plain
      have far := skipTrivia_ge skipped
      have bounds := commentEnd_bounds found
      have jBelow : j < m := by omega
      have space : skipSpace v i = j := skipWhile_agree agree isSpace jBelow
      have inV : j < v.size := (agree.lt_size_iff jBelow).1 inU
      have foundV := commentEnd_some_agree agree found (by omega)
      rw [skipTrivia]
      simp only [space]
      rw [dif_pos inV]
      split
      · rename_i e failed
        rw [space, foundV] at failed
        cases failed
      · rename_i absent
        rw [space, foundV] at absent
        cases absent
      · rename_i k' found'
        rw [space, foundV] at found'
        cases found'
        exact rest
  | case4 i j pastU =>
      intro skipped stops _
      obtain rfl : j = r := Except.ok.inj skipped
      rw [← agree.eq_of_size_lt (show u.size < m by omega), skipTrivia]
      simp only
      rw [dif_neg pastU]

theorem skipStatement_far {buf : ByteArray} {i r : Nat} (ended : skipStatement buf i = .ok r)
    (other : at? buf i ≠ some semicolon) : i + 1 < r := by
  -- Past any byte but a `;` the statement goes on, and ends after where it goes on from.
  revert ended
  fun_cases skipStatement buf i with
  | case1 inBuffer isSemicolon =>
      intro _
      have byte : at? buf i = some buf[i] := by unfold at?; rw [dif_pos inBuffer]
      exact absurd (by rw [byte, eq_of_beq isSemicolon]) other
  | case2 _ _ _ next closed =>
      intro ended
      have := (Literal.skipQuoted_bounds closed).1
      have := (skipStatement_bounds ended).1
      omega
  | case3 => intro ended; cases ended
  | case4 => intro ended; cases ended
  | case5 => intro ended; exact (skipStatement_bounds ended).1
  | case6 _ _ _ _ next found =>
      intro ended
      have := (commentEnd_bounds found).1
      have := (skipStatement_bounds ended).1
      omega
  | case7 => intro ended; exact (skipStatement_bounds ended).1
  | case8 => intro ended; cases ended

theorem skipStatement_agree (agree : Agree u v m) {i r : Nat}
    (ended : skipStatement u i = .ok r) (stops : r ≤ m) : skipStatement v i = .ok r := by
  have below : i < m := Nat.lt_of_lt_of_le (skipStatement_bounds ended).1 stops
  revert ended stops below
  fun_induction skipStatement u i with
  | case1 i inU isSemicolon =>
      intro ended stops below
      cases ended
      have inV : i < v.size := (agree.lt_size_iff below).1 inU
      rw [skipStatement, dif_pos inV, ← agree.getElem_eq below inU inV, if_pos isSemicolon]
  | case2 i inU notSemicolon isQuote next closed _ ih =>
      intro ended stops below
      have inV : i < v.size := (agree.lt_size_iff below).1 inU
      have far := (skipStatement_bounds ended).1
      have same := agree.getElem_eq below inU inV
      rw [skipStatement_at_quote inV (same ▸ notSemicolon) (same ▸ isQuote),
        Literal.skipQuoted_agree agree closed (by omega)]
      exact ih ended stops (by omega)
  | case3 => intro ended; cases ended
  | case4 => intro ended; cases ended
  | case5 i inU notSemicolon notQuote isOpener absent ih =>
      intro ended stops below
      have inV : i < v.size := (agree.lt_size_iff below).1 inU
      have far := (skipStatement_bounds ended).1
      -- After a second dash the statement goes on past it, so the third byte lies before `m`.
      have absentV := commentEnd_none_agree agree absent (by omega) fun second => by
        have := skipStatement_far ended (by rw [at_of_atEq second]; decide)
        omega
      have same := agree.getElem_eq below inU inV
      rw [skipStatement_at_opener inV (same ▸ notSemicolon) (same ▸ notQuote) (same ▸ isOpener),
        absentV]
      exact ih ended stops (by omega)
  | case6 i inU notSemicolon notQuote isOpener next found _ ih =>
      intro ended stops below
      have inV : i < v.size := (agree.lt_size_iff below).1 inU
      have far := (skipStatement_bounds ended).1
      have same := agree.getElem_eq below inU inV
      rw [skipStatement_at_opener inV (same ▸ notSemicolon) (same ▸ notQuote) (same ▸ isOpener),
        commentEnd_some_agree agree found (by omega)]
      exact ih ended stops (by omega)
  | case7 i inU notSemicolon notQuote notOpener ih =>
      intro ended stops below
      have inV : i < v.size := (agree.lt_size_iff below).1 inU
      have far := (skipStatement_bounds ended).1
      rw [skipStatement, dif_pos inV, ← agree.getElem_eq below inU inV, if_neg notSemicolon,
        if_neg notQuote, if_neg notOpener]
      exact ih ended stops (by omega)
  | case8 => intro ended; cases ended

theorem skipParens_gt {buf : ByteArray} {i j : Nat} {depth : Int}
    (closed : skipParens buf i depth = .ok j) : i < j := by
  revert closed
  fun_induction skipParens buf i depth with
  | case1 i _ _ _ ih => intro closed; have := ih closed; omega
  | case2 => intro closed; cases closed; omega
  | case3 i _ _ _ _ _ ih => intro closed; have := ih closed; omega
  | case4 i depth _ _ _ _ next quoted _ ih =>
      intro closed
      have := (Literal.skipQuoted_bounds quoted).1
      have := ih closed
      omega
  | case5 => intro closed; cases closed
  | case6 i _ _ _ _ _ ih => intro closed; have := ih closed; omega
  | case7 => intro closed; cases closed

theorem skipParens_agree (agree : Agree u v m) {i r : Nat} {depth : Int}
    (closed : skipParens u i depth = .ok r) (stops : r ≤ m) : skipParens v i depth = .ok r := by
  revert closed stops
  fun_induction skipParens u i depth with
  | case1 i depth inU isOpen ih =>
      intro closed stops
      have far := skipParens_ge closed
      have inV : i < v.size := (agree.lt_size_iff (by omega)).1 inU
      rw [skipParens, dif_pos inV, ← agree.getElem_eq (by omega) inU inV, if_pos isOpen]
      exact ih closed stops
  | case2 i depth inU notOpen isClose closes =>
      intro closed stops
      cases closed
      have inV : i < v.size := (agree.lt_size_iff (by omega)).1 inU
      rw [skipParens, dif_pos inV, ← agree.getElem_eq (by omega) inU inV, if_neg notOpen,
        if_pos isClose, if_pos closes]
  | case3 i depth inU notOpen isClose open_ ih =>
      intro closed stops
      have far := skipParens_ge closed
      have inV : i < v.size := (agree.lt_size_iff (by omega)).1 inU
      rw [skipParens, dif_pos inV, ← agree.getElem_eq (by omega) inU inV, if_neg notOpen,
        if_pos isClose, if_neg open_]
      exact ih closed stops
  | case4 i depth inU notOpen notClose isQuote next quoted _ ih =>
      intro closed stops
      have far := skipParens_gt closed
      have inside := (Literal.skipQuoted_bounds quoted).1
      have inV : i < v.size := (agree.lt_size_iff (by omega)).1 inU
      have same := agree.getElem_eq (by omega) inU inV
      rw [skipParens_at_quote inV (same ▸ notOpen) (same ▸ notClose) (same ▸ isQuote),
        Literal.skipQuoted_agree agree quoted (by omega)]
      exact ih closed stops
  | case5 => intro closed; cases closed
  | case6 i depth inU notOpen notClose notQuote ih =>
      intro closed stops
      have far := skipParens_ge closed
      have inV : i < v.size := (agree.lt_size_iff (by omega)).1 inU
      rw [skipParens, dif_pos inV, ← agree.getElem_eq (by omega) inU inV, if_neg notOpen,
        if_neg notClose, if_neg notQuote]
      exact ih closed stops
  | case7 => intro closed; cases closed

theorem matchWord_values_of_value {buf : ByteArray} {i : Nat}
    (singular : matchWord buf i "VALUE" = true) : matchWord buf i "VALUES" = false := by
  cases plural : matchWord buf i "VALUES"
  · rfl
  · obtain ⟨a, b, atBuf, atWord, same⟩ := matchWord_at plural (k := 5) (by decide)
    have sixth : at? "VALUES".toUTF8 5 = some 0x53 := by decide
    rw [sixth, Option.some.injEq] at atWord
    subst atWord
    have word : isWordByte a = true :=
      isWordByte_of_foldByte (by rw [same]; decide) (by rw [same]; decide)
    have boundary := matchWord_boundary singular
    rw [show "VALUE".toUTF8.size = 5 by decide] at boundary
    unfold atIs at boundary
    simp [atBuf, word] at boundary

theorem keywordAt_plain {buf : ByteArray} {c k : Nat} (keyword : keywordAt buf c = .ok k) :
    PlainAt buf c := by
  have initial : ∀ word : String, matchWord buf c word = true →
      at? word.toUTF8 0 = some 0x56 → PlainAt buf c := by
    intro word found first
    obtain ⟨a, b, atBuf, atWord, same⟩ := matchWord_at found (k := 0) (lt_size_of_at first)
    rw [first, Option.some.injEq] at atWord
    subst atWord
    intro x present
    rw [Nat.add_zero, present, Option.some.injEq] at atBuf
    subst atBuf
    constructor
    · intro dash
      subst dash
      revert same
      decide
    · intro isSlash
      subst isSlash
      revert same
      decide
  unfold keywordAt at keyword
  split at keyword
  · cases keyword
  · split at keyword
    · exact initial "VALUES" ‹_› (by decide)
    · split at keyword
      · exact initial "VALUE" ‹_› (by decide)
      · cases keyword

theorem keywordAt_agree (agree : Agree u v m) {c k : Nat} (keyword : keywordAt u c = .ok k)
    (stops : k < m) : keywordAt v c = .ok k := by
  have advanced := keywordAt_gt keyword
  unfold keywordAt at keyword ⊢
  split at keyword
  · cases keyword
  rename_i inU
  have inV : ¬ c ≥ v.size := by
    have := (agree.lt_size_iff (show c < m by omega)).1 (by omega)
    omega
  rw [if_neg inV]
  split at keyword
  · rename_i plural
    cases keyword
    rw [← matchWord_agree agree (by rw [show "VALUES".toUTF8.size = 6 by decide]; omega),
      if_pos plural]
  · split at keyword
    · rename_i plural singular
      cases keyword
      have singularV : matchWord v c "VALUE" = true := by
        rw [← matchWord_agree agree (by rw [show "VALUE".toUTF8.size = 5 by decide]; omega)]
        exact singular
      rw [matchWord_values_of_value singularV, if_pos singularV]
      rfl
    · cases keyword

theorem columnsEnd_agree (agree : Agree u v m) {j c : Nat} (columns : columnsEnd u j = .ok c)
    (stops : c < m) (plain : PlainAt u c) : columnsEnd v j = .ok c := by
  have below : j < m := Nat.lt_of_le_of_lt (columnsEnd_ge columns) stops
  unfold columnsEnd at columns ⊢
  rw [← agree.atEq_eq below]
  split at columns
  · rename_i listed
    obtain ⟨p, closed, trivia⟩ := bind_eq_ok.1 columns
    have far := skipTrivia_ge trivia
    rw [if_pos listed, skipParens_agree agree closed (by omega)]
    exact skipTrivia_agree agree trivia stops plain
  · rename_i bare
    rw [if_neg bare]
    exact columns

theorem valuesClause_agree (agree : Agree u v m) {i body : Nat}
    (entered : valuesClause u i = .ok body) (stops : body < m) :
    valuesClause v i = .ok body := by
  obtain ⟨j, c, k, first, columns, keyword, trivia, inBuffer, paren⟩ :=
    valuesClause_eq_ok.1 entered
  have ordered := columnsEnd_ge columns
  have advanced := keywordAt_gt keyword
  have last := skipTrivia_ge trivia
  have plainKeyword := keywordAt_plain keyword
  -- The trivia before the columns end at a `(` or, with no column list, at the keyword.
  have plainColumns : PlainAt u j := by
    by_cases listed : atEq u j openParen = true
    · exact PlainAt.of_atEq listed (by decide) (by decide)
    · have bare : c = j := by
        unfold columnsEnd at columns
        rw [if_neg listed] at columns
        exact (Except.ok.inj columns).symm
      rw [← bare]
      exact plainKeyword
  exact valuesClause_eq_ok.2 ⟨j, c, k,
    skipTrivia_agree agree first (by omega) plainColumns,
    columnsEnd_agree agree columns (by omega) plainKeyword,
    keywordAt_agree agree keyword (by omega),
    skipTrivia_agree agree trivia stops (PlainAt.of_atEq paren (by decide) (by decide)),
    (agree.lt_size_iff stops).1 inBuffer, by rwa [← agree.atEq_eq stops]⟩

end Statement

end WikiDump

