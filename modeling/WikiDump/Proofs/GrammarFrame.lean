import WikiDump.Query.Grammar
/-!
# The deepest error is only a record

Besides the position of the next token, the cursor of the grammar engine carries the deepest
error seen so far and where it arose. That record only picks the message of a failed parse:
where each match ends and what it returns depend on the position alone. `Grammar.parseAt` is
the engine without the record, from a position, and `parse_frame` says the two agree on the
position reached and on the outcome. A successful parse can therefore be computed by
`parseAt` (`run_of_parseAt`).
-/

namespace WikiDump

namespace Query

def seqAt (p : Node → Nat → Nat × Outcome) (toks : Array Token) :
    Bool → List Node → Nat → Option (List Item) → Nat × Outcome
  | _, [], q, out => (q, .ok out)
  | first, n :: ns, q, out =>
    match p n q with
    | (q', .error e) => (q', .error e)
    | (q', .ok none) =>
      if first then (q', .ok none)
      else (q', .error (.unexpected (tokenAt toks q') (Node.ebnfList " " (n :: ns))))
    | (q', .ok (some items)) => seqAt p toks false ns q' (some (out.getD [] ++ items))

/-- `runAlt` from a position: a failed choice ends the alternative when it read past the
lookahead. -/
def altAt (p : Node → Nat → Nat × Outcome) (lookahead : Nat) :
    List Node → Nat → Nat → Option ParseError → Nat × Outcome
  | [], q, _, firstError =>
    match firstError with
    | some e => (q, .error e)
    | none => (q, .ok none)
  | n :: ns, q, reached, firstError =>
    match p n q with
    | (b, .error e) =>
      if b > q + lookahead then (b, .error e)
      else if b ≥ reached then altAt p lookahead ns q b (some e)
      else altAt p lookahead ns q reached firstError
    | (_, .ok none) => altAt p lookahead ns q reached firstError
    | (b, .ok (some items)) => (b, .ok (some items))

def repeatAt (p : Node → Nat → Nat × Outcome) (lookahead : Nat) (node : Node) :
    Nat → Nat → List Item → Nat × Outcome
  | 0, q, out => (q, .ok (some out))
  | remaining + 1, q, out =>
    match p node q with
    | (b, .error e) => if b > q + lookahead then (b, .error e) else (q, .ok (some out))
    | (b, .ok none) => (b, .ok (some out))
    | (b, .ok (some items)) => repeatAt p lookahead node remaining b (out ++ items)

/-- The grammar engine from a position, without the record of the deepest error. -/
def Grammar.parseAt (g : Grammar) (toks : Array Token) : Nat → Node → Nat → Nat × Outcome
  | 0, _, q => (q, .ok none)
  | fuel + 1, node, q =>
    match node with
    | .literal text =>
      let t := tokenAt toks q
      if t.matchesLiteral text then (q + 1, .ok (some [.token t])) else (q, .ok none)
    | .token kind =>
      let t := tokenAt toks q
      if t.kind == kind && kind != .eof then (q + 1, .ok (some [.token t])) else (q, .ok none)
    | .rule name =>
      match g.find? name with
      | none => (q, .ok none)
      | some r =>
        match parseAt g toks fuel r.body q with
        | (q', .error e) => (q', .error e)
        | (q', .ok none) => (q', .ok none)
        | (q', .ok (some items)) =>
          match conformError r (items.filter Item.isCapture) with
          | some e => (q', .error e)
          | none => (q', .ok (some [.node name (items.filter Item.isCapture)]))
    | .seq nodes => seqAt (parseAt g toks fuel) toks true nodes q none
    | .alt nodes => altAt (parseAt g toks fuel) g.lookahead nodes q 0 none
    | .optional n => repeatAt (parseAt g toks fuel) g.lookahead n 1 q []
    | .many n => repeatAt (parseAt g toks fuel) g.lookahead n (toks.size + 1) q []
    | .capture field n =>
      match parseAt g toks fuel n q with
      | (q', .error e) => (q', .error e)
      | (q', .ok none) => (q', .ok none)
      | (q', .ok (some items)) => (q', .ok (some [.captured field items]))

section Unfold

variable {g : Grammar} {toks : Array Token} {fuel q : Nat}

/-! One step of `parseAt` on each kind of node: a rule is looked up by name, so that evaluating
one rule leaves the rules it calls folded. -/

theorem Grammar.parseAt_literal (text : String) : g.parseAt toks (fuel + 1) (.literal text) q =
    if (tokenAt toks q).matchesLiteral text then (q + 1, .ok (some [.token (tokenAt toks q)]))
    else (q, .ok none) := rfl

theorem Grammar.parseAt_rule (name : String) :
    g.parseAt toks (fuel + 1) (.rule name) q =
      match g.find? name with
      | none => (q, .ok none)
      | some r =>
        match g.parseAt toks fuel r.body q with
        | (q', .error e) => (q', .error e)
        | (q', .ok none) => (q', .ok none)
        | (q', .ok (some items)) =>
          match conformError r (items.filter Item.isCapture) with
          | some e => (q', .error e)
          | none => (q', .ok (some [.node name (items.filter Item.isCapture)])) := rfl

theorem Grammar.parseAt_seq (nodes : List Node) :
    g.parseAt toks (fuel + 1) (.seq nodes) q = seqAt (g.parseAt toks fuel) toks true nodes q none := rfl

theorem Grammar.parseAt_alt (nodes : List Node) :
    g.parseAt toks (fuel + 1) (.alt nodes) q = altAt (g.parseAt toks fuel) g.lookahead nodes q 0 none := rfl

theorem Grammar.parseAt_optional (n : Node) :
    g.parseAt toks (fuel + 1) (.optional n) q = repeatAt (g.parseAt toks fuel) g.lookahead n 1 q [] := rfl

theorem Grammar.parseAt_many (n : Node) :
    g.parseAt toks (fuel + 1) (.many n) q =
      repeatAt (g.parseAt toks fuel) g.lookahead n (toks.size + 1) q [] := rfl

theorem Grammar.parseAt_capture (field : String) (n : Node) :
    g.parseAt toks (fuel + 1) (.capture field n) q =
      match g.parseAt toks fuel n q with
      | (q', .error e) => (q', .error e)
      | (q', .ok none) => (q', .ok none)
      | (q', .ok (some items)) => (q', .ok (some [.captured field items])) := rfl

end Unfold

/-- Token kinds compare as values. -/
@[simp] theorem TokenKind.beq_eq (a b : TokenKind) : (a == b) = decide (a = b) := by
  cases a <;> cases b <;> rfl

@[simp] theorem TokenKind.bne_eq (a b : TokenKind) : (a != b) = !decide (a = b) := by
  cases a <;> cases b <;> rfl

namespace Cursor

@[simp] theorem accept_pos (c branch : Cursor) : (c.accept branch).pos = branch.pos := by
  unfold accept
  split <;> rfl

@[simp] theorem note_pos (c : Cursor) (e : ParseError) : (c.note e).pos = c.pos := by
  unfold note
  split <;> rfl

theorem stop_pos (c branch : Cursor) (e : ParseError) (lookahead : Nat) :
    (c.stop e branch lookahead).2 = decide (branch.pos > c.pos + lookahead) ∧
      (c.stop e branch lookahead).1.pos =
        if branch.pos > c.pos + lookahead then branch.pos else c.pos := by
  unfold stop
  -- The record may change first; the position does not.
  have samePos : ∀ d : Cursor, d.pos = c.pos →
      ((if branch.pos > d.pos + lookahead then (d.accept branch, true) else (d, false)).2 =
          decide (branch.pos > c.pos + lookahead) ∧
        (if branch.pos > d.pos + lookahead then (d.accept branch, true) else (d, false)).1.pos =
          if branch.pos > c.pos + lookahead then branch.pos else c.pos) := by
    intro d same
    rw [same]
    by_cases far : branch.pos > c.pos + lookahead
    · simp [far]
    · simp [far, same]
  apply samePos
  split
  · rfl
  · split <;> rfl

end Cursor

section Frame

variable {p : Node → Cursor → Cursor × Outcome} {q : Node → Nat → Nat × Outcome}
  (frame : ∀ n c, ((p n c).1.pos, (p n c).2) = q n c.pos)
include frame

theorem runSeq_frame (toks : Array Token) (first : Bool) (nodes : List Node) (c : Cursor)
    (out : Option (List Item)) :
    ((runSeq p toks first nodes c out).1.pos, (runSeq p toks first nodes c out).2) =
      seqAt q toks first nodes c.pos out := by
  induction nodes generalizing first c out with
  | nil => rfl
  | cons n ns ih =>
      have step := frame n c
      rw [runSeq, seqAt, ← step]
      rcases p n c with ⟨c', _ | _ | items⟩
      · rfl
      · cases first <;> rfl
      · exact ih false c' _

theorem runAlt_frame (lookahead : Nat) (nodes : List Node) (c : Cursor) (reached : Nat)
    (firstError : Option ParseError) :
    ((runAlt p lookahead nodes c reached firstError).1.pos,
        (runAlt p lookahead nodes c reached firstError).2) =
      altAt q lookahead nodes c.pos reached firstError := by
  induction nodes generalizing c reached firstError with
  | nil =>
      cases firstError with
      | none => rfl
      | some e => simp [runAlt, altAt]
  | cons n ns ih =>
      have step := frame n c
      rw [runAlt, altAt, ← step]
      rcases p n c with ⟨branch, e | _ | items⟩
      · -- A failed choice: the alternative ends, or goes on from the same position.
        obtain ⟨stopped, moved⟩ := Cursor.stop_pos c branch e lookahead
        rcases stops : c.stop e branch lookahead with ⟨c', flag⟩
        dsimp only
        rw [stops] at stopped moved ⊢
        dsimp only at stopped moved ⊢
        by_cases far : branch.pos > c.pos + lookahead
        · rw [if_pos far] at moved
          simp [stopped, far, moved]
        · rw [if_neg far] at moved
          simp only [stopped, far, decide_false, Bool.false_eq_true, if_false]
          by_cases further : branch.pos ≥ reached
          · rw [if_pos further, if_pos further, ih c', moved]
          · rw [if_neg further, if_neg further, ih c', moved]
      · exact ih c reached firstError
      · simp

theorem runRepeat_frame (lookahead : Nat) (node : Node) (remaining : Nat) (c : Cursor)
    (out : List Item) :
    ((runRepeat p lookahead node remaining c out).1.pos,
        (runRepeat p lookahead node remaining c out).2) =
      repeatAt q lookahead node remaining c.pos out := by
  induction remaining generalizing c out with
  | zero => rfl
  | succ remaining ih =>
      have step := frame node c
      rw [runRepeat, repeatAt, ← step]
      rcases p node c with ⟨branch, e | _ | items⟩
      · obtain ⟨stopped, moved⟩ := Cursor.stop_pos c branch e lookahead
        rcases stops : c.stop e branch lookahead with ⟨c', flag⟩
        dsimp only
        rw [stops] at stopped moved ⊢
        dsimp only at stopped moved ⊢
        by_cases far : branch.pos > c.pos + lookahead
        · rw [if_pos far] at moved
          simp [stopped, far, moved]
        · rw [if_neg far] at moved
          simp [stopped, far, moved]
      · simp
      · rw [ih (c.accept branch), Cursor.accept_pos]

end Frame

/-- Where a parse ends and what it returns are those of the engine without the record of the
deepest error. -/
theorem parse_frame (g : Grammar) (toks : Array Token) (fuel : Nat) (node : Node) (c : Cursor) :
    ((g.parse toks fuel node c).1.pos, (g.parse toks fuel node c).2) = g.parseAt toks fuel node c.pos := by
  induction fuel generalizing node c with
  | zero => rfl
  | succ fuel ih =>
      cases node with
      | literal text =>
          simp only [Grammar.parse, Grammar.parseAt]
          split <;> rfl
      | token kind =>
          simp only [Grammar.parse, Grammar.parseAt]
          split <;> rfl
      | rule name =>
          simp only [Grammar.parse, Grammar.parseAt]
          rcases g.find? name with _ | r
          · rfl
          · have step := ih r.body c
            dsimp only
            rw [← step]
            rcases g.parse toks fuel r.body c with ⟨c', e | _ | items⟩
            · simp
            · rfl
            · dsimp only
              rcases conformError r (items.filter Item.isCapture) with _ | e <;> rfl
      | seq nodes => exact runSeq_frame (fun n c => ih n c) toks true nodes c none
      | alt nodes => exact runAlt_frame (fun n c => ih n c) g.lookahead nodes c 0 none
      | optional n => exact runRepeat_frame (fun n c => ih n c) g.lookahead n 1 c []
      | many n => exact runRepeat_frame (fun n c => ih n c) g.lookahead n (toks.size + 1) c []
      | capture field n =>
          simp only [Grammar.parse, Grammar.parseAt]
          have step := ih n c
          rw [← step]
          rcases g.parse toks fuel n c with ⟨c', e | _ | items⟩ <;> rfl

/-- A parse that `parseAt` sees match one item and stop at the end token succeeds with that
item. -/
theorem run_of_parseAt {g : Grammar} {root : String} {toks : Array Token} {q : Nat} {item : Item}
    (matched : g.parseAt toks ((toks.size + 1) * (g.rules.length + 1) * 16) (.rule root) 0 =
      (q, .ok (some [item])))
    (atEnd : (tokenAt toks q).kind = .eof) : g.run root toks = .ok item := by
  have agree := parse_frame g toks ((toks.size + 1) * (g.rules.length + 1) * 16) (.rule root) {pos := 0}
  rcases parsed : g.parse toks ((toks.size + 1) * (g.rules.length + 1) * 16) (.rule root) {pos := 0}
    with ⟨c, outcome⟩
  rw [parsed, matched, Prod.mk.injEq] at agree
  obtain ⟨rfl, rfl⟩ := agree
  unfold Grammar.run
  dsimp only
  rw [parsed]
  simp [atEnd]

end Query

end WikiDump

