import WikiDump.Dump.Scan
/-!
# Splitting a dump into regions

To scan a dump in parallel it is cut into consecutive regions at statement ends. Walking the
statements from the start, a region is closed after the first statement that makes it at
least `size / parts` bytes long, as long as fewer than `parts - 1` regions are closed; the rest
of the buffer is the last region. So the regions cover the buffer in order, each inner boundary
is the end of a statement, and there are at most `parts` of them.
-/

namespace WikiDump

namespace Statement

theorem next_stop_bounds {buf : ByteArray} {pos : Nat} {st : Statement}
    (h : next buf pos = .ok (some st)) : pos < st.stop ∧ st.stop ≤ buf.size := by
  revert h
  fun_induction next buf pos with
  | case1 => intro h; simp_all
  | case2 pos i htriv hi _ _ ih =>
    intro h; have := ih h; have := skipTrivia_ge htriv; omega
  | case3 => intro h; simp_all
  | case4 pos i htriv hi _ _ kind table body _ e _ => intro h; simp_all
  | case5 pos i htriv hi _ _ kind table body _ stop hs =>
    intro h
    have := skipStatement_bounds hs
    have := skipTrivia_ge htriv
    simp only [Except.ok.injEq, Option.some.injEq] at h
    subst h
    simp only
    omega
  | case6 => intro h; simp_all

/-- The statements from `pos` on, in order, and the error that stopped the walk, if any. -/
def allFrom (buf : ByteArray) (pos : Nat) : List Statement × Option ScanError :=
  match h : next buf pos with
  | .error e => ([], some e)
  | .ok none => ([], none)
  | .ok (some st) =>
    have := next_stop_bounds h
    let (rest, err) := allFrom buf st.stop
    (st :: rest, err)
termination_by buf.size - pos

end Statement

namespace Region

/-- Walks the statements from `pos`, closing a region at a statement end once the open region,
begun at `start`, reaches `target` bytes and fewer than `parts - 1` regions are closed. -/
def splitFrom (buf : ByteArray) (parts : Nat) (target : Nat) (start pos : Nat)
    (closed : Array Region) : Except ScanError (Array Region) :=
  match h : Statement.next buf pos with
  | .error e => .error e
  | .ok none =>
    if start < buf.size || closed.isEmpty then .ok (closed.push ⟨start, buf.size⟩) else .ok closed
  | .ok (some st) =>
    have := Statement.next_stop_bounds h
    if st.stop - start ≥ target && closed.size < parts - 1 then
      splitFrom buf parts target st.stop st.stop (closed.push ⟨start, st.stop⟩)
    else splitFrom buf parts target start st.stop closed
termination_by buf.size - pos

/-- The regions of a buffer for `parts` parallel scans. -/
def split (buf : ByteArray) (parts : Int) : Except ScanError (List Region) :=
  if parts ≤ 1 || buf.size = 0 then .ok [whole buf]
  else
    let n := parts.toNat
    (splitFrom buf n (buf.size / n) 0 0 #[]).map Array.toList

end Region

end WikiDump

