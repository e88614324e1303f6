/-!
# Edit distance

The edit distance of two sequences is the least number of insertions, deletions and
substitutions of one element that turn the first into the second. It is computed row by row:
row `i` holds the distances from the first `i` elements of the first sequence to every prefix
of the second.
-/

namespace WikiDump.EditDistance

/-- The distances to every prefix of `t` from one more element `a`, given the row before it and
the distance `first` of the new prefix to the empty sequence. -/
def nextRow {α : Type} [BEq α] (a : α) (t : List α) (prev : List Nat) (first : Nat) : List Nat :=
  let rec go : List α → List Nat → Nat → List Nat
    | b :: bs, diag :: up :: rest, left =>
      let d := if a == b then diag else min (min up left) diag + 1
      d :: go bs (up :: rest) d
    | _, _, _ => []
  first :: go t prev first

def distance {α : Type} [BEq α] (s t : List α) : Nat :=
  let last := s.zipIdx.foldl (fun prev (a, i) => nextRow a t prev (i + 1)) (List.range (t.length + 1))
  last.getLastD 0

end WikiDump.EditDistance

