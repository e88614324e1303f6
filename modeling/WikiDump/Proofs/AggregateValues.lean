import WikiDump.Proofs.Grouping
/-!
# What the aggregates compute

Each aggregate folds its accumulator over the values its path takes in a group's rows
(`Engine.valuesAt`, `Engine.Group.row_foldl_add`). This module says what every fold yields, over
every list of values:

* COUNT counts the values that are not NULL, as a count;
* SUM is a 64-bit integer while every value that counts as a number is one: their exact sum,
  wrapped into 64 bits. Otherwise it is the sum of the numbers as doubles, added left to right,
  booleans counting as 1 and 0; so SUM over counts, such as a subquery's COUNT column, is a
  double;
* AVG is NULL when no value is a number, else the double sum of the numbers over their count;
* MAX and MIN keep a value over one it beats. The result is NULL when every value is NULL, else
  one of the values. When `orderLess` is a strict weak order on the values, no value beats the
  result; when that order also tells any two values apart, as it does on texts, the result does
  not depend on the order of the values (`Engine.Extreme`).

Numbers compare as doubles, so integers beyond `2 ^ 53` that round to one double are tied: MAX
and MIN then keep the one met first, and the order of the rows decides
(`Engine.integer_aggregates_inexact`).

Without GROUP BY, all rows form one group, and over no rows that group still yields its row:
COUNT and SUM 0, and NULL for MAX, MIN, AVG and anything else (`Engine.global_aggregates`).
-/

namespace WikiDump

def Variant.int? : Variant → Option Int64
  | .int n => some n
  | _ => none

namespace Engine

open Query

theorem orderNumber_of_int {v : Variant} {n : Int64} (h : v.int? = some n) :
    orderNumber? v = some (Binary64.ofInt n.toInt) := by
  cases v <;> cases h
  rfl

def allIntegers (vs : List Variant) : Bool :=
  vs.all fun v => (orderNumber? v).isNone || v.int?.isSome

theorem toInt_foldl_add (ns : List Int64) {w : Int64} {a : Int}
    (same : a.bmod 18446744073709551616 = w.toInt) :
    (ns.foldl (· + ·) w).toInt =
      (ns.foldl (fun acc n => acc + n.toInt) a).bmod 18446744073709551616 := by
  induction ns generalizing w a with
  | nil => exact same.symm
  | cons n rest ih =>
    refine ih ?_
    rw [Int64.toInt_add, ← same]
    simp only [Nat.reducePow, Int.bmod_add_bmod]

/-! ## One value at a time -/

def keepBest (beats : Variant → Variant → Bool) (best : Option Variant) (v : Variant) :
    Option Variant :=
  if v.isNull then best else if best.all (beats v) then some v else best

namespace Accumulator

theorem add_max (best : Option Variant) (v : Variant) :
    (Accumulator.max best).add v = .max (keepBest orderGreater best v) := by
  cases best with
  | none => by_cases null : v.isNull <;> simp [add, keepBest, null]
  | some b =>
    by_cases null : v.isNull <;> by_cases wins : orderGreater v b <;>
      simp [add, keepBest, null, wins]

theorem add_min (best : Option Variant) (v : Variant) :
    (Accumulator.min best).add v = .min (keepBest orderLess best v) := by
  cases best with
  | none => by_cases null : v.isNull <;> simp [add, keepBest, null]
  | some b =>
    by_cases null : v.isNull <;> by_cases wins : orderLess v b <;>
      simp [add, keepBest, null, wins]

theorem add_avg (s : Float) (n : Nat) (v : Variant) :
    (Accumulator.avg s n).add v = (orderNumber? v).elim (.avg s n) fun x => .avg (s + x) (n + 1) := by
  simp only [add]
  cases orderNumber? v <;> rfl

theorem add_sum (t : Float) (w : Int64) (i : Bool) (v : Variant) :
    (Accumulator.sum t w i).add v =
      .sum ((orderNumber? v).elim t (t + ·)) (if i then v.int?.elim w (w + ·) else w)
        (i && ((orderNumber? v).isNone || v.int?.isSome)) := by
  cases v <;> cases i <;> rfl

theorem add_count (n : Nat) (v : Variant) :
    (Accumulator.count n).add v = .count (if v.isNull then n else n + 1) := by
  by_cases null : v.isNull <;> simp [add, null]

end Accumulator

/-! ## Whole runs -/

theorem foldl_add_max (vs : List Variant) (best : Option Variant) :
    vs.foldl Accumulator.add (.max best) = .max (vs.foldl (keepBest orderGreater) best) := by
  induction vs generalizing best with
  | nil => rfl
  | cons v rest ih => simp [Accumulator.add_max, ih]

theorem foldl_add_min (vs : List Variant) (best : Option Variant) :
    vs.foldl Accumulator.add (.min best) = .min (vs.foldl (keepBest orderLess) best) := by
  induction vs generalizing best with
  | nil => rfl
  | cons v rest ih => simp [Accumulator.add_min, ih]

theorem foldl_add_avg (vs : List Variant) (s : Float) (n : Nat) :
    vs.foldl Accumulator.add (.avg s n) =
      .avg ((vs.filterMap orderNumber?).foldl (· + ·) s) (n + (vs.filterMap orderNumber?).length) := by
  induction vs generalizing s n with
  | nil => rfl
  | cons v rest ih =>
    rw [List.foldl_cons, Accumulator.add_avg]
    cases number : orderNumber? v with
    | none => simp [number, ih]
    | some x => simp [number, ih, Nat.add_right_comm, Nat.add_assoc]

theorem foldl_add_count (vs : List Variant) (n : Nat) :
    vs.foldl Accumulator.add (.count n) = .count (n + vs.countP (!·.isNull)) := by
  induction vs generalizing n with
  | nil => rfl
  | cons v rest ih =>
    rw [List.foldl_cons, Accumulator.add_count]
    by_cases null : v.isNull
    · simp [null, ih]
    · simp [null, ih]
      omega

theorem result_foldl_add_sum (vs : List Variant) (t : Float) (w : Int64) (i : Bool) :
    (vs.foldl Accumulator.add (.sum t w i)).result =
      if i && allIntegers vs then .int ((vs.filterMap Variant.int?).foldl (· + ·) w)
      else .float ((vs.filterMap orderNumber?).foldl (· + ·) t) := by
  induction vs generalizing t w i with
  | nil => cases i <;> rfl
  | cons v rest ih =>
    rw [List.foldl_cons, Accumulator.add_sum, ih]
    cases whole : v.int? with
    | some n => cases i <;> simp [allIntegers, whole, orderNumber_of_int whole]
    | none =>
      cases number : orderNumber? v <;> cases i <;> simp [allIntegers, whole, number]

/-! ## The best value of a run -/

section Best

variable {beats : Variant → Variant → Bool}

theorem keepBest_null {best : Option Variant} {v : Variant} (null : v.isNull = true) :
    keepBest beats best v = best := by
  simp [keepBest, null]

theorem keepBest_none {v : Variant} (present : v.isNull = false) :
    keepBest beats none v = some v := by
  simp [keepBest, present]

theorem keepBest_some {b v : Variant} (present : v.isNull = false) :
    keepBest beats (some b) v = if beats v b then some v else some b := by
  simp [keepBest, present]

theorem keepBest_eq_none {best : Option Variant} {v : Variant} :
    keepBest beats best v = none ↔ best = none ∧ v.isNull = true := by
  cases null : v.isNull
  · cases best with
    | none => simp [keepBest_none null]
    | some b => rw [keepBest_some null]; split <;> simp
  · simp [keepBest_null null]

theorem keepBest_eq_some {best : Option Variant} {v b : Variant} (h : keepBest beats best v = some b) :
    best = some b ∨ b = v ∧ v.isNull = false := by
  cases null : v.isNull
  · cases best with
    | none => exact .inr ⟨(Option.some.inj ((keepBest_none null).symm.trans h)).symm, rfl⟩
    | some b₀ =>
      rw [keepBest_some null] at h
      split at h
      · exact .inr ⟨(Option.some.inj h).symm, rfl⟩
      · exact .inl h
  · exact .inl ((keepBest_null null).symm.trans h)

theorem foldl_keepBest_eq_none {vs : List Variant} {best : Option Variant} :
    vs.foldl (keepBest beats) best = none ↔ best = none ∧ ∀ v ∈ vs, v.isNull = true := by
  induction vs generalizing best with
  | nil => simp
  | cons v rest ih => simp [ih, keepBest_eq_none, and_assoc]

theorem foldl_keepBest_mem {vs : List Variant} {best : Option Variant} {b : Variant}
    (h : vs.foldl (keepBest beats) best = some b) : best = some b ∨ b ∈ vs ∧ b.isNull = false := by
  induction vs generalizing best with
  | nil => exact .inl h
  | cons v rest ih =>
    rcases ih h with kept | later
    · rcases keepBest_eq_some kept with same | ⟨rfl, null⟩
      · exact .inl same
      · exact .inr ⟨List.mem_cons_self, null⟩
    · exact .inr ⟨List.mem_cons_of_mem _ later.1, later.2⟩

theorem foldl_keepBest_unbeaten {S : List Variant}
    (asymm : ∀ a ∈ S, ∀ b ∈ S, beats a b = true → beats b a = false)
    (negTrans : ∀ a ∈ S, ∀ b ∈ S, ∀ c ∈ S, beats a c = true → beats a b = true ∨ beats b c = true)
    {vs : List Variant} (within : ∀ v ∈ vs, v.isNull = false → v ∈ S) {best : Option Variant}
    (start : ∀ b₀, best = some b₀ → b₀ ∈ S) {b : Variant} (h : vs.foldl (keepBest beats) best = some b) :
    (∀ b₀, best = some b₀ → beats b₀ b = false) ∧ ∀ v ∈ vs, v.isNull = false → beats v b = false := by
  have bS : b ∈ S := (foldl_keepBest_mem h).elim (start b) fun ⟨mem, null⟩ => within b mem null
  induction vs generalizing best with
  | nil =>
    refine ⟨fun b₀ same => ?_, by simp⟩
    cases same.symm.trans h
    exact Bool.eq_false_iff.2 fun self => by simpa [self] using asymm b bS b bS self
  | cons v rest ih =>
    have vS : v.isNull = false → v ∈ S := within v List.mem_cons_self
    have next : ∀ b₀, keepBest beats best v = some b₀ → b₀ ∈ S := fun b₀ kept =>
      (keepBest_eq_some kept).elim (start b₀) fun ⟨same, null⟩ => same ▸ vS null
    obtain ⟨kept, restUnbeaten⟩ :=
      ih (fun u mem => within u (List.mem_cons_of_mem _ mem)) next h
    simp only [List.forall_mem_cons]
    cases null : v.isNull
    · have vb := vS null
      cases best with
      | none =>
        rw [keepBest_none null] at kept
        exact ⟨by simp, fun _ => kept v rfl, restUnbeaten⟩
      | some b₀ =>
        have b₀S := start b₀ rfl
        rw [keepBest_some null] at kept
        by_cases wins : beats v b₀
        · -- `v` took over from `b₀`, so `b` beating `b₀` would make it beat `v` as well
          rw [if_pos wins] at kept
          have lost := kept v rfl
          refine ⟨fun b₁ old => ?_, fun _ => lost, restUnbeaten⟩
          cases old
          refine Bool.eq_false_iff.2 fun beaten => ?_
          rcases negTrans v vb b bS b₀ b₀S wins with ahead | back
          · simp [ahead] at lost
          · simp [asymm b₀ b₀S b bS beaten] at back
        · -- `v` lost to `b₀`, which does not lose to `b`, so `v` cannot beat `b`
          rw [if_neg wins] at kept
          have held := kept b₀ rfl
          refine ⟨fun b₁ old => ?_, fun _ => ?_, restUnbeaten⟩
          · cases old
            exact held
          · refine Bool.eq_false_iff.2 fun beaten => ?_
            rcases negTrans v vb b₀ b₀S b bS beaten with ahead | back
            · exact wins ahead
            · simp [held] at back
    · rw [keepBest_null null] at kept
      exact ⟨kept, by simp, restUnbeaten⟩

end Best

/-! ## MAX and MIN -/

theorem orderGreater_eq_orderLess (a b : Variant) : orderGreater a b = orderLess b a := by
  unfold orderGreater orderLess
  cases orderNumber? a <;> cases orderNumber? b <;> rfl

namespace OrderConsistent

variable {vs : List Variant}

theorem of_subset {ws : List Variant} (consistent : OrderConsistent vs) (sub : ∀ x ∈ ws, x ∈ vs) :
    OrderConsistent ws :=
  ⟨fun a ha b hb => consistent.asymm a (sub a ha) b (sub b hb),
    fun a ha b hb c hc => consistent.negTrans a (sub a ha) b (sub b hb) c (sub c hc)⟩

theorem greater_asymm (consistent : OrderConsistent vs) :
    ∀ a ∈ vs, ∀ b ∈ vs, orderGreater a b = true → orderGreater b a = false := by
  intro a ha b hb
  simp only [orderGreater_eq_orderLess]
  exact consistent.asymm b hb a ha

theorem greater_negTrans (consistent : OrderConsistent vs) :
    ∀ a ∈ vs, ∀ b ∈ vs, ∀ c ∈ vs,
      orderGreater a c = true → orderGreater a b = true ∨ orderGreater b c = true := by
  intro a ha b hb c hc
  simp only [orderGreater_eq_orderLess]
  exact fun less => (consistent.negTrans c hc b hb a ha less).symm

end OrderConsistent

def OrderTotal (vs : List Variant) : Prop :=
  ∀ a ∈ vs, ∀ b ∈ vs, orderLess a b = false → orderLess b a = false → a = b

theorem orderTotal_of_texts {vs : List Variant} (texts : ∀ v ∈ vs, ∃ t, v = .str t) :
    OrderTotal vs := by
  intro a ha b hb ab ba
  obtain ⟨t, rfl⟩ := texts a ha
  obtain ⟨u, rfl⟩ := texts b hb
  simp only [orderLess, orderNumber?, Variant.display] at ab ba
  exact congrArg Variant.str (Variant.utf8_inj.1
    (List.le_antisymm (List.not_lt.1 (of_decide_eq_false ba)) (List.not_lt.1 (of_decide_eq_false ab))))

/-- `r` is what MAX or MIN, keeping a value over one it `beats`, takes from `vs`: NULL when every
value is NULL, else one of the values that are not; and, when `orderLess` is a strict weak order
on those, one that no value beats. -/
structure Extreme (beats : Variant → Variant → Bool) (vs : List Variant) (r : Variant) : Prop where
  null_of_all : (∀ v ∈ vs, v.isNull = true) → r = .null
  mem_of_any : (∃ v ∈ vs, v.isNull = false) → r ∈ vs ∧ r.isNull = false
  unbeaten : OrderConsistent (vs.filter (!·.isNull)) → ∀ v ∈ vs, v.isNull = false → beats v r = false

theorem Extreme.of_foldl {beats : Variant → Variant → Bool} {vs : List Variant}
    (unbeaten : OrderConsistent (vs.filter (!·.isNull)) → ∀ b,
      vs.foldl (keepBest beats) none = some b → ∀ v ∈ vs, v.isNull = false → beats v b = false) :
    Extreme beats vs ((vs.foldl (keepBest beats) none).getD .null) := by
  refine ⟨fun allNull => ?_, fun ⟨v, mem, present⟩ => ?_, fun consistent v mem present => ?_⟩
  · rw [foldl_keepBest_eq_none.2 ⟨rfl, allNull⟩]
    rfl
  · cases best : vs.foldl (keepBest beats) none with
    | none => simp [(foldl_keepBest_eq_none.1 best).2 v mem] at present
    | some b =>
      rcases foldl_keepBest_mem best with never | found
      · cases never
      · exact found
  · cases best : vs.foldl (keepBest beats) none with
    | none => simp [(foldl_keepBest_eq_none.1 best).2 v mem] at present
    | some b => exact unbeaten consistent b best v mem present

theorem Extreme.eq_of_perm {beats : Variant → Variant → Bool} {vs ws : List Variant} {r s : Variant}
    (hv : Extreme beats vs r) (hw : Extreme beats ws s) (perm : ws.Perm vs)
    (consistent : OrderConsistent (vs.filter (!·.isNull)))
    (total : ∀ a ∈ vs.filter (!·.isNull), ∀ b ∈ vs.filter (!·.isNull),
      beats a b = false → beats b a = false → a = b) : s = r := by
  have same : ∀ v, v ∈ ws ↔ v ∈ vs := fun v => perm.mem_iff
  by_cases allNull : ∀ v ∈ vs, v.isNull = true
  · rw [hv.null_of_all allNull, hw.null_of_all fun v mem => allNull v ((same v).1 mem)]
  · obtain ⟨v, mem, present⟩ : ∃ v ∈ vs, v.isNull = false := by simpa using allNull
    obtain ⟨rv, rp⟩ := hv.mem_of_any ⟨v, mem, present⟩
    obtain ⟨sw, sp⟩ := hw.mem_of_any ⟨v, (same v).2 mem, present⟩
    have consistent' : OrderConsistent (ws.filter (!·.isNull)) :=
      consistent.of_subset fun x hx => by simpa [same] using hx
    have rs := hw.unbeaten consistent' r ((same r).2 rv) rp
    have sr := hv.unbeaten consistent s ((same s).1 sw) sp
    exact total s (by simp [(same s).1 sw, sp]) r (by simp [rv, rp]) sr rs

/-! ## Each aggregate -/

namespace Accumulator

variable {name : String}

theorem start_of_max (max : CaseMap.upperText name = "MAX") : start name = .max none := by
  simp [start, max]

theorem start_of_min (min : CaseMap.upperText name = "MIN") : start name = .min none := by
  simp [start, min]

theorem start_of_avg (avg : CaseMap.upperText name = "AVG") : start name = .avg 0 0 := by
  simp [start, avg]

theorem start_of_sum (sum : CaseMap.upperText name = "SUM") : start name = .sum 0 0 true := by
  simp [start, sum]

theorem start_of_count (count : CaseMap.upperText name ∉ ["MAX", "MIN", "AVG", "SUM"]) :
    start name = .count 0 := by
  simp only [List.mem_cons, List.not_mem_nil, or_false, not_or] at count
  simp [start, count.1, count.2.1, count.2.2.1, count.2.2.2]

theorem over_max (max : CaseMap.upperText name = "MAX") (vs : List Variant) :
    Accumulator.over name vs = (vs.foldl (keepBest orderGreater) none).getD .null := by
  rw [Accumulator.over, start_of_max max, foldl_add_max]
  rfl

theorem over_min (min : CaseMap.upperText name = "MIN") (vs : List Variant) :
    Accumulator.over name vs = (vs.foldl (keepBest orderLess) none).getD .null := by
  rw [Accumulator.over, start_of_min min, foldl_add_min]
  rfl

end Accumulator

theorem extreme_max (vs : List Variant) :
    Extreme orderGreater vs ((vs.foldl (keepBest orderGreater) none).getD .null) := by
  refine Extreme.of_foldl fun consistent b best v mem present => ?_
  exact (foldl_keepBest_unbeaten consistent.greater_asymm consistent.greater_negTrans
    (fun u mem present => by simp [mem, present]) (by simp) best).2 v mem present

theorem extreme_min (vs : List Variant) :
    Extreme orderLess vs ((vs.foldl (keepBest orderLess) none).getD .null) := by
  refine Extreme.of_foldl fun consistent b best v mem present => ?_
  exact (foldl_keepBest_unbeaten consistent.asymm consistent.negTrans
    (fun u mem present => by simp [mem, present]) (by simp) best).2 v mem present

/-- What the aggregate `name` makes of the values `vs`. -/
structure AggregateLaws (name : String) (vs : List Variant) : Prop where
  /-- COUNT, and any name that is no other aggregate, counts the values that are not NULL. -/
  count : CaseMap.upperText name ∉ ["MAX", "MIN", "AVG", "SUM"] →
    Accumulator.over name vs = .count (vs.countP (!·.isNull))
  /-- SUM over integers is their exact sum wrapped into 64 bits. -/
  sum_integral : CaseMap.upperText name = "SUM" → allIntegers vs = true →
    ∃ s : Int64, Accumulator.over name vs = .int s ∧
      s.toInt = ((vs.filterMap Variant.int?).foldl (fun acc (n : Int64) => acc + n.toInt) 0).bmod
        18446744073709551616
  /-- SUM over other numbers adds them all as doubles, left to right. -/
  sum_float : CaseMap.upperText name = "SUM" → allIntegers vs = false →
    Accumulator.over name vs = .float ((vs.filterMap orderNumber?).foldl (· + ·) 0)
  /-- AVG divides the double sum of the numbers by their count, NULL when there are none. -/
  avg : CaseMap.upperText name = "AVG" →
    Accumulator.over name vs =
      if (vs.filterMap orderNumber?).isEmpty then .null
      else .float ((vs.filterMap orderNumber?).foldl (· + ·) 0 /
        Float.ofNat (vs.filterMap orderNumber?).length)
  /-- MAX keeps a value that no value orders after. -/
  max : CaseMap.upperText name = "MAX" → Extreme orderGreater vs (Accumulator.over name vs)
  /-- MIN keeps a value that no value orders before. -/
  min : CaseMap.upperText name = "MIN" → Extreme orderLess vs (Accumulator.over name vs)
  /-- MAX and MIN do not depend on the order of the values when `orderLess` is a strict total
  order on those that are not NULL. -/
  order_free : CaseMap.upperText name = "MAX" ∨ CaseMap.upperText name = "MIN" →
    OrderConsistent (vs.filter (!·.isNull)) → OrderTotal (vs.filter (!·.isNull)) →
    ∀ ws, ws.Perm vs → Accumulator.over name ws = Accumulator.over name vs

theorem aggregateLaws (name : String) (vs : List Variant) : AggregateLaws name vs where
  count count := by
    rw [Accumulator.over, Accumulator.start_of_count count, foldl_add_count, Nat.zero_add]
    rfl
  sum_integral sum whole := by
    refine ⟨(vs.filterMap Variant.int?).foldl (· + ·) 0, ?_, toInt_foldl_add _ (by simp)⟩
    rw [Accumulator.over, Accumulator.start_of_sum sum, result_foldl_add_sum]
    simp [whole]
  sum_float sum inexact := by
    rw [Accumulator.over, Accumulator.start_of_sum sum, result_foldl_add_sum]
    simp [inexact]
  avg avg := by
    rw [Accumulator.over, Accumulator.start_of_avg avg, foldl_add_avg, Nat.zero_add]
    simp [Accumulator.result, List.isEmpty_iff]
  max max := Accumulator.over_max max vs ▸ extreme_max vs
  min min := Accumulator.over_min min vs ▸ extreme_min vs
  order_free extreme consistent total ws perm := by
    rcases extreme with max | min
    · rw [Accumulator.over_max max, Accumulator.over_max max]
      refine (extreme_max vs).eq_of_perm (extreme_max ws) perm consistent fun a ha b hb ab ba => ?_
      rw [orderGreater_eq_orderLess] at ab ba
      exact total a ha b hb ba ab
    · rw [Accumulator.over_min min, Accumulator.over_min min]
      exact (extreme_min vs).eq_of_perm (extreme_min ws) perm consistent total

theorem over_texts_perm {name : String}
    (extreme : CaseMap.upperText name = "MAX" ∨ CaseMap.upperText name = "MIN") {vs ws : List Variant}
    (texts : ∀ v ∈ vs, v.isNull = false → ∃ t, v = .str t) (perm : ws.Perm vs) :
    Accumulator.over name ws = Accumulator.over name vs := by
  have texts' : ∀ v ∈ vs.filter (!·.isNull), ∃ t, v = .str t := fun v mem => by
    simp only [List.mem_filter, Bool.not_eq_eq_eq_not, Bool.not_true] at mem
    exact texts v mem.1 mem.2
  have plain : ∀ v ∈ vs.filter (!·.isNull), orderNumber? v = none := fun v mem => by
    obtain ⟨t, rfl⟩ := texts' v mem
    rfl
  exact (aggregateLaws name vs).order_free extreme (orderConsistent_of_displays plain)
    (orderTotal_of_texts texts') ws perm

/-! ## Aggregating without GROUP BY -/

theorem foldl_addToGroups_global (fields : List SelectField) (rows : List Row) {g : Group}
    (named : g.name = []) :
    rows.foldl (fun gs row =>
        addToGroups fields (groupOf "" row).1 (groupOf "" row).2 row gs) [g] =
      [rows.foldl (Group.add fields) g] := by
  induction rows generalizing g with
  | nil => rfl
  | cons row rest ih =>
    rw [List.foldl_cons, List.foldl_cons, ← ih (by simpa using named)]
    simp [groupOf, addToGroups, named]

theorem aggregateRows_global {fields : List SelectField}
    (aggregating : fields.any (!·.aggregate.isEmpty) = true) (rows : List Row) :
    aggregateRows "" fields rows = [groupRow "" fields .null rows] := by
  rw [← Group.row_foldl_add "" fields [] .null rows]
  cases rows with
  | nil => simp [aggregateRows, aggregating]
  | cons row rest =>
    have single : groupsOf "" fields (row :: rest) =
        [(row :: rest).foldl (Group.add fields) (Group.start fields [] .null)] := by
      rw [groupsOf, List.foldl_cons, List.foldl_cons]
      exact foldl_addToGroups_global fields rest rfl
    have grouped : aggregateRows "" fields (row :: rest) =
        (sortGroups (groupsOf "" fields (row :: rest))).map (Group.row fields "") := by
      simp only [aggregateRows, List.isEmpty_cons, Bool.false_and, Bool.false_eq_true, if_false]
      rfl
    rw [grouped, single]
    rfl

theorem Accumulator.over_nil (name : String) :
    Accumulator.over name [] =
      if CaseMap.upperText name = "MAX" ∨ CaseMap.upperText name = "MIN" ∨
        CaseMap.upperText name = "AVG" then .null
      else if CaseMap.upperText name = "SUM" then .int 0 else .count 0 := by
  by_cases max : CaseMap.upperText name = "MAX"
  · simp [Accumulator.over_max max, max]
  by_cases min : CaseMap.upperText name = "MIN"
  · simp [Accumulator.over_min min, min]
  by_cases avg : CaseMap.upperText name = "AVG"
  · simp [Accumulator.over, Accumulator.start_of_avg avg, avg, Accumulator.result]
  by_cases sum : CaseMap.upperText name = "SUM"
  · simp [Accumulator.over, Accumulator.start_of_sum sum, sum, Accumulator.result]
  · have count : CaseMap.upperText name ∉ ["MAX", "MIN", "AVG", "SUM"] := by simp [*]
    simp [Accumulator.over, Accumulator.start_of_count count, max, min, avg, sum, Accumulator.result]

/-- What an aggregating step without GROUP BY yields for `rows`: one row, in which every
aggregate field holds its aggregate over its path's values in all the rows and every other field
NULL, each aggregate obeying its laws; and over no rows, COUNT and SUM 0 and NULL for the rest. -/
def GlobalAggregation (fields : List SelectField) (rows : List Row) : Prop :=
  aggregateRows "" fields rows = [fields.map fun f => (f.columnName,
      if f.aggregate.isEmpty then .null else Accumulator.over f.aggregate (valuesAt f.path rows))] ∧
    (∀ f ∈ fields, AggregateLaws f.aggregate (valuesAt f.path rows)) ∧
    aggregateRows "" fields [] = [fields.map fun f => (f.columnName,
      if f.aggregate.isEmpty then .null
      else if CaseMap.upperText f.aggregate = "MAX" ∨ CaseMap.upperText f.aggregate = "MIN" ∨
        CaseMap.upperText f.aggregate = "AVG" then .null
      else if CaseMap.upperText f.aggregate = "SUM" then .int 0 else .count 0)]

theorem groupRow_global (fields : List SelectField) (rows : List Row) :
    groupRow "" fields .null rows = fields.map fun f => (f.columnName,
      if f.aggregate.isEmpty then .null else Accumulator.over f.aggregate (valuesAt f.path rows)) := by
  simp [groupRow]

theorem global_aggregates {fields : List SelectField}
    (aggregating : fields.any (!·.aggregate.isEmpty) = true) (rows : List Row) :
    GlobalAggregation fields rows := by
  refine ⟨?_, fun f _ => aggregateLaws f.aggregate _, ?_⟩
  · rw [aggregateRows_global aggregating, groupRow_global]
  · rw [aggregateRows_global aggregating, groupRow_global]
    simp [valuesAt, Accumulator.over_nil]

theorem global_aggregates_page_titles :
    [(⟨"page_title", "", "max"⟩ : SelectField), ⟨"page_id", "pages", "COUNT"⟩].any
        (!·.aggregate.isEmpty) = true ∧
      GlobalAggregation [⟨"page_title", "", "max"⟩, ⟨"page_id", "pages", "COUNT"⟩]
        [[("page_title", .str "Anarchism"), ("page_id", .int 12)],
          [("page_title", .str "AccessibleComputing"), ("page_id", .int 10)]] :=
  ⟨rfl, global_aggregates rfl _⟩

/-- Integer aggregates are exact only within bounds. Two integers beyond `2 ^ 53` that round to
one double tie under MAX, which keeps the first: the order of the rows decides, and the larger
can be passed over. Past 64 bits, SUM wraps around. -/
theorem integer_aggregates_inexact :
    Accumulator.over "MAX" [.int 9007199254740992, .int 9007199254740993] =
        .int 9007199254740992 ∧
      Accumulator.over "MAX" [.int 9007199254740993, .int 9007199254740992] =
        .int 9007199254740993 ∧
      Accumulator.over "SUM" [.int 4611686018427387904, .int 4611686018427387904] =
        .int Int64.minValue := by
  have tie : orderGreater (.int 9007199254740993) (.int 9007199254740992) = false := by
    decide +kernel
  have tie' : orderGreater (.int 9007199254740992) (.int 9007199254740993) = false := by
    decide +kernel
  have max : CaseMap.upperText "MAX" = "MAX" := by decide +kernel
  have sum : CaseMap.upperText "SUM" = "SUM" := by decide +kernel
  refine ⟨?_, ?_, ?_⟩
  · simp [Accumulator.over_max max, keepBest, Variant.isNull, tie]
  · simp [Accumulator.over_max max, keepBest, Variant.isNull, tie']
  · have whole : allIntegers [.int 4611686018427387904, .int 4611686018427387904] = true := rfl
    rw [Accumulator.over, Accumulator.start_of_sum sum, result_foldl_add_sum, whole]
    exact congrArg Variant.int (by decide)

end Engine

end WikiDump

