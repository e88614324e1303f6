import WikiDump.Proofs.Regions
/-!
# Counting rows with workers that finish in any order

`countRows` scans the regions of a split one after another and reports the error of the first
region that fails in file order. Run in parallel, the workers of the regions finish in any order,
and an error group reports the error of the worker that fails first in time: it keeps the first
error it is given and cancels the other workers, which then return only after it.
`Scan.countScheduled` is the count when the workers finish in a given order, and `countRows` is
the count when they finish in file order (`Scan.countRows_eq_scheduled`).

Whatever the order, the count fails exactly when the scan of some region fails, and with the
error of one of them. Where the split cuts only at ends of statements as the scan of the whole
dump delimits them, which puts every cut before the first error of that scan, at most the last
region fails, and in every order the count reports what a single scan reports
(`Scan.count_scheduled_error`). A cut after that first error leaves room for a second failing
region, and when its worker finishes first the count reports the later error
(`Scan.count_error_follows_schedule`).
-/

namespace WikiDump

theorem Region.Covers.inner_stop {start stop : Nat} {regions : List Region}
    (covers : Region.Covers start regions stop) :
    ∀ i r, regions[i]? = some r → i + 1 < regions.length → r.stop < stop := by
  induction covers with
  | nil => intro i r found; cases found
  | @cons start stop first rest begins nonempty restCovers ih =>
      intro i r found more
      cases i with
      | zero =>
          cases found
          cases rest with
          | nil => simp at more
          | cons next later =>
              have := restCovers.stops next List.mem_cons_self
              omega
      | succ i => exact ih i r found (by simpa using more)

theorem length_filter_range_le_one {n : Nat} {p : Nat → Bool} (last : ∀ i, p i → i + 1 = n) :
    ((List.range n).filter p).length ≤ 1 := by
  have distinct : ((List.range n).filter p).Nodup :=
    List.nodup_range.sublist (List.filter_sublist)
  have same : (List.range n).filter p = List.replicate ((List.range n).filter p).length (n - 1) :=
    List.eq_replicate_iff.2 ⟨rfl, fun i member => by
      have := last i (List.mem_filter.1 member).2
      omega⟩
  rw [same] at distinct
  exact List.nodup_replicate.1 distinct

namespace Scan

variable {R : Type}

/-! ## Finishing order -/

/-- The error an error group reports for the scans `scans` whose workers finish in the order
`order`, a list of their indices: the error of the first of them to fail. -/
def firstToFail (scans : List (List R × Option ScanError)) (order : List Nat) :
    Option ScanError :=
  order.findSome? fun i => (scans[i]?).bind (·.2)

def FailInFileOrder (scans : List (List R × Option ScanError)) (order : List Nat) : Prop :=
  order.filter (fun i => ((scans[i]?).bind (·.2)).isSome) =
    (List.range scans.length).filter fun i => ((scans[i]?).bind (·.2)).isSome

/-- The count of a table's rows in a dump split for `workers`, when the workers of the regions
finish in the order `order`. -/
def countScheduled (buf : ByteArray) (t : Table) (workers : Int) (order : List Nat) :
    Except ScanError Nat :=
  match Region.split buf workers with
  | .error e => .error e
  | .ok regions =>
    let counted := regions.map fun r => (start buf r t.decoder).collect
    match firstToFail counted order with
    | some e => .error e
    | none => .ok (counted.foldl (fun n c => n + c.1.length) 0)

theorem firstToFail_range (scans : List (List R × Option ScanError)) :
    firstToFail scans (List.range scans.length) = scans.findSome? (·.2) := by
  induction scans with
  | nil => rfl
  | cons scan rest ih =>
      unfold firstToFail at ih ⊢
      rw [List.length_cons, List.range_succ_eq_map, List.findSome?_cons, List.findSome?_map,
        List.findSome?_cons]
      have shifted : ((fun i => ((scan :: rest)[i]?).bind (·.2)) ∘ Nat.succ) =
          fun i => (rest[i]?).bind (·.2) := by
        funext i
        simp only [Function.comp_apply, Nat.succ_eq_add_one, List.getElem?_cons_succ]
      rw [shifted, ih]
      rfl

theorem findSome?_filter_isSome {α β : Type} (f : α → Option β) (l : List α) :
    (l.filter fun x => (f x).isSome).findSome? f = l.findSome? f := by
  induction l with
  | nil => rfl
  | cons x rest ih =>
      cases found : f x with
      | none => simp [found, ih]
      | some b => simp [found]

theorem firstToFail_of_fileOrder {scans : List (List R × Option ScanError)} {order : List Nat}
    (inOrder : FailInFileOrder scans order) :
    firstToFail scans order = scans.findSome? (·.2) := by
  unfold firstToFail
  rw [← findSome?_filter_isSome, inOrder, findSome?_filter_isSome]
  exact firstToFail_range scans

theorem firstToFail_isSome {scans : List (List R × Option ScanError)} {order : List Nat}
    (schedule : order.Perm (List.range scans.length)) :
    (firstToFail scans order).isSome = (scans.findSome? (·.2)).isSome := by
  rw [← firstToFail_range]
  unfold firstToFail
  apply Bool.eq_iff_iff.2
  simp only [List.findSome?_isSome_iff, schedule.mem_iff]

theorem firstToFail_mem {scans : List (List R × Option ScanError)} {order : List Nat}
    {e : ScanError} (reported : firstToFail scans order = some e) :
    ∃ scan ∈ scans, scan.2 = some e := by
  obtain ⟨i, _, found⟩ := List.exists_of_findSome?_eq_some reported
  cases present : scans[i]? with
  | none => rw [present] at found; cases found
  | some scan =>
      rw [present] at found
      exact ⟨scan, List.mem_of_getElem? present, found⟩

theorem failInFileOrder_of_single {scans : List (List R × Option ScanError)} {order : List Nat}
    (schedule : order.Perm (List.range scans.length))
    (single : ((List.range scans.length).filter fun i => ((scans[i]?).bind (·.2)).isSome).length
      ≤ 1) :
    FailInFileOrder scans order := by
  unfold FailInFileOrder
  have same := schedule.filter (fun i => ((scans[i]?).bind (·.2)).isSome)
  generalize ((List.range scans.length).filter fun i => ((scans[i]?).bind (·.2)).isSome) =
    failing at same single
  rcases failing with _ | ⟨i, _ | ⟨j, rest⟩⟩
  · exact same.eq_nil
  · exact List.perm_singleton.1 same
  · simp at single

/-! ## The count -/

/-- The count of the program is the count whose workers finish in file order. -/
theorem countRows_eq_scheduled {buf : ByteArray} {t : Table} {workers : Int}
    {regions : List Region} (splitOk : Region.split buf workers = .ok regions) :
    countRows buf t workers = countScheduled buf t workers (List.range regions.length) := by
  unfold countRows tally countScheduled
  rw [splitOk]
  dsimp only
  have sameLength : regions.length =
      (regions.map fun r => (start buf r t.decoder).collect).length := (List.length_map _).symm
  rw [sameLength, firstToFail_range]
  cases (regions.map fun r => (start buf r t.decoder).collect).findSome? (·.2) <;> rfl

/-! ## Cuts between statements -/

theorem collect_clean_of_cuts {dec : Decoder R} {u : ByteArray} {pos : Nat}
    {regions : List Region} (covers : Region.Covers pos regions u.size)
    (cuts : ∀ r ∈ regions, r.stop < u.size → ∃ span ∈ spansFrom dec u pos, span.2 = r.stop) :
    ∀ r ∈ regions, r.stop < u.size → (start u r dec).collect.2 = none := by
  induction regions generalizing pos with
  | nil => intro r member; cases member
  | cons r rest ih =>
      cases covers with
      | cons begins nonempty restCovers =>
      intro r' member inner
      have fits : r.stop ≤ u.size := restCovers.le
      rcases List.mem_cons.1 member with rfl | later
      · obtain ⟨span, spanMember, ends⟩ := cuts r' List.mem_cons_self inner
        obtain ⟨rows, passes⟩ := passes_of_mem spanMember
        rw [ends] at passes
        rw [collect_start u r' dec (by omega) fits, begins, (passes.cut fits).1]
      · -- the regions after `r` are cut at ends of statements of the scan from its end
        have rInner : r.stop < u.size := by
          have := (restCovers.stops r' later).1
          omega
        obtain ⟨span, spanMember, ends⟩ := cuts r List.mem_cons_self rInner
        have laterCuts : ∀ r'' ∈ rest, r''.stop < u.size →
            ∃ span' ∈ spansFrom dec u r.stop, span'.2 = r''.stop := by
          intro r'' member'' inner''
          obtain ⟨span', member', ends'⟩ := cuts r'' (List.mem_cons_of_mem r member'') inner''
          have beyond := (restCovers.stops r'' member'').1
          exact ⟨span', ends ▸ mem_spansFrom_of_end spanMember member' (by omega), ends'⟩
        exact ih restCovers laterCuts r' later inner

theorem failInFileOrder_of_cuts {buf : ByteArray} {t : Table} {workers : Int}
    {regions : List Region} (splitOk : Region.split buf workers = .ok regions)
    (cuts : CutsBetweenStatements t.decoder buf regions) {order : List Nat}
    (schedule : order.Perm (List.range regions.length)) :
    FailInFileOrder (regions.map fun r => (start buf r t.decoder).collect) order := by
  rw [← List.length_map (fun r => (start buf r t.decoder).collect)] at schedule
  apply failInFileOrder_of_single schedule
  rcases Region.split_covers splitOk with rfl | covers
  · exact Nat.le_trans (List.length_filter_le _ _) (by simp)
  · apply length_filter_range_le_one
    intro i fails
    rw [List.getElem?_map] at fails
    cases found : regions[i]? with
    | none => simp [found] at fails
    | some r =>
        simp only [found, Option.map_some, Option.bind_some] at fails
        have inRange : i < regions.length := (List.getElem?_eq_some_iff.1 found).1
        by_cases more : i + 1 < regions.length
        · have inner := covers.inner_stop i r found more
          have clean := collect_clean_of_cuts covers cuts r (List.mem_of_getElem? found) inner
          simp [clean] at fails
        · simp only [List.length_map]
          omega

theorem countScheduled_of_split {buf : ByteArray} {t : Table} {workers : Int}
    {regions : List Region} (splitOk : Region.split buf workers = .ok regions) (order : List Nat) :
    countScheduled buf t workers order =
      (firstToFail (regions.map fun r => (start buf r t.decoder).collect) order).elim
        (.ok ((regions.map fun r => (start buf r t.decoder).collect).foldl
          (fun n c => n + c.1.length) 0)) .error := by
  unfold countScheduled
  rw [splitOk]
  dsimp only
  cases firstToFail (regions.map fun r => (start buf r t.decoder).collect) order <;> rfl

theorem countScheduled_fails_iff {buf : ByteArray} {t : Table} {workers : Int}
    {regions : List Region} (splitOk : Region.split buf workers = .ok regions) {order : List Nat}
    (schedule : order.Perm (List.range regions.length)) :
    (∃ e, countScheduled buf t workers order = .error e) ↔
      ∃ r ∈ regions, ((start buf r t.decoder).collect.2).isSome := by
  have schedule' : order.Perm
      (List.range (regions.map fun r => (start buf r t.decoder).collect).length) := by
    rw [List.length_map]
    exact schedule
  have failing : (∃ r ∈ regions, ((start buf r t.decoder).collect.2).isSome) ↔
      (firstToFail (regions.map fun r => (start buf r t.decoder).collect) order).isSome := by
    rw [firstToFail_isSome schedule', List.findSome?_isSome_iff]
    constructor
    · rintro ⟨r, member, fails⟩
      exact ⟨_, List.mem_map_of_mem member, fails⟩
    · rintro ⟨_, member, fails⟩
      obtain ⟨r, inRegions, rfl⟩ := List.mem_map.1 member
      exact ⟨r, inRegions, fails⟩
  rw [failing, countScheduled_of_split splitOk]
  cases firstToFail (regions.map fun r => (start buf r t.decoder).collect) order <;> simp

theorem countScheduled_error_mem {buf : ByteArray} {t : Table} {workers : Int}
    {regions : List Region} (splitOk : Region.split buf workers = .ok regions) {order : List Nat}
    {e : ScanError} (failed : countScheduled buf t workers order = .error e) :
    ∃ r ∈ regions, (start buf r t.decoder).collect.2 = some e := by
  rw [countScheduled_of_split splitOk] at failed
  cases reported : firstToFail (regions.map fun r => (start buf r t.decoder).collect) order with
  | none =>
      rw [reported] at failed
      cases failed
  | some e' =>
      rw [reported] at failed
      cases failed
      obtain ⟨scan, member, found⟩ := firstToFail_mem reported
      obtain ⟨r, inRegions, rfl⟩ := List.mem_map.1 member
      exact ⟨r, inRegions, found⟩

theorem countScheduled_of_cuts {buf : ByteArray} {t : Table} {workers : Int}
    {regions : List Region} (splitOk : Region.split buf workers = .ok regions)
    (cuts : CutsBetweenStatements t.decoder buf regions) {order : List Nat}
    (schedule : order.Perm (List.range regions.length)) :
    countScheduled buf t workers order = countRows buf t 1 := by
  have chained : chain (regions.map fun r => (start buf r t.decoder).collect) =
      (whole buf t.decoder).collect :=
    collectRegions_of_split splitOk t.decoder cuts
  rw [countScheduled_of_split splitOk, countRows_of_split (Region.split_one buf),
    collectRegions_whole, firstToFail_of_fileOrder (failInFileOrder_of_cuts splitOk cuts schedule),
    findSome_chain, chained]
  cases ended : (whole buf t.decoder).collect.2 with
  | some e => rfl
  | none =>
      have clean : (chain (regions.map fun r => (start buf r t.decoder).collect)).2 = none := by
        rw [chained, ended]
      simp only [Option.elim_none]
      rw [foldl_length_chain _ clean 0, Nat.zero_add, chained]

/-- What a count whose workers finish in `order` reports: it fails exactly when the scan of some
region fails, and with the error of one of them; and where the split cuts only between the
statements of the scan of the whole dump, it reports what that single scan reports. -/
def ScheduledCount (buf : ByteArray) (t : Table) (workers : Int) (regions : List Region)
    (order : List Nat) : Prop :=
  ((∃ e, countScheduled buf t workers order = .error e) ↔
      ∃ r ∈ regions, ((start buf r t.decoder).collect.2).isSome) ∧
    (∀ e, countScheduled buf t workers order = .error e →
      ∃ r ∈ regions, (start buf r t.decoder).collect.2 = some e) ∧
    (CutsBetweenStatements t.decoder buf regions →
      countScheduled buf t workers order = countRows buf t 1)

/-- A count in parallel, whose workers finish in any order, against a single scan. -/
theorem count_scheduled_error (buf : ByteArray) (t : Table) (workers : Int)
    (regions : List Region) (splitOk : Region.split buf workers = .ok regions) (order : List Nat)
    (schedule : order.Perm (List.range regions.length)) :
    ScheduledCount buf t workers regions order :=
  ⟨countScheduled_fails_iff splitOk schedule, fun _ failed => countScheduled_error_mem splitOk failed,
    fun cuts => countScheduled_of_cuts splitOk cuts schedule⟩

/-! ## Two failing inserts -/

theorem twoFailingInserts_split :
    Region.split
        "INSERT INTO user_former_groups VALUES (1);INSERT INTO user_former_groups VALUES (2);".toUTF8 2 =
      .ok [⟨0, 42⟩, ⟨42, 84⟩] := by
  decide +kernel

theorem count_scheduled_two_failing_inserts :
    Region.split
        "INSERT INTO user_former_groups VALUES (1);INSERT INTO user_former_groups VALUES (2);".toUTF8 2 =
        .ok [⟨0, 42⟩, ⟨42, 84⟩] ∧
      [1, 0].Perm (List.range 2) ∧
      ScheduledCount
        "INSERT INTO user_former_groups VALUES (1);INSERT INTO user_former_groups VALUES (2);".toUTF8
        Tables.userFormerGroups 2 [⟨0, 42⟩, ⟨42, 84⟩] [1, 0] :=
  ⟨twoFailingInserts_split, by decide,
    count_scheduled_error _ _ _ _ twoFailingInserts_split _ (by decide)⟩

/-- Two inserts of one value into a table of two columns, one in each region: a single scan, and
the count whose workers finish in file order, report the first tuple; when the second region's
worker finishes first, the count reports the second tuple. And where a `;` in a column list makes
the split cut inside the statement, the count in two regions fails where a single scan counts
one row. -/
theorem count_error_follows_schedule :
    countRows
        "INSERT INTO user_former_groups VALUES (1);INSERT INTO user_former_groups VALUES (2);".toUTF8
        Tables.userFormerGroups 1 =
        .error (.columnCount "user_former_groups" 38 2 1) ∧
      countScheduled
        "INSERT INTO user_former_groups VALUES (1);INSERT INTO user_former_groups VALUES (2);".toUTF8
        Tables.userFormerGroups 2 [0, 1] =
        .error (.columnCount "user_former_groups" 38 2 1) ∧
      countScheduled
        "INSERT INTO user_former_groups VALUES (1);INSERT INTO user_former_groups VALUES (2);".toUTF8
        Tables.userFormerGroups 2 [1, 0] =
        .error (.columnCount "user_former_groups" 80 2 1) ∧
      countRows "INSERT INTO user_former_groups (ufg_user;ufg_group) VALUES (7,'bot');".toUTF8
        Tables.userFormerGroups 1 = .ok 1 ∧
      countRows "INSERT INTO user_former_groups (ufg_user;ufg_group) VALUES (7,'bot');".toUTF8
        Tables.userFormerGroups 2 = .error (ScanError.endOfInput 41 "')'") := by
  decide +kernel

end Scan

end WikiDump

