import Mathlib.Data.String.Basic
import WikiDump.Site.Redirects
/-!
# The redirect report

The redirect report joins a page dump with a redirect dump on the page number. The source of a
page number is the last row of the page dump with that number that is a redirect page in one of
the chosen namespaces (`lastSource`); a later row of the number that is no such page does not
replace it. Every redirect row whose page has a source gives one pair, the source and the row's
readable target, in dump order (`joinedPairs`). The report lists the pairs by source namespace
and then title (the order of `SourcePage`), one line each: the source's readable title, a tab
and the target (`lineOf`).

A source title reads only under a namespace the wiki has, and the report reads the source titles
while it writes. So a source in a namespace the wiki lacks stops it at that source's line: the
report has written the pairs of every lower namespace, in order, counts zero and names the least
such namespace (`writeLines_ordered`). Put together, the report writes exactly the pairs below
the least unknown source namespace, sorted, one line each, and counts its lines when every
source namespace is known (`report_writes_sorted_join`). A failing dump stops it before it
writes anything, but an unknown source namespace after a known one leaves the known one's line
written under the error (`unknown_source_after_written_line`).
-/

namespace WikiDump

namespace Site

/-! ## The sources of page numbers -/

/-- The source of page number `id`: the last page row of that number that is a redirect page in
one of the namespaces. -/
def lastSource (pages : List WikiDump.Row) (namespaces : List Int) (id : Int) : Option SourcePage :=
  (pages.reverse.find? fun row => isSourceIn namespaces row && rowId row == id).map SourcePage.ofRow

theorem lastSource_cons (row : WikiDump.Row) (pages : List WikiDump.Row) (namespaces : List Int)
    (id : Int) :
    lastSource (row :: pages) namespaces id =
      (lastSource pages namespaces id).or
        (if isSourceIn namespaces row && rowId row == id then some (.ofRow row) else none) := by
  rw [lastSource, List.reverse_cons, List.find?_append, Option.map_or, List.find?_singleton, lastSource]
  split <;> rfl

theorem lookup_filter_ne {acc : List (Int × SourcePage)} {k id : Int} (other : k ≠ id) :
    (acc.filter (·.1 != k)).lookup id = acc.lookup id := by
  induction acc with
  | nil => rfl
  | cons entry rest ih =>
    obtain ⟨k', page⟩ := entry
    by_cases same : k' = k
    · -- The entry the filter drops has the number `k`, not `id`.
      subst same
      rw [List.filter_cons_of_neg (by simp), ih, List.lookup_cons, beq_false_of_ne (Ne.symm other)]
    · rw [List.filter_cons_of_pos (by simpa using same), List.lookup_cons, List.lookup_cons, ih]

theorem lookup_addSource (namespaces : List Int) (acc : List (Int × SourcePage))
    (row : WikiDump.Row) (id : Int) :
    (addSource namespaces acc row).lookup id =
      (if isSourceIn namespaces row && rowId row == id then some (.ofRow row) else none).or
        (acc.lookup id) := by
  unfold addSource
  by_cases source : isSourceIn namespaces row = true
  · by_cases same : rowId row = id
    · subst same
      simp [source]
    · rw [if_pos source, List.lookup_cons, beq_false_of_ne (Ne.symm same), lookup_filter_ne same]
      simp [same]
  · simp [source]

theorem lookup_foldl_addSource (namespaces : List Int) (pages : List WikiDump.Row)
    (acc : List (Int × SourcePage)) (id : Int) :
    (pages.foldl (addSource namespaces) acc).lookup id =
      (lastSource pages namespaces id).or (acc.lookup id) := by
  -- Each row is looked at after those before it, so a later source takes the number over.
  induction pages generalizing acc with
  | nil => rfl
  | cons row rest ih =>
    rw [List.foldl_cons, ih, lookup_addSource, lastSource_cons, Option.or_assoc]

theorem sourcePages_lookup (pages : List WikiDump.Row) (namespaces : List Int) (id : Int) :
    (sourcePages pages namespaces).lookup id = lastSource pages namespaces id := by
  rw [sourcePages, lookup_foldl_addSource]
  exact Option.or_none

/-- The pairs of the report before they are ordered: for each redirect row, in dump order, whose
page has a source, that source and the row's readable target. -/
def joinedPairs (pages rows : List WikiDump.Row) (namespaces : List Int) (names : NamespaceMap) :
    List (SourcePage × String) :=
  rows.filterMap fun row =>
    (lastSource pages namespaces (rowId row)).map fun page => (page, redirectTarget names row)

/-! ## The order of the report -/

/-- Sources are listed by namespace, then by title. -/
instance : LE SourcePage := ⟨fun a b => a.ns < b.ns ∨ a.ns = b.ns ∧ a.title ≤ b.title⟩

namespace SourcePage

theorem le_iff {a b : SourcePage} : a ≤ b ↔ a.ns < b.ns ∨ a.ns = b.ns ∧ a.title ≤ b.title :=
  Iff.rfl

theorem ns_le_of_le {a b : SourcePage} (le : a ≤ b) : a.ns ≤ b.ns := by
  rcases le with lower | ⟨same, _⟩ <;> omega

theorem le_of_le_of_le {a b c : SourcePage} (ab : a ≤ b) (bc : b ≤ c) : a ≤ c := by
  rcases ab with ab | ⟨ab, abTitle⟩ <;> rcases bc with bc | ⟨bc, bcTitle⟩
  · exact .inl (by omega)
  · exact .inl (by omega)
  · exact .inl (by omega)
  · exact .inr ⟨ab.trans bc, String.le_trans abTitle bcTitle⟩

theorem le_or_le (a b : SourcePage) : a ≤ b ∨ b ≤ a := by
  rcases Int.lt_trichotomy a.ns b.ns with lower | same | higher
  · exact .inl (.inl lower)
  · exact (String.le_total a.title b.title).imp (fun le => .inr ⟨same, le⟩)
      (fun le => .inr ⟨same.symm, le⟩)
  · exact .inr (.inl higher)

end SourcePage

theorem not_sourceBefore_iff (a b : SourcePage × String) :
    (!sourceBefore b a) = true ↔ a.1 ≤ b.1 := by
  unfold sourceBefore
  by_cases same : b.1.ns = a.1.ns
  · simp only [same, bne_self_eq_false, Bool.false_eq_true, if_false, Bool.not_eq_true',
      decide_eq_false_iff_not, String.not_lt, SourcePage.le_iff, Int.lt_irrefl, false_or, true_and]
  · simp only [bne_iff_ne, ne_eq, same, not_false_eq_true, if_true, Bool.not_eq_true',
      decide_eq_false_iff_not, Int.not_lt, SourcePage.le_iff]
    omega

theorem sortedPairs_ordered (pairs : List (SourcePage × String)) :
    (pairs.mergeSort fun a b => !sourceBefore b a).Pairwise fun a b => a.1 ≤ b.1 := by
  have trans : ∀ a b c : SourcePage × String, (!sourceBefore b a) = true →
      (!sourceBefore c b) = true → (!sourceBefore c a) = true := by
    intro a b c ab bc
    rw [not_sourceBefore_iff] at ab bc ⊢
    exact SourcePage.le_of_le_of_le ab bc
  have total : ∀ a b : SourcePage × String, ((!sourceBefore b a) || !sourceBefore a b) = true := by
    intro a b
    rw [Bool.or_eq_true, not_sourceBefore_iff, not_sourceBefore_iff]
    exact SourcePage.le_or_le a.1 b.1
  exact (@List.pairwise_mergeSort _ (fun a b => !sourceBefore b a) trans total pairs).imp
    fun {a b} le => (not_sourceBefore_iff a b).1 le

/-! ## Writing the lines -/

/-- The line of a pair: the source's readable title, a tab and the target; none when the wiki
lacks the source's namespace. -/
def lineOf (names : NamespaceMap) (pair : SourcePage × String) : Option String :=
  (names.readableTitle pair.1.ns pair.1.title).map fun source => source ++ "\t" ++ pair.2 ++ "\n"

theorem lineOf_eq_none_iff {names : NamespaceMap} {pair : SourcePage × String} :
    lineOf names pair = none ↔ names.lookup pair.1.ns = none := by
  simp [lineOf, NamespaceMap.readableTitle]

def unknownSources (names : NamespaceMap) (pairs : List (SourcePage × String)) : List Int :=
  (pairs.filter fun pair => (names.lookup pair.1.ns).isNone).map (·.1.ns)

def stopOf (names : NamespaceMap) (pairs : List (SourcePage × String)) : Option Int :=
  (unknownSources names pairs).min?

def writtenPairs (names : NamespaceMap) (pairs : List (SourcePage × String)) :
    List (SourcePage × String) :=
  pairs.filter fun pair => (stopOf names pairs).all (pair.1.ns < ·)

theorem mem_unknownSources {names : NamespaceMap} {pairs : List (SourcePage × String)} {n : Int} :
    n ∈ unknownSources names pairs ↔ ∃ pair ∈ pairs, names.lookup pair.1.ns = none ∧ pair.1.ns = n := by
  simp [unknownSources, and_assoc]

theorem unknownSources_cons_known {names : NamespaceMap} {pair : SourcePage × String}
    (rest : List (SourcePage × String)) (known : names.lookup pair.1.ns ≠ none) :
    unknownSources names (pair :: rest) = unknownSources names rest := by
  rw [unknownSources, List.filter_cons_of_neg (by simpa using known), unknownSources]

theorem unknownSources_cons_unknown {names : NamespaceMap} {pair : SourcePage × String}
    (rest : List (SourcePage × String)) (unknown : names.lookup pair.1.ns = none) :
    unknownSources names (pair :: rest) = pair.1.ns :: unknownSources names rest := by
  rw [unknownSources, List.filter_cons_of_pos (by simp [unknown]), List.map_cons, unknownSources]

theorem min?_eq_of_perm {l₁ l₂ : List Int} (perm : l₁.Perm l₂) : l₁.min? = l₂.min? := by
  cases least : l₂.min? with
  | none =>
    rw [List.min?_eq_none_iff] at least ⊢
    exact (least ▸ perm).eq_nil
  | some n =>
    rw [List.min?_eq_some_iff] at least ⊢
    exact ⟨perm.mem_iff.2 least.1, fun b member => least.2 b (perm.mem_iff.1 member)⟩

theorem stopOf_perm (names : NamespaceMap) {l₁ l₂ : List (SourcePage × String)} (perm : l₁.Perm l₂) :
    stopOf names l₁ = stopOf names l₂ :=
  min?_eq_of_perm ((perm.filter _).map _)

theorem writtenPairs_perm (names : NamespaceMap) {l₁ l₂ : List (SourcePage × String)}
    (perm : l₁.Perm l₂) : (writtenPairs names l₁).Perm (writtenPairs names l₂) := by
  rw [writtenPairs, writtenPairs, stopOf_perm names perm]
  exact perm.filter _

theorem writeLines_cons_line {names : NamespaceMap} {pair : SourcePage × String} {line : String}
    (rest : List (SourcePage × String)) (out : String) (read : lineOf names pair = some line) :
    writeLines names (pair :: rest) out = writeLines names rest (out ++ line) := by
  obtain ⟨source, titled, rfl⟩ := Option.map_eq_some_iff.1 read
  simp only [writeLines, titled, String.append_assoc]

theorem writeLines_cons_unknown {names : NamespaceMap} {pair : SourcePage × String}
    (rest : List (SourcePage × String)) (out : String) (unknown : names.lookup pair.1.ns = none) :
    writeLines names (pair :: rest) out = (out, some (.unknownNamespace pair.1.ns)) := by
  have unread : names.readableTitle pair.1.ns pair.1.title = none := by
    simp [NamespaceMap.readableTitle, unknown]
  simp only [writeLines, unread]

section

variable {names : NamespaceMap} {pair : SourcePage × String} {rest : List (SourcePage × String)}

theorem stopOf_cons_unknown (later : ∀ other ∈ rest, pair.1 ≤ other.1)
    (unknown : names.lookup pair.1.ns = none) : stopOf names (pair :: rest) = some pair.1.ns := by
  rw [stopOf, unknownSources_cons_unknown rest unknown, List.min?_eq_some_iff]
  refine ⟨List.mem_cons_self, fun n member => ?_⟩
  rcases List.mem_cons.1 member with rfl | member
  · exact Int.le_refl _
  · obtain ⟨other, mem, _, rfl⟩ := mem_unknownSources.1 member
    exact SourcePage.ns_le_of_le (later other mem)

theorem writtenPairs_cons_unknown (later : ∀ other ∈ rest, pair.1 ≤ other.1)
    (unknown : names.lookup pair.1.ns = none) : writtenPairs names (pair :: rest) = [] := by
  rw [writtenPairs, stopOf_cons_unknown later unknown, List.filter_eq_nil_iff]
  intro other mem
  rcases List.mem_cons.1 mem with rfl | mem
  · simp
  · simpa using SourcePage.ns_le_of_le (later other mem)

theorem stopOf_cons_known (known : names.lookup pair.1.ns ≠ none) :
    stopOf names (pair :: rest) = stopOf names rest := by
  rw [stopOf, stopOf, unknownSources_cons_known rest known]

theorem writtenPairs_cons_known (later : ∀ other ∈ rest, pair.1 ≤ other.1)
    (known : names.lookup pair.1.ns ≠ none) :
    writtenPairs names (pair :: rest) = pair :: writtenPairs names rest := by
  have below : (stopOf names rest).all (pair.1.ns < ·) = true := by
    cases stop : stopOf names rest with
    | none => rfl
    | some n =>
      -- The stop is the namespace of a later source the wiki lacks, so it differs from this one's.
      obtain ⟨other, mem, unknown, rfl⟩ := mem_unknownSources.1 (List.min?_mem stop)
      have le := SourcePage.ns_le_of_le (later other mem)
      have differ : pair.1.ns ≠ other.1.ns := fun same => known (same ▸ unknown)
      simp only [Option.all_some, decide_eq_true_eq]
      omega
  rw [writtenPairs, stopOf_cons_known known, List.filter_cons_of_pos
    (p := fun other : SourcePage × String => (stopOf names rest).all (other.1.ns < ·)) below,
    writtenPairs]

end

/-- Writing pairs ordered by source: the lines of the pairs below the least unknown source
namespace, in order, and the error of that namespace. -/
theorem writeLines_ordered (names : NamespaceMap) :
    ∀ (pairs : List (SourcePage × String)) (out : String),
      pairs.Pairwise (fun a b => a.1 ≤ b.1) →
      ∃ lines : List String, (writtenPairs names pairs).map (lineOf names) = lines.map some ∧
        writeLines names pairs out =
          (out ++ String.join lines, (stopOf names pairs).map .unknownNamespace)
  | [], out, _ => ⟨[], rfl, by simp [writeLines, stopOf, unknownSources]⟩
  | pair :: rest, out, ordered => by
    have later : ∀ other ∈ rest, pair.1 ≤ other.1 := (List.pairwise_cons.1 ordered).1
    cases known : names.lookup pair.1.ns with
    | none =>
      -- The first source cannot be read: the report stops before its line.
      refine ⟨[], by rw [writtenPairs_cons_unknown later known]; rfl, ?_⟩
      rw [writeLines_cons_unknown rest out known, stopOf_cons_unknown later known]
      simp
    | some found =>
      -- The first source is read: its line comes first, and the rest stops where it would alone.
      have readable : names.lookup pair.1.ns ≠ none := by simp [known]
      obtain ⟨line, read⟩ : ∃ line, lineOf names pair = some line :=
        Option.ne_none_iff_exists'.1 (mt lineOf_eq_none_iff.1 readable)
      obtain ⟨lines, shown, written⟩ :=
        writeLines_ordered names rest (out ++ line) (List.pairwise_cons.1 ordered).2
      refine ⟨line :: lines, ?_, ?_⟩
      · rw [writtenPairs_cons_known later readable, List.map_cons, shown, read, List.map_cons]
      · rw [writeLines_cons_line rest out read, written, stopOf_cons_known readable, String.join_cons,
          String.append_assoc]

/-! ## The report -/

/-- What a report of the pairs `joined` writes as `listing`: the pairs below the least source
namespace the wiki lacks, ordered by source, one line each; their number when there is no such
namespace, and else zero and that namespace's error. -/
def WritesReport (names : NamespaceMap) (joined : List (SourcePage × String))
    (listing : RedirectListing) : Prop :=
  ∃ (written : List (SourcePage × String)) (lines : List String),
    written.Perm (writtenPairs names joined) ∧
      written.Pairwise (fun a b => a.1 ≤ b.1) ∧
      written.map (lineOf names) = lines.map some ∧
      listing.output = String.join lines ∧
      listing.count = (if (stopOf names joined).isNone then lines.length else 0) ∧
      listing.error = (stopOf names joined).map .unknownNamespace

theorem reportPairs_writes (names : NamespaceMap) (joined : List (SourcePage × String)) :
    WritesReport names joined (reportPairs names joined) := by
  -- The listing writes the pairs sorted by source, up to the first unknown namespace.
  have perm := List.mergeSort_perm joined fun a b => !sourceBefore b a
  have ordered := sortedPairs_ordered joined
  simp only [reportPairs]
  generalize joined.mergeSort (fun a b => !sourceBefore b a) = sorted at perm ordered ⊢
  obtain ⟨lines, shown, written⟩ := writeLines_ordered names sorted "" ordered
  have counted : (writtenPairs names sorted).length = lines.length := by
    simpa using congrArg List.length shown
  rw [written, stopOf_perm names perm, String.empty_append]
  cases stop : stopOf names joined with
  | none =>
    -- Every source namespace is known: every pair is written, and counted.
    have everything : writtenPairs names sorted = sorted := by
      rw [writtenPairs, stopOf_perm names perm, stop]
      exact List.filter_eq_self.2 fun _ _ => rfl
    refine ⟨writtenPairs names sorted, lines, writtenPairs_perm names perm, ordered.filter _, shown,
      rfl, ?_, by rw [stop]; rfl⟩
    rw [stop, ← counted, everything]
    rfl
  | some n =>
    exact ⟨writtenPairs names sorted, lines, writtenPairs_perm names perm, ordered.filter _, shown,
      rfl, by rw [stop]; rfl, by rw [stop]; rfl⟩

theorem listRedirects_pageDump {pageData : ByteArray} (redirectData : ByteArray)
    (namespaces : List Int) (names : NamespaceMap) {e : ScanError}
    (failed : (Scan.whole pageData Tables.pages.decoder).collect.2 = some e) :
    listRedirects pageData redirectData namespaces names = ⟨"", 0, some (.pageDump e)⟩ := by
  obtain ⟨⟨pages, pageEnd⟩, pageScan⟩ :
      ∃ read, (Scan.whole pageData Tables.pages.decoder).collect = read := ⟨_, rfl⟩
  rw [pageScan] at failed
  obtain rfl : pageEnd = some e := failed
  simp only [listRedirects, pageScan]

theorem listRedirects_redirectDump {pageData redirectData : ByteArray} (namespaces : List Int)
    (names : NamespaceMap) {e : ScanError}
    (pagesWhole : (Scan.whole pageData Tables.pages.decoder).collect.2 = none)
    (failed : (Scan.whole redirectData Tables.redirects.decoder).collect.2 = some e) :
    listRedirects pageData redirectData namespaces names = ⟨"", 0, some (.redirectDump e)⟩ := by
  obtain ⟨⟨pages, pageEnd⟩, pageScan⟩ :
      ∃ read, (Scan.whole pageData Tables.pages.decoder).collect = read := ⟨_, rfl⟩
  obtain ⟨⟨rows, redirectEnd⟩, redirectScan⟩ :
      ∃ read, (Scan.whole redirectData Tables.redirects.decoder).collect = read := ⟨_, rfl⟩
  rw [pageScan] at pagesWhole
  rw [redirectScan] at failed
  obtain rfl : pageEnd = none := pagesWhole
  obtain rfl : redirectEnd = some e := failed
  simp only [listRedirects, pageScan, redirectScan]

theorem listRedirects_whole {pageData redirectData : ByteArray} (namespaces : List Int)
    (names : NamespaceMap)
    (pagesWhole : (Scan.whole pageData Tables.pages.decoder).collect.2 = none)
    (redirectsWhole : (Scan.whole redirectData Tables.redirects.decoder).collect.2 = none) :
    listRedirects pageData redirectData namespaces names =
      reportPairs names (joinedPairs (Scan.whole pageData Tables.pages.decoder).collect.1
        (Scan.whole redirectData Tables.redirects.decoder).collect.1 namespaces names) := by
  obtain ⟨⟨pages, pageEnd⟩, pageScan⟩ :
      ∃ read, (Scan.whole pageData Tables.pages.decoder).collect = read := ⟨_, rfl⟩
  obtain ⟨⟨rows, redirectEnd⟩, redirectScan⟩ :
      ∃ read, (Scan.whole redirectData Tables.redirects.decoder).collect = read := ⟨_, rfl⟩
  rw [pageScan] at pagesWhole ⊢
  rw [redirectScan] at redirectsWhole ⊢
  obtain rfl : pageEnd = none := pagesWhole
  obtain rfl : redirectEnd = none := redirectsWhole
  simp only [listRedirects, pageScan, redirectScan, joinedPairs, sourcePages_lookup]

/-- What listing the redirects of two dumps gives: a failing dump stops it with nothing written,
and two dumps read whole give the report of their joined pairs. -/
def ReportsRedirects (pageData redirectData : ByteArray) (namespaces : List Int)
    (names : NamespaceMap) (listing : RedirectListing) : Prop :=
  let pages := (Scan.whole pageData Tables.pages.decoder).collect
  let redirects := (Scan.whole redirectData Tables.redirects.decoder).collect
  (∀ e, pages.2 = some e → listing = ⟨"", 0, some (.pageDump e)⟩) ∧
    (pages.2 = none → ∀ e, redirects.2 = some e → listing = ⟨"", 0, some (.redirectDump e)⟩) ∧
    (pages.2 = none → redirects.2 = none →
      WritesReport names (joinedPairs pages.1 redirects.1 namespaces names) listing)

theorem report_writes_sorted_join (pageData redirectData : ByteArray) (namespaces : List Int)
    (names : NamespaceMap) :
    ReportsRedirects pageData redirectData namespaces names
      (listRedirects pageData redirectData namespaces names) := by
  refine ⟨fun e failed => ?_, fun pagesWhole e failed => ?_, fun pagesWhole redirectsWhole => ?_⟩
  · exact listRedirects_pageDump redirectData namespaces names failed
  · exact listRedirects_redirectDump namespaces names pagesWhole failed
  · rw [listRedirects_whole namespaces names pagesWhole redirectsWhole]
    exact reportPairs_writes names _

/-- A redirect page in namespace 99, which the wiki lacks, sorts after the redirect page `Alpha`
of namespace 0: the report has written `Alpha`'s line when it stops with the error, and it counts
zero lines. -/
theorem unknown_source_after_written_line :
    let listing := listRedirects
      ("INSERT INTO page VALUES " ++
        "(1,0,'Alpha',1,0,0.1,'20240101000000',NULL,11,20,'wikitext',NULL)," ++
        "(2,99,'Zeta',1,0,0.2,'20240101000000',NULL,12,20,'wikitext',NULL);").toUTF8
      "INSERT INTO redirect VALUES (1,0,'Beta','',''),(2,0,'Gamma','','');".toUTF8
      [0, 99] ⟨[⟨0, "", ""⟩]⟩
    listing.output = "Alpha\tBeta\n" ∧ listing.count = 0 ∧
      listing.error.map RedirectError.message = some "unknown namespace: 99" := by
  simp only []
  -- Both dumps are read whole, and their pairs, Alpha's and then Zeta's, come sorted already.
  have read :
      let pages := (Scan.whole ("INSERT INTO page VALUES " ++
        "(1,0,'Alpha',1,0,0.1,'20240101000000',NULL,11,20,'wikitext',NULL)," ++
        "(2,99,'Zeta',1,0,0.2,'20240101000000',NULL,12,20,'wikitext',NULL);").toUTF8
        Tables.pages.decoder).collect
      let redirects := (Scan.whole
        "INSERT INTO redirect VALUES (1,0,'Beta','',''),(2,0,'Gamma','','');".toUTF8
        Tables.redirects.decoder).collect
      pages.2 = none ∧ redirects.2 = none ∧
        joinedPairs pages.1 redirects.1 [0, 99] ⟨[⟨0, "", ""⟩]⟩ =
          [(⟨0, "Alpha"⟩, "Beta"), (⟨99, "Zeta"⟩, "Gamma")] := by
    decide +kernel
  rw [listRedirects_whole _ _ read.1 read.2.1, read.2.2, reportPairs,
    List.mergeSort_of_pairwise (by decide)]
  decide +kernel

end Site

end WikiDump

