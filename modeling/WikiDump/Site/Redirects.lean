import WikiDump.Site.Namespaces
import WikiDump.Schema.Tables
/-!
# Redirects with their targets

A page dump and a redirect dump are joined on the page number: every redirect page of the chosen
namespaces that has a redirect row gives one line, the readable source title and the readable
target, separated by a tab. Lines are ordered by source namespace and then title.

A target on another wiki (a non-empty interwiki prefix) reads as the prefix, a colon and the
title, since its namespaces are not known here; a target in a namespace the wiki does not have
reads as `{n}:` and the title. A non-empty fragment is added after `#`.

A failing dump stops the join before anything is written. A source in a namespace the wiki does
not have stops the writing at its line.
-/

namespace WikiDump

namespace Site

/-- Reads the namespace numbers given on a command line; each must be a decimal integer that
fits 32 bits. The numbers come out in increasing order, each once. -/
def parseNamespaceArgs (args : List String) : Except String (List Int) :=
  let read := fun (arg : String) =>
    match Numeral.readInt arg 32 with
    | .error e => Except.error ("namespace " ++ Quoted.ofString arg ++ ": " ++ e.message)
    | .ok n => .ok n
  (args.mapM read).map fun ns => (ns.eraseDups).mergeSort (fun a b => decide (a ≤ b))

def fieldInt : Datum → Int
  | .int _ n => n
  | _ => 0

def fieldText? : Datum → Option String
  | .text _ s => some s
  | _ => none

def fieldTrue : Datum → Bool
  | .bool b => b
  | _ => false

/-- A redirect page kept for the join. -/
structure SourcePage where
  ns : Int
  title : String
  deriving Inhabited, DecidableEq

/-- Why listing redirects stopped. -/
inductive RedirectError where
  | pageDump (e : ScanError)
  | redirectDump (e : ScanError)
  | unknownNamespace (id : Int)
  deriving Inhabited

def RedirectError.message : RedirectError → String
  | .pageDump e => "page dump: " ++ e.message
  | .redirectDump e => "redirect dump: " ++ e.message
  | .unknownNamespace id => Site.unknownNamespace id

/-- What listing redirects wrote: the lines, their number (zero when it stopped), and why it
stopped, if it did. -/
structure RedirectListing where
  output : String
  count : Nat
  error : Option RedirectError
  deriving Inhabited

def rowId (row : WikiDump.Row) : Int := (row[0]?.map fieldInt).getD 0

def SourcePage.ofRow (row : WikiDump.Row) : SourcePage :=
  ⟨(row[1]?.map fieldInt).getD 0, ((row[2]?).bind fieldText?).getD ""⟩

def isSourceIn (namespaces : List Int) (row : WikiDump.Row) : Bool :=
  (row[3]?.map fieldTrue).getD false && namespaces.contains (SourcePage.ofRow row).ns

/-- Keeps a redirect page of the chosen namespaces under its number, in place of an earlier page
of that number. -/
def addSource (namespaces : List Int) (acc : List (Int × SourcePage)) (row : WikiDump.Row) :
    List (Int × SourcePage) :=
  if isSourceIn namespaces row then (rowId row, .ofRow row) :: acc.filter (·.1 != rowId row) else acc

/-- The redirect pages of a page dump in the chosen namespaces, by page number; a later page of
the same number replaces an earlier one. -/
def sourcePages (pages : List WikiDump.Row) (namespaces : List Int) : List (Int × SourcePage) :=
  pages.foldl (addSource namespaces) []

def redirectTarget (names : NamespaceMap) (row : WikiDump.Row) : String :=
  let ns := (row[1]?.map fieldInt).getD 0
  let title := ((row[2]?).bind fieldText?).getD ""
  let interwiki := (row[3]?).bind fieldText?
  let fragment := (row[4]?).bind fieldText?
  let target :=
    match interwiki with
    | some iw => if iw.isEmpty then none else some (iw ++ ":" ++ Title.readable title)
    | none => none
  let target := target.getD <|
    (names.readableTitle ns title).getD ("\x7b" ++ toString ns ++ "\x7d:" ++ Title.readable title)
  match fragment with
  | some f => if f.isEmpty then target else target ++ "#" ++ f
  | none => target

def sourceBefore (a b : SourcePage × String) : Bool :=
  if a.1.ns != b.1.ns then a.1.ns < b.1.ns else a.1.title < b.1.title

def writeLines (names : NamespaceMap) : List (SourcePage × String) → String → String × Option RedirectError
  | [], out => (out, none)
  | (src, target) :: rest, out =>
    match names.readableTitle src.ns src.title with
    | none => (out, some (.unknownNamespace src.ns))
    | some source => writeLines names rest (out ++ source ++ "\t" ++ target ++ "\n")

/-- Lists pairs of a source and a target: sorted by source, written until a source cannot be read,
and counted when all are written. -/
def reportPairs (names : NamespaceMap) (pairs : List (SourcePage × String)) : RedirectListing :=
  let sorted := pairs.mergeSort (fun a b => !sourceBefore b a)
  match writeLines names sorted "" with
  | (out, some e) => ⟨out, 0, some e⟩
  | (out, none) => ⟨out, sorted.length, none⟩

def listRedirects (pageData redirectData : ByteArray) (namespaces : List Int) (names : NamespaceMap) :
    RedirectListing :=
  match (Scan.whole pageData Tables.pages.decoder).collect with
  | (_, some e) => ⟨"", 0, some (.pageDump e)⟩
  | (pages, none) =>
    let sources := sourcePages pages namespaces
    match (Scan.whole redirectData Tables.redirects.decoder).collect with
    | (_, some e) => ⟨"", 0, some (.redirectDump e)⟩
    | (rows, none) =>
      reportPairs names (rows.filterMap fun row =>
        (sources.lookup (rowId row)).map fun page => (page, redirectTarget names row))

end Site

end WikiDump

