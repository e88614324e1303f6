import WikiDump.Export.Encode
import WikiDump.Text.Quoted
/-!
# Writing rows as JSON

Rows are written one by one, each encoded as one JSON document followed by a line feed, indented
by two blanks per level when pretty output is asked for. In the `json` format the rows form one
array: the first row is preceded by `[`, every later row by `,`, each followed by a line feed
when pretty, and closing the writer ends the array with `]` (or writes `[]` when no row came).
Any other format writes the rows as JSON lines.

A row that cannot be encoded stops the writer. It still counts as written, and in the `json`
format its separator has already been written.
-/

namespace WikiDump

/-- How rows are laid out. -/
inductive Format where
  /-- One JSON array. -/
  | array
  /-- One document per line. -/
  | lines
  deriving BEq, Inhabited

def Format.ofName (name : String) : Format := if name = "json" then .array else .lines

def Format.parse (name : String) : Except String Format :=
  if name = "json" then .ok .array
  else if name = "jsonl" then .ok .lines
  else .error ("unsupported output format " ++ Quoted.ofString name ++ " (want json or jsonl)")

def encodeLine (pretty : Bool) (j : Json) : String :=
  (if pretty then j.renderIndented "" "  " 0 else j.render) ++ "\n"

/-- A writer of rows and the text written so far. -/
structure RowWriter where
  format : Format
  pretty : Bool
  written : Nat := 0
  out : String := ""
  deriving Inhabited

namespace RowWriter

/-- Writes one row, given as its JSON document or as the message of why it has none; the
message is returned as the error. -/
def write (w : RowWriter) (row : Except String Json) : RowWriter × Option String :=
  let sep :=
    if w.format == .array then
      (if w.written = 0 then "[" else ",") ++ (if w.pretty then "\n" else "")
    else ""
  let w := { w with out := w.out ++ sep, written := w.written + 1 }
  match row with
  | .error m => (w, some m)
  | .ok j => ({ w with out := w.out ++ encodeLine w.pretty j }, none)

def close (w : RowWriter) : RowWriter :=
  if w.format == .array then
    { w with out := w.out ++ (if w.written = 0 then "[]\n" else "]\n") }
  else w

def writeAll (w : RowWriter) : List (Except String Json) → RowWriter × Option String
  | [] => (w, none)
  | r :: rest =>
    match w.write r with
    | (w', some m) => (w', some m)
    | (w', none) => writeAll w' rest

end RowWriter

def writeArray (pretty : Bool) (items : List Json) : String := encodeLine pretty (.array items)

def writeLines (pretty : Bool) (items : List Json) : String :=
  String.join (items.map (encodeLine pretty))

end WikiDump

