import WikiDump.Text.Quoted
import WikiDump.Text.Space
import WikiDump.Text.CaseMap
/-!
# Log lines

Progress is logged on the error stream as one line per event, either as `key=value` pairs or as
a JSON object. Every line starts with the time, the level and the message; the attributes of
the logger (the run identifier) follow, then those of the event, in order.

A line is written only when its level is at least the logger's level, in the order debug, info,
warn, error. Levels and layouts are named in configuration without regard to case or
surrounding white space; an empty name means info, or the text layout.

In the `key=value` layout a text is written as it is unless it is empty or holds a blank, `=`,
`"`, a control character, other white space, a character that is not printable or the
replacement character; then it is quoted. In the JSON layout a text is escaped with `\"`,
`\\`, `\n`, `\r`, `\t`, `\u00XX` for other control characters, and the line
and paragraph separators as `\u2028` and `\u2029`.
-/

namespace WikiDump

namespace Log

/-- The severity of a line. -/
inductive Level where
  | debug
  | info
  | warn
  | error
  deriving Inhabited, BEq, Repr

namespace Level

def rank : Level → Nat
  | .debug => 0
  | .info => 1
  | .warn => 2
  | .error => 3

def name : Level → String
  | .debug => "DEBUG"
  | .info => "INFO"
  | .warn => "WARN"
  | .error => "ERROR"

def parse (s : String) : Except String Level :=
  match CaseMap.lowerText (Space.trim s) with
  | "debug" => .ok .debug
  | "info" | "" => .ok .info
  | "warn" | "warning" => .ok .warn
  | "error" => .ok .error
  | _ => .error ("unknown log level " ++ Quoted.ofString s)

end Level

/-- How a line is laid out. -/
inductive Layout where
  /-- `key=value` pairs separated by blanks. -/
  | text
  /-- One JSON object. -/
  | json
  deriving Inhabited, BEq, Repr

def Layout.rank : Layout → Nat
  | .text => 0
  | .json => 1

def Layout.parse (s : String) : Except String Layout :=
  match CaseMap.lowerText (Space.trim s) with
  | "text" | "" => .ok .text
  | "json" => .ok .json
  | _ => .error ("unknown log format " ++ Quoted.ofString s)

/-- The value of an attribute. -/
inductive Value where
  | text (s : String)
  | int (n : Int)
  | flag (b : Bool)
  deriving Inhabited, BEq

abbrev Attr := String × Value

def needsQuoting (s : String) : Bool :=
  s.isEmpty || s.any fun c =>
    if c.toNat < 0x80 then c = ' ' || c = '=' || c = '"' || c.toNat < 0x20
    else c.toNat = 0xFFFD || Space.isSpace c || !Printable.isPrintable c

def plainText (s : String) : String := if needsQuoting s then Quoted.ofString s else s

def escapeChar (c : Char) : String :=
  if c = '"' then "\\\""
  else if c = '\\' then "\\\\"
  else if c = '\n' then "\\n"
  else if c = '\r' then "\\r"
  else if c = '\t' then "\\t"
  else if c.toNat < 0x20 then "\\u00" ++ Quoted.hexPadded 2 c.toNat
  else if c.toNat = 0x2028 then "\\u2028"
  else if c.toNat = 0x2029 then "\\u2029"
  else c.toString

def jsonText (s : String) : String := s.foldl (fun acc c => acc ++ escapeChar c) "\"" ++ "\""

/-- A value in a layout. -/
def Value.render : Layout → Value → String
  | .text, .text s => plainText s
  | .json, .text s => jsonText s
  | _, .int n => toString n
  | _, .flag b => if b then "true" else "false"

def renderAttr (layout : Layout) (a : Attr) : String :=
  match layout with
  | .text => " " ++ plainText a.1 ++ "=" ++ a.2.render .text
  | .json => "," ++ jsonText a.1 ++ ":" ++ a.2.render .json

/-- Something worth a line: its level, message and attributes. -/
structure Event where
  level : Level
  message : String
  attrs : List Attr
  deriving Inhabited

/-- Where lines go and which are kept: the least level written, the layout, and the attributes
every line carries. -/
structure Logger where
  level : Level
  layout : Layout
  context : List Attr := []
  deriving Inhabited

namespace Logger

def withAttr (lg : Logger) (a : Attr) : Logger := { lg with context := lg.context ++ [a] }

def line (lg : Logger) (now : String) (e : Event) : String :=
  if e.level.rank < lg.level.rank then ""
  else
    let attrs := String.join ((lg.context ++ e.attrs).map (renderAttr lg.layout))
    match lg.layout with
    | .text =>
      "time=" ++ plainText now ++ " level=" ++ e.level.name ++ " msg=" ++ plainText e.message ++
        attrs ++ "\n"
    | .json =>
      "\x7b\"time\":" ++ jsonText now ++ ",\"level\":" ++ jsonText e.level.name ++ ",\"msg\":" ++
        jsonText e.message ++ attrs ++ "\x7d\n"

end Logger

namespace Event

def fileOpened (path compression : String) (size : Nat) (mapped : Bool) : Event :=
  ⟨.debug, "file_opened",
    [("path", .text path), ("compression", .text compression), ("bytes", .int size),
      ("mapped", .flag mapped)]⟩

def scanStarted (table path : String) (workers : Int) : Event :=
  ⟨.info, "scan_started", [("table", .text table), ("path", .text path), ("workers", .int workers)]⟩

def scanFinished (table : String) (rows : Nat) (elapsed : Value) (more : List Attr) : Event :=
  ⟨.info, "scan_finished",
    [("table", .text table), ("rows", .int rows), ("duration_ms", elapsed)] ++ more⟩

def scanFailed (table message : String) (more : List Attr) : Event :=
  ⟨.error, "scan_failed", [("table", .text table), ("error", .text message)] ++ more⟩

end Event

end Log

end WikiDump

