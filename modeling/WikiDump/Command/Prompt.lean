/-!
# Lines typed at a prompt

Input typed at a prompt is read one line at a time. A line ends at a line feed or a carriage
return. Ctrl-C interrupts the line being typed, and the read reports what was typed before it.
Ctrl-D on an empty line, a NUL character on an empty line, and the end of input end the input; a
line left unfinished at the end is read as a line first. Elsewhere Ctrl-D does nothing, a NUL
character ends the line, a tab is swallowed (there is nothing to complete), and backspace
removes the last character typed.
-/

namespace WikiDump.Command

/-- What one read at a prompt gives. -/
inductive LineRead where
  /-- A finished line. -/
  | line (text : String)
  /-- Ctrl-C, with the text typed before it on the line. -/
  | interrupted (text : String)
  deriving Inhabited, BEq

/-- The reads of some input, after `typed` (reversed) was typed on the current line; the reads
stop where the input ends. -/
def readsFrom (typed : List Char) : List Char → List LineRead
  | [] => if typed.isEmpty then [] else [.line (String.ofList typed.reverse)]
  | c :: rest =>
    if c = '\n' ∨ c = '\r' then .line (String.ofList typed.reverse) :: readsFrom [] rest
    else if c = '\x03' then .interrupted (String.ofList typed.reverse) :: readsFrom [] rest
    else if c = '\x04' then (if typed.isEmpty then [] else readsFrom typed rest)
    else if c = '\x00' then
      (if typed.isEmpty then [] else .line (String.ofList typed.reverse) :: readsFrom [] rest)
    else if c = '\t' then readsFrom typed rest
    else if c = '\x7f' ∨ c = '\x08' then readsFrom typed.tail rest
    else readsFrom (c :: typed) rest

def reads (input : String) : List LineRead := readsFrom [] input.toList

end WikiDump.Command

