import WikiDump.Cli.Spec
import WikiDump.Text.EditDistance
import WikiDump.Text.CaseMap
/-!
# Reading a command line

A command line is read in two steps.

First the command is found. Starting at the root, the bare words of the command line are
collected, skipping every flag and the value that follows a flag which needs one; when the
first bare word names a command below the current one, that word is removed and the search goes
on from there. A bare word the root cannot place is an unknown command, reported with the
commands whose names are close to it (at most two edits away, or starting with it, in any
letter case) and a hint to ask for help.

Then the rest is read against the command's flags, the help flag included. `--` ends the flags;
`--name=value`, `--name value`, `-n value`, `-nvalue` and `-n=value` set a flag, and short
names may be grouped (`-hw2`). A boolean flag alone is set to true. A flag that is not known,
a value that is missing and a value that cannot be read are refused. When the help flag is set,
or the command only groups others, the command's help is asked for; otherwise its positional
arguments are checked against its rule.
-/

namespace WikiDump.Cli

/-- What a command line asks for. -/
inductive Request where
  /-- The help of the command at a path. -/
  | help (path : List String)
  /-- Running the command at a path with the flags set and the positional arguments. -/
  | run (path : List String) (flags : FlagSettings) (args : List String)
  deriving Inhabited

/-- A refused command line: why, and the command path whose help the refusal points to. -/
structure Refusal where
  message : String
  hint : Option String := none
  deriving Inhabited

def Refusal.hintLine (r : Refusal) : String :=
  match r.hint with
  | some path => "Run '" ++ path ++ " --help' for usage.\n"
  | none => ""

/-- Whether a word is a flag that takes the next word as its value: a long or a one-letter
flag with no `=` whose flag needs a value (an unknown flag counts as needing one). -/
def takesNextWord (known : List Flag) (s : String) : Bool :=
  if s.contains '=' then false
  else if s.startsWith "--" then
    match findLong known (s.drop 2).toString with
    | some f => !f.takesNoValue
    | none => true
  else if s.startsWith "-" && s.utf8ByteSize == 2 then
    match (s.drop 1).toString.toList with
    | c :: _ =>
      match findShort known c with
      | some f => !f.takesNoValue
      | none => true
    | [] => true
  else false

/-- The bare words of a command line: no flags, no flag values, nothing after `--`. A flag that
needs a value ends the words when at most one word follows it. -/
def bareWords (known : List Flag) : List String → List String
  | [] => []
  | s :: rest =>
    if s == "--" then []
    else if takesNextWord known s then
      match rest with
      | [] => []
      | _ :: more => bareWords known more
    else if !s.isEmpty && !s.startsWith "-" then s :: bareWords known rest
    else bareWords known rest

def withoutWord (known : List Flag) (x : String) : List String → List String
  | [] => []
  | s :: rest =>
    if s == "--" then s :: rest
    else if takesNextWord known s then
      match rest with
      | [] => [s]
      | v :: more => s :: v :: withoutWord known x more
    else if !s.startsWith "-" && s == x then rest
    else s :: withoutWord known x rest

namespace Program

def descend (p : Program) (path : List String) (args : List String) : Nat → List String × List String
  | 0 => (path, args)
  | fuel + 1 =>
    let known := p.knownFlags path
    match bareWords known args with
    | [] => (path, args)
    | next :: _ =>
      match p.child? path next with
      | some c => descend p c.path (withoutWord known next args) fuel
      | none => (path, args)

def suggestions (p : Program) (path : List String) (typed : String) : List String :=
  let t := CaseMap.lowerText typed
  ((p.children path).filter p.available).filterMap fun c =>
    let n := CaseMap.lowerText c.name
    if EditDistance.distance t.toUTF8.toList n.toUTF8.toList ≤ 2 || n.startsWith t then some c.name
    else none

/-- The command a command line names, and the words left for it. The root refuses a bare word
that names none of its commands. -/
def find (p : Program) (args : List String) : Except Refusal (List String × List String) :=
  let (path, rest) := p.descend [] args (args.length + 1)
  let c := p.command path
  let groups := !(p.children path).isEmpty
  match c.arity, bareWords (p.knownFlags path) rest with
  | .unchecked, w :: _ =>
    if path.isEmpty && groups then
      let hints := match p.suggestions path w with
        | [] => ""
        | ss => "\n\nDid you mean this?\n" ++ String.join (ss.map fun s => "\t" ++ s ++ "\n")
      .error ⟨"unknown command " ++ Quoted.ofString w ++ " for " ++ Quoted.ofString (p.commandPath path) ++
        hints, some (p.commandPath path)⟩
    else .ok (path, rest)
  | _, _ => .ok (path, rest)

end Program

def quoteChar (c : Char) : String :=
  if c = '\'' then "'\\''" else if c = '"' then "'\"'" else "'" ++ Quoted.escapeChar c ++ "'"

def leadChar (c : Char) : Char :=
  if c.toNat < 0x80 then c else Char.ofNat ((c.toString.toUTF8[0]?.getD 0).toNat)

def setFlag (f : Flag) (settings : FlagSettings) (value : String) : Except String FlagSettings := do
  let v ← f.read (settings.lookup f.name) value
  return settings.put f.name v

/-- Reads a group of short flags, `shorts`, with the words after it; the settings and the words
left. -/
def readShorts (flags : List Flag) (settings : FlagSettings) (rest : List String) :
    List Char → Except String (FlagSettings × List String)
  | [] => .ok (settings, rest)
  | c :: more =>
    let group := String.ofList (c :: more)
    if group.startsWith "test." then .ok (settings, rest)
    else
      match (if c.toNat < 0x80 then findShort flags c else none) with
      | none => .error ("unknown shorthand flag: " ++ quoteChar (leadChar c) ++ " in -" ++ group)
      | some f =>
        match more with
        | '=' :: value@(_ :: _) => do return (← setFlag f settings (String.ofList value), rest)
        | _ =>
          if f.takesNoValue then do readShorts flags (← setFlag f settings "true") rest more
          else if !more.isEmpty then do return (← setFlag f settings (String.ofList more), rest)
          else
            match rest with
            | v :: rest' => do return (← setFlag f settings v, rest')
            | [] => .error ("flag needs an argument: " ++ quoteChar c ++ " in -" ++ group)

def readLong (flags : List Flag) (settings : FlagSettings) (word : String) (rest : List String) :
    Except String (FlagSettings × List String) :=
  let body := (word.drop 2).toString
  if body.isEmpty || body.startsWith "-" || body.startsWith "=" then .error ("bad flag syntax: " ++ word)
  else
    let (name, value) := match body.splitOn "=" with
      | n :: v :: vs => (n, some ("=".intercalate (v :: vs)))
      | _ => (body, none)
    match findLong flags name with
    | none => .error ("unknown flag: --" ++ name)
    | some f =>
      match value with
      | some v => do return (← setFlag f settings v, rest)
      | none =>
        if f.takesNoValue then do return (← setFlag f settings "true", rest)
        else
          match rest with
          | v :: rest' => do return (← setFlag f settings v, rest')
          | [] => .error ("flag needs an argument: " ++ word)

def readFlags (flags : List Flag) : Nat → FlagSettings → List String → List String →
    Except String (FlagSettings × List String)
  | 0, settings, positional, _ => .ok (settings, positional)
  | _, settings, positional, [] => .ok (settings, positional)
  | fuel + 1, settings, positional, word :: rest =>
    if word == "--" then .ok (settings, positional ++ rest)
    else if word.length < 2 || !word.startsWith "-" then readFlags flags fuel settings (positional ++ [word]) rest
    else if word.startsWith "--" then do
      let (settings, rest) ← readLong flags settings word rest
      readFlags flags fuel settings positional rest
    else do
      let (settings, rest) ← readShorts flags settings rest (word.drop 1).toString.toList
      readFlags flags fuel settings positional rest

def checkArity (p : Program) (c : Command) (args : List String) : Except String Unit :=
  let n := args.length
  match c.arity with
  | .unchecked => .ok ()
  | .none =>
    match args with
    | a :: _ => .error ("unknown command " ++ Quoted.ofString a ++ " for " ++ Quoted.ofString (p.commandPath c.path))
    | [] => .ok ()
  | .exactly k =>
    if n == k then .ok () else .error ("accepts " ++ toString k ++ " arg(s), received " ++ toString n)
  | .between lo hi =>
    if lo ≤ n && n ≤ hi then .ok ()
    else .error ("accepts between " ++ toString lo ++ " and " ++ toString hi ++ " arg(s), received " ++ toString n)
  | .atLeast k =>
    if k ≤ n then .ok ()
    else .error ("requires at least " ++ toString k ++ " arg(s), only received " ++ toString n)

namespace Program

def request (p : Program) (args : List String) : Except Refusal Request := do
  let (path, rest) ← p.find args
  let c := p.command path
  let (settings, positional) ← (readFlags (p.allFlags path) (rest.length + 1) [] [] rest).mapError (⟨·, none⟩)
  if settings.lookup "help" == some (.bool true) || !c.runnable then return .help path
  (checkArity p c positional).mapError (⟨·, none⟩)
  return .run path settings positional

def missingFlags (p : Program) (path : List String) (settings : FlagSettings) : Option String :=
  let names := ((p.allFlags path).filter fun f => f.required && !settings.isSet f.name).map (·.name)
  match names.mergeSort (fun a b => decide (a ≤ b)) with
  | [] => none
  | ns => some ("required flag(s) \"" ++ "\", \"".intercalate ns ++ "\" not set")

/-- The first group of exclusive flags of which a command line set more than one, as a
refusal. -/
def exclusiveClash (p : Program) (path : List String) (settings : FlagSettings) : Option String :=
  let groups := ((p.command path).exclusive.map fun g => (" ".intercalate g, g)).mergeSort
    (fun a b => decide (a.1 ≤ b.1))
  groups.findSome? fun (key, g) =>
    match (g.filter settings.isSet).mergeSort (fun a b => decide (a ≤ b)) with
    | set@(_ :: _ :: _) =>
      some ("if any flags in the group [" ++ key ++ "] are set none of the others can be; [" ++
        " ".intercalate set ++ "] were all set")
    | _ => none

end Program

end WikiDump.Cli

