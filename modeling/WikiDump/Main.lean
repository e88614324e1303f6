import WikiDump.Command.Run
import Std.Time.Format
/-!
# The dumpscan command line

Reads the command line, the settings' environment variables, standard input when the command
reads it, and the files the command line names; runs the program; prints what it wrote; writes
back the databases it changed; and exits with its exit code.
-/

open WikiDump

/-- What a path holds on the file system, as entries of a disk: the file, a directory, a
stand-in file above it when a part of the path is a file, or nothing. -/
def loadEntry (path : String) : IO (List (String × Entry)) := do
  try
    let bytes ← IO.FS.readBinFile path
    return [(Disk.clean path, .file bytes)]
  catch e =>
    let why := toString e
    if (why.splitOn "s a directory").length > 1 then return [(Disk.clean path, .directory)]
    else if (why.splitOn "ot a directory").length > 1 then
      return [(Disk.root path ++ "/".intercalate (Disk.parts path).dropLast, .file .empty)]
    else return []

def loadPaths (paths : List String) (known : List (String × Entry)) : IO (List (String × Entry)) := do
  let mut out := known
  for p in paths do
    if p != "-" && !p.isEmpty && !(out.any (·.1 == Disk.clean p)) then
      out := out ++ (← loadEntry p)
  return out

def main (args : List String) : IO UInt32 := do
  let stdin ← if Command.readsInput args then (← IO.getStdin).readBinToEnd else pure .empty
  let first ← loadPaths (Command.pathsNamed args [] ⟨[]⟩) []
  let mut env := []
  for name in Command.environmentNamed args ⟨first⟩ do
    if let some v ← IO.getEnv name then env := env ++ [(name, v)]
  let entries ← loadPaths (Command.pathsNamed args env ⟨first⟩) first
  let now ← Std.Time.Timestamp.now
  let mut random := []
  for _ in List.range 16 do
    random := random ++ [(← IO.rand 0 255).toUInt8]
  let inv : Command.Invocation :=
    ⟨args, env, stdin, ⟨entries⟩, Command.timeStamp now.toSecondsSinceUnixEpoch.toInt.toNat,
      Command.runIdOf random, .int 0⟩
  let outcome ← if inv.reportsDuration then do
      let started ← IO.monoMsNow
      let trial := Command.run inv
      let finished ← if trial.exit == 0 || trial.exit != 0 then IO.monoMsNow else pure started
      pure (Command.run { inv with elapsed := .int (finished - started) })
    else pure (Command.run inv)
  let stdout ← IO.getStdout
  stdout.putStr outcome.stdout
  stdout.flush
  let stderr ← IO.getStderr
  stderr.putStr outcome.stderr
  stderr.flush
  for (path, entry) in outcome.disk.entries do
    match entry with
    | .database db => IO.FS.writeBinFile path db.encode
    | _ => pure ()
  return outcome.exit.toUInt32

