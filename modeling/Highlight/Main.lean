import Highlight.Command.Run

/-! # The program

The outer layer: it gathers the surroundings, runs the command and writes what it left.
-/

namespace Highlight

open Command

def decodeText (bytes : ByteArray) : Except Unreadable String :=
  match String.fromUTF8? bytes with
  | some s => .ok s
  | none => .error .notText

def unreadableOf : IO.Error → Unreadable
  | .noFileOrDirectory .. => .missing
  | .inappropriateType _ 20 _ => .notDirectory
  | .inappropriateType .. => .directory
  | e => .other (toString e)

def readFile (path : String) : IO (Except Unreadable String) := do
  try
    return decodeText (← IO.FS.readBinFile path)
  catch e =>
    return .error (unreadableOf e)

def readInput : IO (Except Unreadable String) := do
  try
    return decodeText (← (← IO.getStdin).readBinToEnd)
  catch e =>
    return .error (unreadableOf e)

def filesOf (args : List String) : List String :=
  match parse args with
  | .ok (.request r) => r.grammar.toList ++ r.file.toList
  | _ => []

def readsInput (args : List String) : Bool :=
  match parse args with
  | .ok (.request r) => r.file.isNone && !r.has .dumpGrammar
  | _ => false

/-- The run is timed once and reported with that time. -/
def timed (w : Surroundings) (args : List String) : IO Result := do
  let start ← IO.monoNanosNow
  let result := Command.run w args
  let stop ← if result.exitCode = 0 then IO.monoNanosNow else pure start
  return Command.run { w with elapsed := .ofNanos (stop - start) } args

end Highlight

open Highlight in
def main (args : List String) : IO UInt32 := do
  let files ← (filesOf args).mapM fun path => do return (path, ← readFile path)
  let stdin ← if readsInput args then readInput else pure (.ok "")
  let surroundings : Command.Surroundings := {
    file := fun path => (files.lookup path).getD (.error .missing)
    stdin := stdin
    logFilter := ← IO.getEnv "RUST_LOG"
    terminal := ← (← IO.getStdout).isTty
    elapsed := .ofNanos 0 }
  let result ← timed surroundings args
  let err ← IO.getStderr
  result.errors.forM fun line => err.putStrLn line
  let out ← IO.getStdout
  out.putStr result.output
  out.flush
  return result.exitCode.toUInt32
