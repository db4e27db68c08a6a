import Highlight.Command.Arguments
import Highlight.Command.Job
import Highlight.Fsd
import Highlight.Log
import Highlight.Log.Filter
import Highlight.Report.Json

/-! # The command

`Command.run` is the program as a function of its surroundings: its arguments, the files that can
be read, its standard input, the filter for its log, and the engine that reads patterns.
-/

namespace Highlight.Command

structure Surroundings where
  file : String → Except Unreadable String
  stdin : Except Unreadable String
  logFilter : Option String
  terminal : Bool
  elapsed : Elapsed
  engine : Engine := .standard
  builtIn : Grammar.build Fsd.declaration Grammar.usualDepthLimit engine = .ok Fsd.grammar := by
    exact Fsd.build_declaration

structure Result where
  exitCode : Nat
  output : String
  errors : List String
deriving DecidableEq, Repr

def stdinName : String := "<stdin>"

namespace Surroundings

def read (w : Surroundings) (path : String) : Except Failure String :=
  (w.file path).mapError (.unreadable path)

/-- The text to tokenize and its name. An empty standard input is no input. -/
def input (w : Surroundings) (file : Option String) : Except Failure (String × String) :=
  match file with
  | some path => do return (path, ← w.read path)
  | none => do
    let text ← w.stdin.mapError (.unreadable stdinName)
    if text.isEmpty then .error .noInput else return (stdinName, text)

def declaration (w : Surroundings) (path : String) : Except Failure Declaration := do
  let text ← w.read path
  (Grammar.readDeclaration text).mapError (.badGrammar path)

def custom (w : Surroundings) (r : Request) : Except Failure (Option (String × Declaration)) :=
  r.grammar.mapM fun path => do return (path, ← w.declaration path)

def build (w : Surroundings) (d : Declaration) : Except GrammarError Grammar :=
  Grammar.build d Grammar.usualDepthLimit w.engine

def grammar (w : Surroundings) (custom : Option (String × Declaration)) :
    Except Failure Grammar :=
  match custom with
  | none => .ok Fsd.grammar
  | some (path, d) => (w.build d).mapError (.badGrammar path)

end Surroundings

def report (w : Surroundings) (r : Request) (source text : String) (g : Grammar) : Job Unit :=
  let run := g.run text
  let stats := r.has .stats
  if r.has .json then
    .printJson (Report.datum text g run stats w.elapsed)
  else
    let colored := r.has .color || (!r.has .noColor && w.terminal)
    .print (Report.text source text g run colored stats w.elapsed)

def tokenize (w : Surroundings) (r : Request) (g : Grammar) : Job Unit := do
  .log [Log.grammarBuilt g]
  let (source, text) ← .attempt (w.input r.file)
  .log (Log.tokenizing source text g :: Log.ofRun g text)
  report w r source text g

def perform (w : Surroundings) (r : Request) : Job Unit := do
  let custom ← .attempt (w.custom r)
  if r.has .dumpGrammar then
    .printJson ((custom.map (·.2)).getD Fsd.declaration).datum
  else
    let g ← .attempt (w.grammar custom)
    tokenize w r g

def errorLine (message : String) : String :=
  "error: " ++ message

/-- The lines of the log that the filter shows, what was written, and how the job ended. -/
def finish (filter : Log.Filter) (job : Job Unit) : Result :=
  let log := (job.events.filter filter.shows).map Log.Event.render
  match job.result with
  | .ok () => ⟨0, job.output, log⟩
  | .error f => ⟨f.exitCode, job.output, log ++ [errorLine f.message]⟩

def versionText : String := "fsdlex 0.1.0\n"

def helpText : String :=
  "A Monarch-style, stack-based syntax highlighting tokenizer for FSD service definitions, " ++
  "driven by declarative grammars of regex rules, includes and push/pop states.\n" ++
  "\n" ++
  "Usage: fsdlex [OPTIONS] [FILE]\n" ++
  "\n" ++
  "Arguments:\n" ++
  "  [FILE]  File to tokenize. Reads stdin when omitted\n" ++
  "\n" ++
  "Options:\n" ++
  "  -g, --grammar <GRAMMAR>  JSON grammar declaration to use instead of the built-in FSD grammar\n" ++
  "      --json               Print lines, spans and end states as JSON\n" ++
  "      --stats              Print run statistics\n" ++
  "      --dump-grammar       Print the grammar declaration as JSON and exit\n" ++
  "      --color              Force ANSI color output\n" ++
  "      --no-color           Disable ANSI color output\n" ++
  "  -v, --verbose            Enable debug logging\n" ++
  "  -h, --help               Print help\n" ++
  "  -V, --version            Print version\n"

def run (w : Surroundings) (args : List String) : Result :=
  match parse args with
  | .error e => ⟨2, "", [errorLine e.message]⟩
  | .ok .help => ⟨0, helpText, []⟩
  | .ok .version => ⟨0, versionText, []⟩
  | .ok (.request r) => finish (Log.Filter.choose w.logFilter (r.has .verbose)) (perform w r)

end Highlight.Command
