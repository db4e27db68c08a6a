import Highlight.Text.ControlSequence

/-! # Arguments of the command line

Arguments are taken from left to right. A value is only stored when the next argument, or the end,
shows that it is complete; so a missing value is noticed there.
-/

namespace Highlight.Command

inductive Switch where
  | json
  | stats
  | dumpGrammar
  | color
  | noColor
  | verbose
deriving DecidableEq, Repr

def Switch.name : Switch → String
  | .json => "--json"
  | .stats => "--stats"
  | .dumpGrammar => "--dump-grammar"
  | .color => "--color"
  | .noColor => "--no-color"
  | .verbose => "--verbose"

/-- What was asked for. Switches are in the order in which they were given. -/
structure Request where
  file : Option String := none
  grammar : Option String := none
  switches : List Switch := []
deriving DecidableEq, Repr

def Request.has (r : Request) (s : Switch) : Bool := r.switches.contains s

inductive Named where
  | switch (s : Switch)
  | grammar
  | file
  | help
  | version
deriving DecidableEq, Repr

def Named.show : Named → String
  | .switch s => s.name
  | .grammar => "--grammar <GRAMMAR>"
  | .file => "[FILE]"
  | .help => "--help"
  | .version => "--version"

inductive UsageError where
  | unexpected (argument : String)
  | missingValue (of : Named)
  | repeated (of : Named)
  | needlessValue (value : String) (of : Named)
  | conflict (first second : Switch)
deriving DecidableEq, Repr

/-- The wording of an error. Arguments are quoted without the control sequences in them. -/
def UsageError.message : UsageError → String
  | .unexpected argument =>
    "unexpected argument '" ++ Text.ControlSequence.plain argument ++ "' found"
  | .missingValue of => "a value is required for '" ++ of.show ++ "' but none was supplied"
  | .repeated of => "the argument '" ++ of.show ++ "' cannot be used multiple times"
  | .needlessValue value of =>
    "unexpected value '" ++ Text.ControlSequence.plain value ++ "' for '" ++ of.show ++
      "' found; no more were expected"
  | .conflict first second =>
    "the argument '" ++ first.name ++ "' cannot be used with '" ++ second.name ++ "'"

inductive Invocation where
  | help
  | version
  | request (r : Request)
deriving DecidableEq, Repr

inductive Waiting where
  | nothing
  | grammar (value : Option String)
  | file (value : String)

structure Parse where
  request : Request := {}
  waiting : Waiting := .nothing
  hasFile : Bool := false
  ended : Bool := false

/-- Either the arguments are settled by help or version, or the parse goes on. -/
abbrev Progress := Except UsageError (Invocation ⊕ Parse)

namespace Parse

def storeGrammar (p : Parse) (value : String) : Except UsageError Parse :=
  if p.request.grammar.isSome then .error (.repeated .grammar)
  else if value.isEmpty then .error (.missingValue .grammar)
  else .ok { p with request := { p.request with grammar := some value } }

def settle (p : Parse) : Except UsageError Parse :=
  let q := { p with waiting := .nothing }
  match p.waiting with
  | .nothing => .ok q
  | .grammar none => .error (.missingValue .grammar)
  | .grammar (some value) => q.storeGrammar value
  | .file value =>
    if value.isEmpty then .error (.missingValue .file)
    else .ok { q with request := { q.request with file := some value } }

def option? : List Char → Option Named
  | ['g'] => some .grammar
  | ['v'] => some (.switch .verbose)
  | ['h'] => some .help
  | ['V'] => some .version
  | name =>
    match String.ofList name with
    | "grammar" => some .grammar
    | "json" => some (.switch .json)
    | "stats" => some (.switch .stats)
    | "dump-grammar" => some (.switch .dumpGrammar)
    | "color" => some (.switch .color)
    | "no-color" => some (.switch .noColor)
    | "verbose" => some (.switch .verbose)
    | "help" => some .help
    | "version" => some .version
    | _ => none

def bare (p : Parse) : Named → Progress
  | .switch s => do
    let p ← p.settle
    if p.request.has s then .error (.repeated (.switch s))
    else
      let switches := p.request.switches ++ [s]
      .ok (.inr { p with request := { p.request with switches := switches } })
  | .grammar => do return .inr { (← p.settle) with waiting := .grammar none }
  | .help => do
    let _ ← p.settle
    return .inl .help
  | .version => do
    let _ ← p.settle
    return .inl .version
  | .file => .ok (.inr p)

def long (p : Parse) (cs : List Char) : Progress :=
  let name := cs.takeWhile (· != '=')
  match (if name.length = 1 then none else option? name) with
  | none => .error (.unexpected ("--" ++ String.ofList name))
  | some named =>
    match cs.drop name.length with
    | [] => p.bare named
    | _ :: value =>
      match named with
      | .grammar => do return .inr (← (← p.settle).storeGrammar (String.ofList value))
      | _ => .error (.needlessValue (String.ofList value) named)

/-- Options by their letters. The rest of the letters is the value of an option that takes one. -/
def short (p : Parse) : List Char → Progress
  | [] => .ok (.inr p)
  | c :: cs =>
    match option? [c] with
    | none => .error (.unexpected (String.ofList ['-', c]))
    | some .grammar =>
      match cs with
      | [] => p.bare .grammar
      | '=' :: value => do return .inr (← (← p.settle).storeGrammar (String.ofList value))
      | value => do return .inr (← (← p.settle).storeGrammar (String.ofList value))
    | some named => do
      match ← p.bare named with
      | .inl result => return .inl result
      | .inr p => p.short cs

def positional (p : Parse) (value : String) : Progress :=
  if p.hasFile then .error (.unexpected value)
  else do
    let p ← p.settle
    return .inr { p with waiting := .file value, hasFile := true }

def plain (p : Parse) (value : String) : Progress :=
  match p.waiting with
  | .grammar none => .ok (.inr { p with waiting := .grammar (some value) })
  | _ => p.positional value

def argument (p : Parse) (arg : String) : Progress :=
  if p.ended then p.positional arg
  else
    match arg.toList with
    | ['-', '-'] => .ok (.inr { p with ended := true })
    | '-' :: '-' :: cs => p.long cs
    | '-' :: c :: cs => p.short (c :: cs)
    | _ => p.plain arg

def checkConflicts (r : Request) : Except UsageError Request :=
  match r.switches.filter (fun s => s = .color ∨ s = .noColor) with
  | first :: second :: _ => .error (.conflict first second)
  | _ => .ok r

def arguments (p : Parse) : List String → Except UsageError Invocation
  | [] => do
    let p ← p.settle
    return .request (← checkConflicts p.request)
  | arg :: args => do
    match ← p.argument arg with
    | .inl result => return result
    | .inr p => p.arguments args

end Parse

def parse (args : List String) : Except UsageError Invocation :=
  ({} : Parse).arguments args

end Highlight.Command
