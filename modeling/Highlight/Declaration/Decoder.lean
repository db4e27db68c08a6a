import Highlight.Declaration.Basic
import Highlight.Json.Basic

/-! # Entries from JSON values

An entry is an include if it is an object with one text field of that name, whatever else it holds;
otherwise it has to be a rule. Objects with fixed fields may also be written as lists of these
fields in order. Fields of other names are ignored, and no field may occur twice.
-/

namespace Highlight

namespace Json

def text? : Json → Option String
  | .str s => some s
  | _ => none

def texts? : Json → Option (List String)
  | .arr items => items.mapM text?
  | _ => none

def optional? {α : Type} (decode : Json → Option α) : Option Json → Option (Option α)
  | none => some none
  | some .null => some none
  | some j => (decode j).map some

/-- The value of a field, if there is one; fails if there are several. -/
def field? (members : List (String × Json)) (name : String) : Option (Option Json) :=
  match members.filter (·.1 == name) with
  | [] => some none
  | [(_, j)] => some (some j)
  | _ => none

def required? (members : List (String × Json)) (name : String) : Option Json := do
  (← field? members name)

/-- A name, alone or as the key of null. -/
def name? : Json → Option String
  | .str s => some s
  | .obj [(s, .null)] => some s
  | _ => none

end Json

open Json

def Polarity.ofJson? (j : Json) : Option Polarity := do
  match ← j.name? with
  | "open" => some .opening
  | "close" => some .closing
  | _ => none

def CaseTable.ofJson? : Json → Option CaseTable
  | .obj members => do
    return .ofList (← members.mapM fun (text, j) => do return (text, ← j.text?))
  | _ => none

def Outcome.casesOfJson? : Json → Option Outcome
  | .obj members => do
    let table ← CaseTable.ofJson? (← required? members "table")
    let default ← (← required? members "default").text?
    return .cases table default
  | .arr [table, default] => do return .cases (← CaseTable.ofJson? table) (← default.text?)
  | _ => none

def Outcome.bracketOfJson? : Json → Option Outcome
  | .obj members => do
    let tag ← optional? text? (← field? members "tag")
    let polarity ← optional? Polarity.ofJson? (← field? members "polarity")
    return .bracket tag polarity
  | .arr [] => some .brackets
  | .arr [tag] => do return .bracket (← optional? text? (some tag)) none
  | .arr [tag, polarity] => do
    return .bracket (← optional? text? (some tag)) (← optional? Polarity.ofJson? (some polarity))
  | _ => none

def Outcome.ofJson? : Json → Option Outcome
  | .obj [("emit", j)] => j.text?.map .emit
  | .obj [("cases", j)] => casesOfJson? j
  | .obj [("bracket", j)] => bracketOfJson? j
  | .obj [("groups", j)] => j.texts?.map .groups
  | _ => none

def StackAction.ofJson? : Json → Option StackAction
  | .obj [("push", .str target)] => some (.push target)
  | .obj [("switch", .str target)] => some (.switch target)
  | j => do
    match ← j.name? with
    | "none" => some .stay
    | "pop" => some .pop
    | "popAll" => some .popAll
    | _ => none

def RuleDeclaration.ofJson? : Json → Option RuleDeclaration
  | .obj members => do
    let pattern ← (← required? members "regex").text?
    let outcome ← Outcome.ofJson? (← required? members "outcome")
    match ← field? members "action" with
    | none => return ⟨pattern, outcome, .stay⟩
    | some j => return ⟨pattern, outcome, ← StackAction.ofJson? j⟩
  | .arr [pattern, outcome] => do
    return ⟨← pattern.text?, ← Outcome.ofJson? outcome, .stay⟩
  | .arr [pattern, outcome, action] => do
    return ⟨← pattern.text?, ← Outcome.ofJson? outcome, ← StackAction.ofJson? action⟩
  | _ => none

def Entry.includeOfJson? : Json → Option Entry
  | .obj members => do return .include (← (← required? members "include").text?)
  | _ => none

def Entry.ofJson? (j : Json) : Option Entry :=
  (includeOfJson? j).orElse fun _ => (RuleDeclaration.ofJson? j).map .rule

end Highlight
