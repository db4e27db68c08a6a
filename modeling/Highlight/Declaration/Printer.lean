import Highlight.Declaration.Basic
import Highlight.Json.Datum

/-! # Declarations as JSON

Fields stand in a fixed order. What has its default is left out where that is an empty list of
bracket pairs, no effect on the stack, or an absent part of a bracket.
-/

namespace Highlight

def Polarity.name : Polarity → String
  | .opening => "open"
  | .closing => "close"

def CaseTable.toJson (t : CaseTable) : Json :=
  .obj (t.entries.map fun (text, tag) => (text, .str tag))

def Outcome.toJson : Outcome → Json
  | .emit tag => .obj [("emit", .str tag)]
  | .cases table default => .obj [("cases", .obj [("table", table.toJson), ("default", .str default)])]
  | .bracket tag polarity =>
    .obj [("bracket", .ofMembers [("tag", tag.map .str), ("polarity", polarity.map (.str ·.name))])]
  | .groups tags => .obj [("groups", .arr (tags.map .str))]

def StackAction.toJson? : StackAction → Option Json
  | .stay => none
  | .push target => some (.obj [("push", .str target)])
  | .pop => some (.str "pop")
  | .switch target => some (.obj [("switch", .str target)])
  | .popAll => some (.str "popAll")

def RuleDeclaration.toJson (r : RuleDeclaration) : Json :=
  .ofMembers [("regex", some (.str r.pattern)), ("outcome", some r.outcome.toJson),
    ("action", r.action.toJson?)]

def Entry.toJson : Entry → Json
  | .include state => .obj [("include", .str state)]
  | .rule r => r.toJson

def StateDeclaration.toJson (s : StateDeclaration) : Json :=
  .obj [("name", .str s.name), ("rules", .arr (s.entries.map Entry.toJson))]

def BracketPair.toJson (b : BracketPair) : Json :=
  .obj [("open", .str b.opening), ("close", .str b.closing), ("token", .str b.tag)]

namespace Declaration

def toJson (d : Declaration) : Json :=
  .ofMembers [
    ("version", some (.ofNat d.version.toNat)),
    ("name", some (.str d.name)),
    ("root", some (.str d.root)),
    ("defaultToken", some (.str d.defaultTag)),
    ("ignoreCase", some (.bool d.ignoreCase)),
    ("tokenPostfix", some (.str d.tagEnding)),
    ("brackets", if d.brackets.isEmpty then none else some (.arr (d.brackets.map BracketPair.toJson))),
    ("states", some (.arr (d.states.map StateDeclaration.toJson)))]

def print (d : Declaration) : String :=
  d.toJson.pretty

end Declaration

open Json (Datum)

/-- Only a case table is a map, and its keys are texts. -/
def CaseTable.datum (t : CaseTable) : Datum :=
  .map (t.entries.map fun x => (.str x.1, .str x.2))

def Outcome.datum : Outcome → Datum
  | .cases table default =>
    .record [("cases", .record [("table", table.datum), ("default", .str default)])]
  | o => .ofJson o.toJson

def RuleDeclaration.datum (r : RuleDeclaration) : Datum :=
  .ofMembers [("regex", some (.str r.pattern)), ("outcome", some r.outcome.datum),
    ("action", r.action.toJson?.map .ofJson)]

def Entry.datum : Entry → Datum
  | .include state => .record [("include", .str state)]
  | .rule r => r.datum

def StateDeclaration.datum (s : StateDeclaration) : Datum :=
  .record [("name", .str s.name), ("rules", .list (s.entries.map Entry.datum))]

def Declaration.datum (d : Declaration) : Datum :=
  .ofMembers [
    ("version", some (.num (.natural d.version.toNat))),
    ("name", some (.str d.name)),
    ("root", some (.str d.root)),
    ("defaultToken", some (.str d.defaultTag)),
    ("ignoreCase", some (.bool d.ignoreCase)),
    ("tokenPostfix", some (.str d.tagEnding)),
    ("brackets", if d.brackets.isEmpty then none
      else some (.list (d.brackets.map fun b => .ofJson b.toJson))),
    ("states", some (.list (d.states.map StateDeclaration.datum)))]

end Highlight
