import Highlight.Json.Basic

/-! # Values on their way to JSON

What is written is a value of records, lists and maps. JSON has only texts for keys, so a map can be
written if each of its keys is a text or is written as one.
-/

namespace Highlight.Json

inductive Datum where
  | null
  | bool (b : Bool)
  | num (n : Number)
  | str (s : String)
  | list (items : List Datum)
  | record (fields : List (String × Datum))
  | map (entries : List (Datum × Datum))

inductive WriteError where
  | keyNotText
deriving DecidableEq, Repr

def WriteError.message : WriteError → String
  | .keyNotText => "key must be a string"

namespace Datum

/-- Truth values and numbers are keys between quotes. -/
def key : Datum → Except WriteError String
  | .str s => .ok s
  | .bool b => .ok (if b then "true" else "false")
  | .num n => .ok (String.ofList n.render)
  | _ => .error .keyNotText

mutual

def write : Datum → Except WriteError Json
  | .null => .ok .null
  | .bool b => .ok (.bool b)
  | .num n => .ok (.num n)
  | .str s => .ok (.str s)
  | .list items => do return .arr (← writeItems items)
  | .record fields => do return .obj (← writeFields fields)
  | .map entries => do return .obj (← writeEntries entries)

def writeItems : List Datum → Except WriteError (List Json)
  | [] => .ok []
  | x :: xs => do return (← write x) :: (← writeItems xs)

def writeFields : List (String × Datum) → Except WriteError (List (String × Json))
  | [] => .ok []
  | (name, x) :: xs => do return (name, ← write x) :: (← writeFields xs)

def writeEntries : List (Datum × Datum) → Except WriteError (List (String × Json))
  | [] => .ok []
  | (k, x) :: xs => do return (← key k, ← write x) :: (← writeEntries xs)

end

example : (map [(.list [], .str "tag")]).write = .error .keyNotText := rfl

def ofMembers (fields : List (String × Option Datum)) : Datum :=
  .record (fields.filterMap fun (name, x) => x.map (name, ·))

mutual

/-- A value all of whose objects are records. -/
def ofJson : Json → Datum
  | .null => .null
  | .bool b => .bool b
  | .num n => .num n
  | .str s => .str s
  | .arr items => .list (ofItems items)
  | .obj members => .record (ofFields members)

def ofItems : List Json → List Datum
  | [] => []
  | x :: xs => ofJson x :: ofItems xs

def ofFields : List (String × Json) → List (String × Datum)
  | [] => []
  | (name, x) :: xs => (name, ofJson x) :: ofFields xs

end

end Datum

end Highlight.Json
