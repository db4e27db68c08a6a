import Highlight.Json.Error
import Highlight.Json.Number
import Highlight.Json.Shortest
import Highlight.Unicode.Recent

/-! # Faults of a declaration text

Beside the faults of a text as JSON there are those of a value that does not fit: a value of the
wrong type, a number that is too large, a list that is too short, a field that is missing or
occurs twice, and an entry that is neither an include nor a rule.
-/

namespace Highlight

namespace Text

def hexDigits (n : Nat) : List Char :=
  Nat.toDigits 16 n

def quotedChar (c : Char) : List Char :=
  if c = '"' then ['\\', '"']
  else if c = '\\' then ['\\', '\\']
  else if c = '\n' then ['\\', 'n']
  else if c = '\r' then ['\\', 'r']
  else if c = '\t' then ['\\', 't']
  else if c.toNat = 0 then ['\\', '0']
  else if Unicode.Recent.shown.contains c then [c]
  else '\\' :: 'u' :: '\x7b' :: (hexDigits c.toNat ++ ['\x7d'])

/-- A text between double quotes on one line. What has no shape of its own, or would join the
character before it, is written by its code point. -/
def quoted (s : String) : String :=
  String.ofList ('"' :: (s.toList.flatMap quotedChar ++ ['"']))

end Text

inductive Expected where
  | version
  | text
  | flag
  | list
  | declaration
  | state
  | bracketPair
deriving DecidableEq, Repr

def Expected.describe : Expected → String
  | .version => "u32"
  | .text => "a string"
  | .flag => "a boolean"
  | .list => "a sequence"
  | .declaration => "struct GrammarDecl"
  | .state => "struct StateDecl"
  | .bracketPair => "struct BracketPair"

/-- How many elements a list needs that is written in place of an object. -/
def Expected.size : Expected → Nat
  | .declaration => 8
  | .state => 2
  | .bracketPair => 3
  | _ => 0

inductive Found where
  | null
  | bool (b : Bool)
  | number (n : Json.Number)
  | text (s : String)
  | list
  | object
deriving DecidableEq, Repr

def Found.describe : Found → String
  | .null => "null"
  | .bool b => "boolean `" ++ toString b ++ "`"
  | .number (.natural n) => "integer `" ++ toString n ++ "`"
  | .number (.negative n) => "integer `-" ++ toString n ++ "`"
  | .number (.real minus n k) =>
    "floating point `" ++ Json.Shortest.render (Json.Number.toFloat minus n k) ++ "`"
  | .text s => "string " ++ Text.quoted s
  | .list => "sequence"
  | .object => "map"

inductive ReadError where
  | fault (f : Json.Fault)
  | wrongType (found : Found) (expected : Expected)
  | outOfRange (n : Json.Number)
  | tooShort (index : Nat) (expected : Expected)
  | missingField (name : String)
  | repeatedField (name : String)
  | noEntry
deriving DecidableEq, Repr

inductive ReadError.Kind where
  | form
  | content
  | incomplete
deriving DecidableEq, Repr

namespace ReadError

def kind : ReadError → Kind
  | .fault f => if f.isEnd then .incomplete else .form
  | _ => .content

def message : ReadError → String
  | .fault f => f.message
  | .wrongType found expected =>
    "invalid type: " ++ found.describe ++ ", expected " ++ expected.describe
  | .outOfRange n => "invalid value: " ++ (Found.number n).describe ++ ", expected u32"
  | .tooShort index expected =>
    "invalid length " ++ toString index ++ ", expected " ++ expected.describe ++ " with " ++
      toString expected.size ++ " elements"
  | .missingField name => "missing field `" ++ name ++ "`"
  | .repeatedField name => "duplicate field `" ++ name ++ "`"
  | .noEntry => "data did not match any variant of untagged enum Entry"

end ReadError

end Highlight
