import Highlight.Json.Number

/-! # JSON values and their indented text

The value type keeps object members in the order in which they stand. `Json.render` writes a
value over several lines, two blanks per level, as a list of characters; `Json.pretty` is the
same text as a string.
-/

namespace Highlight

inductive Json where
  | null
  | bool (b : Bool)
  | num (n : Json.Number)
  | str (s : String)
  | arr (items : List Json)
  | obj (members : List (String × Json))

namespace Json

instance : Inhabited Json := ⟨.null⟩

def ofNat (n : Nat) : Json :=
  .num (.natural n)

def ofMembers (members : List (String × Option Json)) : Json :=
  .obj (members.filterMap fun (key, value) => value.map (key, ·))

def hexDigit (n : Nat) : Char :=
  if n < 10 then Char.ofNat (48 + n) else Char.ofNat (87 + n)

def escape (c : Char) : List Char :=
  if c = '"' then ['\\', '"']
  else if c = '\\' then ['\\', '\\']
  else if c = '\n' then ['\\', 'n']
  else if c = '\r' then ['\\', 'r']
  else if c = '\t' then ['\\', 't']
  else if c = Char.ofNat 8 then ['\\', 'b']
  else if c = Char.ofNat 12 then ['\\', 'f']
  else if c.toNat < 32 then ['\\', 'u', '0', '0', hexDigit (c.toNat / 16), hexDigit (c.toNat % 16)]
  else [c]

def quote (s : String) : List Char :=
  '"' :: (s.toList.flatMap escape ++ ['"'])

/-- A real is written as its significand and a power of ten. -/
def Number.render : Number → List Char
  | .natural n => Nat.toDigits 10 n
  | .negative n => '-' :: Nat.toDigits 10 n
  | .real minus n k =>
    (if minus then ['-'] else []) ++ Nat.toDigits 10 n ++ 'e' :: (toString k).toList

def lineBreak (depth : Nat) : List Char :=
  '\n' :: List.replicate (2 * depth) ' '

mutual

def render (depth : Nat) : Json → List Char
  | .null => "null".toList
  | .bool true => "true".toList
  | .bool false => "false".toList
  | .num n => n.render
  | .str s => quote s
  | .arr [] => ['[', ']']
  | .arr (x :: xs) =>
    '[' :: (lineBreak (depth + 1) ++ render (depth + 1) x ++ renderItems (depth + 1) xs ++
      lineBreak depth ++ [']'])
  | .obj [] => ['\x7b', '\x7d']
  | .obj ((key, x) :: xs) =>
    '\x7b' :: (lineBreak (depth + 1) ++ quote key ++ ':' :: ' ' :: render (depth + 1) x ++
      renderMembers (depth + 1) xs ++ lineBreak depth ++ ['\x7d'])

def renderItems (depth : Nat) : List Json → List Char
  | [] => []
  | x :: xs => ',' :: (lineBreak depth ++ render depth x ++ renderItems depth xs)

def renderMembers (depth : Nat) : List (String × Json) → List Char
  | [] => []
  | (key, x) :: xs =>
    ',' :: (lineBreak depth ++ quote key ++ ':' :: ' ' :: render depth x ++ renderMembers depth xs)

end

def pretty (j : Json) : String :=
  String.ofList (render 0 j)

end Json

end Highlight
