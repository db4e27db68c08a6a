/-! # Numbers of a JSON text

A number is kept as it was written: an integer that fits into 64 bits, or a real as a
significand and a power of ten. The double nearest to a real and its shortest decimal form
are computed only when a message names the number.
-/

namespace Highlight.Json

/-- A number of a JSON text. A real keeps as many leading digits as fit into 64 bits. -/
inductive Number where
  | natural (n : Nat)
  | negative (n : Nat)
  | real (minus : Bool) (significand : Nat) (exponent : Int)
deriving DecidableEq, Repr

namespace Number

/-- The integer written by the digits of `n`, with a sign when `minus`. Minus zero and integers
outside 64 bits are reals. -/
def ofInteger (minus : Bool) (n : Nat) : Number :=
  if minus then
    if n = 0 ∨ 0x8000000000000000 < n then .real true n 0 else .negative n
  else .natural n

private def powerOfTen (n : Nat) : Float :=
  Float.ofScientific 1 false n

/-- Division by a power of ten in steps of at most `10 ^ 308`, each of them rounded. -/
private def scaleDown : Nat → Float → Nat → Float
  | 0, _, _ => 0
  | steps + 1, x, n =>
    if n ≤ 308 then x / powerOfTen n else scaleDown steps (x / powerOfTen 308) (n - 308)

/-- The double of a real: its significand, rounded, times or divided by a rounded power of ten.
Four divisions bring every significand to zero. -/
def toFloat (minus : Bool) (significand : Nat) (exponent : Int) : Float :=
  let x := (UInt64.ofNat significand).toFloat
  let y :=
    if exponent < 0 then scaleDown 4 x exponent.natAbs
    else if significand = 0 then x
    else if exponent ≤ 308 then x * powerOfTen exponent.natAbs
    else x / 0
  if minus then -y else y

def isFinite (significand : Nat) (exponent : Int) : Bool :=
  (toFloat false significand exponent).isFinite

end Number

end Highlight.Json
