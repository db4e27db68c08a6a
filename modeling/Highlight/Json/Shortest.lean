/-! # The shortest decimal of a double

Among the decimals that read back as a given double, the shortest is written, and among those
the nearest. The search is exact: a finite positive double is `m * 2 ^ q`, and the decimals that
round to it are those between the midpoints to its two neighbours.
-/

namespace Highlight.Json.Shortest

/-- A finite double without its sign, as `mantissa * 2 ^ exponent`. `even` says that the ends of
its rounding interval round to it, `narrow` that its lower neighbour is twice as near. -/
structure Binary where
  mantissa : Nat
  exponent : Int
  even : Bool
  narrow : Bool

def Binary.ofBits (bits : UInt64) : Binary :=
  let fraction : Nat := bits.toNat % Nat.pow 2 52
  let field : Nat := bits.toNat / Nat.pow 2 52 % Nat.pow 2 11
  if field = 0 then ⟨fraction, -1074, fraction % 2 == 0, false⟩
  else ⟨fraction + Nat.pow 2 52, (field : Int) - 1075, fraction % 2 == 0, fraction == 0 && 1 < field⟩

/-- Four times the value, its lower and its upper midpoint, over a common denominator. -/
structure Interval where
  value : Nat
  low : Nat
  high : Nat
  denominator : Nat
  closed : Bool

def Binary.interval (b : Binary) : Interval :=
  let up := Nat.pow 2 b.exponent.toNat
  let down := Nat.pow 2 (-b.exponent).toNat
  { value := 4 * b.mantissa * up
    low := (4 * b.mantissa - if b.narrow then 1 else 2) * up
    high := (4 * b.mantissa + 2) * up
    denominator := 4 * down
    closed := b.even }

def Interval.contains (i : Interval) (n : Nat) (k : Int) : Bool :=
  let x := n * Nat.pow 10 k.toNat * i.denominator
  let s := Nat.pow 10 (-k).toNat
  if i.closed then decide (i.low * s ≤ x ∧ x ≤ i.high * s)
  else decide (i.low * s < x ∧ x < i.high * s)

def Interval.onGrid (i : Interval) (k : Int) : Option Nat :=
  let num := i.value * Nat.pow 10 (-k).toNat
  let den := i.denominator * Nat.pow 10 k.toNat
  let below := num / den
  let above := below + 1
  match i.contains below k && below != 0, i.contains above k with
  | false, false => none
  | true, false => some below
  | false, true => some above
  | true, true =>
    let twice := 2 * (num % den)
    if twice < den then some below
    else if den < twice then some above
    else if below % 2 = 0 then some below else some above

/-- The coarsest grid with a decimal in the interval, from `10 ^ k` downwards. -/
def Interval.search (i : Interval) : Nat → Int → Nat × Int
  | 0, k => (0, k)
  | fuel + 1, k =>
    match i.onGrid k with
    | some n => (n, k)
    | none => i.search fuel (k - 1)

def digits (b : Binary) : Nat × Int :=
  let i := b.interval
  let top : Int := (Nat.toDigits 10 (i.value / i.denominator)).length
  if i.value < i.denominator then
    let zeros := (Nat.toDigits 10 (i.denominator / i.value)).length
    i.search 40 (-(zeros : Int) + 2)
  else i.search 40 top

def exponentMark (e : Int) : String :=
  if 0 ≤ e then "e+" ++ toString e.natAbs else "e-" ++ toString e.natAbs

/-- Plain notation from `10 ^ (-5)` up to `10 ^ 16`, with at least one digit on each side of the
point; otherwise one digit before the point and an exponent. -/
def layout (n : Nat) (k : Int) : String :=
  let ds := String.ofList (Nat.toDigits 10 n)
  let length : Int := ds.length
  let point := length + k
  if 0 ≤ k ∧ point ≤ 16 then ds ++ String.ofList (List.replicate k.toNat '0') ++ ".0"
  else if 0 < point ∧ point ≤ 16 then
    String.ofList (ds.toList.take point.toNat) ++ "." ++ String.ofList (ds.toList.drop point.toNat)
  else if -5 < point ∧ point ≤ 0 then
    "0." ++ String.ofList (List.replicate (-point).toNat '0') ++ ds
  else if length = 1 then ds ++ exponentMark (point - 1)
  else
    String.ofList (ds.toList.take 1) ++ "." ++ String.ofList (ds.toList.drop 1) ++
      exponentMark (point - 1)

def trim : Nat → Nat → Int → Nat × Int
  | 0, n, k => (n, k)
  | fuel + 1, n, k => if n ≠ 0 ∧ n % 10 = 0 then trim fuel (n / 10) (k + 1) else (n, k)

def render (x : Float) : String :=
  let bits := x.toBits
  let sign := if 0x8000000000000000 ≤ bits.toNat then "-" else ""
  let b := Binary.ofBits bits
  if b.mantissa = 0 then sign ++ "0.0"
  else
    let (n, k) := digits b
    let (n, k) := trim 20 n k
    sign ++ layout n k

end Highlight.Json.Shortest
