import KernelArchive.Json.Basic

/-!
# Numbers as written

* `Numeral`: the sign, digits and exponent of a written number.
* `Numeral.ofText?`: the numeral that a text spells.
* `Numeral.value?`: what a numeral stands for. Without point and exponent it is a whole number if
  64 bits hold it; every other numeral is a float.
-/

namespace KernelArchive
set_option autoImplicit false

/-- A number as written. -/
structure Numeral where
  negative : Bool
  /-- The digits before the point. -/
  whole : List Nat
  /-- The digits after the point, if there is one. -/
  fraction : Option (List Nat)
  /-- The power of ten after the digits, if there is one. -/
  exponent : Option Int
deriving DecidableEq

namespace Numeral

/-! ## Reading -/

/-- The digits that a text begins with, at least one, and the rest. -/
def digits? (cs : List Char) : Option (List Nat × List Char) :=
  match cs.takeWhile Char.isDigit with
  | [] => none
  | ds => some (ds.map fun d => d.toNat - '0'.toNat, cs.dropWhile Char.isDigit)

/-- The digits before the point. A zero in front stands alone. -/
def whole? (cs : List Char) : Option (List Nat × List Char) :=
  match digits? cs with
  | some (0 :: _ :: _, _) => none
  | found => found

/-- The digits after a point, where there is one. -/
def fraction? : List Char → Option (Option (List Nat) × List Char)
  | '.' :: cs => (digits? cs).map fun (ds, rest) => (some ds, rest)
  | cs => some (none, cs)

/-- The number that decimal digits spell. -/
def ofDigits (ds : List Nat) : Nat := ds.foldl (fun n d => n * 10 + d) 0

/-- An exponent with its sign. -/
def signed? : List Char → Option (Int × List Char)
  | '-' :: cs => (digits? cs).map fun (ds, rest) => (-(ofDigits ds : Int), rest)
  | '+' :: cs => (digits? cs).map fun (ds, rest) => ((ofDigits ds : Int), rest)
  | cs => (digits? cs).map fun (ds, rest) => ((ofDigits ds : Int), rest)

/-- The exponent after its mark, where there is one. -/
def exponent? : List Char → Option (Option Int × List Char)
  | 'e' :: cs => (signed? cs).map fun (n, rest) => (some n, rest)
  | 'E' :: cs => (signed? cs).map fun (n, rest) => (some n, rest)
  | cs => some (none, cs)

/-- The numeral without sign that a text spells. -/
def unsigned? (negative : Bool) (cs : List Char) : Option Numeral :=
  match whole? cs with
  | none => none
  | some (whole, cs) =>
    match fraction? cs with
    | none => none
    | some (fraction, cs) =>
      match exponent? cs with
      | some (exponent, []) => some ⟨negative, whole, fraction, exponent⟩
      | _ => none

/-- The numeral that a text spells. -/
def ofText? (s : String) : Option Numeral :=
  match s.toList with
  | '-' :: cs => unsigned? true cs
  | cs => unsigned? false cs

/-! ## Values -/

/-- The largest number that 64 bits hold. -/
def wordLimit : Nat := 0xFFFFFFFFFFFFFFFF

/-- The largest size of a negative number that 64 bits hold. -/
def negativeLimit : Nat := 0x8000000000000000

/-- Appends digits to a number up to the first with which 64 bits no longer hold it, and gives the
digits from there on. -/
def append : Nat → List Nat → Nat × List Nat
  | n, [] => (n, [])
  | n, d :: ds => if n * 10 + d ≤ wordLimit then append (n * 10 + d) ds else (n, d :: ds)

/-- The whole number that the numeral stands for. Zero with a sign is none: it is a float. -/
def wholeValue? (x : Numeral) : Option Int :=
  match x.fraction, x.exponent, append 0 x.whole with
  | none, none, (n, []) =>
    if x.negative then (if 0 < n ∧ n ≤ negativeLimit then some (-(n : Int)) else none)
    else some n
  | _, _, _ => none

/-- The size of the numeral. Digits that 64 bits do not hold only keep their place. -/
def size (x : Numeral) : Decimal.Scaled :=
  let fraction := x.fraction.getD []
  let (n, dropped) := append 0 x.whole
  let (n, unread) := append n fraction
  ⟨n, (dropped.length : Int) - (fraction.length - unread.length : Nat) + x.exponent.getD 0⟩

/-- A power of ten as a float. -/
def floatTens (n : Nat) : Float := Float.ofScientific 1 false n

/-- The largest power of ten below infinity. -/
def largestTens : Nat := 308

/-- A decimal as a float: its digits times or divided by a power of ten, each step rounded. A power
too small for a float takes two divisions; past those nothing is left. There is no float for a
decimal that is too large. -/
def floatOf? (d : Decimal.Scaled) : Option Float :=
  let digits := d.digits.toUInt64.toFloat
  let up := d.exponent.toNat
  let down := (-d.exponent).toNat
  if d.digits = 0 then some 0
  else if largestTens < up then none
  else if 0 < up then
    let product := digits * floatTens up
    if product.isInf then none else some product
  else if down ≤ largestTens then some (digits / floatTens down)
  else if down ≤ 2 * largestTens then
    some (digits / floatTens largestTens / floatTens (down - largestTens))
  else some 0

/-- What the numeral stands for, unless it is too large for a float. -/
def value? (x : Numeral) : Option Json :=
  match x.wholeValue? with
  | some n => some (.whole n)
  | none => (floatOf? x.size).map fun f => .float (if x.negative then -f else f)

end Numeral

/-- The number that a text spells. -/
def Json.ofNumber? (s : String) : Option Json := (Numeral.ofText? s).bind Numeral.value?

end KernelArchive
