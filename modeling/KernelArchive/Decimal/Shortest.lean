/-!
# The shortest decimal that reads back

* `Decimal.Binary`: a positive binary number with the interval of reals that round to it.
* `Decimal.shortest`: of the decimals with fewest digits in that interval, the nearest.
* `Decimal.write`: the text of a float. Numbers of moderate size are written with a point, others
  with an exponent, and there is always one or the other; a `Layout` says where one gives way to
  the other and how an exponent looks.
-/

namespace KernelArchive.Decimal
set_option autoImplicit false

/-- The positive number `mantissa * 2 ^ exponent` among its neighbours of the same precision. -/
structure Binary where
  mantissa : Nat
  exponent : Int
  /-- Is the gap to the number below half the gap to the number above? -/
  narrowBelow : Bool
deriving DecidableEq

/-- The number `digits * 10 ^ exponent`. -/
structure Scaled where
  digits : Nat
  exponent : Int
deriving DecidableEq

/-- The finite number with these bits, without its sign. -/
def Binary.ofBits (bits : UInt64) : Binary :=
  let biased := ((bits >>> 52) &&& 0x7FF).toNat
  let fraction := (bits &&& 0xFFFFFFFFFFFFF).toNat
  if biased = 0 then ⟨fraction, -1074, false⟩
  else ⟨0x10000000000000 + fraction, (biased : Int) - 1075, fraction == 0 && 1 < biased⟩

/-- The power of ten with this exponent, or one if it is negative. -/
def tens (i : Int) : Nat := Nat.pow 10 i.toNat

/-- The power of two with this exponent, or one if it is negative. -/
def twos (j : Int) : Nat := Nat.pow 2 j.toNat

/-- Compares `a * 10 ^ i` with `n * 2 ^ j`, exactly. -/
def compareScaled (a : Nat) (i : Int) (n : Nat) (j : Int) : Ordering :=
  compare (a * tens i * twos (-j)) (n * twos j * tens (-i))

/-- Does the decimal lie among the reals that round to the number? The ends of the interval do so
if the mantissa is even. -/
def Binary.readsBack (x : Binary) (d : Scaled) : Bool :=
  let low := if x.narrowBelow then 4 * x.mantissa - 1 else 4 * x.mantissa - 2
  let high := 4 * x.mantissa + 2
  let closed := x.mantissa % 2 == 0
  let atLow := compareScaled d.digits d.exponent low (x.exponent - 2)
  let atHigh := compareScaled d.digits d.exponent high (x.exponent - 2)
  (atLow == .gt || (closed && atLow == .eq)) && (atHigh == .lt || (closed && atHigh == .eq))

/-- How many times `10 ^ i` goes into the number. -/
def Binary.floorScaled (x : Binary) (i : Int) : Nat :=
  (x.mantissa * twos x.exponent * tens (-i)) / (tens i * twos (-x.exponent))

/-- The least power of ten above the number, looked for from below; `bound` limits the search. -/
def Binary.scaleFrom (x : Binary) : Nat → Int → Int
  | 0, k => k
  | bound + 1, k =>
    if compareScaled 1 k x.mantissa x.exponent == .gt then k else x.scaleFrom bound (k + 1)

/-- The least `k` with the number below `10 ^ k`. -/
def Binary.scale (x : Binary) : Int := x.scaleFrom 700 (-330)

/-- Of the two neighbours of the number on the grid `10 ^ i`, the nearest that reads back; of two
equally near the even one. -/
def Binary.onGrid? (x : Binary) (i : Int) : Option Scaled :=
  let below : Scaled := ⟨x.floorScaled i, i⟩
  let above : Scaled := ⟨x.floorScaled i + 1, i⟩
  match x.readsBack below, x.readsBack above with
  | true, false => some below
  | false, true => some above
  | false, false => none
  | true, true =>
    match compareScaled (below.digits + above.digits) i (2 * x.mantissa) x.exponent with
    | .gt => some below
    | .lt => some above
    | .eq => some (if below.digits % 2 = 0 then below else above)

/-- Takes trailing zeros of the digits into the exponent; `bound` limits their number. -/
def Scaled.strip : Nat → Scaled → Scaled
  | 0, d => d
  | bound + 1, d =>
    if d.digits ≠ 0 ∧ d.digits % 10 = 0 then strip bound ⟨d.digits / 10, d.exponent + 1⟩ else d

/-- Of the decimals with fewest digits that round to the number, the nearest. Seventeen digits
always suffice; without them the number is written out in full. -/
def shortest (x : Binary) : Scaled :=
  let k := x.scale
  match (List.range 17).findSome? fun n : Nat => x.onGrid? (k - (n + 1 : Nat)) with
  | some d => d.strip 20
  | none => ⟨x.mantissa * twos x.exponent * Nat.pow 5 (-x.exponent).toNat, min x.exponent 0⟩

/-! ## Writing -/

/-- Where numbers change from digits with a point to digits with an exponent, and how the exponent
looks. The point stands `point` places after the start of the digits. -/
structure Layout where
  /-- The largest `point` that is written without an exponent. -/
  largest : Int
  /-- The smallest `point` that is written without an exponent. -/
  smallest : Int
  /-- What stands before the digits of an exponent that is not negative. -/
  plus : String

/-- The text of an exponent with its mark. -/
def Layout.exponent (layout : Layout) (n : Int) : String :=
  "e" ++ (if 0 ≤ n then layout.plus else "") ++ toString n

/-- The text of a positive decimal. -/
def Scaled.write (layout : Layout) (d : Scaled) : String :=
  let digits := toString d.digits
  let count : Int := digits.length
  let point := count + d.exponent
  let zeros (n : Int) : String := String.ofList (List.replicate n.toNat '0')
  let before (n : Int) : String := String.ofList (digits.toList.take n.toNat)
  let after (n : Int) : String := String.ofList (digits.toList.drop n.toNat)
  if 0 ≤ d.exponent ∧ point ≤ layout.largest then digits ++ zeros d.exponent ++ ".0"
  else if 0 < point ∧ point ≤ layout.largest then before point ++ "." ++ after point
  else if layout.smallest ≤ point ∧ point ≤ 0 then "0." ++ zeros (-point) ++ digits
  else if count = 1 then digits ++ layout.exponent (point - 1)
  else before 1 ++ "." ++ after 1 ++ layout.exponent (point - 1)

/-- The text of a finite float. -/
def write (layout : Layout) (value : Float) : String :=
  let bits := value.toBits
  let sign := if bits >>> 63 = 1 then "-" else ""
  let x := Binary.ofBits bits
  if x.mantissa = 0 then sign ++ "0.0" else sign ++ (shortest x).write layout

end KernelArchive.Decimal
