/-! The shortest decimal text of a floating point number: the fewest digits that read back as the
number, and of those the nearest. All comparisons are between whole numbers. -/

namespace StaticContext.Options

/-- A positive number `numerator / denominator`, with the ends of the numbers that round to it over
the same denominator; the ends belong to it if `closed`. -/
structure RoundingRange where
  value : Nat
  low : Nat
  high : Nat
  denominator : Nat
  closed : Bool
deriving Repr

namespace RoundingRange

/-- The bits of a double below its exponent count up to here. -/
def fractionLimit : Nat := 0x10000000000000

/-- The range of a positive double, from its bits without the sign. Halfway to the neighbours is a
half step, or a quarter step below a power of two. -/
def ofBits (bits : Nat) : RoundingRange :=
  let fraction := bits % fractionLimit
  let exponent := bits / fractionLimit
  let whole := if exponent = 0 then fraction else fraction + fractionLimit
  let power := max exponent 1
  let below := if fraction = 0 ∧ exponent > 1 then 1 else 2
  -- The value is `4 * whole * 2 ^ (power - 1077)`.
  let scale := Nat.pow 2 (power - 1077)
  ⟨4 * whole * scale, (4 * whole - below) * scale, (4 * whole + 2) * scale,
    Nat.pow 2 (1077 - power),
    whole % 2 = 0⟩

/-- How `digits * 10 ^ exponent` compares with `n / denominator`. -/
def compareTo (denominator n digits : Nat) (exponent : Int) : Ordering :=
  compare (digits * denominator * Nat.pow 10 exponent.toNat) (n * Nat.pow 10 (-exponent).toNat)

def contains (r : RoundingRange) (digits : Nat) (exponent : Int) : Bool :=
  let low := compareTo r.denominator r.low digits exponent
  let high := compareTo r.denominator r.high digits exponent
  (low = .gt || r.closed && low = .eq) && (high = .lt || r.closed && high = .eq)

/-- The least power of ten above the value. -/
def magnitude (r : RoundingRange) : Int :=
  let powers := (List.range 660).map fun n => Int.ofNat n - 330
  (powers.find? fun e => compareTo r.denominator r.value 1 e = .gt).getD 330

/-- The nearest number with digits down to `10 ^ exponent`, if it reads back. -/
def onGrid? (r : RoundingRange) (exponent : Int) : Option (Nat × Int) :=
  let below := r.value * Nat.pow 10 (-exponent).toNat / (r.denominator * Nat.pow 10 exponent.toNat)
  let isHalf := compareTo r.denominator (2 * r.value) (2 * below + 1) exponent
  let (first, second) :=
    if isHalf = .lt || isHalf = .eq && below % 2 = 1 then (below + 1, below)
    else (below, below + 1)
  if r.contains first exponent then some (first, exponent)
  else if r.contains second exponent then some (second, exponent)
  else none

def withoutZeros : Nat → Nat → Int → Nat × Int
  | 0, digits, exponent => (digits, exponent)
  | steps + 1, digits, exponent =>
    if digits % 10 = 0 then withoutZeros steps (digits / 10) (exponent + 1) else (digits, exponent)

def shortest (r : RoundingRange) : Nat × Int :=
  let scale := r.magnitude
  let found := (List.range 17).findSome? fun n => r.onGrid? (scale - (n + 1 : Nat))
  match found with
  | some (digits, exponent) => withoutZeros 20 digits exponent
  | none => (r.value / r.denominator, 0)

end RoundingRange

/-- Lays out digits: with a point as long as it falls in or next to the first sixteen places, else
with an exponent. -/
def layout (digits : Nat) (exponent : Int) : String :=
  let text := toString digits
  let length := text.length
  let point : Int := length + exponent
  let zeros (n : Nat) : String := String.ofList (List.replicate n '0')
  if 0 ≤ exponent ∧ point ≤ 16 then text ++ zeros exponent.toNat ++ ".0"
  else if 0 < point ∧ point ≤ 16 then
    String.ofList (text.toList.take point.toNat) ++ "." ++
      String.ofList (text.toList.drop point.toNat)
  else if -5 < point ∧ point ≤ 0 then "0." ++ zeros (-point).toNat ++ text
  else
    let fraction := text.toList.drop 1
    String.ofList (text.toList.take 1) ++
      (if fraction.isEmpty then "" else "." ++ String.ofList fraction) ++ "e" ++ toString (point - 1)

/-- The bit of the sign. -/
def signBit : Nat := 0x8000000000000000

/-- The shortest text of a finite number. -/
def decimalText (x : Float) : String :=
  let bits := x.toBits.toNat
  let magnitude := bits % signBit
  let sign := if bits < signBit then "" else "-"
  if magnitude = 0 then sign ++ "0.0"
  else
    let (digits, exponent) := (RoundingRange.ofBits magnitude).shortest
    sign ++ layout digits exponent

end StaticContext.Options
