/-
  Numbers in decimal: counts, and binary floating-point numbers.  Reading a floating-point number
  rounds to the nearest one; writing gives the fewest digits that read back, without an exponent.
-/

namespace CodeSurvey.Text

/-! ## §1. Counts -/

/-- Counts are below this bound. -/
def countLimit : Nat := 1 <<< 64

/-- The value of decimal digits, most significant first, after the value `acc`. -/
def digitsValue (acc : Nat) : List Char → Nat
  | [] => acc
  | c :: cs => digitsValue (acc * 10 + (c.toNat - '0'.toNat)) cs

/-- Reads a count: an optional plus sign, then at least one ASCII digit, then nothing, the value
below the limit. -/
def readCount? (cs : List Char) : Option Nat :=
  let digits := match cs with
    | '+' :: rest => rest
    | cs => cs
  if digits.isEmpty || !digits.all Char.isDigit then none
  else
    let n := digitsValue 0 digits
    if n < countLimit then some n else none

/-! ## §2. Reading -/

/-- A decimal number as written: sign, digits, and the power of ten they are multiplied with. -/
structure Scientific where
  negative : Bool
  digits : Nat
  exponent : Int

/-- Splits a sign off. -/
def takeSign : List Char → Bool × List Char
  | '-' :: cs => (true, cs)
  | '+' :: cs => (false, cs)
  | cs => (false, cs)

/-- Reads a decimal number: a sign, digits with or without a point, and perhaps an exponent. -/
def readScientific? (cs : List Char) : Option Scientific :=
  let (negative, cs) := takeSign cs
  let (whole, cs) := cs.span Char.isDigit
  let (fraction, cs) := match cs with
    | '.' :: rest => rest.span Char.isDigit
    | cs => ([], cs)
  if whole.isEmpty && fraction.isEmpty then none
  else
    let number := digitsValue 0 (whole ++ fraction)
    let shift : Int := -(fraction.length : Int)
    match cs with
    | [] => some ⟨negative, number, shift⟩
    | c :: rest =>
      if c != 'e' && c != 'E' then none
      else
        let (down, digits) := takeSign rest
        if digits.isEmpty || !digits.all Char.isDigit then none
        else
          let e : Int := digitsValue 0 digits
          some ⟨negative, number, shift + (if down then -e else e)⟩

/-- The nearest floating-point number, if it is finite. -/
def Scientific.toFloat? (s : Scientific) : Option Float :=
  let magnitude : Int := s.exponent + (Nat.toDigits 10 s.digits).length
  let size : Option Float :=
    if s.digits = 0 || magnitude < -400 then some 0.0
    else if magnitude > 400 then none
    else some (Float.ofScientific s.digits (s.exponent < 0) s.exponent.natAbs)
  (size.filter Float.isFinite).map fun f => if s.negative then -f else f

/-! ## §3. Writing -/

/-- A positive number `m · 2 ^ q` with the numbers that round to it: from `low` to `high` quarters
of the last place, the ends included if `m` is even. -/
structure Rounding where
  quarters : Nat
  low : Nat
  high : Nat
  closed : Bool
  /-- The exponent of a quarter. -/
  scale : Int

/-- Decodes the size of a floating-point number from its bits. -/
def Rounding.ofBits (bits : Nat) : Rounding :=
  let fraction := bits % (1 <<< 52)
  let biased : Nat := bits / (1 <<< 52) % (1 <<< 11)
  let m : Nat := if biased = 0 then fraction else fraction + (1 <<< 52)
  let q : Int := (if biased = 0 then 1 else (biased : Int)) - 1075
  { quarters := 4 * m,
    low := if fraction = 0 && biased > 1 then 4 * m - 1 else 4 * m - 2,
    high := 4 * m + 2,
    closed := (m % 2 == 0),
    scale := q - 2 }

/-- `n · 2 ^ scale / 10 ^ k` as a fraction. -/
def scaled (n : Nat) (scale k : Int) : Nat × Nat :=
  (n * (if scale < 0 then 1 else 1 <<< scale.toNat) * (if k < 0 then Nat.pow 10 k.natAbs else 1),
   (if scale < 0 then 1 <<< scale.natAbs else 1) * (if k < 0 then 1 else Nat.pow 10 k.toNat))

/-- Does a multiple of `10 ^ k` round to the number? -/
def Rounding.takes (r : Rounding) (k : Int) (d : Nat) : Bool :=
  let (low, denominator) := scaled r.low r.scale k
  let (high, _) := scaled r.high r.scale k
  let x := d * denominator
  if r.closed then low ≤ x && x ≤ high else low < x && x < high

/-- The multiple of `10 ^ k` nearest to the number, if it rounds to the number. -/
def Rounding.candidate? (r : Rounding) (k : Int) : Option Nat :=
  let (n, denominator) := scaled r.quarters r.scale k
  let below := n / denominator
  let nearest := if 2 * (n % denominator) > denominator then below + 1 else below
  if r.takes k nearest then some nearest
  else if r.takes k below then some below
  else if r.takes k (below + 1) then some (below + 1)
  else none

/-- The fewest digits that round to the number, and the power of ten they are multiplied with,
looking at powers from `k` downward. -/
def Rounding.shortest (r : Rounding) : Nat → Int → Nat × Int
  | 0, k => (0, k)
  | fuel + 1, k =>
    match r.candidate? k with
    | some d => if d = 0 then r.shortest fuel (k - 1) else (d, k)
    | none => r.shortest fuel (k - 1)

/-- Digits times a power of ten, without an exponent. -/
def positional (d : Nat) (k : Int) : String :=
  let digits := Nat.toDigits 10 d
  if 0 ≤ k then String.ofList (digits ++ List.replicate k.toNat '0')
  else
    let places := k.natAbs
    let padded := List.replicate (places + 1 - digits.length) '0' ++ digits
    let whole := padded.take (padded.length - places)
    String.ofList (whole ++ ['.'] ++ padded.drop (padded.length - places))

/-- A floating-point number with the fewest digits that read back. -/
def decimalText (f : Float) : String :=
  let bits := f.toBits.toNat
  let sign := if bits ≥ 1 <<< 63 then "-" else ""
  if f.isNaN then "NaN"
  else if f.isInf then sign ++ "inf"
  else if bits % (1 <<< 63) = 0 then sign ++ "0"
  else
    let (d, k) := (Rounding.ofBits (bits % (1 <<< 63))).shortest 800 310
    sign ++ positional d k

end CodeSurvey.Text
