/-
  What a scalar means: nothing, a truth value, a number or a text.
-/
import CodeSurvey.Text.Basic
import CodeSurvey.Text.Decimal
import CodeSurvey.Text.Quoted
import CodeSurvey.Yaml.Event

namespace CodeSurvey.Yaml

/-- A whole number and the width it takes. -/
inductive Whole where
  /-- Up to 64 bits. -/
  | word (n : Int)
  /-- Up to 128 bits, without a sign. -/
  | wide (n : Nat)
  /-- Up to 128 bits, with a sign. -/
  | wideSigned (n : Int)

/-- What a scalar means. -/
inductive Meaning where
  | null
  | truth (b : Bool)
  | whole (n : Whole)
  | real (f : Float)
  | text (s : String)

/-- A whole number in decimal. -/
def decimalInt (n : Int) : String :=
  if n < 0 then "-" ++ toString n.natAbs else toString n.natAbs

/-- A meaning in words, as messages name it. -/
def Meaning.describe : Meaning → String
  | .null => "unit value"
  | .truth b => "boolean \x60" ++ (if b then "true" else "false") ++ "\x60"
  | .whole (.word n) => "integer \x60" ++ decimalInt n ++ "\x60"
  | .whole (.wide n) => "integer \x60" ++ toString n ++ "\x60 as u128"
  | .whole (.wideSigned n) => "integer \x60" ++ decimalInt n ++ "\x60 as i128"
  | .real f =>
    let text := Text.decimalText f
    "floating point \x60"
      ++ (if f.isFinite && !text.contains '.' then text ++ ".0" else text) ++ "\x60"
  | .text s => "string " ++ Text.quoted s

/-- Words for nothing. -/
def isNullWord (s : String) : Bool := ["null", "Null", "NULL", "~"].contains s

/-- Words for truth values. -/
def truth? (s : String) : Option Bool :=
  if ["true", "True", "TRUE"].contains s then some true
  else if ["false", "False", "FALSE"].contains s then some false
  else none

/-- The value of a digit in a base up to sixteen. -/
def digit? (base : Nat) (c : Char) : Option Nat := (hexDigit? c).filter (· < base)

/-- The value of digits in a base, below a limit. -/
def natInBase? (base limit : Nat) (cs : List Char) : Option Nat :=
  if cs.isEmpty then none
  else
    (cs.mapM (digit? base)).bind fun ds =>
      let n := ds.foldl (fun n d => n * base + d) 0
      if n < limit then some n else none

/-- Bases and the marks in front of their digits. -/
def bases : List (String × Nat) := [("0x", 16), ("0o", 8), ("0b", 2)]

/-- Several digits of which the first is a zero, perhaps behind a sign: this is no number. -/
def isZeroPadded (cs : List Char) : Bool :=
  let cs := match cs with
    | '-' :: rest => rest
    | '+' :: rest => rest
    | cs => cs
  cs.length > 1 && cs.head? == some '0' && cs.all Char.isDigit

/-- Is a sign next? -/
def startsWithSign (cs : List Char) : Bool := cs.head? == some '+' || cs.head? == some '-'

/-- The value behind one of the base marks. -/
def natWithMark? (limit : Nat) (cs : List Char) : Option Nat :=
  bases.findSome? fun (mark, base) =>
    (Text.stripStart? mark.toList cs).bind (natInBase? base limit)

/-- A number without a minus sign, below a limit. -/
def unsigned? (limit : Nat) (cs : List Char) : Option Nat :=
  let bare := match cs with
    | '+' :: rest => rest
    | cs => cs
  match natWithMark? limit bare with
  | some n => some n
  | none =>
    if startsWithSign bare || isZeroPadded cs then none else natInBase? 10 limit bare

/-- A number with a minus sign, not beyond a limit. -/
def negative? (limit : Nat) (cs : List Char) : Option Int :=
  match cs with
  | '-' :: bare =>
    match natWithMark? (limit + 1) bare with
    | some n => some (-(n : Int))
    | none => if isZeroPadded cs then none else (natInBase? 10 (limit + 1) bare).map fun n => -(n : Int)
  | _ => none

/-- The whole number that a text writes. -/
def whole? (cs : List Char) : Option Whole :=
  match unsigned? (1 <<< 64) cs with
  | some n => some (.word n)
  | none =>
    match negative? (1 <<< 63) cs with
    | some n => some (.word n)
    | none =>
      match unsigned? (1 <<< 128) cs with
      | some n => some (.wide n)
      | none => (negative? (1 <<< 127) cs).map .wideSigned

/-- The real number that a text writes. -/
def real? (cs : List Char) : Option Float :=
  let bare := match cs with
    | '+' :: rest => rest
    | cs => cs
  if cs.head? == some '+' && startsWithSign bare then none
  else if [".inf", ".Inf", ".INF"].contains (String.ofList bare) then some (1.0 / 0.0)
  else if ["-.inf", "-.Inf", "-.INF"].contains (String.ofList cs) then some (-1.0 / 0.0)
  else if [".nan", ".NaN", ".NAN"].contains (String.ofList cs) then some (0.0 / 0.0)
  else (Text.readScientific? bare).bind Text.Scientific.toFloat?

/-- What a plain text means. -/
def plainMeaning (s : String) : Meaning :=
  if s.isEmpty || isNullWord s then .null
  else
    match truth? s with
    | some b => .truth b
    | none =>
      match whole? s.toList with
      | some n => .whole n
      | none =>
        if isZeroPadded s.toList then .text s
        else
          match real? s.toList with
          | some f => .real f
          | none => .text s

/-- The tags of the types that scalars resolve to. -/
def typeTag (name : String) : String := "tag:yaml.org,2002:" ++ name

/-- A tag that does not suit its scalar. -/
structure Mismatch where
  text : String
  expected : String

/-- What a scalar means; a tag may ask for a type. -/
def Scalar.meaning (s : Scalar) : Except Mismatch Meaning :=
  let orElse (m : Option Meaning) (expected : String) : Except Mismatch Meaning :=
    match m with
    | some m => .ok m
    | none => .error ⟨s.text, expected⟩
  let plain : Except Mismatch Meaning :=
    .ok (if s.style = .plain then plainMeaning s.text else .text s.text)
  match s.tag with
  | none => plain
  | some tag =>
    if tag = typeTag "bool" then orElse ((truth? s.text).map .truth) "a boolean"
    else if tag = typeTag "int" then orElse ((whole? s.text.toList).map .whole) "an integer"
    else if tag = typeTag "float" then orElse ((real? s.text.toList).map .real) "a float"
    else if tag = typeTag "null" then
      orElse (if isNullWord s.text then some .null else none) "null"
    else if tag.toList.head? == some '!' then plain
    else .ok (.text s.text)

end CodeSurvey.Yaml
