/-
  Globs: `?` is one octet, `*` any octets, `**` between slashes any number of whole components,
  `[a-z]` an octet of a set and `{a,b}` a choice.  A glob is matched against the octets of a whole
  text, ASCII letters without regard to case.  `Glob.rests` lists what a glob can leave of a text;
  it matches the text if it can leave nothing.
-/
import CodeSurvey.Text.Basic

namespace CodeSurvey.Glob

/-- A part of a glob. -/
inductive Token where
  /-- A character as it is, apart from case. -/
  | literal (c : Char)
  /-- Any one octet. -/
  | any
  /-- Any octets. -/
  | many
  /-- `**/` at the start: nothing, a slash, or any octets before a slash. -/
  | leading
  /-- `/**` at the end: a slash and any octets after it. -/
  | trailing
  /-- `/**/` between components: a slash, or any octets between two slashes. -/
  | between
  /-- One octet inside, or outside, of the ranges. -/
  | set (negated : Bool) (ranges : List (Char × Char))
  /-- One of several globs. -/
  | choice (branches : List (List Token))

/-- A glob is a list of parts. -/
abbrev Pattern := List Token

/-- The slash. -/
def slash : UInt8 := 0x2f

/-- An octet with capital ASCII letters lowered. -/
def foldOctet (b : UInt8) : UInt8 :=
  if 0x41 ≤ b && b ≤ 0x5a then b + 0x20 else b

/-- The octet with the case of an ASCII letter changed. -/
def swapOctet (b : UInt8) : UInt8 :=
  if 0x41 ≤ b && b ≤ 0x5a then b + 0x20
  else if 0x61 ≤ b && b ≤ 0x7a then b - 0x20
  else b

/-- The octets of a character. -/
def charOctets (c : Char) : List UInt8 := String.utf8EncodeChar c

/-- The closed octet ranges of a character range.  The octets of a character that takes several
stand one by one, and the range runs from the last one of its lower end to the first one of its
upper end. -/
def octetRanges (range : Char × Char) : List (UInt8 × UInt8) :=
  let single (b : UInt8) : UInt8 × UInt8 := (b, b)
  let low := charOctets range.1
  let high := charOctets range.2
  if range.1 == range.2 then low.map single
  else
    match low.getLast?, high with
    | some l, h :: more => low.dropLast.map single ++ [(l, h)] ++ more.map single
    | _, _ => []

/-- Is an octet, in either case, in one of the ranges? -/
def setHolds (ranges : List (Char × Char)) (b : UInt8) : Bool :=
  (ranges.flatMap octetRanges).any fun r =>
    (r.1 ≤ b && b ≤ r.2) || (r.1 ≤ swapOctet b && swapOctet b ≤ r.2)

/-- What is left after octets that equal the given ones apart from case. -/
def literalRest? : List UInt8 → List UInt8 → Option (List UInt8)
  | [], bytes => some bytes
  | _ :: _, [] => none
  | x :: xs, b :: bytes => if foldOctet x == foldOctet b then literalRest? xs bytes else none

/-- All ends of a run of octets, the whole run first. -/
def tails : List UInt8 → List (List UInt8)
  | [] => [[]]
  | b :: bytes => (b :: bytes) :: tails bytes

/-- What may be left after any octets and then a slash. -/
def afterSlashes (bytes : List UInt8) : List (List UInt8) :=
  (tails bytes).filterMap fun
    | [] => none
    | b :: rest => if b == slash then some rest else none

/-- Each of the runs once; ends of one run are told apart by their length. -/
def distinct (ends : List (List UInt8)) : List (List UInt8) :=
  ends.foldl (fun kept e => if kept.any (·.length == e.length) then kept else kept ++ [e]) []

mutual

/-- Does a part stand for nothing, being a choice without any branch of substance? -/
def Token.isVoid : Token → Bool
  | .choice branches => allVoid branches
  | _ => false

/-- Do all parts stand for nothing? -/
def isVoid : List Token → Bool
  | [] => true
  | t :: ts => t.isVoid && isVoid ts

/-- Do all branches stand for nothing? -/
def allVoid : List (List Token) → Bool
  | [] => true
  | b :: bs => isVoid b && allVoid bs

end

mutual

/-- What a part can leave of a text. -/
def Token.rests : Token → List UInt8 → List (List UInt8)
  | .literal c, bytes => (literalRest? (charOctets c) bytes).toList
  | .any, bytes => bytes.tail?.toList
  | .many, bytes => tails bytes
  | .leading, bytes =>
    distinct (bytes :: (literalRest? [slash] bytes).toList ++ afterSlashes bytes)
  | .trailing, bytes => (literalRest? [slash] bytes).toList.flatMap tails
  | .between, bytes =>
    (literalRest? [slash] bytes).toList.flatMap fun rest => rest :: afterSlashes rest
  | .set negated ranges, bytes =>
    match bytes with
    | [] => []
    | b :: rest => if setHolds ranges b != negated then [rest] else []
  | .choice branches, bytes =>
    if allVoid branches then [bytes] else distinct (restsOfAny branches bytes)

/-- What a glob can leave of a text. -/
def rests : List Token → List UInt8 → List (List UInt8)
  | [], bytes => [bytes]
  | t :: ts, bytes => distinct ((t.rests bytes).flatMap (rests ts))

/-- What one of several globs can leave; branches that stand for nothing do not count. -/
def restsOfAny : List (List Token) → List UInt8 → List (List UInt8)
  | [], _ => []
  | b :: bs, bytes => (if isVoid b then [] else rests b bytes) ++ restsOfAny bs bytes

end

/-- Does a glob match the whole of a text?  A lone `**` matches every text. -/
def matchesOctets (pattern : Pattern) (bytes : List UInt8) : Bool :=
  match pattern with
  | [.leading] => true
  | pattern => (rests pattern bytes).any List.isEmpty

/-- Does a glob match the whole of a text? -/
def accepts (pattern : Pattern) (text : List Char) : Bool :=
  matchesOctets pattern (Text.octets text)

end CodeSurvey.Glob
