/-
  Reading regular expressions from text: literals, escapes, classes, groups, alternation,
  repetition, anchors and flags.  A text that is not an expression of this form is refused, and so
  are two kinds of texts that could be given a meaning: classes by a property that `property?` does
  not know, such as a script, and counts of repetitions above `repetitionLimit`.
-/
import CodeSurvey.Regex.Basic
import CodeSurvey.Text.Basic
import CodeSurvey.Text.Case

namespace CodeSurvey.Regex

/-! ## §1. Flags and letter case -/

/-- The switches `i`, `m`, `s`, `x` and `U`. -/
structure Flags where
  ignoreCase : Bool := false
  multiLine : Bool := false
  dotAll : Bool := false
  spaced : Bool := false
  swapGreed : Bool := false

/-- Letters that fold together although neither is the lower-case form of the other. -/
def foldExtras : List (Nat × Nat) :=
  [(0x73, 0x17f), (0x3c3, 0x3c2), (0xb5, 0x3bc), (0x3b2, 0x3d0), (0x3b5, 0x3f5), (0x3b8, 0x3d1),
   (0x3ba, 0x3f0), (0x3c0, 0x3d6), (0x3c1, 0x3f1), (0x3c6, 0x3d5), (0x3b9, 0x1fbe), (0x3b9, 0x345),
   (0x1e61, 0x1e9b), (0xdf, 0x1e9e)]

/-- The characters whose lower-case form is `c`. -/
def raisings (c : Char) : List Char :=
  if c.toNat < 0x80 then
    (if c.isLower then [c.toUpper] else []) ++ (if c == 'k' then [Char.ofNat 0x212a] else [])
  else
    Text.lowercaseTable.filterMap fun (lo, hi, step, shift) =>
      let n := ((c.toNat : Int) - shift).toNat
      if Text.inRun lo hi step n && ((n : Int) + shift) == (c.toNat : Int) then some (Char.ofNat n)
      else none

/-- The characters that equal `c` when case does not count, `c` first. -/
def caseVariants (c : Char) : List Char :=
  let low := Text.lowerChar c
  let extras := (foldExtras.filter (·.1 == low.toNat)).map (Char.ofNat ·.2)
    ++ (foldExtras.filter (·.2 == low.toNat)).map (Char.ofNat ·.1)
  let lows := low :: extras
  c :: lows ++ lows.flatMap raisings

/-- A class, closed under change of case if the flags say so. -/
def classOf (flags : Flags) (accepts : Char → Bool) : Regex :=
  if flags.ignoreCase then .one fun c => (caseVariants c).any accepts else .one accepts

/-- The dot. -/
def dot (flags : Flags) : Regex :=
  .one fun c => flags.dotAll || c != '\n'

/-! ## §2. Escapes -/

/-- What an escape stands for. -/
inductive Escape where
  | char (c : Char)
  | set (accepts : Char → Bool)
  | place (r : Regex)

/-- Reads hexadecimal digits. -/
def hexValue? (digits : List Char) : Option Char :=
  if digits.isEmpty || !digits.all (fun c => c.isDigit || ('a' ≤ c.toLower && c.toLower ≤ 'f')) then none
  else
    let n := digits.foldl (fun acc c =>
      acc * 16 + (if c.isDigit then c.toNat - 48 else c.toLower.toNat - 87)) 0
    if n.isValidChar then some (Char.ofNat n) else none

/-- Reads a code point: `width` digits or digits between braces. -/
def readCodePoint (width : Nat) (cs : List Char) : Option (Escape × List Char) :=
  match cs with
  | '\x7b' :: rest =>
    let (digits, rest) := rest.span (· != '\x7d')
    match rest with
    | _ :: rest => (hexValue? digits).map fun c => (.char c, rest)
    | [] => none
  | cs =>
    let digits := cs.take width
    if digits.length < width then none
    else (hexValue? digits).map fun c => (.char c, cs.drop width)

/-- General categories and scripts that `\\p` knows by name. -/
def property? (name : String) : Option (Char → Bool) :=
  match (name.toLower.replace "_" "").replace " " "" with
  | "l" | "letter" | "alphabetic" | "alpha" =>
    some fun c => Text.isWord c && !Text.isDecimalDigit c && c != '_'
  | "lu" | "uppercaseletter" | "uppercase" => some Text.isUpper
  | "ll" | "lowercaseletter" | "lowercase" => some fun c => Text.isCased c && !Text.isUpper c
  | "nd" | "decimalnumber" | "n" | "number" => some Text.isDecimalDigit
  | "z" | "separator" | "zs" | "whitespace" => some Text.isBlank
  | "any" => some fun _ => true
  | "ascii" => some fun c => c.toNat < 0x80
  | _ => none

/-- Reads a property after `\\p` or `\\P`. -/
def readProperty (negated : Bool) (cs : List Char) : Option (Escape × List Char) :=
  let read (name : List Char) (rest : List Char) : Option (Escape × List Char) :=
    let (negated, name) := match name with
      | '^' :: name => (!negated, name)
      | name => (negated, name)
    (property? (String.ofList name)).map fun p => (.set (fun c => p c != negated), rest)
  match cs with
  | '\x7b' :: rest =>
    match rest.span (· != '\x7d') with
    | (name, _ :: rest) => read name rest
    | (_, []) => none
  | c :: rest => read [c] rest
  | [] => none

/-- Characters that may be escaped to stand for themselves: all of ASCII but letters, digits,
blanks, control characters and the angle brackets. -/
def isEscapable (c : Char) : Bool :=
  0x21 ≤ c.toNat && c.toNat < 0x7f && !c.isAlphanum && c != '<' && c != '>'

/-- A place where a word starts, or stops. -/
def wordEdge (starts : Bool) : Regex :=
  .look fun before after =>
    before.any Text.isWord != starts && after.any Text.isWord == starts

/-- Reads what follows a backslash. -/
def readEscape : List Char → Option (Escape × List Char)
  | [] => none
  | c :: rest =>
    match c with
    | 'd' => some (.set Text.isDecimalDigit, rest)
    | 'D' => some (.set (fun c => !Text.isDecimalDigit c), rest)
    | 's' => some (.set Text.isBlank, rest)
    | 'S' => some (.set (fun c => !Text.isBlank c), rest)
    | 'w' => some (.set Text.isWord, rest)
    | 'W' => some (.set (fun c => !Text.isWord c), rest)
    | 'n' => some (.char '\n', rest)
    | 't' => some (.char '\t', rest)
    | 'r' => some (.char '\r', rest)
    | 'a' => some (.char '\x07', rest)
    | 'f' => some (.char '\x0c', rest)
    | 'v' => some (.char '\x0b', rest)
    | 'x' => readCodePoint 2 rest
    | 'u' => readCodePoint 4 rest
    | 'U' => readCodePoint 8 rest
    | 'p' => readProperty false rest
    | 'P' => readProperty true rest
    | 'A' => some (.place start, rest)
    | 'z' => some (.place stop, rest)
    | 'b' =>
      match Text.stripStart? "\x7bstart\x7d".toList rest with
      | some rest => some (.place (wordEdge true), rest)
      | none =>
        match Text.stripStart? "\x7bend\x7d".toList rest with
        | some rest => some (.place (wordEdge false), rest)
        | none => some (.place boundary, rest)
    | 'B' =>
      some (.place (.look fun before after => before.any Text.isWord == after.any Text.isWord), rest)
    | '<' => some (.place (wordEdge true), rest)
    | '>' => some (.place (wordEdge false), rest)
    | c => if isEscapable c then some (.char c, rest) else none

/-! ## §3. Classes -/

/-- The named ASCII classes. -/
def asciiClass? : String → Option (Char → Bool)
  | "alnum" => some Char.isAlphanum
  | "alpha" => some Char.isAlpha
  | "ascii" => some fun c => c.toNat < 0x80
  | "blank" => some fun c => c == ' ' || c == '\t'
  | "cntrl" => some fun c => c.toNat < 0x20 || c.toNat == 0x7f
  | "digit" => some Char.isDigit
  | "graph" => some fun c => 0x21 ≤ c.toNat && c.toNat < 0x7f
  | "lower" => some Char.isLower
  | "print" => some fun c => 0x20 ≤ c.toNat && c.toNat < 0x7f
  | "punct" => some fun c => 0x21 ≤ c.toNat && c.toNat < 0x7f && !c.isAlphanum
  | "space" => some fun c => c == ' ' || (9 ≤ c.toNat && c.toNat ≤ 13)
  | "upper" => some Char.isUpper
  | "word" => some fun c => c.isAlphanum || c == '_'
  | "xdigit" => some fun c => c.isDigit || ('a' ≤ c.toLower && c.toLower ≤ 'f')
  | _ => none

/-- Reads a named class after `[:`. -/
def readAsciiClass (cs : List Char) : Option ((Char → Bool) × List Char) :=
  let (negated, cs) := match cs with
    | '^' :: cs => (true, cs)
    | cs => (false, cs)
  let (name, rest) := cs.span Char.isAlpha
  match rest with
  | ':' :: ']' :: rest =>
    (asciiClass? (String.ofList name)).map fun p => ((fun c => p c != negated), rest)
  | _ => none

/-- How two halves of a class combine. -/
inductive Combine where
  | intersection
  | difference
  | symmetricDifference

/-- The class made of two halves. -/
def Combine.apply (k : Combine) (p q : Char → Bool) (c : Char) : Bool :=
  match k with
  | .intersection => p c && q c
  | .difference => p c && !q c
  | .symmetricDifference => p c != q c

/-- One character of a class, or an escape. -/
def readClassAtom : List Char → Option (Escape × List Char)
  | [] => none
  | '\\' :: rest =>
    match readEscape rest with
    | some (.place _, _) => none
    | found => found
  | c :: rest => some (.char c, rest)

/-- Reads a class after its opening bracket and negation.  `union` holds what has been read since
the last operator, `left` what stood before it; `first` says that nothing has been read yet. -/
def readClass (ignoreCase : Bool) :
    Nat → Bool → (Char → Bool) → Option ((Char → Bool) × Combine) → List Char →
      Option ((Char → Bool) × List Char)
  | 0, _, _, _, _ => none
  | fuel + 1, first, union, left, cs =>
    let close (u : Char → Bool) : Char → Bool :=
      match left with
      | none => u
      | some (p, k) => k.apply p u
    let closed (accepts : Char → Bool) : Char → Bool :=
      if ignoreCase then fun c => (caseVariants c).any accepts else accepts
    let add (accepts : Char → Bool) : Char → Bool := fun c => union c || closed accepts c
    match cs with
    | [] => none
    | ']' :: rest =>
      if first then readClass ignoreCase fuel false (add (· == ']')) left rest
      else some (close union, rest)
    | '[' :: ':' :: rest =>
      match readAsciiClass rest with
      | some (p, rest) => readClass ignoreCase fuel false (add p) left rest
      | none => none
    | '[' :: rest =>
      let (negated, rest) := match rest with
        | '^' :: rest => (true, rest)
        | rest => (false, rest)
      match readClass ignoreCase fuel true (fun _ => false) none rest with
      | some (p, rest) =>
        readClass ignoreCase fuel false (fun c => union c || p c != negated) left rest
      | none => none
    | '&' :: '&' :: rest =>
      readClass ignoreCase fuel false (fun _ => false) (some (close union, .intersection)) rest
    | '-' :: '-' :: rest =>
      if first then readClass ignoreCase fuel false (add (· == '-')) left ('-' :: rest)
      else readClass ignoreCase fuel false (fun _ => false) (some (close union, .difference)) rest
    | '~' :: '~' :: rest =>
      readClass ignoreCase fuel false (fun _ => false)
        (some (close union, .symmetricDifference)) rest
    | cs =>
      match readClassAtom cs with
      | none => none
      | some (.place _, _) => none
      | some (.set p, rest) => readClass ignoreCase fuel false (add p) left rest
      | some (.char lo, rest) =>
        match rest with
        | '-' :: ']' :: _ => readClass ignoreCase fuel false (add (· == lo)) left rest
        | '-' :: '-' :: _ => readClass ignoreCase fuel false (add (· == lo)) left rest
        | '-' :: after =>
          match readClassAtom after with
          | some (.char hi, rest) =>
            if lo ≤ hi then
              readClass ignoreCase fuel false (add fun c => lo ≤ c && c ≤ hi) left rest
            else none
          | _ => none
        | rest => readClass ignoreCase fuel false (add (· == lo)) left rest

/-! ## §4. Repetition -/

/-- The longest repetition count that is unrolled. -/
def repetitionLimit : Nat := 1000

/-- An expression `n` times. -/
def times (r : Regex) : Nat → Regex
  | 0 => .empty
  | n + 1 => .cat r (times r n)

/-- An expression up to `n` times. -/
def upTo (greedy : Bool) (r : Regex) : Nat → Regex
  | 0 => .empty
  | n + 1 =>
    let more := .cat r (upTo greedy r n)
    if greedy then .alt more .empty else .alt .empty more

/-- Bounds of a repetition: at least and, unless open, at most. -/
abbrev Bounds := Nat × Option Nat

/-- An expression repeated within bounds. -/
def within (greedy : Bool) (r : Regex) : Bounds → Regex
  | (least, none) => .cat (times r least) (.star greedy r)
  | (least, some most) => .cat (times r least) (upTo greedy r (most - least))

/-- A decimal number with blanks around it. -/
def readNumber (cs : List Char) : Option Nat × List Char :=
  let cs := cs.dropWhile Text.isBlank
  let (digits, rest) := cs.span Char.isDigit
  (if digits.isEmpty then none
    else some (digits.foldl (fun n c => n * 10 + (c.toNat - 48)) 0), rest.dropWhile Text.isBlank)

/-- Reads bounds after an opening brace. -/
def readBounds (cs : List Char) : Option (Bounds × List Char) :=
  let (least, rest) := readNumber cs
  match rest with
  | '\x7d' :: rest => least.map fun n => ((n, some n), rest)
  | ',' :: rest =>
    let (most, rest) := readNumber rest
    match rest with
    | '\x7d' :: rest =>
      if least.isNone && most.isNone then none else some ((least.getD 0, most), rest)
    | _ => none
  | _ => none

/-- Reads a repetition sign; the inner option is `none` where the text goes on without one. -/
def readRepetition (cs : List Char) : Option (Option (Bounds × Bool) × List Char) :=
  let lazily (b : Bounds) (rest : List Char) : Option (Option (Bounds × Bool) × List Char) :=
    match b with
    | (least, most) =>
      if most.any (· < least) || least > repetitionLimit || most.any (· > repetitionLimit) then none
      else
        match rest with
        | '?' :: rest => some (some (b, false), rest)
        | rest => some (some (b, true), rest)
  match cs with
  | '*' :: rest => lazily (0, none) rest
  | '+' :: rest => lazily (1, none) rest
  | '?' :: rest => lazily (0, some 1) rest
  | '\x7b' :: rest =>
    match readBounds rest with
    | some (b, rest) => lazily b rest
    | none => none
  | cs => some (none, cs)

/-! ## §5. Expressions -/

/-- Sets one flag. -/
def Flags.set? (flags : Flags) (on : Bool) : Char → Option Flags
  | 'i' => some { flags with ignoreCase := on }
  | 'm' => some { flags with multiLine := on }
  | 's' => some { flags with dotAll := on }
  | 'x' => some { flags with spaced := on }
  | 'U' => some { flags with swapGreed := on }
  | 'u' => if on then some flags else none
  | 'R' => some flags
  | _ => none

/-- Reads flags up to `:` or `)`, which is left standing; at least one must be given. -/
def readFlags (flags : Flags) (on : Bool) (dangling : Bool) (any : Bool) :
    List Char → Option (Flags × List Char)
  | [] => none
  | ':' :: rest => if dangling then none else some (flags, ':' :: rest)
  | ')' :: rest => if dangling || !any then none else some (flags, ')' :: rest)
  | '-' :: rest => if on then readFlags flags false true true rest else none
  | c :: rest =>
    match flags.set? on c with
    | some flags => readFlags flags on false true rest
    | none => none

/-- Is this the name of a group? -/
def isGroupName (name : List Char) : Bool :=
  match name with
  | [] => false
  | c :: cs =>
    (c == '_' || (Text.isWord c && !Text.isDecimalDigit c)) &&
      cs.all fun c => Text.isWord c || c == '.' || c == '[' || c == ']'

/-- What opens a group. -/
inductive Opening where
  | group (flags : Flags)
  | switch (flags : Flags)

/-- Reads what follows an opening parenthesis. -/
def readOpening (flags : Flags) (cs : List Char) : Option (Opening × List Char) :=
  let named (rest : List Char) : Option (Opening × List Char) :=
    let (name, rest) := rest.span (· != '>')
    match rest with
    | _ :: rest => if isGroupName name then some (.group flags, rest) else none
    | [] => none
  match cs with
  | '?' :: 'P' :: '<' :: rest => named rest
  | '?' :: '<' :: '=' :: _ => none
  | '?' :: '<' :: '!' :: _ => none
  | '?' :: '<' :: rest => named rest
  | '?' :: rest =>
    match readFlags flags true false false rest with
    | some (inner, ':' :: rest) => some (.group inner, rest)
    | some (inner, _ :: rest) => some (.switch inner, rest)
    | _ => none
  | cs => some (.group flags, cs)

/-- Drops blanks and comments in spaced mode. -/
def skipSpaced (flags : Flags) : Nat → List Char → List Char
  | 0, cs => cs
  | fuel + 1, cs =>
    if !flags.spaced then cs
    else
      match cs with
      | '#' :: rest => skipSpaced flags fuel (rest.dropWhile (· != '\n'))
      | c :: rest => if Text.isBlank c then skipSpaced flags fuel rest else cs
      | [] => []

/-- What an escape stands for outside a class. -/
def Escape.regex (flags : Flags) : Escape → Regex
  | .char c => classOf flags (· == c)
  | .set p => classOf flags p
  | .place r => r

/-- Reads alternatives up to a closing parenthesis, which is left standing, or to the end of the
text.  `alternatives` holds the finished ones, latest first, `items` the parts of the present one,
latest first. -/
def readAlternatives :
    Nat → Flags → List Regex → List Regex → List Char → Option (Regex × List Char)
  | 0, _, _, _, _ => none
  | fuel + 1, flags, alternatives, items, cs =>
    let finished := seq items.reverse
    let item (r : Regex) (rest : List Char) : Option (Regex × List Char) :=
      match readRepetition (skipSpaced flags rest.length rest) with
      | none => none
      | some (none, rest) => readAlternatives fuel flags alternatives (r :: items) rest
      | some (some (bounds, greedy), rest) =>
        let again := within (greedy != flags.swapGreed) r bounds
        -- a second repetition sign applies to the first repetition
        match readRepetition (skipSpaced flags rest.length rest) with
        | some (some (bounds', greedy'), rest) =>
          readAlternatives fuel flags alternatives
            (within (greedy' != flags.swapGreed) again bounds' :: items) rest
        | some (none, rest) => readAlternatives fuel flags alternatives (again :: items) rest
        | none => none
    match skipSpaced flags cs.length cs with
    | [] => some (oneOf (finished :: alternatives).reverse, [])
    | ')' :: rest => some (oneOf (finished :: alternatives).reverse, ')' :: rest)
    | '|' :: rest => readAlternatives fuel flags (finished :: alternatives) [] rest
    | '(' :: rest =>
      match readOpening flags rest with
      | none => none
      | some (.switch flags, rest) => readAlternatives fuel flags alternatives items rest
      | some (.group inner, rest) =>
        match readAlternatives fuel inner [] [] rest with
        | some (r, ')' :: rest) => item r rest
        | _ => none
    | '[' :: rest =>
      let (negated, rest) := match rest with
        | '^' :: rest => (true, rest)
        | rest => (false, rest)
      match readClass flags.ignoreCase fuel true (fun _ => false) none rest with
      | some (p, rest) => item (.one fun c => p c != negated) rest
      | none => none
    | '\\' :: rest =>
      match readEscape rest with
      | some (e, rest) => item (e.regex flags) rest
      | none => none
    | '.' :: rest => item (dot flags) rest
    | '^' :: rest => item (if flags.multiLine then lineStart else start) rest
    | '$' :: rest => item (if flags.multiLine then lineStop else stop) rest
    | '*' :: _ => none
    | '+' :: _ => none
    | '?' :: _ => none
    | '\x7b' :: _ => none
    | c :: rest => item (classOf flags (· == c)) rest

/-- Reads an expression from a text. -/
def parse? (pattern : String) : Option Regex :=
  match readAlternatives (pattern.length + 1) {} [] [] pattern.toList with
  | some (r, []) => some r
  | _ => none

end CodeSurvey.Regex
