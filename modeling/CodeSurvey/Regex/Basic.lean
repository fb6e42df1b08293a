/-
  Regular expressions over characters, with one marked part.  `Regex.runs` lists the ways an
  expression can match from a cursor, best first: an alternative before the next one, and one
  more round of a greedy repetition before leaving it.  A search takes the best way from the
  leftmost place that has one.
-/
import CodeSurvey.Text.Word

namespace CodeSurvey

/-- A regular expression. -/
inductive Regex where
  /-- Matches the empty text. -/
  | empty
  /-- One character that the class accepts. -/
  | one (accepts : Char → Bool)
  /-- A place with a fitting character before it and after it, `none` being an end of the text. -/
  | look (fits : Option Char → Option Char → Bool)
  /-- One expression after the other. -/
  | cat (a b : Regex)
  /-- The first expression or else the second. -/
  | alt (a b : Regex)
  /-- Any number of rounds, as many or as few as possible. -/
  | star (greedy : Bool) (a : Regex)
  /-- The part of a match that is reported. -/
  | mark (a : Regex)

namespace Regex

/-! ## §1. Matching -/

/-- A place in a text: the character before it, the text after it, and the text of the marked part
if that has been passed. -/
structure Cursor where
  before : Option Char
  rest : List Char
  marked : Option (List Char) := none

/-- The ways of repeating `step`, at most `rounds` times, and the places (given by how much text is
left) that have been tried.  A place that was tried before is not tried again, since the earlier
way to it is the better one, and a round that consumes nothing counts for nothing. -/
def repeatRuns (greedy : Bool) (step : Cursor → List Cursor) :
    Nat → List Nat → Cursor → List Cursor × List Nat
  | 0, tried, c => ([c], tried)
  | rounds + 1, tried, c =>
    let left := c.rest.length
    if tried.contains left then ([], tried)
    else
      let further := (step c).foldl
        (fun acc d =>
          if d.rest.length < left then
            let more := repeatRuns greedy step rounds acc.2 d
            (acc.1 ++ more.1, more.2)
          else acc)
        ([], left :: tried)
      (if greedy then further.1 ++ [c] else c :: further.1, further.2)

/-- The ways an expression matches from a cursor, best first. -/
def runs : Regex → Cursor → List Cursor
  | .empty, c => [c]
  | .one accepts, c =>
    match c.rest with
    | [] => []
    | x :: rest => if accepts x then [{ c with before := some x, rest := rest }] else []
  | .look fits, c => if fits c.before c.rest.head? then [c] else []
  | .cat a b, c => (a.runs c).flatMap b.runs
  | .alt a b, c => a.runs c ++ b.runs c
  | .star greedy a, c => (repeatRuns greedy a.runs (c.rest.length + 1) [] c).1
  | .mark a, c =>
    (a.runs c).map fun d =>
      { d with marked := some (c.rest.take (c.rest.length - d.rest.length)) }

/-- The best match that starts at the first possible place of the text after `before`. -/
def search (r : Regex) (before : Option Char) : List Char → Option Cursor
  | [] => (r.runs ⟨before, [], none⟩).head?
  | c :: cs =>
    match (r.runs ⟨before, c :: cs, none⟩).head? with
    | some found => some found
    | none => search r (some c) cs

/-- Does the expression match somewhere in the text? -/
def occursIn (r : Regex) (text : List Char) : Bool :=
  (r.search none text).isSome

/-- The marked part of the first match. -/
def find (r : Regex) (text : List Char) : Option (List Char) :=
  (r.search none text).bind Cursor.marked

/-- The marked parts of the matches after one another, the text before being `before`. -/
def findAllAfter (r : Regex) (before : Option Char) (text : List Char) : List (List Char) :=
  match r.search before text with
  | none => []
  | some c =>
    if _h : c.rest.length < text.length then
      c.marked.toList ++ findAllAfter r c.before c.rest
    else c.marked.toList
termination_by text.length

/-- The marked parts of the matches, none of which overlap. -/
def findAll (r : Regex) (text : List Char) : List (List Char) :=
  r.findAllAfter none text

/-! ## §2. Building expressions -/

/-- A fixed character. -/
def char (c : Char) : Regex := .one (· == c)

/-- Expressions one after the other. -/
def seq (rs : List Regex) : Regex := rs.foldr .cat .empty

/-- A fixed text. -/
def text (s : String) : Regex := seq (s.toList.map char)

/-- The first of several expressions that leads to a match. -/
def oneOf : List Regex → Regex
  | [] => .one fun _ => false
  | [r] => r
  | r :: rs => .alt r (oneOf rs)

/-- One of several fixed texts. -/
def texts (ss : List String) : Regex := oneOf (ss.map text)

/-- An expression or nothing. -/
def opt (r : Regex) : Regex := .alt r .empty

/-- Any number of rounds, as many as possible. -/
def many (r : Regex) : Regex := .star true r

/-- At least one round, as many as possible. -/
def many1 (r : Regex) : Regex := .cat r (many r)

/-- Any number of blanks. -/
def blanks : Regex := many (.one Text.isBlank)

/-- At least one blank. -/
def blanks1 : Regex := many1 (.one Text.isBlank)

/-- A place between a word character and something else. -/
def boundary : Regex :=
  .look fun before after => before.any Text.isWord != after.any Text.isWord

/-- The start of the text. -/
def start : Regex := .look fun before _ => before.isNone

/-- The end of the text. -/
def stop : Regex := .look fun _ after => after.isNone

/-- The start of a line. -/
def lineStart : Regex := .look fun before _ => before.all (· == '\n')

/-- The end of a line. -/
def lineStop : Regex := .look fun _ after => after.all (· == '\n')

end Regex

end CodeSurvey
