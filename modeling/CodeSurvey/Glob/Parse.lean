/-
  Reading globs.  Parts are collected in frames: the innermost open choice, and the choices
  around it.
-/
import CodeSurvey.Glob.Basic

namespace CodeSurvey.Glob

/-! ## §1. Faults -/

/-- Why a text is no glob. -/
inductive Fault where
  | unclosedSet
  | emptyRange (low high : Char)
  | unopenedChoice
  | unclosedChoice
  | danglingEscape
deriving DecidableEq

/-- The fault in words. -/
def Fault.message : Fault → String
  | .unclosedSet => "unclosed character class; missing ']'"
  | .emptyRange low high =>
    "invalid range; '" ++ String.singleton low ++ "' > '" ++ String.singleton high ++ "'"
  | .unopenedChoice =>
    "unopened alternate group; missing '\x7b' (maybe escape '\x7d' with '[\x7d]'?)"
  | .unclosedChoice =>
    "unclosed alternate group; missing '\x7d' (maybe escape '\x7b' with '[\x7b]'?)"
  | .danglingEscape => "dangling '\\'"

/-! ## §2. Sets -/

/-- Reads a set after its opening bracket and negation.  `ranges` holds the ranges read so far,
latest first; `waiting` says that a hyphen waits for the upper end of the latest one. -/
def readSet (first waiting : Bool) (ranges : List (Char × Char)) :
    List Char → Except Fault (List (Char × Char) × List Char)
  | [] => .error .unclosedSet
  | c :: cs =>
    if c = ']' && !first then
      .ok ((if waiting then ('-', '-') :: ranges else ranges).reverse, cs)
    else if c = '-' && !first && !waiting then readSet false true ranges cs
    else
      match waiting, ranges with
      | true, (low, _) :: ranges =>
        if c < low then .error (.emptyRange low c) else readSet false false ((low, c) :: ranges) cs
      | _, ranges => readSet false false ((c, c) :: ranges) cs

/-! ## §3. Frames -/

/-- An open choice: its finished branches and the parts of the present one, latest first. -/
structure Frame where
  finished : List (List Token) := []
  current : List Token := []

/-- The innermost frame and those around it, nearest first. -/
structure Frames where
  inner : Frame := {}
  outer : List Frame := []

/-- Adds a part to the innermost frame. -/
def Frames.push (f : Frames) (t : Token) : Frames :=
  { f with inner := { f.inner with current := t :: f.inner.current } }

/-- Replaces the latest part of the innermost frame. -/
def Frames.replaceLast (f : Frames) (t : Token) : Frames :=
  { f with inner := { f.inner with current := t :: f.inner.current.tail } }

/-- Is a choice open? -/
def Frames.inChoice (f : Frames) : Bool := !f.outer.isEmpty

/-- The branches of a frame, the present one included. -/
def Frame.branches (f : Frame) : List (List Token) :=
  (f.current.reverse :: f.finished).reverse

/-- Reads the rest of a pattern after a double star with `before` in front of it. -/
def doubleStar (f : Frames) (before : Option Char) (cs : List Char) : Frames × List Char :=
  let plain : Frames × List Char := ((f.push .many).push .many, cs)
  -- a component wildcard takes the place of the slash before it
  let component (t : Token) (cs : List Char) : Frames × List Char :=
    match f.inner.current with
    | .leading :: _ => (f, cs)
    | .trailing :: _ => (f, cs)
    | _ => (f.replaceLast t, cs)
  if f.inner.current.isEmpty then
    match cs with
    | [] => (f.push .leading, [])
    | '/' :: rest => (f.push .leading, rest)
    | _ => plain
  else if before == some '/' || (f.inChoice && (before == some ',' || before == some '\x7b')) then
    match cs with
    | [] => component .trailing []
    | '/' :: rest => component .between rest
    | c :: _ => if f.inChoice && (c == ',' || c == '\x7d') then component .trailing cs else plain
  else plain

/-! ## §4. Globs -/

/-- Reads the rest of a glob.  `before` is the character in front of it. -/
def readTokens : Nat → Frames → Option Char → List Char → Except Fault Pattern
  | 0, _, _, _ => .error .unclosedChoice
  | fuel + 1, f, before, cs =>
    match cs with
    | [] => if f.inChoice then .error .unclosedChoice else .ok f.inner.current.reverse
    | '?' :: rest => readTokens fuel (f.push .any) (some '?') rest
    | '*' :: '*' :: rest =>
      let (f, after) := doubleStar f before rest
      readTokens fuel f (some (if after.length < rest.length then '/' else '*')) after
    | '*' :: rest => readTokens fuel (f.push .many) (some '*') rest
    | '[' :: rest =>
      let (negated, rest) := match rest with
        | '!' :: rest => (true, rest)
        | '^' :: rest => (true, rest)
        | rest => (false, rest)
      match readSet true false [] rest with
      | .error fault => .error fault
      | .ok (ranges, rest) => readTokens fuel (f.push (.set negated ranges)) (some ']') rest
    | '\x7b' :: rest =>
      readTokens fuel { inner := {}, outer := f.inner :: f.outer } (some '\x7b') rest
    | '\x7d' :: rest =>
      match f.outer with
      | [] => .error .unopenedChoice
      | frame :: outer =>
        let around : Frames := { inner := frame, outer := outer }
        readTokens fuel (around.push (.choice f.inner.branches)) (some '\x7d') rest
    | ',' :: rest =>
      let f := if f.inChoice then
          { f with inner := { finished := f.inner.current.reverse :: f.inner.finished } }
        else f.push (.literal ',')
      readTokens fuel f (some ',') rest
    | '\\' :: c :: rest => readTokens fuel (f.push (.literal c)) (some c) rest
    | '\\' :: [] => .error .danglingEscape
    | c :: rest => readTokens fuel (f.push (.literal c)) (some c) rest

/-- Reads a glob from a text. -/
def parse (pattern : List Char) : Except Fault Pattern :=
  readTokens (pattern.length + 1) {} none pattern

/-- The message for a text that is no glob. -/
def Fault.report (fault : Fault) (pattern : String) : String :=
  "error parsing glob '" ++ pattern ++ "': " ++ fault.message

end CodeSurvey.Glob
