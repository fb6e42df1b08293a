/-
  Texts as lists of characters and as octets: blanks, finding and cutting, UTF-8 and offsets.

  UTF-8 is read by an octet-by-octet machine: a lead octet fixes how many octets are still missing
  and in which range the next one must lie.  Each longest well-formed beginning of a damaged
  character is one piece of damage; the lenient reading shows it as U+FFFD, the strict one refuses
  it.  Spans and columns count octets, rows count line feeds.  A span that does not begin and end
  between two characters has no text.
-/

namespace CodeSurvey.Text

/-! ## §1. Blanks -/

/-- Is `n` in one of the closed ranges of `table`? -/
def inRanges (table : List (Nat × Nat)) (n : Nat) : Bool :=
  table.any fun r => r.1 ≤ n && n ≤ r.2

/-- Blanks from U+0080 on. -/
def blankTable : List (Nat × Nat) :=
  [(0x85, 0x85), (0xa0, 0xa0), (0x1680, 0x1680), (0x2000, 0x200a), (0x2028, 0x2029),
   (0x202f, 0x202f), (0x205f, 0x205f), (0x3000, 0x3000)]

/-- White space: tab to carriage return, the space, and the blanks of the table. -/
def isBlank (c : Char) : Bool :=
  let n := c.toNat
  if n < 0x80 then n == 0x20 || (9 ≤ n && n ≤ 13) else inRanges blankTable n

/-- The characters after the leading blanks. -/
def trimLeft (cs : List Char) : List Char :=
  cs.dropWhile isBlank

/-- The characters before the trailing blanks. -/
def trimRight (cs : List Char) : List Char :=
  (cs.reverse.dropWhile isBlank).reverse

/-- The characters between the leading and the trailing blanks. -/
def trim (cs : List Char) : List Char :=
  trimRight (trimLeft cs)

/-- A text without its leading and trailing blanks. -/
def trimmed (s : String) : String :=
  String.ofList (trim s.toList)

/-- Only blanks, or nothing at all. -/
def allBlank (cs : List Char) : Bool :=
  cs.all isBlank

/-- ASCII white space as a text format sees it: space, tab, line feed, vertical tab, form feed,
carriage return. -/
def isAsciiBlank (c : Char) : Bool :=
  c == ' ' || (9 ≤ c.toNat && c.toNat ≤ 13)

/-! ## §2. Finding and cutting -/

/-- Does `part` occur in `cs` as a run of neighbouring elements? -/
def contains [BEq α] (part : List α) : List α → Bool
  | [] => part.isEmpty
  | c :: cs => part.isPrefixOf (c :: cs) || contains part cs

/-- The text before and after the first element that `p` accepts. -/
def splitFirst (p : α → Bool) (cs : List α) : Option (List α × List α) :=
  match cs.span (fun c => !p c) with
  | (_, []) => none
  | (before, _ :: after) => some (before, after)

/-- The text before and after the last element that `p` accepts. -/
def splitLast (p : α → Bool) (cs : List α) : Option (List α × List α) :=
  (splitFirst p cs.reverse).map fun (after, before) => (before.reverse, after.reverse)

/-- The pieces between the elements that `p` accepts: one more than there are such elements. -/
def splitAll (p : α → Bool) : List α → List (List α)
  | [] => [[]]
  | c :: cs =>
    if p c then [] :: splitAll p cs
    else
      match splitAll p cs with
      | [] => [[c]]
      | piece :: pieces => (c :: piece) :: pieces

/-- The text before and after the first occurrence of `part`. -/
def splitAt? [BEq α] (part : List α) : List α → Option (List α × List α)
  | [] => if part.isEmpty then some ([], []) else none
  | c :: cs =>
    if part.isPrefixOf (c :: cs) then some ([], (c :: cs).drop part.length)
    else (splitAt? part cs).map fun (before, after) => (c :: before, after)

/-- The text after `part`, if it begins so. -/
def stripStart? [BEq α] (part cs : List α) : Option (List α) :=
  if part.isPrefixOf cs then some (cs.drop part.length) else none

/-- The text before `part`, if it ends so. -/
def stripEnd? [BEq α] (part cs : List α) : Option (List α) :=
  if part.isSuffixOf cs then some (cs.take (cs.length - part.length)) else none

/-- Texts joined with `separator` between neighbours. -/
def join (separator : String) (texts : List String) : String :=
  separator.intercalate texts

/-! ## §3. Octets -/

/-- The octets of a text. -/
def octets (cs : List Char) : List UInt8 :=
  cs.flatMap String.utf8EncodeChar

/-- A character of which octets are still missing: the bits read so far, how many octets are to
come, and the range of the next one. -/
structure Unfinished where
  bits : Nat
  missing : Nat
  low : Nat
  high : Nat

/-- What reading yields: a character, or octets that belong to none. -/
inductive Piece where
  | char (c : Char)
  | damage

/-- What an octet at the start of a character means. -/
inductive Lead where
  | done (piece : Piece)
  | more (rest : Unfinished)

/-- The meaning of an octet at the start of a character. -/
def leadOf (b : Nat) : Lead :=
  if b < 0x80 then .done (.char (Char.ofNat b))
  else if b < 0xc2 then .done .damage
  else if b < 0xe0 then .more ⟨b - 0xc0, 1, 0x80, 0xbf⟩
  else if b == 0xe0 then .more ⟨0, 2, 0xa0, 0xbf⟩
  else if b == 0xed then .more ⟨0xd, 2, 0x80, 0x9f⟩
  else if b < 0xf0 then .more ⟨b - 0xe0, 2, 0x80, 0xbf⟩
  else if b == 0xf0 then .more ⟨0, 3, 0x90, 0xbf⟩
  else if b < 0xf4 then .more ⟨b - 0xf0, 3, 0x80, 0xbf⟩
  else if b == 0xf4 then .more ⟨4, 3, 0x80, 0x8f⟩
  else .done .damage

/-- The pieces of a run of octets, `held` being the unfinished character before it. -/
def piecesAfter (held : Option Unfinished) : List UInt8 → List Piece
  | [] => if held.isSome then [.damage] else []
  | b :: rest =>
    let b := b.toNat
    let fresh (damaged : List Piece) : List Piece :=
      match leadOf b with
      | .done piece => damaged ++ piece :: piecesAfter none rest
      | .more u => damaged ++ piecesAfter (some u) rest
    match held with
    | none => fresh []
    | some u =>
      if u.low ≤ b && b ≤ u.high then
        let bits := u.bits * 64 + (b - 0x80)
        if u.missing ≤ 1 then .char (Char.ofNat bits) :: piecesAfter none rest
        else piecesAfter (some ⟨bits, u.missing - 1, 0x80, 0xbf⟩) rest
      else fresh [.damage]

/-- The characters and damages of a run of octets. -/
def pieces (bytes : List UInt8) : List Piece :=
  piecesAfter none bytes

/-- The character of a piece, if it is one. -/
def Piece.char? : Piece → Option Char
  | .char c => some c
  | .damage => none

/-- The lenient reading: damage becomes the replacement character. -/
def decodeLossy (bytes : List UInt8) : String :=
  String.ofList ((pieces bytes).map fun p => p.char?.getD (Char.ofNat 0xfffd))

/-- The strict reading: damage refuses the whole. -/
def decode? (bytes : List UInt8) : Option String :=
  ((pieces bytes).mapM Piece.char?).map String.ofList

/-! ## §4. Offsets -/

/-- The number of octets of a text. -/
def byteLength (cs : List Char) : Nat :=
  cs.foldl (fun n c => n + c.utf8Size) 0

/-- The text from octet `n` on, if `n` lies between two characters. -/
def dropBytes? : Nat → List Char → Option (List Char)
  | 0, cs => some cs
  | _ + 1, [] => none
  | n + 1, c :: cs => if c.utf8Size ≤ n + 1 then dropBytes? (n + 1 - c.utf8Size) cs else none

/-- The first `n` octets of a text, if `n` lies between two characters. -/
def takeBytes? : Nat → List Char → Option (List Char)
  | 0, _ => some []
  | _ + 1, [] => none
  | n + 1, c :: cs =>
    if c.utf8Size ≤ n + 1 then (takeBytes? (n + 1 - c.utf8Size) cs).map (c :: ·) else none

/-- The text of the octets from `start` up to `stop`. -/
def slice? (cs : List Char) (start stop : Nat) : Option (List Char) :=
  if start ≤ stop then (dropBytes? start cs).bind (takeBytes? (stop - start)) else none

/-- The number of line feeds before octet `n`. -/
def rowAt : List Char → Nat → Nat
  | [], _ => 0
  | c :: cs, n =>
    if n = 0 then 0 else (if c = '\n' then 1 else 0) + rowAt cs (n - c.utf8Size)

/-- The number of octets between the last line feed before octet `n` and `n`, when `column`
octets of the line stand before the text. -/
def columnFrom (column : Nat) : List Char → Nat → Nat
  | [], n => column + n
  | c :: cs, n =>
    if n < c.utf8Size then column + n
    else if c = '\n' then columnFrom 0 cs (n - 1)
    else columnFrom (column + c.utf8Size) cs (n - c.utf8Size)

/-- The octet column of offset `n` in its line. -/
def columnAt (cs : List Char) (n : Nat) : Nat :=
  columnFrom 0 cs n

/-- The number of lines: one for each line feed, and one more for a last line that has none. -/
def countLines (cs : List Char) : Nat :=
  cs.count '\n' + (match cs.getLast? with
    | none => 0
    | some c => if c = '\n' then 0 else 1)

end CodeSurvey.Text
