/-
  Lines of elements and captures.

  A text is the sequence of its lines, each with the line feed that ends it (`flatten_lines`), and
  there are as many as are counted (`length_lines`).  An octet lies in the line that one meets it
  in, walking along the lines (`lineOf?`), which is the one behind the line feeds in front of it
  (`lineOf?_append_cons`).

  Main result, `lines_told_iff`: an element or a capture begins in the line of its first octet; it
  ends in the line of its last octet exactly if its text does not end with a line feed, and else in
  the line behind that one, which the source need not have.
-/
import CodeSurvey.Proofs.CaptureRecords
import CodeSurvey.Proofs.MissingTexts

namespace CodeSurvey

open Analysis Extract Query Syntax

namespace Text

/-! ## §1. The lines of a text. -/

/-- The lines of a text, each with the line feed that ends it. -/
def lines : List Char → List (List Char)
  | [] => []
  | c :: cs =>
    if c = '\n' then [c] :: lines cs
    else
      match lines cs with
      | [] => [[c]]
      | line :: rest => (c :: line) :: rest

theorem lines_feed (cs : List Char) : lines ('\n' :: cs) = ['\n'] :: lines cs := rfl

/-- A character that is no line feed stands in front of the first line. -/
theorem lines_letter {c : Char} (hc : c ≠ '\n') (cs : List Char) :
    lines (c :: cs) = (c :: (lines cs).headD []) :: (lines cs).tail := by
  rw [lines, if_neg hc]
  cases lines cs with
  | nil => rfl
  | cons line rest => rfl

theorem flatten_lines (cs : List Char) : (lines cs).flatten = cs := by
  induction cs with
  | nil => rfl
  | cons c cs ih =>
      by_cases hc : c = '\n'
      · rw [hc, lines_feed, List.flatten_cons, ih, List.singleton_append]
      · rw [lines_letter hc, List.flatten_cons, List.cons_append]
        congr 1
        cases hlines : lines cs with
        | nil => rw [← ih, hlines]; rfl
        | cons line rest => rw [hlines] at ih; exact ih

theorem lines_eq_nil_iff {cs : List Char} : lines cs = [] ↔ cs = [] := by
  constructor
  · intro h
    rw [← flatten_lines cs, h, List.flatten_nil]
  · rintro rfl
    rfl

theorem countLines_feed (cs : List Char) : countLines ('\n' :: cs) = countLines cs + 1 := by
  unfold countLines
  rw [List.count_cons_self, List.getLast?_cons]
  cases cs.getLast? with
  | none => rfl
  | some c => exact Nat.add_right_comm _ _ _

theorem countLines_letter {c : Char} (hc : c ≠ '\n') (cs : List Char) :
    countLines (c :: cs) = max 1 (countLines cs) := by
  unfold countLines
  rw [List.count_cons_of_ne hc, List.getLast?_cons]
  cases hlast : cs.getLast? with
  | none =>
      rw [List.getLast?_eq_none_iff.1 hlast]
      simp [hc]
  | some last =>
      by_cases hfeed : last = '\n'
      · -- the line feed is one of those counted
        have hmem : '\n' ∈ cs := hfeed ▸ List.mem_of_getLast? hlast
        have hpos : 0 < cs.count '\n' := List.count_pos_iff.2 hmem
        simp only [Option.getD_some, hfeed, if_true]
        omega
      · simp only [Option.getD_some, hfeed, if_false]
        omega

/-- **There are as many lines as are counted.** -/
theorem length_lines (cs : List Char) : (lines cs).length = countLines cs := by
  induction cs with
  | nil => rfl
  | cons c cs ih =>
      by_cases hc : c = '\n'
      · rw [hc, lines_feed, List.length_cons, ih, countLines_feed]
      · rw [lines_letter hc, List.length_cons, List.length_tail, ih, countLines_letter hc]
        omega

/-! ## §2. The line of an octet. -/

/-- The number of the line that octet `n` is met in, walking along lines. -/
def lineAlong? : List (List Char) → Nat → Option Nat
  | [], _ => none
  | line :: rest, n =>
    if n < byteLength line then some 1
    else (lineAlong? rest (n - byteLength line)).map (· + 1)

/-- The line that holds octet `n` of a text, the lines being counted from one. -/
def lineOf? (cs : List Char) (n : Nat) : Option Nat := lineAlong? (lines cs) n

theorem lineAlong?_le {k : Nat} : ∀ {ls : List (List Char)} {n : Nat},
    lineAlong? ls n = some k → 1 ≤ k ∧ k ≤ ls.length := by
  intro ls n
  fun_induction lineAlong? ls n generalizing k with
  | case1 n => exact fun h => (nomatch h)
  | case2 line rest n hn =>
      rintro ⟨⟩
      exact ⟨Nat.le_refl 1, by simp⟩
  | case3 line rest n hn ih =>
      intro h
      obtain ⟨k', hk', rfl⟩ := Option.map_eq_some_iff.1 h
      have hrest := ih hk'
      rw [List.length_cons]
      omega

/-- A line that holds an octet is one of those counted. -/
theorem lineOf?_le {cs : List Char} {n k : Nat} (h : lineOf? cs n = some k) :
    1 ≤ k ∧ k ≤ countLines cs := by
  rw [← length_lines]
  exact lineAlong?_le h

/-- An octet of the first character is in the first line. -/
theorem lineOf?_first {c : Char} {n : Nat} (hn : n < c.utf8Size) (cs : List Char) :
    lineOf? (c :: cs) n = some 1 := by
  unfold lineOf?
  by_cases hc : c = '\n'
  · rw [hc] at hn ⊢
    rw [lines_feed, lineAlong?, if_pos (by simpa using hn)]
  · rw [lines_letter hc, lineAlong?, if_pos (by rw [byteLength_cons]; omega)]

theorem lineOf?_past_feed (cs : List Char) (n : Nat) :
    lineOf? ('\n' :: cs) (n + 1) = (lineOf? cs n).map (· + 1) := by
  have hone : byteLength ['\n'] = 1 := rfl
  unfold lineOf?
  rw [lines_feed, lineAlong?, hone, if_neg (by omega), Nat.add_sub_cancel]

theorem lineOf?_past_letter {c : Char} (hc : c ≠ '\n') (cs : List Char) {n : Nat}
    (hn : c.utf8Size ≤ n) (hlt : n - c.utf8Size < byteLength cs) :
    lineOf? (c :: cs) n = lineOf? cs (n - c.utf8Size) := by
  unfold lineOf?
  rw [lines_letter hc]
  -- the letter joins the first line behind it, and there is one since the octet is behind it
  cases hlines : lines cs with
  | nil =>
      rw [lines_eq_nil_iff.1 hlines] at hlt
      exact absurd hlt (Nat.not_lt_zero _)
  | cons line rest =>
      show lineAlong? ((c :: line) :: rest) n = _
      rw [lineAlong?, lineAlong?, byteLength_cons, Nat.sub_add_eq]
      by_cases hin : n - c.utf8Size < byteLength line
      · rw [if_pos hin, if_pos (by omega)]
      · rw [if_neg hin, if_neg (by omega)]

/-- **The line of an octet**, which belongs to the character `c`, is the one behind the line feeds
in front of that character. -/
theorem lineOf?_append_cons (c : Char) (after : List Char) : ∀ (before : List Char) {n : Nat},
    byteLength before ≤ n → n < byteLength before + c.utf8Size →
      lineOf? (before ++ c :: after) n = some (before.count '\n' + 1) := by
  intro before
  induction before with
  | nil =>
      intro n _ hlt
      rw [List.nil_append, List.count_nil]
      exact lineOf?_first (by simpa using hlt) after
  | cons d before ih =>
      intro n hle hlt
      rw [byteLength_cons] at hle hlt
      rw [List.cons_append]
      -- a line feed in front moves the octet on by one line, any other character leaves it there
      by_cases hd : d = '\n'
      · subst hd
        have hone : ('\n' : Char).utf8Size = 1 := rfl
        obtain ⟨m, rfl⟩ : ∃ m, n = m + 1 := ⟨n - 1, by omega⟩
        rw [lineOf?_past_feed, ih (by omega) (by omega), List.count_cons_self, Option.map_some]
      · rw [lineOf?_past_letter hd _ (by omega), ih (by omega) (by omega),
          List.count_cons_of_ne hd]
        rw [byteLength_append, byteLength_cons]
        omega

/-! ## §3. The lines of a span. -/

/-- What is told of the lines of a span with a text: the first is the line of its first octet.  The
last is the line of its last octet, or the next one if the text ends with a line feed. -/
structure LinesTold (source : List Char) (start stop : Nat) (text : List Char)
    (first last : Nat) : Prop where
  begins : lineOf? source start = some first
  ends : ∃ k, lineOf? source (stop - 1) = some k ∧ 1 ≤ first ∧ first ≤ k ∧ k ≤ countLines source ∧
    last = if text.getLast? = some '\n' then k + 1 else k
  inclusive : lineOf? source (stop - 1) = some last ↔ text.getLast? ≠ some '\n'
  within : last ≤ countLines source ↔
    ¬ (text.getLast? = some '\n' ∧ stop = (octets source).length)

theorem countLines_of_getLast? {cs : List Char} (h : cs.getLast? = some '\n') :
    countLines cs = cs.count '\n' := by
  unfold countLines
  rw [h]
  rfl

/-- The line behind a line feed is there unless the text ends with it. -/
theorem count_lt_countLines_iff {front after : List Char} (hfront : front.getLast? = some '\n') :
    front.count '\n' + 1 ≤ countLines (front ++ after) ↔ after ≠ [] := by
  cases after with
  | nil =>
      rw [List.append_nil, countLines_of_getLast? hfront]
      simp
  | cons c after =>
      have hpos := c.utf8Size_pos
      have hline := lineOf?_append_cons c after front (Nat.le_refl _) (by omega)
      simpa using (lineOf?_le hline).2

theorem lineOf?_start {source text : List Char} {start stop : Nat}
    (h : slice? source start stop = some text) (htext : text ≠ []) :
    lineOf? source start = some (rowAt source start + 1) := by
  obtain ⟨before, after, rfl, rfl, -⟩ := slice?_eq_some_iff.1 h
  obtain ⟨c, tail, rfl⟩ := List.exists_cons_of_ne_nil htext
  rw [rowAt_append, List.cons_append]
  exact lineOf?_append_cons c _ before (Nat.le_refl _) (Nat.lt_add_of_pos_right c.utf8Size_pos)

/-- The line feeds in front of the last character of the text tell the line of the last octet. -/
theorem lineOf?_last {source front : List Char} {d : Char} {start stop : Nat}
    (h : slice? source start stop = some (front ++ [d])) :
    lineOf? source (stop - 1) = some (rowAt source start + front.count '\n' + 1) := by
  obtain ⟨before, after, rfl, rfl, rfl⟩ := slice?_eq_some_iff.1 h
  have hpos := d.utf8Size_pos
  have hline := lineOf?_append_cons d after (before ++ front)
    (n := byteLength (before ++ (front ++ [d])) - 1)
    (by simp only [byteLength_append, byteLength_cons, byteLength_nil]; omega)
    (by simp only [byteLength_append, byteLength_cons, byteLength_nil]; omega)
  rw [rowAt_append, ← List.count_append, ← hline]
  simp only [List.append_assoc, List.singleton_append]

/-- **A span that has a text** is told with these lines. -/
theorem linesTold_of_slice? {source text : List Char} {start stop : Nat}
    (h : slice? source start stop = some text) (htext : text ≠ []) :
    LinesTold source start stop text (rowAt source start + 1) (rowAt source stop + 1) := by
  obtain ⟨front, d, rfl⟩ := (List.eq_nil_or_concat' text).resolve_left htext
  have hbegins := lineOf?_start h htext
  have hlast := lineOf?_last h
  have hrow := rowAt_of_slice? h
  rw [List.count_append] at hrow
  have hends : (front ++ [d]).getLast? = some '\n' ↔ d = '\n' := by simp
  by_cases hd : d = '\n'
  · -- the text ends with a line feed, and the line behind it is told
    have hone : [d].count '\n' = 1 := by simp [hd]
    refine ⟨hbegins, ⟨_, hlast, by omega, by omega, (lineOf?_le hlast).2, ?_⟩, ?_, ?_⟩
    · rw [if_pos (hends.2 hd)]
      omega
    · rw [hlast, Option.some.injEq, ne_eq, hends]
      simp only [hd, not_true_eq_false, iff_false]
      omega
    · simp only [hends.2 hd, true_and]
      obtain ⟨before, after, rfl, rfl, rfl⟩ := slice?_eq_some_iff.1 h
      have hfeed : (before ++ (front ++ [d])).getLast? = some '\n' := by simp [hd]
      rw [← List.append_assoc, rowAt_append, count_lt_countLines_iff hfeed, length_octets,
        byteLength_append _ after, ne_eq, not_iff_not, ← byteLength_eq_zero_iff]
      omega
  · have hzero : [d].count '\n' = 0 := by simp [hd]
    have hline : lineOf? source (stop - 1) = some (rowAt source stop + 1) := by
      rw [hlast]
      congr 1
      omega
    refine ⟨hbegins, ⟨_, hline, by omega, by omega, (lineOf?_le hline).2, ?_⟩, ?_, ?_⟩
    · rw [if_neg (hends.not.2 hd)]
    · exact iff_of_true hline (hends.not.2 hd)
    · exact iff_of_true (lineOf?_le hline).2 fun hfeed => hd (hends.1 hfeed.1)

end Text

/-! ## §4. Elements and captures. -/

/-- **Lines of an element.** -/
theorem Extract.TellsOf.linesTold {p : Parsed} {t : Tree} {e : Element} (h : TellsOf p t e)
    (htext : e.text ≠ "") :
    Text.LinesTold p.tree.source t.start t.stop e.text.toList e.startLine e.endLine := by
  obtain ⟨name, kind, rfl⟩ := h
  cases hslice : Text.slice? p.tree.source t.start t.stop with
  | none =>
      refine absurd ?_ htext
      show p.tree.text t = ""
      rw [SyntaxTree.text, SyntaxTree.text?, hslice]
      rfl
  | some text =>
      have heq : (elementOf p t name kind).text = String.ofList text := by
        show p.tree.text t = _
        rw [SyntaxTree.text, SyntaxTree.text?, hslice]
        rfl
      rw [heq] at htext ⊢
      rw [String.toList_ofList]
      exact Text.linesTold_of_slice? hslice (mt String.ofList_eq_empty_iff.2 htext)

/-- **Lines of a capture.** -/
theorem Query.Capture.linesTold_ofNode {tree : SyntaxTree} {name : String} {t : Tree}
    (hreal : ¬ (ofNode tree tree.source name t).IsPlaceholder)
    (htext : (ofNode tree tree.source name t).text ≠ "") :
    let c := ofNode tree tree.source name t
    Text.LinesTold tree.source c.startByte c.endByte c.text.toList c.startLine c.endLine := by
  rw [(records_ofNode ..).placeholder, not_not] at hreal
  obtain ⟨text, hslice⟩ := Text.addressable_iff_exists_slice.1 hreal
  unfold ofNode at htext ⊢
  rw [hslice] at htext ⊢
  dsimp only at htext ⊢
  rw [String.toList_ofList]
  exact Text.linesTold_of_slice? hslice (mt String.ofList_eq_empty_iff.2 htext)

/-- What is left out of an element that keeps its text are facts of its kind only. -/
theorem Extract.TellsOf.trimElement {p : Parsed} {t : Tree} {e : Element} (h : TellsOf p t e)
    {r : Request} (htext : (Engine.trimElement r e).text ≠ "") :
    TellsOf p t (Engine.trimElement r e) := by
  obtain ⟨name, kind, rfl⟩ := h
  cases hdetails : r.details with
  | false =>
      unfold Engine.trimElement at htext
      rw [hdetails] at htext
      exact absurd rfl htext
  | true =>
      unfold Engine.trimElement
      rw [if_pos hdetails]
      split
      · exact ⟨name, kind, rfl⟩
      · unfold Element.withoutComplexity
        split
        · exact ⟨name, _, rfl⟩
        · exact ⟨name, kind, rfl⟩

theorem Engine.exists_of_findElements {g : Engine} {r : Request} {plugin : Plugin} {p : Parsed}
    {elements : List Element} (h : (g.findElements r plugin p).1 = .ok elements) :
    elements = [] ∨ ∃ found memo, (plugin.extract p).run g.memo = (.ok found, memo) ∧
      elements = found.map (trimElement r) := by
  unfold findElements at h
  split at h
  · rcases hrun : (plugin.extract p).run g.memo with ⟨message | found, memo⟩
    · simp only [measured, hrun] at h
      cases h
    · simp only [measured, hrun] at h
      exact .inr ⟨found, memo, rfl, (Except.ok.inj h).symm⟩
  · exact .inl (Except.ok.inj h).symm

/-- **First and last lines.**  Whatever was parsed: of an element that tells of a node and has a
text, and of a capture that has one, whatever was queried before, the first line is that of its
first octet.  Its last line is that of its last octet exactly if the text does not end with a line
feed, and else the next one.  The source has the last line unless the text ends with the line feed
that the source ends with.  The elements that are found with the plugins at hand are of this
kind. -/
theorem lines_told_iff (p : Parsed) :
    (∀ (t : Tree) (e : Element), TellsOf p t e → e.text ≠ "" →
      Text.LinesTold p.tree.source t.start t.stop e.text.toList e.startLine e.endLine) ∧
    (∀ (g : Engine) (r : Request), ∀ v ∈ Extractor.all, ∀ elements : List Element,
      g.memo.Genuine → (g.findElements r v.plugin p).1 = .ok elements →
        ∀ e ∈ elements, e.text ≠ "" → ∃ t ∈ p.tree.root.nodes, TellsOf p t e ∧
          Text.LinesTold p.tree.source t.start t.stop e.text.toList e.startLine e.endLine) ∧
    ∀ (s : Session) (target : Session.Target) (name : String) (query : Except String String)
      (captures : List Capture), target.tree = some p.tree → target.source = p.tree.source →
      (s.runOn target name query).1.result = .ok captures →
        ∀ c ∈ captures, ¬ c.IsPlaceholder → c.text ≠ "" →
          Text.LinesTold p.tree.source c.startByte c.endByte c.text.toList c.startLine
            c.endLine := by
  refine ⟨fun t e => TellsOf.linesTold, ?_, ?_⟩
  · intro g r v hv elements hmemo h e he htext
    rcases Engine.exists_of_findElements h with rfl | ⟨found, memo, hrun, rfl⟩
    · cases he
    · obtain ⟨e, hfound, rfl⟩ := List.mem_map.1 he
      obtain ⟨t, ht, htells⟩ := Extractor.tells_of_nodes hv hmemo hrun e hfound
      exact ⟨t, ht, htells.trimElement htext, (htells.trimElement htext).linesTold htext⟩
  · intro s target name query captures htree hsource h c hc hreal htext
    obtain ⟨tree, -, -, q, htree', -, -, -, rfl⟩ := Session.exists_of_runOn_ok h
    obtain rfl := Option.some.inj (htree.symm.trans htree')
    obtain ⟨x, -, rfl⟩ := List.mem_map.1 hc
    rw [hsource] at hreal htext ⊢
    exact Capture.linesTold_ofNode hreal htext

/-- The path of an include. -/
def includedPath : Tree := phrase 3 "system_lib_string" (some "path") 9 12 []

/-- A file in C of one line, which includes another one. -/
def oneInclude : Parsed :=
  { tree :=
      { source := "#include <a>\n".toList,
        root := phrase 0 "translation_unit" none 0 13
          [phrase 1 "preproc_include" none 0 13
            [token 2 "#include" 0 8, includedPath]] },
    dialect := ⟨"c", Grammar.c⟩,
    path := "a.c" }

/-- Captures of a query text in that file. -/
def capturesInInclude (query : String) : Except String (List Capture) :=
  (({ catalog := [] } : Session).runOn (Engine.target oneInclude) "q" (.ok query)).1.result

/-- The path that is included is told with the one line it stands in, as a capture and as an
element, and what is found in a Java class is told with lines too. -/
theorem path_lines_told :
    (∃ c, capturesInInclude "(system_lib_string) @p" = .ok [c] ∧ c.text = "<a>" ∧
      Text.LinesTold oneInclude.tree.source 9 12 c.text.toList 1 1) ∧
    (∃ t e, TellsOf oneInclude t e ∧ e.text = "<a>" ∧
      Text.LinesTold oneInclude.tree.source 9 12 e.text.toList 1 1) ∧
    ∃ elements, ((Engine.new none {}).findElements { path := "C.java", details := true }
        (Extractor.plain .java).plugin (Extractor.threeFields 'a' 'b' 'a')).1 = .ok elements ∧
      elements.length = 4 ∧
      ∀ e ∈ elements, e.text ≠ "" → ∃ t, TellsOf (Extractor.threeFields 'a' 'b' 'a') t e ∧
        Text.LinesTold (Extractor.threeFields 'a' 'b' 'a').tree.source t.start t.stop e.text.toList
          e.startLine e.endLine := by
  obtain ⟨hnodes, -, hcaptured⟩ := lines_told_iff oneInclude
  obtain ⟨-, hfound, -⟩ := lines_told_iff (Extractor.threeFields 'a' 'b' 'a')
  refine ⟨?_, ?_, ?_⟩
  · let c : Capture := ⟨"p", "system_lib_string", 1, 1, 9, 12, 9, 12, "<a>"⟩
    have hrun : capturesInInclude "(system_lib_string) @p" = .ok [c] := by decide +kernel
    have hreal : ¬ c.IsPlaceholder := fun hstand => absurd hstand.startLine (Nat.succ_ne_zero 0)
    exact ⟨c, hrun, rfl, hcaptured _ (Engine.target oneInclude) "q" _ _ rfl rfl hrun c
      List.mem_cons_self hreal (by decide)⟩
  · have htext : (importOf oneInclude includedPath "a" none).text = "<a>" := by decide +kernel
    have hlines : (importOf oneInclude includedPath "a" none).startLine = 1 ∧
        (importOf oneInclude includedPath "a" none).endLine = 1 := by decide +kernel
    have htold := hnodes includedPath (importOf oneInclude includedPath "a" none) ⟨"a", _, rfl⟩
      (by rw [htext]; decide)
    rw [hlines.1, hlines.2] at htold
    exact ⟨includedPath, _, ⟨"a", _, rfl⟩, htext, htold⟩
  · obtain ⟨found, made, m', hrun, -, heq, hkeys⟩ := Extractor.leaves_interleaved
    have hlength := congrArg List.length (eq_of_beq hkeys)
    rw [List.length_map] at hlength
    have hok : ((Engine.new none {}).findElements { path := "C.java", details := true }
        (Extractor.plain .java).plugin (Extractor.threeFields 'a' 'b' 'a')).1
          = .ok (found.map (Engine.trimElement { path := "C.java", details := true })) := by
      have hmemo : ((Engine.new none {}).measured "extract").memo = [] := rfl
      simp only [Engine.findElements, hmemo, hrun, if_true]
    have hfour :
        (found.map (Engine.trimElement { path := "C.java", details := true })).length = 4 := by
      rw [List.length_map, heq, List.length_map, hlength]
      rfl
    refine ⟨_, hok, hfour, fun e he htext => ?_⟩
    obtain ⟨t, -, htells, htold⟩ := hfound (Engine.new none {}) _ (Extractor.plain .java)
      (by simp [Extractor.all]) _ Memo.genuine_nil hok e he htext
    exact ⟨t, htells, htold⟩

/-- **The line behind the last one.**  The include takes the only line of its file, but the line
behind it is told as its last one, for the capture and for an element of the same node alike. -/
theorem include_ends_behind_file :
    (∃ c, capturesInInclude "(preproc_include) @include" = .ok [c] ∧ c.text = "#include <a>\n" ∧
      c.startLine = 1 ∧ c.endLine = 2 ∧
      Text.lineOf? oneInclude.tree.source (c.endByte - 1) = some 1) ∧
    (∃ e, e = importOf oneInclude oneInclude.tree.root "a" none ∧ e.text = "#include <a>\n" ∧
      e.startLine = 1 ∧ e.endLine = 2) ∧
    Text.countLines oneInclude.tree.source = 1 := by
  have hrun : capturesInInclude "(preproc_include) @include"
      = .ok [⟨"include", "preproc_include", 1, 2, 0, 0, 0, 13, "#include <a>\n"⟩] := by
    decide +kernel
  refine ⟨⟨_, hrun, rfl, rfl, rfl, by decide +kernel⟩, ⟨_, rfl, ?_⟩, by decide +kernel⟩
  decide +kernel

end CodeSurvey
