/-
  Modifiers of Java methods.

  What a method is declared to be is read off the text of its modifiers: the words between blanks, but
  those that start with `@`.  The tree has the keywords as tokens, among annotations and comments.

      a word is read just if it stands by itself in the text            (`mem_wordsOf_iff`)
      texts set off by blanks have their words one after the other      (`mem_wordList_laidOut`)
      a keyword is read if it is a token or is mentioned elsewhere      (`SetOff.read_iff`)

  Main result, `modifiers_agree_iff`: what is known of a method comes from its keywords alone if and
  only if no annotation and no comment among them mentions a keyword that would be taken for one.  A
  comment can do so (`comment_taken_for_keyword`).
-/
import CodeSurvey.Proofs.Arrangement
import CodeSurvey.Proofs.Pieces
import Mathlib.Data.List.Find

namespace CodeSurvey

open Syntax Query Extract

/-! ## §1. Words of a text. -/

namespace Text

/-- The pieces of a text between blanks that have something in them. -/
def wordList (cs : List Char) : List (List Char) :=
  (splitAll isBlank cs).filter fun w => !w.isEmpty

theorem mem_wordList_iff {w cs : List Char} :
    w ∈ wordList cs ↔ w ≠ [] ∧ (∀ c ∈ w, isBlank c = false) ∧ Delimited isBlank w cs := by
  rw [wordList, List.mem_filter, mem_splitAll_iff, Bool.not_eq_true', List.isEmpty_eq_false_iff,
    and_comm]

/-- Blanks in front of a text are no words. -/
theorem wordList_blank_append (cs : List Char) : ∀ {gap : List Char},
    (∀ c ∈ gap, isBlank c = true) → wordList (gap ++ cs) = wordList cs := by
  intro gap
  induction gap with
  | nil => exact fun _ => rfl
  | cons c gap ih =>
      intro hblank
      have hpieces : splitAll isBlank (c :: (gap ++ cs)) = [] :: splitAll isBlank (gap ++ cs) := by
        rw [splitAll, if_pos (hblank c List.mem_cons_self)]
      rw [List.cons_append, wordList, hpieces, List.filter_cons_of_neg (by simp), ← wordList]
      exact ih fun c' hc' => hblank c' (List.mem_cons_of_mem c hc')

/-- Two texts with blanks between them have the words of both. -/
theorem wordList_append_blank_append (before cs : List Char) {gap : List Char} (hne : gap ≠ [])
    (hblank : ∀ c ∈ gap, isBlank c = true) :
    wordList (before ++ gap ++ cs) = wordList before ++ wordList cs := by
  obtain ⟨sep, gap, rfl⟩ := List.exists_cons_of_ne_nil hne
  have hrest := wordList_blank_append cs fun c hc => hblank c (List.mem_cons_of_mem sep hc)
  rw [List.append_assoc, List.cons_append, wordList,
    splitAll_append_sep (hblank sep List.mem_cons_self), List.filter_append, ← wordList, ← wordList,
    hrest]

theorem wordList_of_no_blank {cs : List Char} (hne : cs ≠ [])
    (h : ∀ c ∈ cs, isBlank c = false) : wordList cs = [cs] := by
  rw [wordList, splitAll_of_no_sep h, List.filter_cons_of_pos (by simpa using hne), List.filter_nil]

/-- Texts one after the other, with blanks between neighbours. -/
inductive LaidOut : List (List Char) → List Char → Prop where
  | last (t : List Char) : LaidOut [t] t
  | cons (t gap : List Char) {ts : List (List Char)} {rest : List Char} (hne : gap ≠ [])
      (hblank : ∀ c ∈ gap, isBlank c = true) (h : LaidOut ts rest) :
      LaidOut (t :: ts) (t ++ gap ++ rest)

theorem mem_wordList_laidOut {ts : List (List Char)} {cs w : List Char} (h : LaidOut ts cs) :
    w ∈ wordList cs ↔ ∃ t ∈ ts, w ∈ wordList t := by
  induction h with
  | last t => simp
  | cons t gap hne hblank h ih =>
      rw [wordList_append_blank_append _ _ hne hblank, List.mem_append, ih, List.exists_mem_cons_iff]

end Text

namespace Extract

theorem mem_wordsOf_wordList {w text : String} :
    w ∈ wordsOf text ↔ w.toList ∈ Text.wordList text.toList := by
  unfold wordsOf Text.wordList
  constructor
  · intro h
    obtain ⟨cs, hcs, rfl⟩ := List.mem_map.1 h
    rwa [String.toList_ofList]
  · exact fun h => List.mem_map.2 ⟨w.toList, h, String.ofList_toList⟩

/-- The word stands by itself in a text: between blanks, or at an end. -/
def StandsIn (w text : String) : Prop := Text.Delimited Text.isBlank w.toList text.toList

/-- Can the word be read as it is: something without blanks that does not start with `@`? -/
def isPlainWord (w : String) : Bool :=
  !w.toList.isEmpty && w.toList.all (fun c => !Text.isBlank c) && w.toList.head? != some '@'

theorem mem_wordsOf_iff {w text : String} (hw : isPlainWord w = true) :
    w ∈ wordsOf text ↔ StandsIn w text := by
  unfold isPlainWord at hw
  simp only [Bool.and_eq_true, Bool.not_eq_true', List.isEmpty_eq_false_iff, List.all_eq_true] at hw
  rw [mem_wordsOf_wordList, Text.mem_wordList_iff]
  exact ⟨fun h => h.2.2, fun h => ⟨hw.1.1, hw.1.2, h⟩⟩

namespace Java

/-! ## §2. Keywords. -/

/-- The words for visibilities, as they are asked for. -/
def visibilities : List String := ["public", "private", "protected"]

/-- Is the word a token among the children? -/
def hasToken (m : Tree) (w : String) : Bool := m.children.any fun c => !c.isNamed && c.kind == w

/-- Does an annotation or a comment among the children have the word standing by itself in it? -/
def mentions (p : Parsed) (m : Tree) (w : String) : Bool :=
  m.children.any fun c => c.isNamed && (wordsOf (p.tree.text c)).contains w

/-- The text of the node is that of its children, with blanks between neighbours, and tokens are what
they are called. -/
structure SetOff (p : Parsed) (m : Tree) : Prop where
  laidOut : Text.LaidOut (m.children.map fun c => (p.tree.text c).toList) (p.tree.text m).toList
  tokens : ∀ c ∈ m.children, c.isNamed = false →
    p.tree.text c = c.kind ∧ c.kind.toList.any Text.isBlank = false

variable {p : Parsed} {m t : Tree}

/-- **What is read** of modifiers that are set off: the tokens, and what is mentioned. -/
theorem SetOff.read_iff (h : SetOff p m) {w : String} (hw : isPlainWord w = true) :
    (wordsOf (p.tree.text m)).contains w = (hasToken m w || mentions p m w) := by
  have htoken : ∀ c ∈ m.children, c.isNamed = false →
      (w ∈ wordsOf (p.tree.text c) ↔ c.kind = w) := by
    intro c hc hnamed
    obtain ⟨htext, hnone⟩ := h.tokens c hc hnamed
    have hblank : ∀ x ∈ c.kind.toList, Text.isBlank x = false := fun x hx =>
      Bool.eq_false_iff.2 (List.any_eq_false.1 hnone x hx)
    rw [htext]
    constructor
    · intro hread
      rw [mem_wordsOf_wordList] at hread
      by_cases hempty : c.kind.toList = []
      · rw [hempty] at hread
        exact absurd hread (by simp [Text.wordList, Text.splitAll])
      · rw [Text.wordList_of_no_blank hempty hblank, List.mem_singleton] at hread
        exact (String.toList_inj.1 hread).symm
    · rintro rfl
      exact (mem_wordsOf_iff hw).2 ⟨[], [], by simp, by simp, by simp⟩
  rw [Bool.eq_iff_iff, List.contains_iff_mem, mem_wordsOf_wordList,
    Text.mem_wordList_laidOut h.laidOut, Bool.or_eq_true, hasToken, mentions, List.any_eq_true,
    List.any_eq_true]
  simp only [List.mem_map, exists_exists_and_eq_and, ← mem_wordsOf_wordList]
  constructor
  · rintro ⟨c, hc, hread⟩
    cases hnamed : c.isNamed with
    | false =>
        refine .inl ⟨c, hc, ?_⟩
        rw [hnamed, (htoken c hc hnamed).1 hread]
        simp
    | true =>
        refine .inr ⟨c, hc, ?_⟩
        rw [hnamed, List.contains_iff_mem.2 hread]
        rfl
  · rintro (⟨c, hc, hkind⟩ | ⟨c, hc, hmentioned⟩)
    · simp only [Bool.and_eq_true, Bool.not_eq_true', beq_iff_eq] at hkind
      exact ⟨c, hc, (htoken c hc hkind.1).2 hkind.2⟩
    · rw [Bool.and_eq_true, List.contains_iff_mem] at hmentioned
      exact ⟨c, hc, hmentioned.2⟩

theorem contains_modifiers (hm : t.childOfKind "modifiers" = some m) {w : String}
    (hw : isPlainWord w = true) :
    (modifiers p t).contains w = (wordsOf (p.tree.text m)).contains w := by
  unfold isPlainWord at hw
  rw [Bool.and_eq_true] at hw
  unfold modifiers
  rw [hm, Bool.eq_iff_iff, List.contains_iff_mem, List.contains_iff_mem, List.mem_filter]
  exact and_iff_left hw.2

/-- The first word that is one of two things is the first that is one of them, if and only if none
before it is the other. -/
theorem getD_find?_or {asked other : String → Bool} {otherwise : String} : ∀ {ws : List String},
    otherwise ∉ ws → (((ws.find? fun w => asked w || other w).getD otherwise
      = (ws.find? asked).getD otherwise) ↔
        ∀ w ∈ ws.takeWhile fun w => !asked w, other w = false) := by
  intro ws
  induction ws with
  | nil => simp
  | cons w ws ih =>
      intro hotherwise
      obtain ⟨hne, hnot⟩ := not_or.1 (mt List.mem_cons.2 hotherwise)
      rw [List.find?_cons, List.find?_cons, List.takeWhile_cons]
      cases hasked : asked w with
      | true => simp
      | false =>
          cases hother : other w with
          | false => simpa [hother] using ih hnot
          | true =>
              simp only [Bool.or_true, Option.getD_some, Bool.not_false, if_true, List.mem_cons,
                forall_eq_or_imp, hother, Bool.true_eq_false, false_and, iff_false]
              -- what is found behind `w` is asked for, and `w` is not
              intro heq
              cases hfound : ws.find? asked with
              | none =>
                  rw [hfound] at heq
                  exact hne heq.symm
              | some u =>
                  rw [hfound] at heq
                  have hu := List.find?_some hfound
                  rw [← (show w = u from heq), hasked] at hu
                  cases hu

/-! ## §3. Methods. -/

/-- What is known of a method, as far as its modifiers tell it, is told by these words. -/
structure ToldBy (reads : String → Bool) (facts : FunctionFacts) : Prop where
  isStatic : facts.isStatic = reads "static"
  visibility : facts.visibility = (visibilities.find? reads).getD "package"

theorem ToldBy.congr {reads reads' : String → Bool} {facts : FunctionFacts}
    (h : ToldBy reads facts) (heq : ∀ w ∈ "static" :: visibilities, reads w = reads' w) :
    ToldBy reads' facts where
  isStatic := h.isStatic.trans (heq "static" List.mem_cons_self)
  visibility := by
    rw [h.visibility]
    exact congrArg (Option.getD · "package")
      (List.find?_congr fun w hw => heq w (List.mem_cons_of_mem _ hw))

/-- **Keywords alone** tell what is known of a method if and only if nothing that is mentioned is taken
for a keyword: `static` is a keyword or not mentioned, and no visibility is mentioned that is asked for
before the first that is a keyword. -/
theorem toldBy_tokens_iff {facts : FunctionFacts}
    (h : ToldBy (fun w => hasToken m w || mentions p m w) facts) :
    ToldBy (hasToken m) facts ↔
      (hasToken m "static" = true ∨ mentions p m "static" = false) ∧
      ∀ w ∈ visibilities.takeWhile fun w => !hasToken m w, mentions p m w = false := by
  have hvisibility : facts.visibility = (visibilities.find? (hasToken m)).getD "package" ↔
      ∀ w ∈ visibilities.takeWhile fun w => !hasToken m w, mentions p m w = false := by
    rw [h.visibility]
    exact getD_find?_or (by decide)
  have hstatic : facts.isStatic = hasToken m "static" ↔
      hasToken m "static" = true ∨ mentions p m "static" = false := by
    rw [h.isStatic]
    cases hasToken m "static" <;> simp
  rw [← hvisibility, ← hstatic]
  exact ⟨fun htold => ⟨htold.isStatic, htold.visibility⟩, fun htold => ⟨htold.1, htold.2⟩⟩

theorem isPlainWord_of_mem {w : String} (hw : w ∈ "static" :: visibilities) :
    isPlainWord w = true := by
  revert w
  decide +kernel

/-- A method is told by the words of its modifiers. -/
theorem yields_method (name : String) : Yields (fun e => ∃ facts,
    e = elementOf p t name (.function facts) ∧ ToldBy (modifiers p t).contains facts)
    (method p t name) := by
  refine (yields_facts p t name _ decisions).imp ?_
  rintro _ ⟨n, rfl⟩
  exact ⟨_, rfl, rfl, rfl⟩

theorem role_of_function {s : Sighting} (h : s.role ∈ roleTable.rolesFor "function") :
    s.role = "method" ∨ s.role = "constructor" := by
  rcases List.mem_cons.1 h with hrole | hrole
  · exact .inl hrole
  · exact .inr (List.mem_singleton.1 hrole)

/-- What is made of a method or a constructor that has a name. -/
theorem rule_method (p : Parsed) {s : Sighting} {name : String}
    (hrole : s.role = "method" ∨ s.role = "constructor") (hname : s.name = some name) :
    rule p s = some <$> method p s.spot.tree name := by
  rcases hrole with hrole | hrole
  · simp only [rule, hrole, hname]
  · simp only [rule, hrole, hname]

section Reading

set_option maxRecDepth 10000

theorem declarations_reserve_method :
    Ensures (Rule.reserves "method" "method_declaration") declarations :=
  (accepted_of_compileText rfl (by decide +kernel) : Accepted .java _ _).ensures

theorem declarations_reserve_constructor :
    Ensures (Rule.reserves "constructor" "constructor_declaration") declarations :=
  (accepted_of_compileText rfl (by decide +kernel) : Accepted .java _ _).ensures

end Reading

/-- **A function that comes of a Java file** is a method or a constructor, told by its modifiers. -/
theorem toldBy_of_extracted {n : Tree} {e : Element} (h : Counting.java.Extracted p n e)
    (hword : e.kind.word = "function") :
    n ∈ p.tree.root.nodes ∧ n.kind ∈ methodKinds ∧
      ∃ name facts, e = elementOf p n name (.function facts) ∧
        ToldBy (modifiers p n).contains facts := by
  have hinside := Counting.sound_java.mem_nodes h
  obtain ⟨g, q, s, hq, hs, rfl, hcomes⟩ := h
  have hover : q.overlooks = true := List.all_eq_true.2 (declarations_overlook g q hq)
  have hseen : Seen p declarations s := seen_of_mem_sighted hq hover hs
  have hcomes : ComesOf (rule p s) (some e) := hcomes
  obtain ⟨hfunction, name, -, hname, -⟩ := (makes_rule p s).of_function hcomes hword
  have hrole := role_of_function hfunction
  rw [rule_method p hrole hname] at hcomes
  refine ⟨hinside, ?_, name, ?_⟩
  · rcases hrole with hrole | hrole
    · rw [hseen.kind_of_reserves (hrole ▸ declarations_reserve_method)]
      exact List.mem_cons_self
    · rw [hseen.kind_of_reserves (hrole ▸ declarations_reserve_constructor)]
      exact List.mem_cons_of_mem _ List.mem_cons_self
  · have hmade : Yields (fun made => ∀ x, made = some x → ∃ facts,
        x = elementOf p s.spot.tree name (.function facts) ∧
          ToldBy (modifiers p s.spot.tree).contains facts)
        (some <$> method p s.spot.tree name) := by
      refine (yields_method name).map fun x hx x' heq => ?_
      obtain rfl := Option.some.inj heq
      exact hx
    exact hmade.of_comesOf hcomes e rfl

/-! ## §4. Two methods. -/

/-- A Java class with one method, whose modifiers are written in some pieces and end at `stop`; the
nodes behind them are numbered from `next` on. -/
def oneMethod (pieces : List String) (stop next : Nat) (modifiers : List Tree) : Parsed :=
  { tree :=
      { source := (["class C ", "\x7b "] ++ pieces ++ [" void f", "() \x7b\x7d ", "\x7d\n"]).flatMap
          String.toList,
        root := phrase 0 "program" none 0 (stop + 15)
          [phrase 1 "class_declaration" none 0 (stop + 14)
            [token 2 "class" 0 5, phrase 3 "identifier" (some "name") 6 7 [],
             phrase 4 "class_body" (some "body") 8 (stop + 14)
              [token 5 "\x7b" 8 9,
               phrase 6 "method_declaration" none 10 (stop + 12)
                [phrase 7 "modifiers" none 10 stop modifiers,
                 phrase next "void_type" (some "type") (stop + 1) (stop + 5) [],
                 phrase (next + 1) "identifier" (some "name") (stop + 6) (stop + 7) [],
                 phrase (next + 2) "formal_parameters" (some "parameters") (stop + 7) (stop + 9)
                  [token (next + 3) "(" (stop + 7) (stop + 8),
                   token (next + 4) ")" (stop + 8) (stop + 9)],
                 phrase (next + 5) "block" (some "body") (stop + 10) (stop + 12)
                  [token (next + 6) "\x7b" (stop + 10) (stop + 11),
                   token (next + 7) "\x7d" (stop + 11) (stop + 12)]],
               token (next + 8) "\x7d" (stop + 13) (stop + 14)]]] },
    dialect := ⟨"java", .java⟩,
    path := "C.java" }

/-- An annotation and two keywords. -/
def annotatedMethod : Parsed :=
  oneMethod ["@A ", "public ", "static"] 26 13
    [phrase 8 "marker_annotation" none 10 12
      [token 9 "@" 10 11, phrase 10 "identifier" (some "name") 11 12 []],
     token 11 "public" 13 19, token 12 "static" 20 26]

/-- Two keywords with another one in a comment between them. -/
def commentedMethod : Parsed :=
  oneMethod ["public ", "/* static */ ", "final"] 35 11
    [token 8 "public" 10 16,
     .node { id := 9, kind := "block_comment", named := true, extra := true, start := 17, stop := 29 }
      [],
     token 10 "final" 30 35]

/-- The view that Java files have. -/
def javaView : FunctionView := ⟨.java, .java, functionForms, ["methods"]⟩

/-- In a clear tree with methods, there is one whose facts are told by its modifiers. -/
theorem exists_method (hp : javaView.Clear p) {n : Tree}
    (hone : p.tree.root.nodes.filter (fun x => methodKinds.contains x.kind) = [n])
    (hplaces : 0 < (javaView.places p.tree.root).length) : ∃ elements memo e name facts,
      (Plugin.java.extract p).run [] = (.ok elements, memo) ∧ e ∈ elements ∧
        e.kind.word = "function" ∧ Counting.java.Extracted p n e ∧
        e = elementOf p n name (.function facts) ∧ ToldBy (modifiers p n).contains facts := by
  have hfits : javaView.Fits := FunctionView.fits_of_mem (by simp [functionViews, javaView])
  obtain ⟨elements, memo, hrun, -, sorted, hperm, -, hsorted⟩ :=
    hfits.extract p hp [] Memo.genuine_nil
  -- the elements have at least one function
  have hfunctions : elements.filterMap functionPlace ≠ [] := by
    rw [hsorted]
    intro hnil
    rw [List.map_eq_nil_iff.1 hnil] at hperm
    rw [List.map_eq_nil_iff.1 hperm.symm.eq_nil] at hplaces
    exact absurd hplaces (Nat.lt_irrefl 0)
  obtain ⟨place, hplace⟩ := List.exists_mem_of_ne_nil _ hfunctions
  obtain ⟨e, he, hplace⟩ := List.mem_filterMap.1 hplace
  have hword : e.kind.word = "function" := by
    have hsome := isSome_functionPlace e
    rw [hplace] at hsome
    exact beq_iff_eq.1 hsome.symm
  obtain ⟨n', hn'⟩ :=
    (Counting.sound_java.yields_extract p [] Memo.genuine_nil elements memo hrun).2 e he hword
  obtain ⟨hmem, hkind, name, facts, heq, htold⟩ := toldBy_of_extracted hn' hword
  have hsame : n' ∈ [n] := hone ▸ List.mem_filter.2 ⟨hmem, List.contains_iff_mem.2 hkind⟩
  obtain rfl := List.mem_singleton.1 hsame
  exact ⟨elements, memo, e, name, facts, hrun, he, hword, hn', heq, htold⟩

theorem annotatedMethod_clear : javaView.Clear annotatedMethod where
  dialect := rfl
  numbered := by decide +kernel
  named := by
    unfold Form.Named
    decide +kernel
  starts := by decide +kernel
  texts := by decide +kernel

theorem commentedMethod_clear : javaView.Clear commentedMethod where
  dialect := rfl
  numbered := by decide +kernel
  named := by
    unfold Form.Named
    decide +kernel
  starts := by decide +kernel
  texts := by decide +kernel

/-! ## §5. Keywords and words. -/

/-- **Words that stand by themselves are read as keywords.**  In every Java tree, and from every memory
of what was compiled: every function is extracted from a method or a constructor.  Without modifiers it
is not static and its visibility is `package`.  With modifiers, the words that stand by themselves in
their text tell whether it is static and which visibility it has, the first of `public`, `private` and
`protected` or else `package`.  If the modifiers are set off by blanks, the tokens among them tell the
same if and only if `static` is one or is not mentioned in an annotation or a comment, and no visibility
is mentioned there that is asked for before the first one that is a token. -/
theorem modifiers_agree_iff {p : Parsed} {memo memo' : Memo} (hm : memo.Genuine)
    {elements : List Element} (hrun : (Plugin.java.extract p).run memo = (.ok elements, memo')) :
    (∀ e ∈ elements, e.kind.word = "function" → ∃ n, Counting.java.Extracted p n e) ∧
    ∀ n e, Counting.java.Extracted p n e → e.kind.word = "function" →
      n ∈ p.tree.root.nodes ∧ n.kind ∈ methodKinds ∧
      ∃ name facts, e = elementOf p n name (.function facts) ∧
        (n.childOfKind "modifiers" = none →
          facts.isStatic = false ∧ facts.visibility = "package") ∧
        ∀ m, n.childOfKind "modifiers" = some m →
          (∃ reads, ToldBy reads facts ∧
            ∀ w ∈ "static" :: visibilities, reads w = true ↔ StandsIn w (p.tree.text m)) ∧
          (SetOff p m → (ToldBy (hasToken m) facts ↔
            (hasToken m "static" = true ∨ mentions p m "static" = false) ∧
            ∀ w ∈ visibilities.takeWhile fun w => !hasToken m w, mentions p m w = false)) := by
  refine ⟨(Counting.sound_java.yields_extract p memo hm elements memo' hrun).2, ?_⟩
  intro n e he hword
  obtain ⟨hmem, hkind, name, facts, rfl, htold⟩ := toldBy_of_extracted he hword
  refine ⟨hmem, hkind, name, facts, rfl, fun hnone => ?_, fun m hmodifiers => ⟨?_, fun hoff => ?_⟩⟩
  · have hempty : modifiers p n = [] := by
      unfold modifiers
      rw [hnone]
    rw [hempty] at htold
    exact ⟨htold.isStatic, htold.visibility⟩
  · refine ⟨(modifiers p n).contains, htold, fun w hw => ?_⟩
    have hplain := isPlainWord_of_mem hw
    rw [contains_modifiers hmodifiers hplain, List.contains_iff_mem, mem_wordsOf_iff hplain]
  · refine toldBy_tokens_iff (htold.congr fun w hw => ?_)
    have hplain := isPlainWord_of_mem hw
    rw [contains_modifiers hmodifiers hplain, hoff.read_iff hplain]

/-- The modifiers of the method with an annotation. -/
def annotatedModifiers : Tree :=
  phrase 7 "modifiers" none 10 26
    [phrase 8 "marker_annotation" none 10 12
      [token 9 "@" 10 11, phrase 10 "identifier" (some "name") 11 12 []],
     token 11 "public" 13 19, token 12 "static" 20 26]

theorem annotatedModifiers_setOff : SetOff annotatedMethod annotatedModifiers where
  laidOut := by
    have htext : (annotatedMethod.tree.text annotatedModifiers).toList
        = ['@', 'A'] ++ [' '] ++ ("public".toList ++ [' '] ++ "static".toList) := by decide +kernel
    have hchildren : (annotatedModifiers.children.map
        fun c => (annotatedMethod.tree.text c).toList)
        = [['@', 'A'], "public".toList, "static".toList] := by decide +kernel
    have hgap : ∀ x ∈ [' '], Text.isBlank x = true := List.forall_mem_singleton.2 rfl
    rw [htext, hchildren]
    exact .cons _ _ (by simp) hgap (.cons _ _ (by simp) hgap (.last _))
  tokens := by decide +kernel

/-- The keywords of the method with an annotation are read. -/
theorem annotated_agrees : ∃ elements memo e n name facts,
    (Plugin.java.extract annotatedMethod).run [] = (.ok elements, memo) ∧ e ∈ elements ∧
      Counting.java.Extracted annotatedMethod n e ∧
      e = elementOf annotatedMethod n name (.function facts) ∧
      n.childOfKind "modifiers" = some annotatedModifiers ∧
      SetOff annotatedMethod annotatedModifiers ∧ ToldBy (hasToken annotatedModifiers) facts := by
  obtain ⟨elements, memo, e, _, _, hrun, he, hword, hextracted, -, -⟩ :=
    exists_method annotatedMethod_clear rfl (by decide +kernel)
  obtain ⟨-, hall⟩ := modifiers_agree_iff Memo.genuine_nil hrun
  obtain ⟨-, -, name, facts, heq, -, hmodifiers⟩ := hall _ e hextracted hword
  have hagrees := (hmodifiers annotatedModifiers rfl).2 annotatedModifiers_setOff
  refine ⟨elements, memo, e, _, name, facts, hrun, he, hextracted, heq, rfl,
    annotatedModifiers_setOff, hagrees.2 ?_⟩
  decide +kernel

/-- A word in a comment is taken for a keyword: the method is static, and no token says so. -/
theorem comment_taken_for_keyword : ∃ elements memo e n name facts m,
    (Plugin.java.extract commentedMethod).run [] = (.ok elements, memo) ∧ e ∈ elements ∧
      Counting.java.Extracted commentedMethod n e ∧
      e = elementOf commentedMethod n name (.function facts) ∧
      n.childOfKind "modifiers" = some m ∧
      (∀ c ∈ m.children, c.isNamed = false → commentedMethod.tree.text c = c.kind) ∧
      facts.isStatic = true ∧ hasToken m "static" = false := by
  obtain ⟨elements, memo, e, name, facts, hrun, he, -, hextracted, heq, htold⟩ :=
    exists_method commentedMethod_clear rfl (by decide +kernel)
  refine ⟨elements, memo, e, _, name, facts, _, hrun, he, hextracted, heq, rfl, ?_, ?_, rfl⟩
  · decide +kernel
  · rw [htold.isStatic]
    decide +kernel

end Java

end Extract

end CodeSurvey
