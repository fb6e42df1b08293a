/-
  Names found in source text.

  A text that is an identifier names itself.  Of any other text, patterns are searched: in Python in
  the whole of it, else in its header, the text before the first opening brace.  Each pattern marks a
  run of word characters or dollar signs (`Patterned`), and what is found is a marked part of the
  text that was searched (`Regex.Marking.find`).  Trimming reaches neither over an opening brace
  (`trim_append_cons`) nor into an identifier (`trim_of_isIdentifier`).

  Main result, `names_read_from_header`: a name that is found is a run of word characters and dollar
  signs of the trimmed text, outside of Python it stands in the header, and nothing behind the first
  opening brace has any influence on it.
-/
import CodeSurvey.Filter.Declared
import CodeSurvey.Proofs.MarkedParts
import CodeSurvey.Proofs.Spelling
import Mathlib.Data.List.TakeWhile

namespace CodeSurvey

/-! ## §1. Word characters, blanks and braces. -/

namespace Text

/-- No range of word characters meets a range of blanks. -/
theorem blankTable_misses_wordTable :
    blankTable.all (fun b => wordTable.all fun w => CaseRun.misses b.1 b.2 w.1 w.2) = true := by
  decide +kernel

theorem not_inRanges_wordTable {n : Nat} (h : inRanges blankTable n = true) :
    inRanges wordTable n = false := by
  obtain ⟨b, hb, hn⟩ := List.any_eq_true.1 h
  rw [inRanges, List.any_eq_false]
  intro w hw hn'
  have hmiss := List.all_eq_true.1 (List.all_eq_true.1 blankTable_misses_wordTable b hb) w hw
  simp only [CaseRun.misses, Bool.or_eq_true, Bool.and_eq_true, decide_eq_true_eq] at hn hn' hmiss
  omega

/-- **Word characters are not blank.** -/
theorem isBlank_of_isWord {c : Char} (h : isWord c = true) : isBlank c = false := by
  by_cases hascii : c.toNat < 0x80
  · have hall : ∀ n < 0x80, isWord (Char.ofNat n) = true → isBlank (Char.ofNat n) = false := by
      decide +kernel
    have hc := hall c.toNat hascii
    rw [Char.ofNat_toNat] at hc
    exact hc h
  · rw [isWord, if_neg hascii] at h
    rw [isBlank, if_neg hascii, ← Bool.not_eq_true]
    intro hblank
    rw [not_inRanges_wordTable hblank] at h
    cases h

end Text

namespace Filter

open Regex

/-! ## §2. Identifiers. -/

/-- A run of word characters and dollar signs. -/
def IsName (name : List Char) : Prop := name ≠ [] ∧ ∀ c ∈ name, isNameChar c = true

theorem isNameChar_iff {c : Char} : isNameChar c = true ↔ Text.isWord c = true ∨ c = '$' := by
  simp [isNameChar]

theorem isBlank_of_isNameChar {c : Char} (h : isNameChar c = true) : Text.isBlank c = false := by
  rcases isNameChar_iff.1 h with h | rfl
  · exact Text.isBlank_of_isWord h
  · decide

theorem isWord_of_isAlpha {c : Char} (h : c.isAlpha = true) : Text.isWord c = true := by
  have hascii : c.toNat < 0x80 := by
    rcases (Bool.or_eq_true _ _).mp h with hupper | hlower
    · have hlast : c.val.toNat ≤ 90 := (of_decide_eq_true hupper).2
      exact Nat.lt_of_le_of_lt hlast (by decide)
    · have hlast : c.val.toNat ≤ 122 := of_decide_eq_true ((Bool.and_eq_true _ _).mp hlower).2
      exact Nat.lt_of_le_of_lt hlast (by decide)
  rw [Text.isWord, if_pos hascii, Char.isAlphanum, h]
  rfl

/-- An identifier is a name. -/
theorem isName_of_isIdentifier {text : List Char} (h : isIdentifier text = true) : IsName text := by
  cases text with
  | nil => cases h
  | cons c cs =>
      simp only [isIdentifier, Bool.and_eq_true, Bool.or_eq_true, beq_iff_eq, List.all_eq_true] at h
      obtain ⟨hfirst, hrest⟩ := h
      have hc : isNameChar c = true := by
        rcases hfirst with (hletter | rfl) | rfl
        · exact isNameChar_iff.2 (.inl (isWord_of_isAlpha hletter))
        · decide
        · decide
      refine ⟨List.cons_ne_nil c cs, fun d hd => ?_⟩
      rcases List.mem_cons.1 hd with rfl | hd
      · exact hc
      · exact hrest d hd

/-- **Trimming leaves an identifier alone.** -/
theorem trim_of_isIdentifier {text : List Char} (h : isIdentifier text = true) :
    Text.trim text = text := by
  have hbare : ∀ c ∈ text, Text.isBlank c = false := fun c hc =>
    isBlank_of_isNameChar ((isName_of_isIdentifier h).2 c hc)
  exact Text.trim_eq_self_iff.2
    ⟨fun c hc => hbare c (List.mem_of_mem_head? hc),
      fun c hc => hbare c (List.mem_of_mem_getLast? hc)⟩

/-- A text with an opening brace is no identifier. -/
theorem brace_notMem_of_isIdentifier {text : List Char} (h : isIdentifier text = true) :
    '\x7b' ∉ text :=
  fun hmem => absurd ((isName_of_isIdentifier h).2 '\x7b' hmem) (by decide)

/-! ## §3. Patterns. -/

/-- The pattern marks names only. -/
abbrev Patterned (r : Regex) : Prop := r.Marking IsName

theorem patterned_markedName : Patterned markedName := takes_many1_one isNameChar

theorem patterned_markedWord : Patterned markedWord := by
  intro c d hd
  obtain ⟨hne, hall⟩ := takes_many1_one Text.isWord c d hd
  exact ⟨hne, fun x hx => isNameChar_iff.2 (.inl (hall x hx))⟩

theorem patterned_pythonName : Patterned pythonName := by
  simp [pythonName, patterned_markedWord]

theorem patterned_scriptNames : ∀ r ∈ scriptNames, Patterned r := by
  simp [scriptNames, patterned_markedName]

theorem patterned_goNames : ∀ r ∈ goNames, Patterned r := by
  simp [goNames, patterned_markedWord]

theorem patterned_rustNames : ∀ r ∈ rustNames, Patterned r := by
  simp [rustNames, patterned_markedWord]

theorem patterned_typeName : Patterned typeName := by
  simp [typeName, patterned_markedWord]

theorem patterned_callableName : Patterned callableName := by
  simp [callableName, patterned_markedWord]

theorem isName_of_firstFound {patterns : List Regex} (h : ∀ r ∈ patterns, Patterned r)
    {text name : List Char} (hfound : firstFound patterns text = some name) :
    IsName name ∧ name <:+: text := by
  obtain ⟨r, hr, hname⟩ := List.exists_of_findSome?_eq_some hfound
  exact (h r hr).find hname

/-! ## §4. Where names are looked for. -/

section NameOf

variable {language : String} {text name : List Char}

theorem nameOf_of_isIdentifier (h : isIdentifier (Text.trim text) = true) :
    nameOf language text = some (Text.trim text) := by
  unfold nameOf
  dsimp only
  rw [if_pos h]

/-- **A name that is found** is part of the text and, unless the text names itself or is in Python,
of its header. -/
theorem isName_of_nameOf (h : nameOf language text = some name) :
    IsName name ∧ name <:+: Text.trim text ∧
      (isIdentifier (Text.trim text) = false → language ≠ "python" →
        name <:+: header (Text.trim text)) := by
  cases hidentifier : isIdentifier (Text.trim text) with
  | true =>
      rw [nameOf_of_isIdentifier hidentifier] at h
      cases h
      exact ⟨isName_of_isIdentifier hidentifier, List.infix_refl _, fun hno => nomatch hno⟩
  | false =>
      have hinside : IsName name ∧ name <:+: header (Text.trim text) →
          IsName name ∧ name <:+: Text.trim text ∧
            (false = false → language ≠ "python" → name <:+: header (Text.trim text)) :=
        fun hname => ⟨hname.1, hname.2.trans (List.takeWhile_prefix _).isInfix,
          fun _ _ => hname.2⟩
      unfold nameOf at h
      dsimp only at h
      rw [if_neg (by simp [hidentifier])] at h
      split at h
      · -- the whole text is searched
        obtain ⟨hname, hin⟩ := patterned_pythonName.find h
        exact ⟨hname, hin, fun _ hlanguage => absurd rfl hlanguage⟩
      · exact hinside (isName_of_firstFound patterned_scriptNames h)
      · exact hinside (isName_of_firstFound patterned_scriptNames h)
      · exact hinside (isName_of_firstFound patterned_scriptNames h)
      · exact hinside (isName_of_firstFound patterned_goNames h)
      · exact hinside (isName_of_firstFound patterned_rustNames h)
      · -- in other languages a callable is looked for only if no type is found
        split at h
        · rename_i found hfound
          cases h
          exact hinside (patterned_typeName.find hfound)
        · exact hinside (patterned_callableName.findAll (List.mem_of_find?_eq_some h))

/-- Outside of Python, the header alone decides. -/
theorem nameOf_eq_of_header_eq {other : List Char} (h : isIdentifier (Text.trim text) = false)
    (hother : isIdentifier (Text.trim other) = false) (hlanguage : language ≠ "python")
    (hheader : header (Text.trim text) = header (Text.trim other)) :
    nameOf language text = nameOf language other := by
  unfold nameOf
  dsimp only
  rw [if_neg (by simp [h]), if_neg (by simp [hother]), hheader]
  split
  · exact absurd rfl hlanguage
  all_goals rfl

end NameOf

/-- The trimmed header of a text with an opening brace is what stands before the brace. -/
theorem header_trim_append {head : List Char} (hhead : '\x7b' ∉ head) (tail : List Char) :
    header (Text.trim (head ++ '\x7b' :: tail)) = Text.trimLeft head := by
  have hleft : ∀ c ∈ Text.trimLeft head, (c != '\x7b') = true := fun c hc =>
    bne_iff_ne.2 (ne_of_mem_of_not_mem ((List.dropWhile_suffix _).subset hc) hhead)
  rw [Text.trim_append_cons (by decide), header, List.takeWhile_append_of_pos hleft]
  simp

/-- **What stands behind the first opening brace has no influence** outside of Python. -/
theorem nameOf_behind_brace {language : String} (hlanguage : language ≠ "python")
    {head : List Char} (hhead : '\x7b' ∉ head) (tail other : List Char) :
    nameOf language (head ++ '\x7b' :: tail) = nameOf language (head ++ '\x7b' :: other) := by
  have hno : ∀ rest, isIdentifier (Text.trim (head ++ '\x7b' :: rest)) = false := by
    intro rest
    rw [← Bool.not_eq_true]
    intro h
    refine brace_notMem_of_isIdentifier h ?_
    rw [Text.trim_append_cons (by decide)]
    simp
  refine nameOf_eq_of_header_eq (hno tail) (hno other) hlanguage ?_
  rw [header_trim_append hhead, header_trim_append hhead]

/-- **Names are read from the header of a declaration.**  A name that is found is not empty, consists
of word characters and dollar signs, and is a part of the trimmed text.  If the trimmed text is no
identifier and the language is not Python, the name stands before the first opening brace, and
putting another text behind that brace changes nothing.  A text that is an identifier, with blanks
around it or without, names itself in every language. -/
theorem names_read_from_header (text language : String) :
    (∀ name, declaredName text language = some name →
      name ≠ "" ∧ (∀ c ∈ name.toList, Text.isWord c = true ∨ c = '$') ∧
        name.toList <:+: Text.trim text.toList) ∧
    (isIdentifier (Text.trim text.toList) = false → language ≠ "python" →
      (∀ name, declaredName text language = some name →
        ∃ before after, Text.trim text.toList = before ++ name.toList ++ after ∧
          '\x7b' ∉ before ++ name.toList) ∧
      ∀ head tail other, text.toList = head ++ '\x7b' :: tail → '\x7b' ∉ head →
        declaredName (String.ofList (head ++ '\x7b' :: other)) language
          = declaredName text language) ∧
    (isIdentifier (Text.trim text.toList) = true →
      declaredName text language = some (Text.trimmed text)) ∧
    (isIdentifier text.toList = true → declaredName text language = some text) := by
  have hfound : ∀ name, declaredName text language = some name →
      nameOf language text.toList = some name.toList := by
    intro name h
    obtain ⟨cs, hcs, rfl⟩ := Option.map_eq_some_iff.1 h
    rw [hcs, String.toList_ofList]
  have hitself : isIdentifier (Text.trim text.toList) = true →
      declaredName text language = some (Text.trimmed text) := by
    intro h
    rw [declaredName, nameOf_of_isIdentifier h]
    rfl
  refine ⟨fun name h => ?_, fun hidentifier hlanguage => ⟨fun name h => ?_, ?_⟩, hitself, fun h => ?_⟩
  · obtain ⟨⟨hne, hall⟩, hin, -⟩ := isName_of_nameOf (hfound name h)
    exact ⟨fun hempty => hne (by rw [hempty]; rfl), fun c hc => isNameChar_iff.1 (hall c hc), hin⟩
  · obtain ⟨-, -, hin⟩ := isName_of_nameOf (hfound name h)
    obtain ⟨before, after, hheader⟩ := hin hidentifier hlanguage
    refine ⟨before, after ++ (Text.trim text.toList).dropWhile (· != '\x7b'), ?_, fun hmem => ?_⟩
    · rw [← List.append_assoc, hheader]
      exact List.takeWhile_append_dropWhile.symm
    · have hin : '\x7b' ∈ header (Text.trim text.toList) := hheader ▸ List.mem_append_left _ hmem
      simpa using List.mem_takeWhile_imp hin
  · intro head tail other htext hhead
    rw [declaredName, declaredName, String.toList_ofList, htext,
      nameOf_behind_brace hlanguage hhead tail other]
  · rw [hitself (by rwa [trim_of_isIdentifier h]), Text.trimmed, trim_of_isIdentifier h,
      String.ofList_toList]

/-- In a Rust function `run` is found before the body and stays found whatever the body is; `$x1` is
an identifier and names itself. -/
theorem rust_function_named :
    declaredName " pub fn run(&self) \x7b fn go() \x7d" "rust" = some "run" ∧
    "run".toList <:+: Text.trim " pub fn run(&self) \x7b fn go() \x7d".toList ∧
    (∃ before after, Text.trim " pub fn run(&self) \x7b fn go() \x7d".toList
      = before ++ "run".toList ++ after ∧ '\x7b' ∉ before ++ "run".toList) ∧
    declaredName (String.ofList (" pub fn run(&self) ".toList ++ '\x7b' :: "static x".toList)) "rust"
      = some "run" ∧
    declaredName "$x1" "rust" = some "$x1" := by
  have hname : declaredName " pub fn run(&self) \x7b fn go() \x7d" "rust" = some "run" := by
    decide +kernel
  obtain ⟨hshape, hheader, -, -⟩ :=
    names_read_from_header " pub fn run(&self) \x7b fn go() \x7d" "rust"
  obtain ⟨hbefore, hbody⟩ := hheader (by decide +kernel) (by decide)
  refine ⟨hname, (hshape "run" hname).2.2, hbefore "run" hname, ?_,
    (names_read_from_header "$x1" "rust").2.2.2 (by decide +kernel)⟩
  rw [← hname]
  exact hbody _ " fn go() \x7d".toList _ (by decide +kernel) (by decide +kernel)

end Filter

end CodeSurvey
