/-
  Filter expressions written out and read again.

  A clause is written `key=value`, an expression as its clauses with commas between them.  Not every
  clause can come from a text: names and values are bare at their ends and hold no comma, a name
  does not begin with the tilde of a glob, an unknown key is in lower case and holds no equals sign,
  and a count is below its limit (`Clause.Written`).  Reading gives such clauses only
  (`written_of_readClause`), and such a clause is found again in what is written for it
  (`Clause.Written.readClause`).

  Main result, `parse_render`: an expression that was read from any text is read again from its
  written form, clause by clause, and every count in it was written in ASCII digits.
-/
import CodeSurvey.Proofs.Conjunction
import Mathlib.Algebra.Group.Nat.Defs
import Mathlib.Data.List.Forall2
import Mathlib.Data.List.TakeDrop

namespace CodeSurvey

/-! ## §1. Cutting and lower-casing. -/

namespace Text

/-- A text is cut at its first separator. -/
theorem splitFirst_eq_some_iff {α : Type} {p : α → Bool} {cs before after : List α} :
    splitFirst p cs = some (before, after) ↔
      ∃ sep, cs = before ++ sep :: after ∧ p sep = true ∧ ∀ c ∈ before, p c = false := by
  unfold splitFirst
  rw [List.span_eq_takeWhile_dropWhile]
  constructor
  · intro h
    split at h
    · cases h
    · rename_i sep rest heq
      obtain ⟨hbefore, hrest⟩ := Prod.mk.inj heq
      cases h
      refine ⟨sep, ?_, ?_, fun c hc => ?_⟩
      · rw [← hbefore, ← hrest, List.takeWhile_append_dropWhile]
      · have hhead := List.head?_dropWhile_not (fun c => !p c) cs
        rw [hrest] at hhead
        simpa using hhead
      · rw [← hbefore] at hc
        simpa using List.all_eq_true.1 List.all_takeWhile c hc
  · rintro ⟨sep, rfl, hsep, hbefore⟩
    have hall : ∀ c ∈ before, (!p c) = true := fun c hc => by rw [hbefore c hc]; rfl
    rw [List.takeWhile_append_of_pos hall, List.dropWhile_append_of_pos hall]
    simp [hsep]

/-- What stands before the small letters is not made by lower-casing. -/
theorem eq_of_lowerChar_small {c : Char} (h : (lowerChar c).toNat < 0x61) : lowerChar c = c := by
  rcases lowerChar_cases c with hascii | ⟨r, hr, hholds, heq⟩ | heq
  · have hsmall : ∀ n < 0x80, (lowerChar (Char.ofNat n)).toNat < 0x61 →
        lowerChar (Char.ofNat n) = Char.ofNat n := by decide +kernel
    have hc := hsmall c.toNat hascii
    rw [Char.ofNat_toNat] at hc
    exact hc h
  · -- the forms that the table gives are small letters or lie outside ASCII
    have hfits := CaseRun.fits_of_mem hr
    rw [heq, hfits.code _ hholds] at h
    have hletter := hfits.ascii _ hholds (by omega)
    omega
  · exact heq

theorem mem_of_mem_lowerAfter {d : Char} (hd : d.toNat < 0x61) :
    ∀ {cs before : List Char}, d ∈ lowerAfter before cs → d ∈ cs := by
  intro cs
  induction cs with
  | nil => exact fun h => h
  | cons c cs ih =>
      intro before h
      rcases List.mem_append.1 h with h | h
      · unfold lowerAt at h
        split at h
        · simp only [List.mem_cons, List.not_mem_nil, or_false] at h
          rcases h with rfl | rfl
          · exact absurd hd (by decide)
          · exact absurd hd (by decide)
        · split at h
          · rw [List.mem_singleton] at h
            split at h
            · exact absurd (h ▸ hd) (by decide)
            · exact absurd (h ▸ hd) (by decide)
          · rw [List.mem_singleton] at h
            rw [h, eq_of_lowerChar_small (h ▸ hd)]
            exact List.mem_cons_self
      · exact List.mem_cons_of_mem _ (ih h)

/-- A comma, an equals sign and the like are in a lower-cased text only if they were there. -/
theorem mem_of_mem_lower {d : Char} (hd : d.toNat < 0x61) {cs : List Char} (h : d ∈ lower cs) :
    d ∈ cs :=
  mem_of_mem_lowerAfter hd h

theorem mem_of_mem_trim {d : Char} {cs : List Char} (h : d ∈ trim cs) : d ∈ cs :=
  (List.dropWhile_suffix _).subset (List.IsPrefix.subset (trimRight_isPrefix _) h)

theorem EndsBare.cons {c : Char} {cs : List Char} (hc : isBlank c = false) (h : EndsBare cs) :
    EndsBare (c :: cs) := by
  intro d hd
  cases cs with
  | nil =>
      cases hd
      exact hc
  | cons c' cs =>
      rw [List.getLast?_cons_cons] at hd
      exact h d hd

/-- `key=value` is bare at its ends if key and value are. -/
theorem trim_keyed {key value : List Char} (hne : key ≠ []) (hkey : trim key = key)
    (hvalue : trim value = value) : trim (key ++ '=' :: value) = key ++ '=' :: value := by
  rw [trim_eq_self_iff] at hkey hvalue ⊢
  constructor
  · intro c hc
    rw [List.head?_append_of_ne_nil _ hne] at hc
    exact hkey.1 c hc
  · intro c hc
    rw [List.getLast?_append_of_ne_nil _ (by simp)] at hc
    exact EndsBare.cons (by decide) hvalue.2 c hc

/-! ## §2. Counts. -/

/-- The text of a count: a plus sign or none, then the ASCII digits of the number. -/
def CountText (text : List Char) (n : Nat) : Prop :=
  ∃ sign digits, text = sign ++ digits ∧ (sign = [] ∨ sign = ['+']) ∧ digits ≠ [] ∧
    (∀ c ∈ digits, c.isDigit = true) ∧ digitsValue 0 digits = n

theorem readCount?_eq_some_iff {cs : List Char} {n : Nat} :
    readCount? cs = some n ↔ CountText cs n ∧ n < countLimit := by
  have hdigits : ∀ digits : List Char,
      (if digits.isEmpty || !digits.all Char.isDigit then none
        else if digitsValue 0 digits < countLimit then some (digitsValue 0 digits) else none)
          = some n ↔
        (digits ≠ [] ∧ (∀ c ∈ digits, c.isDigit = true) ∧ digitsValue 0 digits = n) ∧
          n < countLimit := by
    intro digits
    by_cases hform : digits ≠ [] ∧ ∀ c ∈ digits, c.isDigit = true
    · rw [if_neg (by simpa [List.all_eq_true] using hform)]
      constructor
      · intro h
        split at h
        · cases h
          exact ⟨⟨hform.1, hform.2, rfl⟩, ‹_›⟩
        · cases h
      · rintro ⟨⟨-, -, rfl⟩, hlimit⟩
        rw [if_pos hlimit]
    · rw [if_pos (by simpa [List.all_eq_true, or_iff_not_imp_left] using hform)]
      refine iff_of_false (fun h => nomatch h) ?_
      rintro ⟨⟨hne, hall, -⟩, -⟩
      exact hform ⟨hne, hall⟩
  unfold readCount? CountText
  split
  · rename_i rest
    rw [hdigits]
    constructor
    · rintro ⟨hrest, hlimit⟩
      exact ⟨⟨['+'], rest, rfl, .inr rfl, hrest⟩, hlimit⟩
    · rintro ⟨⟨sign, digits, htext, hsign, hne, hall, hvalue⟩, hlimit⟩
      rcases hsign with rfl | rfl
      · -- a plus sign is no digit
        rw [List.nil_append] at htext
        exact absurd (hall '+' (htext ▸ List.mem_cons_self)) (by decide)
      · cases htext
        exact ⟨⟨hne, hall, hvalue⟩, hlimit⟩
  · rename_i hplus
    rw [hdigits]
    constructor
    · rintro ⟨hrest, hlimit⟩
      exact ⟨⟨[], cs, rfl, .inl rfl, hrest⟩, hlimit⟩
    · rintro ⟨⟨sign, digits, htext, hsign, hne, hall, hvalue⟩, hlimit⟩
      rcases hsign with rfl | rfl
      · rw [List.nil_append] at htext
        rw [htext]
        exact ⟨⟨hne, hall, hvalue⟩, hlimit⟩
      · exact absurd htext (hplus digits)

theorem digitsValue_concat (d : Char) :
    ∀ (digits : List Char) (acc : Nat),
      digitsValue acc (digits ++ [d]) = digitsValue acc digits * 10 + (d.toNat - '0'.toNat) := by
  intro digits
  induction digits with
  | nil => exact fun acc => rfl
  | cons c digits ih => exact fun acc => ih _

/-- The decimal digits of a number have its value. -/
theorem digitsValue_toDigits (n : Nat) : digitsValue 0 (Nat.toDigits 10 n) = n := by
  induction n using Nat.strongRecOn with
  | ind n ih =>
      rw [Nat.toDigits_eq_if (by decide)]
      split
      · rename_i hlt
        exact (Nat.zero_add _).trans (Nat.toNat_digitChar_sub_48_of_lt_ten hlt)
      · have hlast := Nat.toNat_digitChar_sub_48_of_lt_ten (Nat.mod_lt n (by decide : 0 < 10))
        rw [digitsValue_concat, ih (n / 10) (by omega)]
        show n / 10 * 10 + ((n % 10).digitChar.toNat - 48) = n
        omega

theorem countText_toString (n : Nat) : CountText (toString n).toList n := by
  have hdigits : (toString n).toList = Nat.toDigits 10 n := Nat.toList_repr
  rw [hdigits]
  exact ⟨[], _, rfl, .inl rfl, Nat.toDigits_ne_nil,
    fun c hc => Nat.isDigit_of_mem_toDigits (by decide) (by decide) hc, digitsValue_toDigits n⟩

end Text

namespace Filter

/-! ## §3. What is written. -/

/-- The key of a clause. -/
def Clause.key : Clause → String
  | .nameIs _ | .nameLike _ _ => "name"
  | .parameters _ => "params"
  | .modifier m _ => m.keyword
  | .ignored key _ => key

/-- The value of a clause as it is written. -/
def Clause.value : Clause → String
  | .nameIs name => name
  | .nameLike source _ => "~" ++ source
  | .parameters n => toString n
  | .modifier _ present => toString present
  | .ignored _ value => value

/-- A clause as it is written. -/
def Clause.render (clause : Clause) : String := clause.key ++ "=" ++ clause.value

/-- An expression as it is written: its clauses with commas between them. -/
def Expr.render (expr : Expr) : String := Text.join "," (expr.map Clause.render)

/-- A text as reading leaves it: bare at both ends and without a comma. -/
abbrev Plain (text : String) : Prop :=
  Text.trim text.toList = text.toList ∧ ',' ∉ text.toList

/-- A key as reading leaves it: in lower case as well, and without an equals sign. -/
abbrev PlainKey (key : String) : Prop :=
  key ≠ "" ∧ Plain key ∧ Text.lower key.toList = key.toList ∧ '=' ∉ key.toList

/-- The clauses that can be read from a text. -/
def Clause.Written : Clause → Prop
  | .nameIs name => Plain name ∧ name.toList.head? ≠ some '~'
  | .nameLike source glob => Plain source ∧ Glob.parse source.toList = .ok glob
  | .parameters n => n < Text.countLimit
  | .modifier _ _ => True
  | .ignored key value =>
    PlainKey key ∧ key ≠ "name" ∧ key ≠ "params" ∧ Modifier.ofKeyword? key = none ∧ Plain value

/-- The value of a clause that is a count is the text of that count. -/
def Counted (text : List Char) (clause : Clause) : Prop :=
  ∀ n, clause = .parameters n → n < 2 ^ 64 ∧
    ∃ key value, text = key ++ '=' :: value ∧ '=' ∉ key ∧
      Text.lower (Text.trim key) = "params".toList ∧ Text.CountText (Text.trim value) n

section Reading

variable {text key value : List Char} {clause : Clause}

theorem plain_ofList (htrim : Text.trim text = text) (hcomma : ',' ∉ text) :
    Plain (String.ofList text) :=
  ⟨by rw [String.toList_ofList, htrim], by rwa [String.toList_ofList]⟩

theorem readClause_keyed (hequals : '=' ∉ key) (hne : Text.trim key ≠ []) :
    readClause (key ++ '=' :: value)
      = readValue (String.ofList (Text.lower (Text.trim key))) (Text.trim value) := by
  have hsplit : Text.splitFirst (· == '=') (key ++ '=' :: value) = some (key, value) :=
    Text.splitFirst_eq_some_iff.2 ⟨'=', rfl, rfl, fun c hc => by
      rw [beq_eq_false_iff_ne]
      rintro rfl
      exact hequals hc⟩
  have hfull : (String.ofList (Text.lower (Text.trim key))).isEmpty = false := by
    simpa [String.isEmpty_iff, Text.lower_eq_nil_iff] using hne
  rw [readClause, hsplit]
  dsimp only
  rw [hfull]
  rfl

/-- A clause that is read has a key, an equals sign and a value. -/
theorem exists_keyed_of_readClause (h : readClause text = .ok clause) :
    ∃ key value, text = key ++ '=' :: value ∧ '=' ∉ key ∧ Text.trim key ≠ [] ∧
      readValue (String.ofList (Text.lower (Text.trim key))) (Text.trim value) = .ok clause := by
  cases hsplit : Text.splitFirst (· == '=') text with
  | none =>
      rw [readClause, hsplit] at h
      cases h
  | some parts =>
      obtain ⟨key, value⟩ := parts
      obtain ⟨sep, rfl, hsep, hkey⟩ := Text.splitFirst_eq_some_iff.1 hsplit
      obtain rfl : sep = '=' := by simpa using hsep
      have hequals : '=' ∉ key := fun hmem => by simpa using hkey '=' hmem
      have hne : Text.trim key ≠ [] := by
        intro hnil
        rw [readClause, hsplit] at h
        dsimp only at h
        rw [hnil, if_pos (by decide)] at h
        cases h
      exact ⟨key, value, rfl, hequals, hne, readClause_keyed hequals hne ▸ h⟩

theorem written_of_readName (hvalue : Text.trim value = value) (hcomma : ',' ∉ value)
    (h : readName value = .ok clause) : clause.Written := by
  unfold readName at h
  split at h
  · rename_i pattern
    have hplain : Plain (String.ofList (Text.trim pattern)) :=
      plain_ofList (Text.trim_trim pattern)
        fun hmem => hcomma (List.mem_cons_of_mem _ (Text.mem_of_mem_trim hmem))
    dsimp only at h
    split at h
    · rename_i glob hglob
      cases h
      exact ⟨hplain, by rw [String.toList_ofList]; exact hglob⟩
    · cases h
  · rename_i htilde
    cases h
    refine ⟨plain_ofList hvalue hcomma, fun hhead => ?_⟩
    rw [String.toList_ofList] at hhead
    obtain ⟨rest, rfl⟩ := List.head?_eq_some_iff.1 hhead
    exact htilde rest rfl

/-- **Reading gives written clauses.** -/
theorem written_of_readClause (hcomma : ',' ∉ text) (h : readClause text = .ok clause) :
    clause.Written := by
  obtain ⟨key, value, rfl, hequals, hne, hread⟩ := exists_keyed_of_readClause h
  have hvalue : Plain (String.ofList (Text.trim value)) :=
    plain_ofList (Text.trim_trim value) fun hmem =>
      hcomma (List.mem_append_right _ (List.mem_cons_of_mem _ (Text.mem_of_mem_trim hmem)))
  have hmem : ∀ d : Char, d.toNat < 0x61 → d ∈ Text.lower (Text.trim key) → d ∈ key :=
    fun d hd h => Text.mem_of_mem_trim (Text.mem_of_mem_lower hd h)
  unfold readValue at hread
  split at hread
  · exact written_of_readName (Text.trim_trim value) (by simpa using hvalue.2) hread
  · rename_i hname
    split at hread
    · split at hread
      · rename_i n hcount
        cases hread
        exact (Text.readCount?_eq_some_iff.1 hcount).2
      · cases hread
    · rename_i hparams
      split at hread
      · split at hread
        · cases hread
          trivial
        · cases hread
          trivial
        · cases hread
      · rename_i hmodifier
        cases hread
        refine ⟨⟨?_, plain_ofList ?_ fun h => ?_, ?_, fun h => ?_⟩, hname, hparams, hmodifier,
          hvalue⟩
        · intro hempty
          rw [← String.toList_inj, String.toList_ofList] at hempty
          exact hne (Text.lower_eq_nil_iff.1 hempty)
        · exact Text.trim_lower_iff.2 (Text.trim_trim key)
        · exact hcomma (List.mem_append_left _ (hmem ',' (by decide) h))
        · rw [String.toList_ofList, Text.lower_lower]
        · rw [String.toList_ofList] at h
          exact hequals (hmem '=' (by decide) h)

/-- A count that is read was written in digits. -/
theorem counted_of_readClause (h : readClause text = .ok clause) : Counted text clause := by
  rintro n rfl
  obtain ⟨key, value, rfl, hequals, -, hread⟩ := exists_keyed_of_readClause h
  unfold readValue at hread
  split at hread
  · -- a `name` clause is never a count
    unfold readName at hread
    split at hread
    · dsimp only at hread
      split at hread <;> cases hread
    · cases hread
  · split at hread
    · rename_i hparams
      split at hread
      · rename_i m hcount
        cases hread
        obtain ⟨htext, hlimit⟩ := Text.readCount?_eq_some_iff.1 hcount
        refine ⟨hlimit, key, value, rfl, hequals, ?_, htext⟩
        rw [← hparams, String.toList_ofList]
      · cases hread
    · split at hread
      · split at hread <;> cases hread
      · cases hread

end Reading

/-! ## §4. Reading what is written. -/

section Rendering

variable {clause : Clause} {expr : Expr}

theorem Modifier.plainKey_keyword (m : Modifier) : PlainKey m.keyword := by
  cases m <;> decide

/-- The keyword of a modifier leads back to it. -/
theorem Modifier.ofKeyword?_keyword (m : Modifier) : ofKeyword? m.keyword = some m := by
  cases m <;> rfl

theorem Clause.Written.plainKey (h : clause.Written) : PlainKey clause.key := by
  cases clause with
  | nameIs name => exact (by decide : PlainKey "name")
  | nameLike source glob => exact (by decide : PlainKey "name")
  | parameters n => exact (by decide : PlainKey "params")
  | modifier m present => exact m.plainKey_keyword
  | ignored key value => exact h.1

/-- Digits are neither blank nor commas. -/
theorem plain_toString (n : Nat) : Plain (toString n) := by
  have hdigit : ∀ c ∈ (toString n).toList, Text.isBlank c = false ∧ c ≠ ',' := by
    have hchars : ∀ k < 0x80, (Char.ofNat k).isDigit = true →
        Text.isBlank (Char.ofNat k) = false ∧ Char.ofNat k ≠ ',' := by decide +kernel
    intro c hc
    have hc : c.isDigit = true :=
      Nat.isDigit_of_mem_toDigits (by decide) (by decide) (Nat.toList_repr (n := n) ▸ hc)
    have hascii : c.toNat < 0x80 := by
      simp only [Char.isDigit, Bool.and_eq_true, decide_eq_true_eq] at hc
      exact Nat.lt_of_le_of_lt (UInt32.le_iff_toNat_le.1 hc.2) (by decide)
    have hspec := hchars c.toNat hascii
    rw [Char.ofNat_toNat] at hspec
    exact hspec hc
  refine ⟨Text.trim_eq_self_iff.2 ⟨fun c hc => ?_, fun c hc => ?_⟩, fun hcomma => ?_⟩
  · exact (hdigit c (List.mem_of_mem_head? hc)).1
  · exact (hdigit c (List.mem_of_mem_getLast? hc)).1
  · exact (hdigit ',' hcomma).2 rfl

theorem Clause.Written.plain (h : clause.Written) : Plain clause.value := by
  cases clause with
  | nameIs name => exact h.1
  | nameLike source glob =>
      obtain ⟨⟨hbare, hcomma⟩, -⟩ := h
      have hvalue : (nameLike source glob).value.toList = '~' :: source.toList := by
        simp [value]
      rw [Plain, hvalue]
      refine ⟨Text.trim_eq_self_iff.2 ⟨?_, ?_⟩, by simp [hcomma]⟩
      · rintro c ⟨⟩
        decide
      · exact Text.EndsBare.cons (by decide) (Text.trim_eq_self_iff.1 hbare).2
  | parameters n => exact plain_toString n
  | modifier m present =>
      have htruth : ∀ b : Bool, Plain (toString b) := by decide
      exact htruth present
  | ignored key value => exact h.2.2.2.2

/-- The written value gives the clause back under its key. -/
theorem Clause.Written.readValue (h : clause.Written) :
    Filter.readValue clause.key clause.value.toList = .ok clause := by
  cases clause with
  | nameIs name =>
      show readName name.toList = _
      unfold readName
      split
      · rename_i pattern heq
        exact absurd (by rw [heq]; rfl) h.2
      · rw [String.ofList_toList]
  | nameLike source glob =>
      obtain ⟨⟨hbare, -⟩, hglob⟩ := h
      have hvalue : (nameLike source glob).value.toList = '~' :: source.toList := by
        simp [value]
      show readName (nameLike source glob).value.toList = _
      rw [hvalue, readName, hbare, hglob, String.ofList_toList]
  | parameters n =>
      have hcount := Text.readCount?_eq_some_iff.2 ⟨Text.countText_toString n, h⟩
      show Filter.readValue "params" (toString n).toList = _
      rw [Filter.readValue, if_neg (by decide), if_pos rfl, hcount]
  | modifier m present =>
      have hother : m.keyword ≠ "name" ∧ m.keyword ≠ "params" := by
        cases m <;> decide
      show Filter.readValue m.keyword (toString present).toList = _
      rw [Filter.readValue, if_neg hother.1, if_neg hother.2, Modifier.ofKeyword?_keyword]
      cases present with
      | false =>
          have hlower : String.ofList (Text.lower (toString false).toList) = "false" := rfl
          simp only [hlower]
      | true =>
          have hlower : String.ofList (Text.lower (toString true).toList) = "true" := rfl
          simp only [hlower]
  | ignored key value =>
      obtain ⟨-, hname, hparams, hmodifier, -⟩ := h
      show Filter.readValue key value.toList = _
      rw [Filter.readValue, if_neg hname, if_neg hparams, hmodifier]
      dsimp only
      rw [String.ofList_toList]

theorem Clause.toList_render (clause : Clause) :
    clause.render.toList = clause.key.toList ++ '=' :: clause.value.toList := by
  simp [render]

/-- **A written clause is found again.** -/
theorem Clause.Written.readClause (h : clause.Written) :
    Filter.readClause clause.render.toList = .ok clause := by
  obtain ⟨hne, ⟨hbare, -⟩, hlower, hequals⟩ := h.plainKey
  rw [toList_render, readClause_keyed hequals, hbare, hlower, h.plain.1, String.ofList_toList]
  · exact h.readValue
  · rw [hbare]
    exact fun hnil => hne (String.toList_inj.1 hnil)

theorem Clause.Written.trim_render (h : clause.Written) :
    Text.trim clause.render.toList = clause.render.toList := by
  obtain ⟨hne, ⟨hbare, -⟩, -, -⟩ := h.plainKey
  rw [toList_render]
  exact Text.trim_keyed (fun hnil => hne (String.toList_inj.1 hnil)) hbare h.plain.1

theorem Clause.Written.comma_notMem (h : clause.Written) : ',' ∉ clause.render.toList := by
  obtain ⟨-, ⟨-, hkey⟩, -, -⟩ := h.plainKey
  rw [toList_render]
  simp [hkey, h.plain.2]

/-- The pieces of a written expression are its written clauses. -/
theorem pieces_render (h : ∀ clause ∈ expr, clause.Written) (hne : expr ≠ []) :
    pieces expr.render = expr.map fun clause => clause.render.toList := by
  have hjoined : expr.render.toList
      = [','].intercalate (expr.map fun clause => clause.render.toList) := by
    show (",".intercalate (expr.map Clause.render)).toList = _
    rw [String.toList_intercalate, List.map_map]
    rfl
  rw [pieces, hjoined]
  refine Text.splitAll_intercalate rfl _ (by simpa using hne) fun piece hpiece c hc => ?_
  obtain ⟨clause, hclause, rfl⟩ := List.mem_map.1 hpiece
  rw [beq_eq_false_iff_ne]
  rintro rfl
  exact (h clause hclause).comma_notMem hc

theorem clauseTexts_render (h : ∀ clause ∈ expr, clause.Written) :
    clauseTexts expr.render.toList = expr.map fun clause => clause.render.toList := by
  by_cases hnil : expr = []
  · rw [hnil]
    rfl
  · have hbare : (expr.map fun clause => clause.render.toList).map Text.trim
        = expr.map fun clause => clause.render.toList := by
      rw [List.map_map]
      exact List.map_congr_left fun clause hclause => (h clause hclause).trim_render
    show ((pieces expr.render).map Text.trim).filter _ = _
    rw [pieces_render h hnil, hbare, List.filter_eq_self]
    intro text htext
    obtain ⟨clause, -, rfl⟩ := List.mem_map.1 htext
    rw [Clause.toList_render]
    simp

/-- What is read from texts without commas is written. -/
theorem written_of_mem {texts : List (List Char)}
    (h : List.Forall₂ (fun text clause => readClause text = .ok clause) texts expr)
    (hcomma : ∀ text ∈ texts, ',' ∉ text) : ∀ clause ∈ expr, clause.Written := by
  intro clause hclause
  obtain ⟨text, htext, hread⟩ := exists_of_forall₂ h clause hclause
  exact written_of_readClause (hcomma text htext) hread

theorem comma_notMem_clauseTexts {source : List Char} :
    ∀ text ∈ clauseTexts source, ',' ∉ text := by
  intro text htext hcomma
  obtain ⟨piece, hpiece, rfl⟩ := List.mem_map.1 (List.mem_filter.1 htext).1
  simpa using (Text.of_mem_splitAll hpiece ',' (Text.mem_of_mem_trim hcomma)).1

end Rendering

/-- **An expression survives being written out.**  Whatever text it was read from, what is written
for it is read as the same clauses in the same order; and every count in it is below the limit and
was given by an optional plus sign and ASCII digits. -/
theorem parse_render {source : String} {expr : Expr} (h : Expr.parse source = .ok expr) :
    Expr.parse expr.render = .ok expr ∧
      List.Forall₂ Counted (clauseTexts source.toList) expr := by
  have hread := parse_eq_ok_iff.1 h
  have hwritten := written_of_mem hread comma_notMem_clauseTexts
  refine ⟨?_, hread.imp fun text clause => counted_of_readClause⟩
  rw [parse_eq_ok_iff, clauseTexts_render hwritten, List.forall₂_map_left_iff, List.forall₂_same]
  exact fun clause hclause => (hwritten clause hclause).readClause

/-- Blanks, capitals, a plus sign and leading zeros go; equals signs and tildes in values stay. -/
theorem parse_render_unkempt :
    ∃ expr, Expr.parse " Public = TRUE ,, NAME =~ a*=~b , params=+007,\tKey X = v=w " = .ok expr ∧
      expr.render = "public=true,name=~a*=~b,params=7,key x=v=w" ∧
      Expr.parse "public=true,name=~a*=~b,params=7,key x=v=w" = .ok expr := by
  have hwritten : (Expr.parse " Public = TRUE ,, NAME =~ a*=~b , params=+007,\tKey X = v=w ").map
      Expr.render = .ok "public=true,name=~a*=~b,params=7,key x=v=w" := by decide +kernel
  cases hparse : Expr.parse " Public = TRUE ,, NAME =~ a*=~b , params=+007,\tKey X = v=w " with
  | error e =>
      rw [hparse] at hwritten
      cases hwritten
  | ok expr =>
      rw [hparse] at hwritten
      have hrender : expr.render = "public=true,name=~a*=~b,params=7,key x=v=w" :=
        Except.ok.inj hwritten
      exact ⟨expr, rfl, hrender, hrender ▸ (parse_render hparse).1⟩

end Filter

end CodeSurvey
