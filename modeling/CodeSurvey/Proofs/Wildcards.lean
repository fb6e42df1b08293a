/-
  Names with wildcards.

  The globs of a filter are matched octet by octet.  In a glob without sets, choices, escapes and
  double stars each character stands for octets of its own (`Stands`): a star for any, a question mark
  for one, and every other character for its own octets, apart from the case of ASCII letters.

      such a glob is read character by character               (`parse_plain`)
      what a part leaves is told by the octets it stands for   (`mem_rests_tokenOf`)
      so a glob matches what can be cut into its parts         (`accepts_plain_iff`)

  Main result, `name_globs_mean`: a filter `name=~pattern` keeps what has a name that the pattern
  spells, and what is kept by `name=value` is kept by `name=~value`.
-/
import CodeSurvey.Proofs.Rendering

namespace CodeSurvey

namespace Glob

/-! ## §1. What a pattern says. -/

/-- The same octet, or the small and the capital form of one ASCII letter. -/
def SameLetter (a b : UInt8) : Prop :=
  a = b ∨ ∃ k < 26, (a.toNat = 65 + k ∧ b.toNat = 97 + k) ∨ (a.toNat = 97 + k ∧ b.toNat = 65 + k)

/-- Do the octets stand where the pattern has this character? -/
def Stands (c : Char) (part : List UInt8) : Prop :=
  if c = '*' then True
  else if c = '?' then part.length = 1
  else List.Forall₂ SameLetter (String.utf8EncodeChar c) part

/-- The octets can be cut into parts, one for each character of the pattern. -/
def Spells (pattern : List Char) (bytes : List UInt8) : Prop :=
  ∃ parts : List (List UInt8), bytes = parts.flatten ∧ List.Forall₂ Stands pattern parts

theorem spells_nil {bytes : List UInt8} : Spells [] bytes ↔ bytes = [] := by
  simp [Spells]

theorem spells_cons {c : Char} {pattern : List Char} {bytes : List UInt8} :
    Spells (c :: pattern) bytes ↔
      ∃ part rest, bytes = part ++ rest ∧ Stands c part ∧ Spells pattern rest := by
  constructor
  · rintro ⟨parts, rfl, h⟩
    obtain ⟨part, parts', hpart, hparts, rfl⟩ := List.forall₂_cons_left_iff.1 h
    exact ⟨part, parts'.flatten, rfl, hpart, parts', rfl, hparts⟩
  · rintro ⟨part, _, rfl, hpart, parts, rfl, hparts⟩
    exact ⟨part :: parts, rfl, .cons hpart hparts⟩

/-! ## §2. Octets apart from case. -/

theorem toNat_foldOctet (b : UInt8) :
    (foldOctet b).toNat = if 65 ≤ b.toNat ∧ b.toNat ≤ 90 then b.toNat + 32 else b.toNat := by
  have hb : b.toNat < 256 := b.toNat_lt
  unfold foldOctet
  simp only [Bool.and_eq_true, decide_eq_true_eq, UInt8.le_iff_toNat_le]
  show (if 65 ≤ b.toNat ∧ b.toNat ≤ 90 then b + 0x20 else b).toNat = _
  split
  · rw [UInt8.toNat_add]
    show (b.toNat + 32) % 256 = _
    omega
  · rfl

/-- **Folding compares letters without regard to case**, and nothing else. -/
theorem foldOctet_eq_iff {a b : UInt8} : foldOctet a = foldOctet b ↔ SameLetter a b := by
  rw [← UInt8.toNat_inj, toNat_foldOctet, toNat_foldOctet, SameLetter, ← UInt8.toNat_inj]
  constructor
  · intro h
    by_cases hsame : a.toNat = b.toNat
    · exact .inl hsame
    · refine .inr ?_
      split at h <;> split at h
      · omega
      · exact ⟨a.toNat - 65, by omega, .inl ⟨by omega, by omega⟩⟩
      · exact ⟨b.toNat - 65, by omega, .inr ⟨by omega, by omega⟩⟩
      · omega
  · rintro (h | ⟨k, hk, ⟨ha, hb⟩ | ⟨ha, hb⟩⟩)
    · rw [h]
    · rw [if_pos (by omega), if_neg (by omega)]
      omega
    · rw [if_neg (by omega), if_pos (by omega)]
      omega

theorem literalRest?_eq_some_iff {rest : List UInt8} :
    ∀ {xs bytes : List UInt8}, literalRest? xs bytes = some rest ↔
      ∃ part, bytes = part ++ rest ∧ List.Forall₂ SameLetter xs part := by
  intro xs
  induction xs with
  | nil =>
      intro bytes
      simp [literalRest?]
  | cons x xs ih =>
      intro bytes
      cases bytes with
      | nil =>
          simp only [literalRest?, reduceCtorEq, false_iff, not_exists, not_and]
          intro part hpart hsame
          obtain ⟨b, part', -, -, rfl⟩ := List.forall₂_cons_left_iff.1 hsame
          cases hpart
      | cons b bytes =>
          rw [literalRest?]
          split
          · rename_i hx
            rw [ih]
            constructor
            · rintro ⟨part, rfl, hsame⟩
              exact ⟨b :: part, rfl, .cons (foldOctet_eq_iff.1 (eq_of_beq hx)) hsame⟩
            · rintro ⟨part, hpart, hsame⟩
              obtain ⟨b', part', -, hrest, rfl⟩ := List.forall₂_cons_left_iff.1 hsame
              exact ⟨part', (List.cons.inj hpart).2, hrest⟩
          · rename_i hx
            simp only [reduceCtorEq, false_iff, not_exists, not_and]
            intro part hpart hsame
            obtain ⟨b', part', hb, -, rfl⟩ := List.forall₂_cons_left_iff.1 hsame
            obtain ⟨rfl, -⟩ := List.cons.inj hpart
            exact hx (beq_iff_eq.2 (foldOctet_eq_iff.2 hb))

/-! ## §3. What is left. -/

theorem mem_tails_iff {rest : List UInt8} : ∀ {bytes : List UInt8}, rest ∈ tails bytes ↔ rest <:+ bytes
  | [] => by simp [tails]
  | b :: bytes => by rw [tails, List.mem_cons, mem_tails_iff, List.suffix_cons_iff]

/-- Ends of one run that are equally long are the same. -/
theorem eq_of_suffix_of_length {a b bytes : List UInt8} (ha : a <:+ bytes) (hb : b <:+ bytes)
    (h : a.length = b.length) : a = b :=
  (List.suffix_of_suffix_length_le ha hb (Nat.le_of_eq h)).eq_of_length h

/-- **Nothing is lost** by keeping one end of each length. -/
theorem mem_distinct_iff {e bytes : List UInt8} {ends : List (List UInt8)}
    (hends : ∀ x ∈ ends, x <:+ bytes) : e ∈ distinct ends ↔ e ∈ ends := by
  have hkept : ∀ (ends kept : List (List UInt8)), (∀ x ∈ ends, x <:+ bytes) →
      (∀ x ∈ kept, x <:+ bytes) →
      (e ∈ ends.foldl
          (fun kept x => if kept.any (·.length == x.length) then kept else kept ++ [x]) kept ↔
        e ∈ kept ∨ e ∈ ends) := by
    intro ends
    induction ends with
    | nil => exact fun kept _ _ => by simp
    | cons x ends ih =>
        intro kept hends hkept
        have hx : x <:+ bytes := hends x List.mem_cons_self
        have hrest : ∀ y ∈ ends, y <:+ bytes := fun y hy => hends y (List.mem_cons_of_mem _ hy)
        rw [List.foldl_cons]
        split
        · -- the end is among those that are kept
          rename_i hany
          obtain ⟨y, hy, hlength⟩ := List.any_eq_true.1 hany
          obtain rfl : y = x := eq_of_suffix_of_length (hkept y hy) hx (eq_of_beq hlength)
          rw [ih kept hrest hkept, List.mem_cons]
          constructor
          · exact Or.imp_right .inr
          · rintro (h | rfl | h)
            · exact .inl h
            · exact .inl hy
            · exact .inr h
        · rw [ih (kept ++ [x]) hrest, List.mem_append, List.mem_singleton, List.mem_cons, or_assoc]
          intro y hy
          rcases List.mem_append.1 hy with hy | hy
          · exact hkept y hy
          · rwa [List.mem_singleton.1 hy]
  rw [distinct, hkept ends [] hends (fun x hx => absurd hx List.not_mem_nil)]
  simp

/-- What a character of a pattern is read as. -/
def tokenOf (c : Char) : Token :=
  if c = '*' then .many else if c = '?' then .any else .literal c

theorem mem_rests_token {c : Char} {bytes rest : List UInt8} :
    rest ∈ (tokenOf c).rests bytes ↔ ∃ part, bytes = part ++ rest ∧ Stands c part := by
  unfold tokenOf Stands
  split
  · rw [Token.rests, mem_tails_iff]
    simp [List.IsSuffix, eq_comm]
  · split
    · rw [Token.rests]
      cases bytes with
      | nil =>
          simp only [List.tail?_nil, Option.toList_none, List.not_mem_nil, false_iff, not_exists,
            not_and]
          intro part hpart hlength
          rw [(List.append_eq_nil_iff.1 hpart.symm).1] at hlength
          cases hlength
      | cons b bytes =>
          simp only [List.tail?_cons, Option.toList_some, List.mem_singleton]
          constructor
          · rintro rfl
            exact ⟨[b], rfl, rfl⟩
          · rintro ⟨part, hpart, hlength⟩
            obtain ⟨x, rfl⟩ := List.length_eq_one_iff.1 hlength
            exact (List.cons.inj hpart).2.symm
    · rw [Token.rests, Option.mem_toList, literalRest?_eq_some_iff]
      rfl

/-- **What a pattern leaves** of octets is what stands behind octets that it spells. -/
theorem mem_rests_tokenOf :
    ∀ {pattern : List Char} {bytes rest : List UInt8}, rest ∈ rests (pattern.map tokenOf) bytes ↔
      ∃ taken, bytes = taken ++ rest ∧ Spells pattern taken := by
  intro pattern
  induction pattern with
  | nil =>
      intro bytes rest
      rw [List.map_nil, rests, List.mem_singleton]
      simp only [spells_nil]
      constructor
      · rintro rfl
        exact ⟨[], rfl, rfl⟩
      · rintro ⟨_, rfl, rfl⟩
        rfl
  | cons c pattern ih =>
      intro bytes rest
      have hmem : ∀ e, e ∈ ((tokenOf c).rests bytes).flatMap (rests (pattern.map tokenOf)) ↔
          ∃ taken, bytes = taken ++ e ∧ Spells (c :: pattern) taken := by
        intro e
        rw [List.mem_flatMap]
        constructor
        · rintro ⟨behind, hbehind, he⟩
          obtain ⟨part, rfl, hpart⟩ := mem_rests_token.1 hbehind
          obtain ⟨taken, rfl, htaken⟩ := ih.1 he
          exact ⟨part ++ taken, by rw [List.append_assoc],
            spells_cons.2 ⟨part, taken, rfl, hpart, htaken⟩⟩
        · rintro ⟨taken, rfl, htaken⟩
          obtain ⟨part, more, rfl, hpart, hmore⟩ := spells_cons.1 htaken
          exact ⟨more ++ e, mem_rests_token.2 ⟨part, List.append_assoc _ _ _, hpart⟩,
            ih.2 ⟨more, rfl, hmore⟩⟩
      have hends : ∀ e ∈ ((tokenOf c).rests bytes).flatMap (rests (pattern.map tokenOf)),
          e <:+ bytes := by
        intro e he
        obtain ⟨taken, htaken, -⟩ := (hmem e).1 he
        exact ⟨taken, htaken.symm⟩
      rw [List.map_cons, rests, mem_distinct_iff hends, hmem]

/-- **A pattern accepts** the texts whose octets it spells. -/
theorem accepts_plain_iff {pattern text : List Char} :
    accepts (pattern.map tokenOf) text = true ↔ Spells pattern (Text.octets text) := by
  have hlone : pattern.map tokenOf ≠ [.leading] := by
    intro h
    have hmem : Token.leading ∈ pattern.map tokenOf := h ▸ List.mem_cons_self
    obtain ⟨c, -, hc⟩ := List.mem_map.1 hmem
    unfold tokenOf at hc
    split at hc
    · cases hc
    · split at hc <;> cases hc
  have hrests : matchesOctets (pattern.map tokenOf) (Text.octets text)
      = (rests (pattern.map tokenOf) (Text.octets text)).any List.isEmpty := by
    unfold matchesOctets
    split
    · exact absurd ‹_› hlone
    · rfl
  rw [accepts, hrests, List.any_eq_true]
  constructor
  · rintro ⟨rest, hrest, hempty⟩
    obtain ⟨taken, htaken, hspells⟩ := mem_rests_tokenOf.1 hrest
    rwa [htaken, List.isEmpty_iff.1 hempty, List.append_nil]
  · intro h
    exact ⟨[], mem_rests_tokenOf.2 ⟨_, (List.append_nil _).symm, h⟩, rfl⟩

/-! ## §4. Reading a pattern. -/

/-- The characters that open or close a set or a choice, separate its branches or escape. -/
def structural : List Char := ['[', ']', '\x7b', '\x7d', ',', '\\']

/-- A pattern of literal characters, question marks and stars of which no two stand together. -/
def PlainPattern (pattern : List Char) : Prop :=
  (∀ c ∈ pattern, c ∉ structural) ∧ ¬ ['*', '*'] <:+: pattern

theorem PlainPattern.tail {c : Char} {pattern : List Char} (h : PlainPattern (c :: pattern)) :
    PlainPattern pattern :=
  ⟨fun d hd => h.1 d (List.mem_cons_of_mem c hd),
    fun hstars => h.2 (hstars.trans (List.suffix_cons c pattern).isInfix)⟩

/-- A character outside of sets and choices that escapes nothing is one token. -/
theorem readTokens_cons {fuel : Nat} {f : Frames} {before : Option Char} {c : Char} {cs : List Char}
    (h : c ∉ structural) (hlone : c = '*' → ∀ rest, cs ≠ '*' :: rest) :
    readTokens (fuel + 1) f before (c :: cs)
      = readTokens fuel (f.push (tokenOf c)) (some c) cs := by
  have hother : ∀ d ∈ structural, c ≠ d := fun d hd hcd => h (hcd ▸ hd)
  by_cases hstar : c = '*'
  · subst hstar
    rw [readTokens]
    · rfl
    · exact hlone rfl
  · by_cases hmark : c = '?'
    · subst hmark
      rfl
    · rw [tokenOf, if_neg hstar, if_neg hmark, readTokens]
      · exact hmark
      · exact fun _ hc => absurd hc hstar
      · exact hstar
      · exact hother '[' (by decide)
      · exact hother '\x7b' (by decide)
      · exact hother '\x7d' (by decide)
      · exact hother ',' (by decide)
      · exact fun _ _ hc => absurd hc (hother '\\' (by decide))
      · exact fun hc => absurd hc (hother '\\' (by decide))

theorem readTokens_plain :
    ∀ {pattern : List Char} (_ : PlainPattern pattern) {fuel : Nat} (_ : pattern.length < fuel)
      (current : List Token) (before : Option Char),
      readTokens fuel { inner := { current := current } } before pattern
        = .ok (current.reverse ++ pattern.map tokenOf) := by
  intro pattern
  induction pattern with
  | nil =>
      intro _ fuel hfuel current before
      obtain ⟨fuel, rfl⟩ := Nat.exists_eq_add_of_lt hfuel
      rw [List.map_nil, List.append_nil]
      rfl
  | cons c pattern ih =>
      intro hplain fuel hfuel current before
      obtain ⟨fuel, rfl⟩ := Nat.exists_eq_succ_of_ne_zero (Nat.ne_of_gt (Nat.zero_lt_of_lt hfuel))
      have hlone : c = '*' → ∀ rest, pattern ≠ '*' :: rest := by
        rintro rfl rest rfl
        exact hplain.2 (List.prefix_append ['*', '*'] rest).isInfix
      rw [readTokens_cons (hplain.1 c List.mem_cons_self) hlone, Frames.push,
        ih hplain.tail (by simpa using hfuel)]
      simp

theorem parse_plain {pattern : List Char} (h : PlainPattern pattern) :
    parse pattern = .ok (pattern.map tokenOf) :=
  readTokens_plain h (Nat.lt_succ_self _) [] none

/-- A text without wildcards spells its own octets. -/
theorem spells_octets {text : List Char} (hstar : '*' ∉ text) (hmark : '?' ∉ text) :
    Spells text (Text.octets text) := by
  induction text with
  | nil => exact spells_nil.2 rfl
  | cons c text ih =>
      simp only [List.mem_cons, not_or] at hstar hmark
      refine spells_cons.2 ⟨String.utf8EncodeChar c, Text.octets text, rfl, ?_, ih hstar.2 hmark.2⟩
      rw [Stands, if_neg (Ne.symm hstar.1), if_neg (Ne.symm hmark.1)]
      exact List.forall₂_same.2 fun b _ => .inl rfl

end Glob

namespace Filter

/-! ## §5. Filters by name. -/

/-- An expression with a single `name` clause. -/
theorem parse_name {value : String} (hcomma : ',' ∉ value.toList) :
    Expr.parse ("name=" ++ value) = (readName (Text.trim value.toList)).map fun clause => [clause] := by
  have htext : ("name=" ++ value).toList = "name".toList ++ '=' :: value.toList := by
    rw [String.toList_append]
    rfl
  have hnone : ∀ c ∈ ("name=" ++ value).toList, (c == ',') = false := by
    intro c hc
    rw [htext] at hc
    rw [beq_eq_false_iff_ne]
    rintro rfl
    rcases List.mem_append.1 hc with hc | hc
    · exact absurd hc (by decide)
    · exact hcomma ((List.mem_cons.1 hc).resolve_left (by decide))
  have htrim : Text.trim ("name=" ++ value).toList
      = "name".toList ++ '=' :: Text.trimRight value.toList := by
    rw [htext, Text.trim_append_cons (by decide)]
    rfl
  have hread : readClause ("name".toList ++ '=' :: Text.trimRight value.toList)
      = readName (Text.trim value.toList) := by
    rw [readClause_keyed (by decide) (by decide), Text.trim_trimRight]
    have hkey : String.ofList (Text.lower (Text.trim "name".toList)) = "name" := by decide +kernel
    rw [hkey, readValue, if_pos rfl]
  rw [Expr.parse, clauseTexts, Text.splitAll_of_no_sep hnone, List.map_singleton, htrim]
  show List.mapM readClause ["name".toList ++ '=' :: Text.trimRight value.toList] = _
  rw [List.mapM_cons, hread]
  cases readName (Text.trim value.toList) with
  | error e => rfl
  | ok clause => rfl

/-- A pattern after the tilde is read as a glob. -/
theorem parse_glob {pattern : String} (h : Glob.PlainPattern pattern.toList) :
    Expr.parse ("name=~" ++ pattern)
      = .ok [.nameLike (Text.trimmed pattern) ((Text.trim pattern.toList).map Glob.tokenOf)] := by
  have hcomma : ',' ∉ ("~" ++ pattern).toList := by
    rw [String.toList_append]
    intro hmem
    rcases List.mem_append.1 hmem with hmem | hmem
    · exact absurd hmem (by decide)
    · exact h.1 ',' hmem (by decide)
  have hvalue : Text.trim ("~" ++ pattern).toList = '~' :: Text.trimRight pattern.toList := by
    rw [String.toList_append]
    exact Text.trim_append_cons (by decide) [] pattern.toList
  have hplain : Glob.PlainPattern (Text.trim pattern.toList) :=
    ⟨fun c hc => h.1 c (Text.mem_of_mem_trim hc), fun hstars => h.2 (hstars.trans
      ((Text.trimRight_isPrefix _).isInfix.trans (List.dropWhile_suffix _).isInfix))⟩
  have hsource : "name=~" ++ pattern = "name=" ++ ("~" ++ pattern) := by
    rw [← String.append_assoc]
    rfl
  rw [hsource, parse_name hcomma, hvalue, readName, Text.trim_trimRight, Glob.parse_plain hplain]
  rfl

/-- A value that does not begin with a tilde is the name itself. -/
theorem parse_exact {value : String} (hcomma : ',' ∉ value.toList)
    (htilde : (Text.trim value.toList).head? ≠ some '~') :
    Expr.parse ("name=" ++ value) = .ok [.nameIs (Text.trimmed value)] := by
  rw [parse_name hcomma]
  unfold readName
  split
  · rename_i pattern heq
    rw [heq] at htilde
    exact absurd rfl htilde
  · rfl

section Keeping

variable {α : Type} {language : String} {view : α → Subject} {items : List α}

/-- A single clause that looks at names only keeps what it accepts. -/
theorem keep_of_parse {source : String} {clause : Clause} (hparse : Expr.parse source = .ok [clause])
    (hreads : clause.readsText = false) :
    keep language view items source
      = .ok (items.filter fun item => clause.accepts (Text.normalized language) (view item)) := by
  refine keep_eq_ok_iff.2 ⟨[clause], hparse, ?_, ?_⟩
  · rintro ⟨other, hother, htext⟩
    rw [List.mem_singleton.1 hother, hreads] at htext
    cases htext
  · simp [Expr.accepts]

/-- **A glob clause** accepts what has a name that the pattern spells. -/
theorem accepts_nameLike_iff {source : String} {pattern : List Char} {subject : Subject} :
    (Clause.nameLike source (pattern.map Glob.tokenOf)).accepts language subject = true ↔
      ∃ name, subject.name? language = some name ∧
        Glob.Spells pattern (Text.octets name.toList) := by
  rw [Clause.accepts, Option.any_eq_true]
  constructor
  · rintro ⟨name, hname, haccepts⟩
    exact ⟨name, hname, Glob.accepts_plain_iff.1 haccepts⟩
  · rintro ⟨name, hname, hspells⟩
    exact ⟨name, hname, Glob.accepts_plain_iff.2 hspells⟩

end Keeping

/-- **Name globs mean what they say.**  For a pattern of literal characters, question marks and stars
of which no two stand together, `name=~pattern` keeps exactly what has a name whose octets the trimmed
pattern spells: a star stands for any octets, a question mark for one, and ASCII letters are compared
without regard to case.  A value without wildcards that does not begin with a tilde keeps, after a
tilde, all that it keeps without one. -/
theorem name_globs_mean {α : Type} (language : String) (view : α → Subject) (items : List α) :
    (∀ pattern : String, Glob.PlainPattern pattern.toList →
      ∃ accepted : α → Bool,
        keep language view items ("name=~" ++ pattern) = .ok (items.filter accepted) ∧
        ∀ item, accepted item = true ↔
          ∃ name, (view item).name? (Text.normalized language) = some name ∧
            Glob.Spells (Text.trim pattern.toList) (Text.octets name.toList)) ∧
    ∀ value : String, Glob.PlainPattern value.toList → '*' ∉ value.toList → '?' ∉ value.toList →
      (Text.trim value.toList).head? ≠ some '~' →
      ∃ named alike, keep language view items ("name=" ++ value) = .ok named ∧
        keep language view items ("name=~" ++ value) = .ok alike ∧ named.Sublist alike := by
  constructor
  · intro pattern h
    exact ⟨_, keep_of_parse (parse_glob h) rfl, fun item => accepts_nameLike_iff⟩
  · intro value h hstar hmark htilde
    have hcomma : ',' ∉ value.toList := fun hmem => h.1 ',' hmem (by decide)
    refine ⟨_, _, keep_of_parse (parse_exact hcomma htilde) rfl, keep_of_parse (parse_glob h) rfl,
      List.monotone_filter_right _ fun item hitem => accepts_nameLike_iff.2 ⟨Text.trimmed value, ?_, ?_⟩⟩
    · exact eq_of_beq hitem
    · rw [Text.trimmed, String.toList_ofList]
      exact Glob.spells_octets (fun hmem => hstar (Text.mem_of_mem_trim hmem))
        fun hmem => hmark (Text.mem_of_mem_trim hmem)

/-- In `??T*` both question marks are needed for the two octets of `é`, and the capital stands for the
small letter; the name `été` is kept with and without a tilde. -/
theorem accented_names_kept :
    Glob.PlainPattern "??T*".toList ∧
    keep "go" (Subject.declaration · "") ["été", "éT", "et"] "name=~??T*" = .ok ["été", "éT"] ∧
    Glob.Spells "??T*".toList (Text.octets "été".toList) ∧
    ¬ Glob.Spells "??T*".toList (Text.octets "et".toList) ∧
    (Glob.PlainPattern "été".toList ∧ '*' ∉ "été".toList ∧ '?' ∉ "été".toList ∧
      (Text.trim "été".toList).head? ≠ some '~') ∧
    ∃ alike, keep "go" (Subject.declaration · "") ["été", "éT", "et"] ("name=" ++ "été")
        = .ok ["été"] ∧
      keep "go" (Subject.declaration · "") ["été", "éT", "et"] ("name=~" ++ "été") = .ok alike ∧
      ["été"].Sublist alike := by
  obtain ⟨hglob, hexact⟩ :=
    name_globs_mean "go" (Subject.declaration · "") ["été", "éT", "et"]
  have hplain : Glob.PlainPattern "??T*".toList := ⟨by simp [Glob.structural], by decide⟩
  have hvalue : Glob.PlainPattern "été".toList ∧ '*' ∉ "été".toList ∧ '?' ∉ "été".toList ∧
      (Text.trim "été".toList).head? ≠ some '~' :=
    ⟨⟨by simp [Glob.structural], by decide⟩, by decide, by decide, by decide +kernel⟩
  have hkept : keep "go" (Subject.declaration · "") ["été", "éT", "et"] ("name=~" ++ "??T*")
      = .ok ["été", "éT"] := by decide +kernel
  obtain ⟨accepted, hkeep, haccepted⟩ := hglob "??T*" hplain
  have hfilter : ["été", "éT", "et"].filter accepted = ["été", "éT"] :=
    Except.ok.inj (hkeep.symm.trans hkept)
  have htrim : Text.trim "??T*".toList = "??T*".toList := by decide +kernel
  have hspells : ∀ name ∈ ["été", "éT", "et"], name ∈ ["été", "éT"] ↔
      Glob.Spells "??T*".toList (Text.octets name.toList) := by
    intro name hname
    rw [← hfilter, List.mem_filter, haccepted, htrim]
    simp [hname, Subject.name?]
  obtain ⟨named, alike, hnamed, halike, hsublist⟩ :=
    hexact "été" hvalue.1 hvalue.2.1 hvalue.2.2.1 hvalue.2.2.2
  have hnamed' : keep "go" (Subject.declaration · "") ["été", "éT", "et"] ("name=" ++ "été")
      = .ok ["été"] := by decide +kernel
  obtain rfl : named = ["été"] := Except.ok.inj (hnamed.symm.trans hnamed')
  exact ⟨hplain, hkept, (hspells "été" (by simp)).1 (by simp),
    fun h => absurd ((hspells "et" (by simp)).2 h) (by decide), hvalue, alike, hnamed', halike,
    hsublist⟩

end Filter

end CodeSurvey
