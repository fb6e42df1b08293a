/-
  Spellings of names.

  In its normal spelling a name has no blanks at its ends and all its letters in lower case.  A
  character is SETTLED when lower-casing leaves it alone wherever it stands.  What lower-casing
  gives is settled (`settled_of_mem_lower`), and it neither makes nor removes a blank, so the ends
  of a text are blank after it where they were blank before (`trim_lower_iff`).

  Main results: the normal spelling of a normal spelling is itself (`normalized_normalized`), and
  lower-casing alone gives the normal spelling EXACTLY of those names that have no blanks at their
  ends (`lowercase_eq_normalized_iff`).
-/
import CodeSurvey.Text.Case
import Mathlib.Data.List.Basic

namespace CodeSurvey.Text

/-! ## §1. Trimming. -/

section Trim

variable {cs : List Char}

theorem trimRight_eq (cs : List Char) : trimRight cs = (trimLeft cs.reverse).reverse := rfl

theorem trimLeft_eq_nil_iff : trimLeft cs = [] ↔ allBlank cs = true := by
  induction cs with
  | nil => simp [trimLeft, allBlank]
  | cons c cs ih =>
      unfold trimLeft allBlank at ih ⊢
      cases hc : isBlank c with
      | true => simp [hc, ih]
      | false => simp [hc]

theorem trimRight_eq_nil_iff : trimRight cs = [] ↔ allBlank cs = true := by
  rw [trimRight_eq, List.reverse_eq_nil_iff, trimLeft_eq_nil_iff, allBlank, allBlank,
    List.all_reverse]

/-- Does a text begin with something other than a blank, if it begins at all? -/
def StartsBare (cs : List Char) : Prop := ∀ c, cs.head? = some c → isBlank c = false

/-- Does a text end with something other than a blank, if it has an end? -/
def EndsBare (cs : List Char) : Prop := ∀ c, cs.getLast? = some c → isBlank c = false

theorem startsBare_reverse_iff : StartsBare cs.reverse ↔ EndsBare cs := by
  unfold StartsBare EndsBare
  rw [List.head?_reverse]

theorem startsBare_trimLeft (cs : List Char) : StartsBare (trimLeft cs) := by
  intro c hc
  have hhead := List.head?_dropWhile_not isBlank cs
  unfold trimLeft at hc
  rw [hc] at hhead
  simpa using hhead

theorem trimLeft_eq_self_iff : trimLeft cs = cs ↔ StartsBare cs := by
  constructor
  · intro h
    rw [← h]
    exact startsBare_trimLeft cs
  · intro h
    cases cs with
    | nil => rfl
    | cons c cs => exact List.dropWhile_cons_of_neg (by simp [h c rfl])

theorem trimRight_eq_self_iff : trimRight cs = cs ↔ EndsBare cs := by
  rw [trimRight_eq, ← startsBare_reverse_iff, ← trimLeft_eq_self_iff, List.reverse_eq_iff]

theorem endsBare_trimRight (cs : List Char) : EndsBare (trimRight cs) := by
  rw [← startsBare_reverse_iff, trimRight_eq, List.reverse_reverse]
  exact startsBare_trimLeft _

theorem trimRight_isPrefix (cs : List Char) : trimRight cs <+: cs := by
  rw [trimRight_eq, ← List.reverse_suffix, List.reverse_reverse]
  exact List.dropWhile_suffix isBlank

theorem StartsBare.trimRight (h : StartsBare cs) : StartsBare (trimRight cs) := by
  intro c hc
  obtain ⟨rest, hrest⟩ := trimRight_isPrefix cs
  refine h c ?_
  rw [← hrest, List.head?_append, hc]
  rfl

/-- A text is left alone by trimming exactly when both its ends are bare. -/
theorem trim_eq_self_iff : trim cs = cs ↔ StartsBare cs ∧ EndsBare cs := by
  constructor
  · intro h
    rw [← h]
    exact ⟨(startsBare_trimLeft cs).trimRight, endsBare_trimRight _⟩
  · rintro ⟨hstart, hend⟩
    rw [trim, trimLeft_eq_self_iff.2 hstart, trimRight_eq_self_iff.2 hend]

theorem trim_trim (cs : List Char) : trim (trim cs) = trim cs :=
  trim_eq_self_iff.2 ⟨(startsBare_trimLeft cs).trimRight, endsBare_trimRight _⟩

/-- Of a text, trimming leaves nothing exactly if there were only blanks. -/
theorem trim_eq_nil_iff : trim cs = [] ↔ allBlank cs = true := by
  rw [trim, trimRight_eq_nil_iff]
  constructor
  · intro h
    rw [← trimLeft_eq_nil_iff]
    -- what is left of a text begins with a character that is not blank
    cases hleft : trimLeft cs with
    | nil => rfl
    | cons c rest =>
        have hc : isBlank c = false := startsBare_trimLeft cs c (by rw [hleft]; rfl)
        rw [hleft, allBlank, List.all_cons, hc] at h
        cases h
  · intro h
    rw [trimLeft_eq_nil_iff.2 h]
    rfl

/-- Trimming stops at a character that is not blank, from both sides. -/
theorem trim_append_cons {c : Char} (hc : isBlank c = false) (before after : List Char) :
    trim (before ++ c :: after) = trimLeft before ++ c :: trimRight after := by
  have hleft : ∀ rest cs : List Char, trimLeft (cs ++ c :: rest) = trimLeft cs ++ c :: rest := by
    intro rest cs
    induction cs with
    | nil => exact List.dropWhile_cons_of_neg (by simp [hc])
    | cons x cs ih =>
        unfold trimLeft at ih ⊢
        cases hx : isBlank x with
        | true => simpa [hx] using ih
        | false => simp [hx]
  rw [trim, hleft, trimRight_eq, trimRight_eq, List.reverse_append, List.reverse_cons,
    List.append_assoc, List.singleton_append, hleft]
  simp

/-- Blanks at the end do not matter where both ends are trimmed. -/
theorem trim_trimRight (cs : List Char) : trim (trimRight cs) = trim cs := by
  by_cases hall : allBlank cs = true
  · rw [trimRight_eq_nil_iff.2 hall, trim_eq_nil_iff.2 hall]
    rfl
  · -- nothing is trimmed beyond a character that is not blank
    obtain ⟨c, hmem, hc⟩ : ∃ c ∈ cs, isBlank c = false := by simpa [allBlank] using hall
    obtain ⟨before, after, rfl⟩ := List.append_of_mem hmem
    have hright : trimRight (before ++ c :: after) = before ++ c :: trimRight after := by
      simp [trimRight, List.dropWhile_append, hc]
    rw [hright, trim_append_cons hc, trim_append_cons hc,
      trimRight_eq_self_iff.2 (endsBare_trimRight after)]

end Trim

/-! ## §2. The table of lower-case forms. -/

/-- A row `(lo, hi, step, shift)` of the table. -/
abbrev CaseRun := Nat × Nat × Nat × Int

namespace CaseRun

/-- Is a code point one of the run? -/
abbrev Holds (r : CaseRun) (n : Nat) : Prop := inRun r.1 r.2.1 r.2.2.1 n = true

/-- Where a code point of the run has its lower-case form. -/
def moved (r : CaseRun) (n : Nat) : Nat := ((n : Int) + r.2.2.2).toNat

/-- Do the lower-case forms of one run stay clear of another run?  They lie before it, behind it, or
between its points. -/
def clears (r r' : CaseRun) : Bool :=
  Nat.blt (r.moved r.2.1) r'.1 || Nat.blt r'.2.1 (r.moved r.1) ||
    (Nat.ble r'.1 (r.moved r.1) && (r.moved r.1 - r'.1) % r'.2.2.1 != 0 &&
      (r.2.2.1 % r'.2.2.1 == 0 || r.1 == r.2.1))

/-- Do two closed ranges have nothing in common? -/
def misses (a b lo hi : Nat) : Bool := b < lo || hi < a

/-- Does the run lie outside ASCII and hold no blank, and are its lower-case forms characters that
are neither blank nor special, those in ASCII being small letters? -/
def lands (r : CaseRun) : Bool :=
  let (a, b) := (r.moved r.1, r.moved r.2.1)
  0x80 ≤ r.1 && 0 ≤ (r.1 : Int) + r.2.2.2 && (0x80 ≤ a || (0x61 ≤ a && b ≤ 0x7a)) &&
    (b < 0xd800 || (0xdfff < a && b < 0x110000)) &&
    misses a b 0x130 0x130 && misses a b 0x3a3 0x3a3 &&
    blankTable.all (fun s => misses a b s.1 s.2 && misses r.1 r.2.1 s.1 s.2)

end CaseRun

theorem lowercaseTable_clears :
    (lowercaseTable.all fun r => lowercaseTable.all (CaseRun.clears r)) = true := by
  decide +kernel

theorem lowercaseTable_lands : lowercaseTable.all CaseRun.lands = true := by
  decide +kernel

namespace CaseRun

variable {r r' : CaseRun} {n : Nat}

theorem Holds.bounds (hn : r.Holds n) : r.1 ≤ n ∧ n ≤ r.2.1 ∧ (n - r.1) % r.2.2.1 = 0 := by
  simpa [Holds, inRun, and_assoc] using hn

theorem Holds.moved_bounds (hn : r.Holds n) :
    r.moved r.1 ≤ r.moved n ∧ r.moved n ≤ r.moved r.2.1 := by
  obtain ⟨hlo, hhi, -⟩ := hn.bounds
  unfold moved
  omega

/-- A lower-case form of one run is not a point of a run that the first is clear of. -/
theorem not_holds_moved (hclear : r.clears r' = true) (hpos : 0 ≤ (r.1 : Int) + r.2.2.2)
    (hn : r.Holds n) : ¬ r'.Holds (r.moved n) := by
  intro hn'
  obtain ⟨hlo, hhi, hstep⟩ := hn.bounds
  obtain ⟨hlo', hhi', hstep'⟩ := hn'.bounds
  obtain ⟨hfrom, hto⟩ := hn.moved_bounds
  simp only [clears, Bool.or_eq_true, Bool.and_eq_true, Nat.blt_eq, Nat.ble_eq, bne_iff_ne,
    beq_iff_eq] at hclear
  rcases hclear with (hbefore | hbehind) | ⟨⟨hstart, hoff⟩, hsteps⟩
  · omega
  · omega
  · -- the form of the first point is off the other run by a remainder that the steps keep
    have hdvd : r'.2.2.1 ∣ n - r.1 := by
      rcases hsteps with hsteps | hsingle
      · exact Nat.dvd_trans (Nat.dvd_of_mod_eq_zero hsteps) (Nat.dvd_of_mod_eq_zero hstep)
      · have hzero : n - r.1 = 0 := by omega
        rw [hzero]
        exact Nat.dvd_zero _
    have hmoved : r.moved n - r'.1 = (r.moved r.1 - r'.1) + (n - r.1) := by
      unfold moved at hstart ⊢
      omega
    refine hoff (Nat.mod_eq_zero_of_dvd ?_)
    have hsum := Nat.dvd_of_mod_eq_zero hstep'
    rw [hmoved] at hsum
    exact (Nat.dvd_add_left hdvd).1 hsum

theorem not_mem_of_misses {a b lo hi : Nat} (h : misses a b lo hi = true) (ha : a ≤ n)
    (hb : n ≤ b) : ¬ (lo ≤ n ∧ n ≤ hi) := by
  simp only [misses, Bool.or_eq_true, decide_eq_true_eq] at h
  omega

/-- What holds of every run of the table. -/
structure Fits (r : CaseRun) : Prop where
  start : 0x80 ≤ r.1
  nonneg : 0 ≤ (r.1 : Int) + r.2.2.2
  ascii : ∀ n, r.Holds n → r.moved n < 0x80 → 0x61 ≤ r.moved n ∧ r.moved n ≤ 0x7a
  code : ∀ n, r.Holds n → (Char.ofNat (r.moved n)).toNat = r.moved n
  plain : ∀ n, r.Holds n → r.moved n ≠ 0x130 ∧ r.moved n ≠ 0x3a3
  bare : ∀ n, r.Holds n → inRanges blankTable (r.moved n) = false ∧ inRanges blankTable n = false

theorem fits_of_mem (hr : r ∈ lowercaseTable) : r.Fits := by
  have hlands := List.all_eq_true.1 lowercaseTable_lands r hr
  simp only [lands, Bool.and_eq_true, Bool.or_eq_true, decide_eq_true_eq, List.all_eq_true]
    at hlands
  obtain ⟨⟨⟨⟨⟨⟨hstart, hnonneg⟩, hascii⟩, hvalid⟩, hdotted⟩, hsigma⟩, hblank⟩ := hlands
  refine ⟨hstart, hnonneg, fun n hn hlt => ?_, fun n hn => ?_, fun n hn => ?_, fun n hn => ?_⟩
  · obtain ⟨hfrom, hto⟩ := hn.moved_bounds
    omega
  · obtain ⟨hfrom, hto⟩ := hn.moved_bounds
    have hcode : (r.moved n).isValidChar := by
      unfold Nat.isValidChar
      omega
    rw [Char.ofNat, dif_pos hcode]
    rfl
  · obtain ⟨hfrom, hto⟩ := hn.moved_bounds
    have hdotted := not_mem_of_misses hdotted hfrom hto
    have hsigma := not_mem_of_misses hsigma hfrom hto
    omega
  · obtain ⟨hfrom, hto⟩ := hn.moved_bounds
    obtain ⟨hlo, hhi, -⟩ := hn.bounds
    simp only [inRanges, List.any_eq_false, Bool.and_eq_true, decide_eq_true_eq]
    exact ⟨fun s hs => not_mem_of_misses (hblank s hs).1 hfrom hto,
      fun s hs => not_mem_of_misses (hblank s hs).2 hlo hhi⟩

end CaseRun

/-! ## §3. Settled characters. -/

/-- A character that lower-casing leaves alone wherever it stands. -/
def Settled (c : Char) : Prop := c.toNat ≠ 0x130 ∧ c.toNat ≠ 0x3a3 ∧ lowerChar c = c

instance (c : Char) : Decidable (Settled c) := inferInstanceAs (Decidable (_ ∧ _ ∧ _))

theorem settled_lowerChar_ascii :
    ∀ n < 0x80, Settled (lowerChar (Char.ofNat n)) ∧
      isBlank (lowerChar (Char.ofNat n)) = isBlank (Char.ofNat n) := by
  decide +kernel

/-- A character has its lower-case form in ASCII, by a run of the table, or is its own. -/
theorem lowerChar_cases (c : Char) :
    c.toNat < 0x80 ∨
    (∃ r ∈ lowercaseTable, CaseRun.Holds r c.toNat ∧
      lowerChar c = Char.ofNat (CaseRun.moved r c.toNat)) ∨
    lowerChar c = c := by
  by_cases hascii : c.toNat < 0x80
  · exact .inl hascii
  · right
    unfold lowerChar
    rw [if_neg hascii]
    split
    · rename_i lo hi step shift hfound
      have hholds := List.find?_some hfound
      exact .inl ⟨_, List.mem_of_find?_eq_some hfound, hholds, rfl⟩
    · exact .inr rfl

/-- A code point outside ASCII and in no run is its own lower-case form. -/
theorem lowerChar_eq_self {c : Char} (hascii : ¬ c.toNat < 0x80)
    (hruns : ∀ r ∈ lowercaseTable, ¬ CaseRun.Holds r c.toNat) : lowerChar c = c := by
  rcases lowerChar_cases c with h | ⟨r, hr, hholds, -⟩ | h
  · exact absurd h hascii
  · exact absurd hholds (hruns r hr)
  · exact h

/-- The lower-case forms that the table gives are settled. -/
theorem CaseRun.Fits.settled {r : CaseRun} (hfits : r.Fits) (hr : r ∈ lowercaseTable) {n : Nat}
    (hn : r.Holds n) : Settled (Char.ofNat (r.moved n)) := by
  have htoNat := hfits.code n hn
  by_cases hascii : r.moved n < 0x80
  · have hsmall : ∀ m < 0x80, 0x61 ≤ m ∧ m ≤ 0x7a → Settled (Char.ofNat m) := by decide +kernel
    exact hsmall _ hascii (hfits.ascii n hn hascii)
  · obtain ⟨hdotted, hsigma⟩ := hfits.plain n hn
    refine ⟨by rwa [htoNat], by rwa [htoNat], lowerChar_eq_self (by rwa [htoNat]) ?_⟩
    intro r' hr'
    rw [htoNat]
    have hclear := List.all_eq_true.1 (List.all_eq_true.1 lowercaseTable_clears r hr) r' hr'
    exact not_holds_moved hclear hfits.nonneg hn

theorem settled_lowerChar {c : Char} (hdotted : c.toNat ≠ 0x130) (hsigma : c.toNat ≠ 0x3a3) :
    Settled (lowerChar c) := by
  rcases lowerChar_cases c with hascii | ⟨r, hr, hholds, heq⟩ | heq
  · have h := (settled_lowerChar_ascii c.toNat hascii).1
    rwa [Char.ofNat_toNat] at h
  · rw [heq]
    exact (CaseRun.fits_of_mem hr).settled hr hholds
  · rw [heq]
    exact ⟨hdotted, hsigma, heq⟩

/-- Lower-casing neither makes nor removes a blank. -/
theorem isBlank_lowerChar (c : Char) : isBlank (lowerChar c) = isBlank c := by
  rcases lowerChar_cases c with hascii | ⟨r, hr, hholds, heq⟩ | heq
  · have h := (settled_lowerChar_ascii c.toNat hascii).2
    rwa [Char.ofNat_toNat] at h
  · have hfits := CaseRun.fits_of_mem hr
    obtain ⟨hmoved, hn⟩ := hfits.bare _ hholds
    obtain ⟨hlo, -, -⟩ := hholds.bounds
    have hstart := hfits.start
    have htoNat := hfits.code _ hholds
    have hbare : isBlank c = false := by
      unfold isBlank
      rw [if_neg (by omega)]
      exact hn
    rw [heq, hbare]
    unfold isBlank
    rw [htoNat]
    dsimp only
    split
    · rename_i hascii
      have hsmall := hfits.ascii _ hholds hascii
      simp only [Bool.or_eq_false_iff, beq_eq_false_iff_ne, Bool.and_eq_false_iff,
        decide_eq_false_iff_not]
      omega
    · exact hmoved
  · rw [heq]

/-! ## §4. Lower-casing a text. -/

/-- What a character becomes is something settled, as blank as the character. -/
theorem lowerAt_spec (before : List Char) (c : Char) (after : List Char) :
    lowerAt before c after ≠ [] ∧
      ∀ d ∈ lowerAt before c after, Settled d ∧ isBlank d = isBlank c := by
  have hspecial : Settled (Char.ofNat 0x69) ∧ Settled (Char.ofNat 0x307) ∧
      Settled (Char.ofNat 0x3c2) ∧ Settled (Char.ofNat 0x3c3) := by decide +kernel
  have hbare : ∀ n ∈ [0x130, 0x3a3, 0x69, 0x307, 0x3c2, 0x3c3], isBlank (Char.ofNat n) = false := by
    decide
  have hblank : ∀ n ∈ [0x130, 0x3a3, 0x69, 0x307, 0x3c2, 0x3c3], c.toNat = n →
      isBlank c = false := by
    rintro n hn rfl
    rw [← Char.ofNat_toNat c]
    exact hbare _ hn
  unfold lowerAt
  split
  · rename_i hc
    rw [hblank 0x130 (by simp) hc]
    refine ⟨by simp, fun d hd => ?_⟩
    rcases List.mem_cons.1 hd with rfl | hd
    · exact ⟨hspecial.1, hbare _ (by simp)⟩
    · rw [List.mem_singleton.1 hd]
      exact ⟨hspecial.2.1, hbare _ (by simp)⟩
  · rename_i hdotted
    split
    · rename_i hc
      rw [hblank 0x3a3 (by simp) hc]
      refine ⟨by simp, fun d hd => ?_⟩
      rw [List.mem_singleton.1 hd]
      split
      · exact ⟨hspecial.2.2.1, hbare _ (by simp)⟩
      · exact ⟨hspecial.2.2.2, hbare _ (by simp)⟩
    · rename_i hsigma
      refine ⟨by simp, fun d hd => ?_⟩
      rw [List.mem_singleton.1 hd]
      exact ⟨settled_lowerChar hdotted hsigma, isBlank_lowerChar c⟩

theorem lowerAt_of_settled {c : Char} (h : Settled c) (before after : List Char) :
    lowerAt before c after = [c] := by
  obtain ⟨hdotted, hsigma, hsame⟩ := h
  rw [lowerAt, if_neg hdotted, if_neg hsigma, hsame]

theorem settled_of_mem_lowerAfter {d : Char} :
    ∀ {cs before : List Char}, d ∈ lowerAfter before cs → Settled d := by
  intro cs
  induction cs with
  | nil => intro before hd; cases hd
  | cons c cs ih =>
      intro before hd
      rcases List.mem_append.1 hd with hd | hd
      · exact ((lowerAt_spec before c cs).2 d hd).1
      · exact ih hd

theorem settled_of_mem_lower {cs : List Char} {d : Char} (hd : d ∈ lower cs) : Settled d :=
  settled_of_mem_lowerAfter hd

theorem lowerAfter_of_settled :
    ∀ {cs before : List Char}, (∀ c ∈ cs, Settled c) → lowerAfter before cs = cs := by
  intro cs
  induction cs with
  | nil => exact fun _ => rfl
  | cons c cs ih =>
      intro before h
      rw [lowerAfter, lowerAt_of_settled (h c List.mem_cons_self),
        ih fun d hd => h d (List.mem_cons_of_mem _ hd)]
      rfl

theorem lower_lower (cs : List Char) : lower (lower cs) = lower cs :=
  lowerAfter_of_settled fun _ hd => settled_of_mem_lower hd

/-- The first character is as blank as it was. -/
theorem head?_lower (cs : List Char) : (lower cs).head?.map isBlank = cs.head?.map isBlank := by
  cases cs with
  | nil => rfl
  | cons c cs =>
      obtain ⟨hne, hspec⟩ := lowerAt_spec [] c cs
      obtain ⟨d, ds, hds⟩ := List.exists_cons_of_ne_nil hne
      have hblank := (hspec d (by rw [hds]; exact List.mem_cons_self)).2
      rw [lower, lowerAfter, hds]
      exact congrArg some hblank

/-- The last character is as blank as it was. -/
theorem getLast?_lowerAfter :
    ∀ (cs before : List Char),
      (lowerAfter before cs).getLast?.map isBlank = cs.getLast?.map isBlank := by
  intro cs
  induction cs with
  | nil => exact fun _ => rfl
  | cons c cs ih =>
      intro before
      rw [lowerAfter, List.getLast?_append]
      cases cs with
      | nil =>
          -- the text ends with what the character has become
          obtain ⟨hne, hspec⟩ := lowerAt_spec before c []
          have hlast := List.getLast?_eq_some_getLast hne
          have hblank := (hspec _ (List.getLast_mem hne)).2
          rw [hlast]
          exact congrArg some hblank
      | cons c' cs =>
          have hrest := ih (c :: before)
          rw [List.getLast?_cons_cons]
          cases hlast : (lowerAfter (c :: before) (c' :: cs)).getLast? with
          | none =>
              rw [hlast, eq_comm, Option.map_none, Option.map_eq_none_iff,
                List.getLast?_eq_none_iff] at hrest
              cases hrest
          | some d =>
              rw [hlast] at hrest
              exact hrest

theorem startsBare_iff {cs : List Char} : StartsBare cs ↔ cs.head?.map isBlank ≠ some true := by
  unfold StartsBare
  cases cs.head? <;> simp

theorem endsBare_iff {cs : List Char} : EndsBare cs ↔ cs.getLast?.map isBlank ≠ some true := by
  unfold EndsBare
  cases cs.getLast? <;> simp

/-- **Lower-casing leaves the ends as they are**, blank or bare. -/
theorem trim_lower_iff {cs : List Char} : trim (lower cs) = lower cs ↔ trim cs = cs := by
  rw [trim_eq_self_iff, trim_eq_self_iff, startsBare_iff, startsBare_iff, endsBare_iff,
    endsBare_iff, head?_lower, lower, getLast?_lowerAfter]

theorem lower_eq_nil_iff {cs : List Char} : lower cs = [] ↔ cs = [] := by
  rw [← List.head?_eq_none_iff, ← List.head?_eq_none_iff (l := cs),
    ← Option.map_eq_none_iff (f := isBlank), head?_lower, Option.map_eq_none_iff]

/-! ## §5. Names. -/

/-- A name in its normal spelling. -/
def Normal (s : String) : Prop := normalized s = s

instance (s : String) : Decidable (Normal s) := inferInstanceAs (Decidable (_ = _))

theorem trimmed_trimmed (s : String) : trimmed (trimmed s) = trimmed s := by
  unfold trimmed
  rw [String.toList_ofList, trim_trim]

/-- **The normal spelling of a normal spelling is itself.** -/
theorem normalized_normalized (s : String) : normalized (normalized s) = normalized s := by
  unfold normalized
  rw [String.toList_ofList, trim_lower_iff.2 (trim_trim _), lower_lower]

theorem normal_normalized (s : String) : Normal (normalized s) := normalized_normalized s

/-- A normal spelling has bare ends and small letters. -/
theorem normal_iff {s : String} : Normal s ↔ trimmed s = s ∧ lowercase s = s := by
  constructor
  · intro h
    have hlist : s.toList = lower (trim s.toList) := by
      rw [← String.toList_ofList (l := lower (trim s.toList))]
      exact congrArg String.toList h.symm
    constructor
    · rw [trimmed, hlist, trim_lower_iff.2 (trim_trim _), ← hlist, String.ofList_toList]
    · rw [lowercase, hlist, lower_lower, ← hlist, String.ofList_toList]
  · rintro ⟨htrimmed, hlower⟩
    have hlist : trim s.toList = s.toList := by
      rw [← String.toList_ofList (l := trim s.toList)]
      exact congrArg String.toList htrimmed
    rw [Normal, normalized, hlist]
    exact hlower

/-- **Lower-casing alone** gives the normal spelling exactly of names that have bare ends. -/
theorem lowercase_eq_normalized_iff {s : String} : lowercase s = normalized s ↔ trimmed s = s := by
  have hlists : lower s.toList = lower (trim s.toList) ↔ trim s.toList = s.toList := by
    constructor
    · intro h
      rw [← trim_lower_iff, h]
      exact trim_lower_iff.2 (trim_trim _)
    · intro h
      rw [h]
  unfold lowercase normalized trimmed
  rw [String.ofList_inj, hlists, ← String.ofList_inj, String.ofList_toList]

/-- Lower-casing gives a normal spelling of those names only. -/
theorem normal_lowercase_iff {s : String} : Normal (lowercase s) ↔ trimmed s = s := by
  rw [normal_iff]
  unfold trimmed lowercase
  rw [String.toList_ofList, lower_lower, and_iff_left rfl, String.ofList_inj, trim_lower_iff,
    ← String.ofList_inj, String.ofList_toList]

theorem normalized_eq_empty_iff {s : String} : normalized s = "" ↔ allBlank s.toList = true := by
  rw [← trim_eq_nil_iff, ← lower_eq_nil_iff, ← String.ofList_inj, normalized, String.ofList_nil]

end CodeSurvey.Text
