/-
  Base names of types.

  A method is credited to a type by a text: the type that an implementation is for, or the type of a
  receiver.  What counts of the text is its base name, without a path or stars in front and without
  arguments behind.

      the first occurrence of a part is where it is found     (`splitAt?_eq_some_iff`)
      Rust: what follows the last `::` before the first `<`   (`Rust.hasBase_iff`)
      Go: what follows the stars before the first `[`         (`Go.hasBase_iff`)

  Base names are stated as relations on texts, which the functions that compute them decide.
-/
import CodeSurvey.Extract.Go
import CodeSurvey.Extract.Rust
import CodeSurvey.Proofs.Lists
import Mathlib.Data.List.Infix

namespace CodeSurvey

/-! ## §1. Finding a part of a text. -/

namespace Text

variable {α : Type}

/-- A text is cut at the first of some character. -/
theorem cut_ne_iff {c : Char} {cs before after : List Char} :
    (cs.takeWhile (· != c) = before ∧ cs.dropWhile (· != c) = after) ↔
      cs = before ++ after ∧ c ∉ before ∧ ∀ x ∈ after.head?, x = c := by
  have hkeep : (∀ x ∈ before, (x != c) = true) ↔ c ∉ before := by
    simp only [bne_iff_ne]
    exact ⟨fun h hc => h c hc rfl, fun h x hx => ne_of_mem_of_not_mem hx h⟩
  have hfails : (∀ x ∈ after.head?, (x != c) = false) ↔ ∀ x ∈ after.head?, x = c := by
    simp
  rw [cut_iff, hkeep, hfails]

variable [BEq α] [LawfulBEq α] {part : List α}

theorem splitAt?_eq_none_iff (hpart : part ≠ []) : ∀ {cs : List α},
    splitAt? part cs = none ↔ ¬ part <:+: cs := by
  intro cs
  induction cs with
  | nil =>
      rw [splitAt?, List.infix_nil, if_neg (by simpa using hpart)]
      exact ⟨fun _ => hpart, fun _ => rfl⟩
  | cons c cs ih =>
      rw [splitAt?, List.infix_cons_iff, ← List.isPrefixOf_iff_prefix]
      split
      · rename_i hhere
        exact ⟨fun h => (Option.some_ne_none _ h).elim, fun h => absurd (.inl hhere) h⟩
      · rename_i hhere
        rw [Option.map_eq_none_iff, ih]
        exact ⟨fun hno h => h.elim hhere hno, fun hno h => hno (.inr h)⟩

/-- **A part is found where it occurs first**: none ends before it does. -/
theorem splitAt?_eq_some_iff (hpart : part ≠ []) : ∀ {cs before after : List α},
    splitAt? part cs = some (before, after) ↔
      cs = before ++ part ++ after ∧ ¬ part <:+: before ++ part.dropLast := by
  have hlength : part.length = part.dropLast.length + 1 := by
    rw [List.length_dropLast]
    have := List.length_pos_iff.2 hpart
    omega
  intro cs
  induction cs with
  | nil =>
      intro before after
      rw [splitAt?, if_neg (by simpa using hpart)]
      refine ⟨fun h => (Option.some_ne_none _ h.symm).elim, fun h => ?_⟩
      exact absurd (List.append_eq_nil_iff.1 (List.append_eq_nil_iff.1 h.1.symm).1).2 hpart
  | cons c cs ih =>
      intro before after
      rw [splitAt?]
      split
      · rename_i hhere
        obtain ⟨rest, hrest⟩ := List.isPrefixOf_iff_prefix.1 hhere
        rw [← hrest, List.drop_left]
        constructor
        · rintro ⟨⟩
          refine ⟨rfl, fun hoccurs => ?_⟩
          have := hoccurs.length_le
          rw [List.nil_append] at this
          omega
        · rintro ⟨heq, hno⟩
          -- another one further behind would end after this one
          have hbefore : before = [] := by
            by_contra hne
            have hpos := List.length_pos_iff.2 hne
            have hstart : part <+: before ++ part ++ after := heq ▸ List.prefix_append part rest
            refine hno (List.prefix_of_prefix_length_le hstart
              (append_dropLast_isPrefix before part after) ?_).isInfix
            rw [List.length_append]
            omega
          subst hbefore
          rw [List.nil_append, List.append_cancel_left_eq] at heq
          rw [heq]
      · rename_i hhere
        replace hhere := mt List.isPrefixOf_iff_prefix.2 hhere
        constructor
        · intro h
          obtain ⟨⟨before', after'⟩, hfound, heq⟩ := Option.map_eq_some_iff.1 h
          cases heq
          obtain ⟨rfl, hno⟩ := ih.1 hfound
          refine ⟨rfl, fun hoccurs => ?_⟩
          rcases List.infix_cons_iff.1 hoccurs with hstart | hoccurs
          · exact hhere (hstart.trans (append_dropLast_isPrefix (c :: before') part after))
          · exact hno hoccurs
        · rintro ⟨heq, hno⟩
          cases before with
          | nil => exact absurd ⟨after, heq.symm⟩ hhere
          | cons c' before =>
              obtain ⟨rfl, rfl⟩ := List.cons.inj heq
              rw [ih.2 ⟨rfl, fun hoccurs => hno (List.infix_cons_iff.2 (.inr hoccurs))⟩]
              rfl

end Text

namespace Extract

open Syntax

/-! ## §2. Types that implementations are for. -/

namespace Rust

/-- A text has a base name: up to the first `<`, what stands behind the last `::`, if there is one,
without blanks around it. -/
def HasBase (text base : List Char) : Prop :=
  ∃ path name arguments, text = path ++ name ++ arguments ∧ '<' ∉ path ++ name ∧
    (∀ c ∈ arguments.head?, c = '<') ∧
    ((path = [] ∧ ¬ [':', ':'] <:+: name) ∨
      ([':', ':'] <:+ path ∧ ¬ [':', ':'] <:+: ':' :: name)) ∧
    base = Text.trim name

/-- What stands behind the last `::`. -/
def lastSegment (plain : List Char) : List Char :=
  match Text.splitAt? [':', ':'] plain.reverse with
  | some (segment, _) => segment.reverse
  | none => plain

theorem baseName_eq (text : String) : baseName text
    = String.ofList (Text.trim (lastSegment (text.toList.takeWhile (· != '<')))) := rfl

theorem infix_reverse_iff {cs : List Char} : [':', ':'] <:+: cs.reverse ↔ [':', ':'] <:+: cs := by
  have hsame : [':', ':'].reverse = [':', ':'] := rfl
  conv_lhs => rw [← hsame]
  exact List.reverse_infix

/-- **The last segment** is all of a text without `::`, and otherwise the shortest end behind one. -/
theorem eq_lastSegment_iff {plain name : List Char} : name = lastSegment plain ↔
    ∃ path, plain = path ++ name ∧ ((path = [] ∧ ¬ [':', ':'] <:+: name) ∨
      ([':', ':'] <:+ path ∧ ¬ [':', ':'] <:+: ':' :: name)) := by
  unfold lastSegment
  cases hfound : Text.splitAt? [':', ':'] plain.reverse with
  | none =>
      have hno := (Text.splitAt?_eq_none_iff (by simp)).1 hfound
      rw [infix_reverse_iff] at hno
      dsimp only
      constructor
      · rintro rfl
        exact ⟨[], rfl, .inl ⟨rfl, hno⟩⟩
      · rintro ⟨path, rfl, ⟨rfl, -⟩ | ⟨hpath, -⟩⟩
        · rfl
        · exact absurd (hpath.isInfix.trans (List.prefix_append path name).isInfix) hno
  | some found =>
      obtain ⟨segment, rest⟩ := found
      obtain ⟨heq, hno⟩ := (Text.splitAt?_eq_some_iff (by simp)).1 hfound
      dsimp only
      constructor
      · rintro rfl
        refine ⟨rest.reverse ++ [':', ':'], ?_, .inr ⟨List.suffix_append _ _, ?_⟩⟩
        · rw [← List.reverse_reverse plain, heq]
          simp
        · rw [← infix_reverse_iff]
          simpa using hno
      · rintro ⟨path, rfl, ⟨rfl, hname⟩ | ⟨⟨front, rfl⟩, hname⟩⟩
        · -- there is a `::` after all
          refine absurd ?_ hname
          rw [← infix_reverse_iff, ← List.nil_append name, heq]
          exact List.infix_append _ _ _
        · rw [← infix_reverse_iff] at hname
          have hhere : Text.splitAt? [':', ':'] (front ++ [':', ':'] ++ name).reverse
              = some (name.reverse, front.reverse) :=
            (Text.splitAt?_eq_some_iff (by simp)).2 ⟨by simp, by simpa using hname⟩
          rw [hhere] at hfound
          cases hfound
          exact (List.reverse_reverse name).symm

/-- **The base name** that is computed is the one that the text has. -/
theorem hasBase_iff {text : String} {base : List Char} :
    HasBase text.toList base ↔ baseName text = String.ofList base := by
  rw [baseName_eq, String.ofList_inj]
  constructor
  · rintro ⟨path, name, arguments, htext, hplain, hends, hpath, rfl⟩
    rw [(Text.cut_ne_iff.2 ⟨htext, hplain, hends⟩).1, ← eq_lastSegment_iff.2 ⟨path, rfl, hpath⟩]
  · rintro rfl
    obtain ⟨path, hplain, hpath⟩ :=
      eq_lastSegment_iff.1 (rfl : lastSegment (text.toList.takeWhile (· != '<')) = _)
    obtain ⟨htext, hkept, hends⟩ := Text.cut_ne_iff.1 ⟨hplain, rfl⟩
    exact ⟨path, _, _, htext, hkept, hends, hpath, rfl⟩

instance (text : String) (base : List Char) : Decidable (HasBase text.toList base) :=
  decidable_of_iff _ hasBase_iff.symm

end Rust

/-! ## §3. Types of receivers. -/

namespace Go

/-- A text has a base name: what follows the stars, up to the first `[`, without blanks around it. -/
def HasBase (text base : List Char) : Prop :=
  ∃ stars name arguments, text = stars ++ (name ++ arguments) ∧ (∀ c ∈ stars, c = '*') ∧
    (∀ c ∈ (name ++ arguments).head?, c ≠ '*') ∧ '[' ∉ name ∧ (∀ c ∈ arguments.head?, c = '[') ∧
    base = Text.trim name

/-- What follows the stars, up to the first `[`. -/
def starless (text : List Char) : List Char := (text.dropWhile (· == '*')).takeWhile (· != '[')

theorem hasBase_iff {text base : List Char} :
    HasBase text base ↔ base = Text.trim (starless text) := by
  have hstars : ∀ {stars rest : List Char},
      (text.takeWhile (· == '*') = stars ∧ text.dropWhile (· == '*') = rest) ↔
        text = stars ++ rest ∧ (∀ c ∈ stars, c = '*') ∧ ∀ c ∈ rest.head?, c ≠ '*' := by
    intro stars rest
    rw [cut_iff]
    simp only [beq_iff_eq, beq_eq_false_iff_ne]
  constructor
  · rintro ⟨stars, name, arguments, htext, hfront, hstops, hname, hends, rfl⟩
    rw [starless, (hstars.2 ⟨htext, hfront, hstops⟩).2,
      (Text.cut_ne_iff.2 ⟨rfl, hname, hends⟩).1]
  · rintro rfl
    obtain ⟨htext, hfront, hstops⟩ := hstars.1 ⟨rfl, rfl⟩
    obtain ⟨hrest, hname, hends⟩ :=
      Text.cut_ne_iff.1 (⟨rfl, rfl⟩ : (text.dropWhile (· == '*')).takeWhile (· != '[') = _ ∧ _ = _)
    exact ⟨_, _, _, hrest ▸ htext, hfront, hrest ▸ hstops, hname, hends, rfl⟩

instance (text base : List Char) : Decidable (HasBase text base) :=
  decidable_of_iff _ hasBase_iff.symm

/-- The type of the receiver of a method: that of the first parameter. -/
def receiverType? (n : Tree) : Option Tree := do
  let receiver ← n.childByField "receiver"
  let parameter ← receiver.namedChildren.head?
  parameter.childByField "type"

/-- **The base name** that is computed of a receiver is the one that the text of its type has. -/
theorem receiver?_eq_some_iff {p : Parsed} {n : Tree} {base : List Char} :
    receiver? p n = some (String.ofList base) ↔
      ∃ t ∈ receiverType? n, HasBase (p.tree.text t).toList base := by
  have hmap : receiver? p n = (receiverType? n).map fun t =>
      String.ofList (Text.trim (starless (p.tree.text t).toList)) := by
    unfold receiver? receiverType?
    cases n.childByField "receiver" with
    | none => rfl
    | some receiver =>
        cases hhead : receiver.namedChildren.head? with
        | none => simp [hhead]
        | some parameter =>
            cases htype : parameter.childByField "type" with
            | none => simp [hhead, htype]
            | some t => simp [hhead, htype, starless]
  rw [hmap, Option.map_eq_some_iff]
  simp only [String.ofList_inj, hasBase_iff, Option.mem_def, eq_comm]

end Go

end Extract

end CodeSurvey
