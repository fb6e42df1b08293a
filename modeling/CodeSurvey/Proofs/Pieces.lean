/-
  Texts cut at separators.

  The pieces of a text are what stands in it between two separators and has none inside
  (`mem_splitAll_iff`).  Cutting a text in two at a separator cuts its pieces in two
  (`splitAll_append_sep`), and pieces that are joined are found again (`splitAll_intercalate`).
-/
import CodeSurvey.Proofs.Lists
import CodeSurvey.Text.Basic

namespace CodeSurvey.Text

variable {α : Type} {p : α → Bool} {sep : α}

theorem splitAll_ne_nil (cs : List α) : splitAll p cs ≠ [] := by
  cases cs with
  | nil => simp [splitAll]
  | cons c cs =>
      unfold splitAll
      split
      · simp
      · split <;> simp

theorem splitAll_cons_of_not {c : α} (hc : p c = false) (cs : List α) :
    ∃ piece pieces, splitAll p cs = piece :: pieces ∧
      splitAll p (c :: cs) = (c :: piece) :: pieces := by
  cases hcs : splitAll p cs with
  | nil => exact absurd hcs (splitAll_ne_nil cs)
  | cons piece pieces => exact ⟨piece, pieces, rfl, by simp [splitAll, hc, hcs]⟩

/-- A text cut in two at a separator has the pieces of both halves. -/
theorem splitAll_append_sep (hsep : p sep = true) (after : List α) :
    ∀ before, splitAll p (before ++ sep :: after) = splitAll p before ++ splitAll p after := by
  intro before
  induction before with
  | nil => simp [splitAll, hsep]
  | cons c before ih =>
      by_cases hc : p c = true
      · simp [splitAll, hc, ih]
      · rw [Bool.not_eq_true] at hc
        obtain ⟨piece, pieces, hpieces, hcons⟩ := splitAll_cons_of_not hc before
        obtain ⟨piece', pieces', hpieces', hcons'⟩ :=
          splitAll_cons_of_not hc (before ++ sep :: after)
        rw [hpieces', hpieces, List.cons_append, List.cons.injEq] at ih
        rw [List.cons_append, hcons', hcons, ih.1, ih.2, List.cons_append]

/-- No piece holds a separator, and every piece is part of the text. -/
theorem of_mem_splitAll :
    ∀ {cs piece : List α}, piece ∈ splitAll p cs → ∀ c ∈ piece, p c = false ∧ c ∈ cs := by
  intro cs
  induction cs with
  | nil =>
      intro piece hpiece c hc
      rw [splitAll, List.mem_singleton] at hpiece
      rw [hpiece] at hc
      cases hc
  | cons a cs ih =>
      intro piece hpiece c hc
      by_cases ha : p a = true
      · simp only [splitAll, ha, if_true, List.mem_cons] at hpiece
        rcases hpiece with rfl | hpiece
        · cases hc
        · exact ⟨(ih hpiece c hc).1, List.mem_cons_of_mem _ (ih hpiece c hc).2⟩
      · rw [Bool.not_eq_true] at ha
        obtain ⟨first, pieces, hpieces, hcons⟩ := splitAll_cons_of_not ha cs
        rw [hcons, List.mem_cons] at hpiece
        rw [hpieces] at ih
        rcases hpiece with rfl | hpiece
        · rcases List.mem_cons.1 hc with rfl | hc
          · exact ⟨ha, List.mem_cons_self⟩
          · have hfirst := ih List.mem_cons_self c hc
            exact ⟨hfirst.1, List.mem_cons_of_mem _ hfirst.2⟩
        · have hlater := ih (List.mem_cons_of_mem _ hpiece) c hc
          exact ⟨hlater.1, List.mem_cons_of_mem _ hlater.2⟩

theorem splitAll_of_no_sep : ∀ {cs : List α}, (∀ c ∈ cs, p c = false) → splitAll p cs = [cs] := by
  intro cs
  induction cs with
  | nil => intro _; rfl
  | cons c cs ih =>
      intro h
      simp [splitAll, h c List.mem_cons_self, ih fun a ha => h a (List.mem_cons_of_mem _ ha)]

/-- Pieces that are joined by a separator are found again. -/
theorem splitAll_intercalate (hsep : p sep = true) :
    ∀ (pieces : List (List α)), pieces ≠ [] → (∀ piece ∈ pieces, ∀ c ∈ piece, p c = false) →
      splitAll p ([sep].intercalate pieces) = pieces
  | [], hne, _ => absurd rfl hne
  | [piece], _, h => by
      rw [List.intercalate_singleton]
      exact splitAll_of_no_sep (h piece List.mem_cons_self)
  | piece :: next :: pieces, _, h => by
      rw [List.intercalate_cons_cons, List.append_assoc, List.singleton_append,
        splitAll_append_sep hsep, splitAll_of_no_sep (h piece List.mem_cons_self),
        splitAll_intercalate hsep (next :: pieces) (by simp)
          fun q hq => h q (List.mem_cons_of_mem _ hq)]
      rfl

/-- `piece` stands in `cs` between two separators; the ends of the text count as separators. -/
def Delimited (p : α → Bool) (piece cs : List α) : Prop :=
  ∃ before after, cs = before ++ piece ++ after ∧
    (∀ c ∈ before.getLast?, p c = true) ∧ (∀ c ∈ after.head?, p c = true)

theorem delimited_of_mem_splitAll {piece cs : List α} (h : piece ∈ splitAll p cs) :
    Delimited p piece cs := by
  -- on the length: the text behind the first separator is shorter
  induction hn : cs.length using Nat.strongRecOn generalizing cs with
  | _ n ih =>
      rcases forall_or_exists_first p cs with hnone | ⟨first, s, rest, rfl, hs, hfirst⟩
      · rw [splitAll_of_no_sep hnone, List.mem_singleton] at h
        exact ⟨[], [], by simp [h], by simp, by simp⟩
      · rw [splitAll_append_sep hs, splitAll_of_no_sep hfirst, List.singleton_append,
          List.mem_cons] at h
        rcases h with rfl | h
        · exact ⟨[], s :: rest, by simp, by simp, by simpa using hs⟩
        · obtain ⟨before, after, hrest, hbefore, hafter⟩ :=
            ih rest.length (by simp at hn; omega) h rfl
          refine ⟨first ++ s :: before, after, by rw [hrest]; simp, ?_, hafter⟩
          cases hlast : before.getLast? with
          | none =>
              rw [List.getLast?_eq_none_iff] at hlast
              simpa [hlast] using hs
          | some c => simpa [List.getLast?_append, List.getLast?_cons, hlast] using hbefore c hlast

theorem mem_splitAll_of_delimited {piece cs : List α} (hpiece : ∀ c ∈ piece, p c = false)
    (h : Delimited p piece cs) : piece ∈ splitAll p cs := by
  obtain ⟨before, after, rfl, hbefore, hafter⟩ := h
  have hright : piece ∈ splitAll p (piece ++ after) := by
    cases after with
    | nil => simp [splitAll_of_no_sep hpiece]
    | cons s after =>
        rw [splitAll_append_sep (hafter s rfl), splitAll_of_no_sep hpiece]
        simp
  rcases List.eq_nil_or_concat before with rfl | ⟨before, s, rfl⟩
  · simpa using hright
  · have hs : p s = true := hbefore s (by simp)
    rw [List.append_assoc, List.concat_eq_append, List.append_assoc, List.singleton_append,
      splitAll_append_sep hs]
    exact List.mem_append_right _ hright

/-- **The pieces of a text** are what stands between separators and has none inside. -/
theorem mem_splitAll_iff {piece cs : List α} :
    piece ∈ splitAll p cs ↔ (∀ c ∈ piece, p c = false) ∧ Delimited p piece cs :=
  ⟨fun h => ⟨fun c hc => (of_mem_splitAll h c hc).1, delimited_of_mem_splitAll h⟩,
    fun h => mem_splitAll_of_delimited h.1 h.2⟩

theorem contains_iff_infix [BEq α] [LawfulBEq α] {part : List α} :
    ∀ {cs : List α}, contains part cs = true ↔ part <:+: cs := by
  intro cs
  induction cs with
  | nil => simp [contains]
  | cons c cs ih =>
      rw [contains, Bool.or_eq_true, List.isPrefixOf_iff_prefix, ih, List.infix_cons_iff]

/-- Between separators of one kind: the whole text, its beginning, its middle or its end. -/
theorem delimited_singleton_iff [BEq α] [LawfulBEq α] {piece cs : List α} :
    Delimited (· == sep) piece cs ↔
      cs = piece ∨ piece ++ [sep] <+: cs ∨ sep :: (piece ++ [sep]) <:+: cs ∨
        sep :: piece <:+ cs := by
  constructor
  · rintro ⟨before, after, rfl, hbefore, hafter⟩
    rcases List.eq_nil_or_concat before with rfl | ⟨before, s, rfl⟩
    · cases after with
      | nil => exact .inl (by simp)
      | cons s after =>
          obtain rfl : s = sep := by simpa using hafter s rfl
          exact .inr (.inl ⟨after, by simp⟩)
    · obtain rfl : s = sep := by simpa using hbefore s (by simp)
      cases after with
      | nil => exact .inr (.inr (.inr ⟨before, by simp⟩))
      | cons t after =>
          obtain rfl : t = s := by simpa using hafter t rfl
          exact .inr (.inr (.inl ⟨before, after, by simp⟩))
  · rintro (rfl | ⟨after, rfl⟩ | ⟨before, after, rfl⟩ | ⟨before, rfl⟩)
    · exact ⟨[], [], by simp, by simp, by simp⟩
    · exact ⟨[], sep :: after, by simp, by simp, by simp⟩
    · exact ⟨before ++ [sep], sep :: after, by simp, by simp, by simp⟩
    · exact ⟨before ++ [sep], [], by simp, by simp, by simp⟩

end CodeSurvey.Text
