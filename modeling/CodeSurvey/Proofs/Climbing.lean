/-
  Double dots and the separators around them.

  The segments of a text are what stands between its slashes and backslashes, in any mixture.  The
  guard asks for a double dot between two slashes, or between two backslashes; one that has a slash
  on one side and a backslash on the other is a segment as well, and the guard does not see it
  (`dots_mem_segments_iff`).

  Main result, `refused_everywhere_iff`: a text with a double dot among its segments is refused with
  every root and without one EXACTLY when the dots have one kind of separator on both sides (or the
  text holds a NUL); and a text without such a segment is never refused as climbing.
  `mixed_dots_pass` is a text that climbs and is let through.
-/
import CodeSurvey.Proofs.PathText
import Mathlib.Data.List.Induction

namespace CodeSurvey.Files.Guard

/-! ## §1. Segments. -/

/-- Slashes and backslashes. -/
def isSeparator (c : Char) : Bool := c == '/' || c == '\\'

/-- What stands between the slashes and backslashes of a text. -/
def segments (text : String) : List String :=
  (Text.splitAll isSeparator text.toList).map String.ofList

/-- A double dot is a segment between slashes alone or between backslashes alone. -/
def DotsAlike (text : String) : Prop :=
  "..".toList ∈ Text.splitAll (· == '/') text.toList ∨
    "..".toList ∈ Text.splitAll (· == '\\') text.toList

/-- A double dot has a slash on one side and a backslash on the other. -/
def DotsMixed (text : String) : Prop :=
  "/..\\".toList <:+: text.toList ∨ "\\../".toList <:+: text.toList

theorem climbs_iff_dotsAlike {text : String} : climbs text = true ↔ DotsAlike text := climbs_iff

theorem dots_mem_segments {text : String} :
    ".." ∈ segments text ↔ Text.Delimited isSeparator "..".toList text.toList := by
  have hdots : ∀ c ∈ "..".toList, isSeparator c = false := by
    intro c hc
    rw [eq_dot_of_mem_dots hc]
    rfl
  unfold segments
  rw [List.mem_map]
  constructor
  · rintro ⟨piece, hpiece, heq⟩
    rw [← heq, String.toList_ofList]
    exact Text.delimited_of_mem_splitAll hpiece
  · intro h
    exact ⟨_, Text.mem_splitAll_of_delimited hdots h, String.ofList_toList⟩

theorem dotsAlike_iff {text : String} :
    DotsAlike text ↔ Text.Delimited (· == '/') "..".toList text.toList ∨
      Text.Delimited (· == '\\') "..".toList text.toList := by
  have hslash : ∀ c ∈ "..".toList, (c == '/') = false := by
    intro c hc
    rw [eq_dot_of_mem_dots hc]
    rfl
  have hback : ∀ c ∈ "..".toList, (c == '\\') = false := by
    intro c hc
    rw [eq_dot_of_mem_dots hc]
    rfl
  unfold DotsAlike
  rw [Text.mem_splitAll_iff, Text.mem_splitAll_iff, and_iff_right hslash, and_iff_right hback]

/-- **Where a double dot is a segment**, its separators are of one kind or of both. -/
theorem dots_mem_segments_iff {text : String} :
    ".." ∈ segments text ↔ DotsAlike text ∨ DotsMixed text := by
  rw [dots_mem_segments, dotsAlike_iff]
  constructor
  · rintro ⟨before, after, htext, hbefore, hafter⟩
    -- what stands on the left and on the right of the dots: nothing, a slash or a backslash
    rcases List.eq_nil_or_concat before with rfl | ⟨before, s, rfl⟩
    · cases after with
      | nil => exact .inl (.inl ⟨[], [], htext, by simp, by simp⟩)
      | cons t after =>
          have ht := hafter t rfl
          rw [isSeparator, Bool.or_eq_true] at ht
          rcases ht with ht | ht
          · exact .inl (.inl ⟨[], t :: after, htext, by simp, by simpa using ht⟩)
          · exact .inl (.inr ⟨[], t :: after, htext, by simp, by simpa using ht⟩)
    · have hs := hbefore s (by simp)
      rw [isSeparator, Bool.or_eq_true] at hs
      cases after with
      | nil =>
          rcases hs with hs | hs
          · exact .inl (.inl ⟨_, [], htext, by simpa using hs, by simp⟩)
          · exact .inl (.inr ⟨_, [], htext, by simpa using hs, by simp⟩)
      | cons t after =>
          have ht := hafter t rfl
          rw [isSeparator, Bool.or_eq_true] at ht
          rcases hs with hs | hs <;> rcases ht with ht | ht
          · exact .inl (.inl ⟨_, _, htext, by simpa using hs, by simpa using ht⟩)
          · rw [beq_iff_eq] at hs ht
            exact .inr (.inl ⟨before, after, by rw [htext, hs, ht]; simp⟩)
          · rw [beq_iff_eq] at hs ht
            exact .inr (.inr ⟨before, after, by rw [htext, hs, ht]; simp⟩)
          · exact .inl (.inr ⟨_, _, htext, by simpa using hs, by simpa using ht⟩)
  · rintro ((h | h) | ⟨before, after, htext⟩ | ⟨before, after, htext⟩)
    · obtain ⟨before, after, htext, hbefore, hafter⟩ := h
      exact ⟨before, after, htext, fun c hc => by simp [isSeparator, hbefore c hc],
        fun c hc => by simp [isSeparator, hafter c hc]⟩
    · obtain ⟨before, after, htext, hbefore, hafter⟩ := h
      exact ⟨before, after, htext, fun c hc => by simp [isSeparator, hbefore c hc],
        fun c hc => by simp [isSeparator, hafter c hc]⟩
    · exact ⟨before ++ ['/'], '\\' :: after, by rw [← htext]; simp, by simp [isSeparator],
        by simp [isSeparator]⟩
    · exact ⟨before ++ ['\\'], '/' :: after, by rw [← htext]; simp, by simp [isSeparator],
        by simp [isSeparator]⟩

/-! ## §2. What the guard refuses. -/

/-- A text that is neither blank nor climbing and holds no NUL is refused only for its place. -/
theorem check_of_plain {text : String} (hblank : Text.allBlank text.toList = false)
    (hnul : '\x00' ∉ text.toList) (hclimbs : climbs text = false) (g : Guard) (d : Disk) :
    g.check d text =
      match g.root with
      | none => .ok (Path.ofText text).collapse
      | some root =>
        if (resolve d (root.join (Path.ofText text))).isBelow root then
          .ok (resolve d (root.join (Path.ofText text)))
        else .error (.invalidPath text ("resolves outside project root " ++ root.render)) := by
  cases hroot : g.root with
  | none => simp [check, hblank, hnul, hclimbs, hroot]
  | some root => simp [check, hblank, hnul, hclimbs, hroot]

/-- Only dots between separators of one kind are refused as climbing. -/
theorem dotsAlike_of_check {g : Guard} {d : Disk} {text path : String}
    (h : g.check d text = .error (.invalidPath path "parent directory traversal")) :
    DotsAlike text := by
  rw [← climbs_iff_dotsAlike]
  by_contra hclimbs
  rw [Bool.not_eq_true] at hclimbs
  by_cases hblank : Text.allBlank text.toList = true
  · rw [check, if_pos hblank] at h
    simp at h
  by_cases hnul : '\x00' ∈ text.toList
  · rw [check, if_neg hblank, if_pos (by simpa using hnul)] at h
    simp at h
  rw [check_of_plain (by simpa using hblank) hnul hclimbs] at h
  cases hroot : g.root with
  | none => simp [hroot] at h
  | some root =>
      simp only [hroot] at h
      split at h
      · cases h
      · -- the two reasons begin with different letters
        have hreason := congrArg String.toList (Failure.invalidPath.inj (Except.error.inj h)).2
        simp [String.toList_append] at hreason

/-- **Refused everywhere.**  Whatever the root and the disk, a text is refused exactly if it is
blank, holds a NUL, or has a double dot between separators of one kind.  A double dot is a segment
of a text also between separators of two kinds; and a text without such a segment is never refused
as climbing. -/
theorem refused_everywhere_iff (text : String) :
    ((∀ (g : Guard) (d : Disk), ∃ reason, g.check d text = .error (.invalidPath text reason)) ↔
        Text.allBlank text.toList = true ∨ '\x00' ∈ text.toList ∨ DotsAlike text) ∧
      (".." ∈ segments text ↔ DotsAlike text ∨ DotsMixed text) ∧
      (".." ∉ segments text → ∀ (g : Guard) (d : Disk) (path : String),
        g.check d text ≠ .error (.invalidPath path "parent directory traversal")) := by
  refine ⟨⟨fun h => ?_, fun h g d => ?_⟩, dots_mem_segments_iff, fun hsegments g d path h => ?_⟩
  · by_contra hplain
    rw [not_or, not_or, Bool.not_eq_true, ← climbs_iff_dotsAlike, Bool.not_eq_true] at hplain
    -- without a root there is no place to be refused for
    obtain ⟨reason, hreason⟩ := h ⟨none⟩ {}
    rw [check_of_plain hplain.1 hplain.2.1 hplain.2.2] at hreason
    cases hreason
  · by_cases hblank : Text.allBlank text.toList = true
    · exact ⟨_, by rw [check, if_pos hblank]⟩
    by_cases hnul : '\x00' ∈ text.toList
    · exact ⟨_, by rw [check, if_neg hblank, if_pos (by simpa using hnul)]⟩
    have hclimbs : climbs text = true := by
      rw [climbs_iff_dotsAlike]
      exact (h.resolve_left hblank).resolve_left hnul
    exact ⟨_, by rw [check, if_neg hblank, if_neg (by simpa using hnul), if_pos hclimbs]⟩
  · exact hsegments (dots_mem_segments_iff.2 (.inl (dotsAlike_of_check h)))

/-- **A text that climbs and is let through**: its dots have a slash before and a backslash behind
them. -/
theorem mixed_dots_pass :
    ".." ∈ segments "a/..\\b" ∧
      (⟨none⟩ : Guard).check {} "a/..\\b" = .ok { absolute := false, parts := ["a", "..\\b"] } := by
  decide +kernel

end CodeSurvey.Files.Guard
