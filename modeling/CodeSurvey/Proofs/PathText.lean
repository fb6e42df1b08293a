/-
  Paths and the texts that write them.

  An absolute path is read back from its text (`ofText_render_pathOf`), and a text climbs exactly
  where a double dot stands between two slashes or between two backslashes (`climbs_iff`): the
  checks on neighbouring characters say no more than the pieces do.
-/
import CodeSurvey.Files.Guard
import CodeSurvey.Proofs.Pieces

namespace CodeSurvey

/-! ## §1. Paths. -/

namespace Files

/-- A name that a directory can hold: not empty, no dot, and free of slashes. -/
def IsName (part : String) : Prop := part ≠ "" ∧ part ≠ "." ∧ '/' ∉ part.toList

instance : DecidablePred IsName := fun part =>
  inferInstanceAs (Decidable (part ≠ "" ∧ part ≠ "." ∧ '/' ∉ part.toList))

namespace Path

/-- The parts of a path that a text writes are names made of its characters. -/
theorem of_mem_parts_ofText {text part : String} (h : part ∈ (ofText text).parts) :
    IsName part ∧ ∀ c ∈ part.toList, c ∈ text.toList := by
  simp only [ofText, List.mem_filter, List.mem_map, Bool.and_eq_true, bne_iff_ne] at h
  obtain ⟨⟨piece, hpiece, rfl⟩, hempty, hdot⟩ := h
  have hchars := Text.of_mem_splitAll hpiece
  refine ⟨⟨hempty, hdot, fun hslash => ?_⟩, fun c hc => ?_⟩
  · rw [String.toList_ofList] at hslash
    have hno := (hchars '/' hslash).1
    simp at hno
  · rw [String.toList_ofList] at hc
    exact (hchars c hc).2

theorem toList_render_pathOf (parts : List String) :
    (Disk.pathOf parts).render.toList = '/' :: ['/'].intercalate (parts.map String.toList) := by
  show ("/" ++ "/".intercalate parts).toList = _
  rw [String.toList_append, String.toList_intercalate]
  rfl

/-- The text of an absolute path has only slashes and the characters of its parts. -/
theorem of_mem_render_pathOf {c : Char} {parts : List String}
    (h : c ∈ (Disk.pathOf parts).render.toList) : c = '/' ∨ ∃ part ∈ parts, c ∈ part.toList := by
  rw [toList_render_pathOf, List.mem_cons] at h
  rcases h with h | h
  · exact .inl h
  · induction parts with
    | nil => simp at h
    | cons part parts ih =>
        cases parts with
        | nil => exact .inr ⟨part, by simp, by simpa using h⟩
        | cons next parts =>
            rw [List.map_cons, List.map_cons, List.intercalate_cons_cons, List.append_assoc,
              List.mem_append, List.singleton_append, List.mem_cons] at h
            rcases h with h | h | h
            · exact .inr ⟨part, by simp, h⟩
            · exact .inl h
            · rcases ih h with hslash | ⟨other, hother, hc⟩
              · exact .inl hslash
              · exact .inr ⟨other, List.mem_cons_of_mem _ hother, hc⟩

/-- **An absolute path is read back from its text.**  The path of the top alone is written so that
only a directory can be meant. -/
theorem ofText_render_pathOf {parts : List String} (h : ∀ part ∈ parts, IsName part) :
    ofText (Disk.pathOf parts).render
      = { absolute := true, parts := parts, directory := parts.isEmpty } := by
  have hpieces : (Text.splitAll (· == '/') (Disk.pathOf parts).render.toList).map String.ofList
      = "" :: (if parts.isEmpty then [""] else parts) := by
    rw [toList_render_pathOf]
    show String.ofList [] :: (Text.splitAll (· == '/') _).map String.ofList = _
    cases parts with
    | nil => rfl
    | cons part parts =>
        rw [Text.splitAll_intercalate (by rfl) _ (by simp)]
        · simp
        · intro piece hpiece c hc
          obtain ⟨name, hname, rfl⟩ := List.mem_map.1 hpiece
          have hslash := (h name hname).2.2
          simp only [beq_eq_false_iff_ne]
          rintro rfl
          exact hslash hc
  have hkept : ∀ part ∈ parts, (part != "" && part != ".") = true := by
    intro part hpart
    simp [(h part hpart).1, (h part hpart).2.1]
  have htext : (Disk.pathOf parts).render.isEmpty = false := by
    rw [String.isEmpty_eq_false_iff]
    intro hempty
    have hlist := toList_render_pathOf parts
    rw [hempty] at hlist
    simp at hlist
  simp only [ofText, hpieces, htext, Path.mk.injEq]
  refine ⟨by rw [toList_render_pathOf]; rfl, ?_, ?_⟩
  · cases parts with
    | nil => rfl
    | cons part parts => simpa using hkept
  · cases parts with
    | nil => rfl
    | cons part parts =>
        have hlast := h ((part :: parts).getLast (by simp)) (List.getLast_mem _)
        simp [List.getLast?_eq_some_getLast, hlast.1, hlast.2.1]

end Path

/-! ## §2. Climbing. -/

namespace Guard

theorem eq_dot_of_mem_dots {c : Char} (h : c ∈ "..".toList) : c = '.' := by simpa using h

/-- The double dot is a part of a path exactly if it is a piece between slashes. -/
theorem dots_mem_parts_iff {text : String} :
    ".." ∈ (Path.ofText text).parts ↔ "..".toList ∈ Text.splitAll (· == '/') text.toList := by
  simp only [Path.ofText, List.mem_filter, List.mem_map]
  constructor
  · rintro ⟨⟨piece, hpiece, hdots⟩, -⟩
    rw [← hdots, String.toList_ofList]
    exact hpiece
  · intro hpiece
    exact ⟨⟨_, hpiece, String.ofList_toList⟩, by decide⟩

/-- **What climbs** is a double dot between slashes, or one between backslashes. -/
theorem climbs_iff {text : String} :
    climbs text = true ↔ "..".toList ∈ Text.splitAll (· == '/') text.toList ∨
      "..".toList ∈ Text.splitAll (· == '\\') text.toList := by
  have hpieces : ∀ sep : Char, sep ≠ '.' →
      ("..".toList ∈ Text.splitAll (· == sep) text.toList ↔
        text.toList = "..".toList ∨ "..".toList ++ [sep] <+: text.toList ∨
          sep :: ("..".toList ++ [sep]) <:+: text.toList ∨ sep :: "..".toList <:+ text.toList) := by
    intro sep hsep
    rw [Text.mem_splitAll_iff, Text.delimited_singleton_iff, and_iff_right]
    intro c hc
    obtain rfl := eq_dot_of_mem_dots hc
    simpa using Ne.symm hsep
  -- the checks on neighbouring characters are these, once for each separator; the check on the
  -- parts repeats the first four
  have hslash := hpieces '/' (by decide)
  have hback := hpieces '\\' (by decide)
  have hwhole : text = ".." ↔ text.toList = "..".toList := String.toList_inj.symm
  simp only [climbs, Bool.or_eq_true, beq_iff_eq, List.isPrefixOf_iff_prefix, or_assoc,
    List.isSuffixOf_iff_suffix, Text.contains_iff_infix, List.contains_iff_mem, dots_mem_parts_iff]
  constructor
  · rintro (h | h | h | h | h | h | h | h)
    · exact .inl (hslash.2 (.inl (hwhole.1 h)))
    · exact .inl (hslash.2 (.inr (.inl h)))
    · exact .inr (hback.2 (.inr (.inl h)))
    · exact .inl (hslash.2 (.inr (.inr (.inl h))))
    · exact .inr (hback.2 (.inr (.inr (.inl h))))
    · exact .inl (hslash.2 (.inr (.inr (.inr h))))
    · exact .inr (hback.2 (.inr (.inr (.inr h))))
    · exact .inl h
  · rintro (h | h)
    · iterate 7 right
      exact h
    · rcases hback.1 h with h | h | h | h
      · exact .inl (hwhole.2 h)
      · iterate 2 right
        exact .inl h
      · iterate 4 right
        exact .inl h
      · iterate 6 right
        exact .inl h

/-- Without a backslash, only a double dot between slashes climbs. -/
theorem mem_parts_of_climbs {text : String} (h : climbs text = true)
    (hback : '\\' ∉ text.toList) : ".." ∈ (Path.ofText text).parts := by
  rw [dots_mem_parts_iff]
  rcases climbs_iff.1 h with h | h
  · exact h
  · rw [Text.splitAll_of_no_sep fun c hc => by
      simp only [beq_eq_false_iff_ne]
      rintro rfl
      exact hback hc, List.mem_singleton] at h
    rw [← h]
    decide

end Guard

end Files

end CodeSurvey
