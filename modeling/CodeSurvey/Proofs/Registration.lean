/-
  Registered plugins and the index of their extensions.

  Registering a plugin sets two maps: the plugin of its language, and the language of each extension
  that it claims.  Both tell of the LAST registration that matters (`find?_registerAll`,
  `languageOfExtension_registerAll`), but not of the same one: a plugin is forgotten when its
  language is registered again, while its extensions stay until somebody else claims them.

  Main result, `index_sound_iff`: a language that the index names always has a plugin; that plugin
  handles the extension EXACTLY when the language has not been registered again since the extension
  was claimed, and the extension was claimed in lower case.  `stale_extension` is a language that
  was registered again.
-/
import CodeSurvey.Extract.Plugin
import CodeSurvey.Proofs.NameMap
import CodeSurvey.Proofs.Spelling

namespace CodeSurvey

/-! ## §1. The last that counts. -/

/-- A look-up after a fold whose steps set it or pass it by: the last step that sets it decides. -/
theorem lookup_foldl_eq_some_iff {σ ρ β : Type} (step : σ → ρ → σ) (look : σ → Option β)
    (sets : ρ → Prop) (value : ρ → β) (hset : ∀ s r, sets r → look (step s r) = some (value r))
    (hpass : ∀ s r, ¬ sets r → look (step s r) = look s) {b : β} :
    ∀ {rs : List ρ} {s : σ}, look (rs.foldl step s) = some b ↔
      (∃ before r after, rs = before ++ r :: after ∧ sets r ∧ value r = b ∧
        ∀ r' ∈ after, ¬ sets r') ∨
      (look s = some b ∧ ∀ r ∈ rs, ¬ sets r) := by
  intro rs
  induction rs with
  | nil => simp
  | cons r rs ih =>
      intro s
      rw [List.foldl_cons, ih]
      constructor
      · rintro (⟨before, r', after, rfl, hr', hvalue, hafter⟩ | ⟨hlook, hrs⟩)
        · exact .inl ⟨r :: before, r', after, rfl, hr', hvalue, hafter⟩
        · by_cases hr : sets r
          · rw [hset s r hr] at hlook
            exact .inl ⟨[], r, rs, rfl, hr, Option.some.inj hlook, hrs⟩
          · rw [hpass s r hr] at hlook
            exact .inr ⟨hlook, List.forall_mem_cons.2 ⟨hr, hrs⟩⟩
      · rintro (⟨before, r', after, hsplit, hr', hvalue, hafter⟩ | ⟨hlook, hrs⟩)
        · rcases List.cons_eq_append_iff.1 hsplit with ⟨rfl, hcons⟩ | ⟨before', rfl, hrs⟩
          · obtain ⟨rfl, rfl⟩ := List.cons.inj hcons
            exact .inr ⟨by rw [hset s r' hr', hvalue], hafter⟩
          · exact .inl ⟨before', r', after, hrs, hr', hvalue, hafter⟩
        · obtain ⟨hr, hrs⟩ := List.forall_mem_cons.1 hrs
          exact .inr ⟨by rw [hpass s r hr, hlook], hrs⟩

namespace Extract

open Syntax

/-! ## §2. One registration. -/

/-- Registering the plugin gives the extension to its language. -/
def Plugin.Claims (p : Plugin) (ext : String) : Prop :=
  normalExtension ext ∈ p.extensions.map Text.lowercase

theorem Plugin.claims_of_handles {p : Plugin} {ext : String} (h : p.handles ext = true) :
    p.Claims ext := by
  have hmem : normalExtension ext ∈ p.extensions := by simpa [handles] using h
  have hlower : Text.lowercase (normalExtension ext) = normalExtension ext := by
    rw [normalExtension, Text.lowercase, String.toList_ofList, Text.lower_lower]
  exact List.mem_map.2 ⟨_, hmem, hlower⟩

namespace Plugins

variable {ps : Plugins} {p : Plugin} {language : String}

theorem find?_register (ps : Plugins) (language : String) (p : Plugin) (language' : String) :
    (ps.register language p).find? language' =
      if Text.normalized language' = Text.normalized language then some p
      else ps.find? language' :=
  NameMap.find?_insert _ _

theorem find?_foldl_insert (language name : String) :
    ∀ (extensions : List String) (index : NameMap String),
      NameMap.find? (extensions.foldl
          (fun index ext => NameMap.insert index (Text.lowercase ext) language) index) name =
        if name ∈ extensions.map Text.lowercase then some language else index.find? name := by
  intro extensions
  induction extensions with
  | nil => exact fun index => (if_neg List.not_mem_nil).symm
  | cons ext extensions ih =>
      intro index
      rw [List.foldl_cons, ih, NameMap.find?_insert, List.map_cons]
      by_cases hrest : name ∈ extensions.map Text.lowercase
      · rw [if_pos hrest, if_pos (List.mem_cons_of_mem _ hrest)]
      · rw [if_neg hrest]
        by_cases hfirst : name = Text.lowercase ext
        · rw [if_pos hfirst, if_pos (List.mem_cons.2 (.inl hfirst))]
        · rw [if_neg hfirst, if_neg fun hmem => (List.mem_cons.1 hmem).elim hfirst hrest]

theorem languageOfExtension_register_of_claims {ext : String} (h : p.Claims ext) :
    (ps.register language p).languageOfExtension ext = some (Text.normalized language) := by
  unfold languageOfExtension register
  rw [find?_foldl_insert]
  exact if_pos h

theorem languageOfExtension_register_of_not_claims {ext : String} (h : ¬ p.Claims ext) :
    (ps.register language p).languageOfExtension ext = ps.languageOfExtension ext := by
  unfold languageOfExtension register
  rw [find?_foldl_insert]
  exact if_neg h

/-! ## §3. Registrations one after the other. -/

/-- The name of a language, and the plugin for it. -/
abbrev Registration := String × Plugin

/-- The plugins after one more registration. -/
def registerNext (ps : Plugins) (r : Registration) : Plugins := ps.register r.1 r.2

/-- The plugins after some registrations. -/
def registerAll (ps : Plugins) (rs : List Registration) : Plugins := rs.foldl registerNext ps

/-- The plugin of a language is that of the last registration under its name. -/
theorem find?_registerAll {rs : List Registration} :
    (ps.registerAll rs).find? language = some p ↔
      (∃ before name after, rs = before ++ (name, p) :: after ∧
        Text.normalized name = Text.normalized language ∧
        ∀ r ∈ after, Text.normalized r.1 ≠ Text.normalized language) ∨
      (ps.find? language = some p ∧
        ∀ r ∈ rs, Text.normalized r.1 ≠ Text.normalized language) := by
  rw [registerAll, lookup_foldl_eq_some_iff registerNext (fun ps => ps.find? language)
    (fun r => Text.normalized r.1 = Text.normalized language) Prod.snd
    (fun s r hr => (find?_register s r.1 r.2 language).trans (if_pos hr.symm))
    (fun s r hr => (find?_register s r.1 r.2 language).trans (if_neg (Ne.symm hr)))]
  constructor
  · rintro (⟨before, ⟨name, p'⟩, after, hsplit, hname, rfl, hafter⟩ | hearlier)
    · exact .inl ⟨before, name, after, hsplit, hname, hafter⟩
    · exact .inr hearlier
  · rintro (⟨before, name, after, hsplit, hname, hafter⟩ | hearlier)
    · exact .inl ⟨before, (name, p), after, hsplit, hname, rfl, hafter⟩
    · exact .inr hearlier

/-- The language of an extension is that of the last registration that claims it. -/
theorem languageOfExtension_registerAll {rs : List Registration} {ext : String} :
    (ps.registerAll rs).languageOfExtension ext = some language ↔
      (∃ before name p after, rs = before ++ (name, p) :: after ∧ p.Claims ext ∧
        Text.normalized name = language ∧ ∀ r ∈ after, ¬ r.2.Claims ext) ∨
      (ps.languageOfExtension ext = some language ∧ ∀ r ∈ rs, ¬ r.2.Claims ext) := by
  rw [registerAll, lookup_foldl_eq_some_iff registerNext (fun ps => ps.languageOfExtension ext)
    (fun r => r.2.Claims ext) (fun r => Text.normalized r.1)
    (fun s r hr => languageOfExtension_register_of_claims hr)
    (fun s r hr => languageOfExtension_register_of_not_claims hr)]
  constructor
  · rintro (⟨before, ⟨name, p⟩, after, hsplit⟩ | hearlier)
    · exact .inl ⟨before, name, p, after, hsplit⟩
    · exact .inr hearlier
  · rintro (⟨before, name, p, after, hsplit⟩ | hearlier)
    · exact .inl ⟨before, (name, p), after, hsplit⟩
    · exact .inr hearlier

theorem find?_normalized (ps : Plugins) (language : String) :
    ps.find? (Text.normalized language) = ps.find? language := by
  rw [find?, Text.normalized_normalized, find?]

/-! ## §4. The index. -/

/-- A language that is registered has a plugin then, and it is one of those registered. -/
theorem exists_find?_registerAll :
    ∀ {rs : List Registration} (ps : Plugins),
      (∃ r ∈ rs, Text.normalized r.1 = Text.normalized language) →
      ∃ r ∈ rs, (ps.registerAll rs).find? language = some r.2 := by
  intro rs
  induction rs with
  | nil => rintro ps ⟨r, hr, -⟩; cases hr
  | cons first rs ih =>
      rintro ps ⟨r, hr, hname⟩
      by_cases hlater : ∃ r ∈ rs, Text.normalized r.1 = Text.normalized language
      · obtain ⟨r', hr', hfound⟩ := ih (ps.registerNext first) hlater
        exact ⟨r', List.mem_cons_of_mem _ hr', hfound⟩
      · have hrs : ∀ r ∈ rs, Text.normalized r.1 ≠ Text.normalized language := by
          intro r' hr' hname'
          exact hlater ⟨r', hr', hname'⟩
        obtain rfl : r = first := (List.mem_cons.1 hr).resolve_right fun hr => hrs r hr hname
        exact ⟨r, List.mem_cons_self,
          find?_registerAll.2 (.inl ⟨[], r.1, rs, rfl, hname, hrs⟩)⟩

/-- **When the index is sound.**  A language that the index has for an extension has a plugin.  The
extension was given to the language by the last registration that claims it, and the plugin handles
the extension exactly if that registration named it in lower case and no later one was for the same
language. -/
theorem index_sound_iff {rs : List Registration} {ext : String}
    (hindex : (empty.registerAll rs).languageOfExtension ext = some language) :
    ∃ before name p after, rs = before ++ (name, p) :: after ∧
      Text.normalized name = language ∧ p.Claims ext ∧ (∀ r ∈ after, ¬ r.2.Claims ext) ∧
      ∃ q, (empty.registerAll rs).find? language = some q ∧
        (q.handles ext = true ↔
          p.handles ext = true ∧ ∀ r ∈ after, Text.normalized r.1 ≠ language) := by
  obtain ⟨before, name, p, after, rfl, hclaims, rfl, hafter⟩ :=
    (languageOfExtension_registerAll.1 hindex).resolve_right (by rintro ⟨⟨⟩, -⟩)
  refine ⟨before, name, p, after, rfl, rfl, hclaims, hafter, ?_⟩
  rw [find?_normalized]
  by_cases hagain : ∃ r ∈ after, Text.normalized r.1 = Text.normalized name
  · -- a later plugin of the language claims nothing of the kind, and so does not handle it
    obtain ⟨r, hr, hfound⟩ :=
      exists_find?_registerAll ((empty.registerAll before).registerNext (name, p)) hagain
    refine ⟨r.2, ?_, iff_of_false ?_ ?_⟩
    · rw [registerAll, List.foldl_append, List.foldl_cons]
      exact hfound
    · exact fun hhandles => hafter r hr (Plugin.claims_of_handles hhandles)
    · rintro ⟨-, hnever⟩
      obtain ⟨r', hr', hname⟩ := hagain
      exact hnever r' hr' hname
  · have hnever : ∀ r ∈ after, Text.normalized r.1 ≠ Text.normalized name := by
      intro r hr hname
      exact hagain ⟨r, hr, hname⟩
    exact ⟨p, find?_registerAll.2 (.inl ⟨before, name, after, rfl, rfl, hnever⟩),
      (and_iff_left hnever).symm⟩

-- The plugins at hand have been registered in this way too.
example : builtin = empty.registerAll ([Plugin.python, Plugin.java, Plugin.javascript,
    Plugin.typescript, Plugin.tsx, Plugin.go, Plugin.rust].map fun p => (p.language, p)) := rfl

/-- Two plugins claim one extension, and the language of the first is registered again. -/
def contested : List Registration :=
  [("One", { language := "one", extensions := ["x", "y"] }),
    (" TWO ", { language := "two", extensions := ["x"] }),
    ("one", { language := "one", extensions := ["y"] })]

theorem contested_sound :
    (empty.registerAll contested).languageOfExtension ".X" = some "two" ∧
      ∃ before name p after, contested = before ++ (name, p) :: after ∧
        Text.normalized name = "two" ∧ p.Claims ".X" ∧ (∀ r ∈ after, ¬ r.2.Claims ".X") ∧
        ∃ q, (empty.registerAll contested).find? "two" = some q ∧
          (q.handles ".X" = true ↔
            p.handles ".X" = true ∧ ∀ r ∈ after, Text.normalized r.1 ≠ "two") := by
  have hindex : (empty.registerAll contested).languageOfExtension ".X" = some "two" := by
    decide +kernel
  exact ⟨hindex, index_sound_iff hindex⟩

/-- **A stale extension.**  A language is registered again with another extension; the index still
gives it the old one, which its plugin does not handle. -/
theorem stale_extension :
    let ps := empty.registerAll
      [("mock", { language := "mock", extensions := ["mk"] }),
        ("mock", { language := "mock", extensions := ["mock"] })]
    ps.languageOfExtension "mk" = some "mock" ∧
      (ps.find? "mock").map (fun p => p.handles "mk") = some false := by
  decide +kernel

end Plugins

end Extract

end CodeSurvey
