/-
  Languages for file extensions.

  Settings are read as a map from extensions to languages, each key as it is written.  The keys are
  then brought into their normal spelling, in whatever order the map hands its entries out, and the
  entries are put into a new map one after the other:

      a map that is read has each key once                                (`sorted_of_readParts`)
      a look-up finds the entry in that spelling that came last           (`find?_drained`)
      so each of the entries in one spelling can be the one that counts   (`exists_order_last`)

  Main result, `extension_order_iff`: the order does not matter, and every key has the language that
  is written for it, exactly if keys in one spelling have one language (`Agreeing`).
-/
import CodeSurvey.Proofs.NameMap
import CodeSurvey.Settings

namespace CodeSurvey

/-! ## §1. Mappings that are read. -/

namespace Yaml

theorem exists_of_map_ok {ε α β : Type} {x : Except ε α} {f : α → β} {b : β}
    (h : x.map f = .ok b) : ∃ a, x = .ok a ∧ f a = b := by
  cases x with
  | error e => cases h
  | ok a => exact ⟨a, rfl, Except.ok.inj h⟩

variable {α σ : Type} {d : Document} {route : Route} {pos next : Nat}

/-- What is decoded at an event, or at the one that an alias leads to. -/
theorem exists_of_decodeItem {body : Item → Nat → Except DecodeError (α × Nat)} {a : α}
    (h : decodeItem body d route pos = .ok (a, next)) :
    ∃ item place behind, body item place = .ok (a, behind) := by
  unfold decodeItem at h
  split at h
  · cases h
  · dsimp only at h
    split at h
    · cases h
    · split at h
      · cases h
      · rename_i hbody
        cases h
        exact ⟨_, _, _, hbody⟩
  · split at h
    · cases h
    · rename_i hbody
      cases h
      exact ⟨_, _, _, hbody⟩

section Mapping

variable {keyName expected : String} {entry : σ → String → Decoder σ} {P : σ → Prop}

/-- What each entry of a mapping keeps true is true at its end. -/
theorem decodeEntries_keeps
    (hentry : ∀ {acc acc' key d route pos next}, P acc →
      entry acc key d route pos = .ok (acc', next) → P acc') :
    ∀ {fuel pos : Nat} {acc acc' : σ}, P acc →
      decodeEntries keyName entry d route fuel acc pos = .ok (acc', next) → P acc' := by
  intro fuel
  induction fuel with
  | zero =>
      intro pos acc acc' _ h
      cases h
  | succ fuel ih =>
      intro pos acc acc' hacc h
      unfold decodeEntries at h
      split at h
      · cases h
      · cases h
        exact hacc
      · split at h
        · cases h
        · split at h
          · cases h
          · rename_i hdecoded
            exact ih (hentry hacc hdecoded) h

/-- **A mapping** has what its entries keep true. -/
theorem decodeMapping_keeps
    (hentry : ∀ {acc acc' key d route pos next}, P acc →
      entry acc key d route pos = .ok (acc', next) → P acc') {init acc : σ} (hinit : P init)
    (h : decodeMapping expected keyName init entry d route pos = .ok (acc, next)) : P acc := by
  obtain ⟨item, place, behind, hbody⟩ := exists_of_decodeItem h
  split at hbody
  · exact decodeEntries_keeps hentry hinit hbody
  · split at hbody
    · cases hbody
      exact hinit
    · cases hbody

theorem exists_of_decode {value : Decoder α} {text : String} {a : α}
    (h : decode value text = .ok a) : ∃ next, value (load text).1 .root 0 = .ok (a, next) := by
  unfold decode at h
  dsimp only at h
  split at h
  · cases h
  · rename_i decoded next hvalue
    split at h
    · cases h
    · split at h
      · cases h
      · cases h
        exact ⟨next, hvalue⟩

theorem sorted_of_decodeNameMap {value : Decoder α} {m : NameMap α}
    (h : decodeNameMap value d route pos = .ok (m, next)) : m.Sorted := by
  refine decodeMapping_keeps (P := NameMap.Sorted)
    (fun {acc acc' key d route pos next} hacc h => ?_) NameMap.sorted_nil h
  split at h
  · cases h
  · cases h
    exact hacc.insert key _

end Mapping

end Yaml

namespace Settings

/-- Reads the parts of settings. -/
def readParts (text : String) : Except Yaml.DecodeError Parts :=
  if Text.allBlank text.toList then .ok {}
  else Yaml.decode (Yaml.decodeMapping "struct EngineConfig" "field identifier" {} decodePart) text

variable {text : String} {parts : Parts}

theorem parse_of_readParts (h : readParts text = .ok parts) : parse text = .ok parts.settings := by
  unfold readParts at h
  unfold parse
  split at h
  · rename_i hblank
    rw [if_pos hblank]
    cases h
    rfl
  · rename_i hblank
    rw [if_neg hblank, h]

/-- The entries for extensions as they are written. -/
def Parts.entries (parts : Parts) : List (String × String) := parts.extensions.getD []

theorem sorted_decodePart {acc acc' : Parts} {key : String} {d : Yaml.Document} {route : Yaml.Route}
    {pos next : Nat} (hacc : NameMap.Sorted acc.entries)
    (h : decodePart acc key d route pos = .ok (acc', next)) : NameMap.Sorted acc'.entries := by
  unfold decodePart at h
  -- only the part for extensions changes the entries
  split at h
  all_goals
    obtain ⟨⟨value, behind⟩, hvalue, heq⟩ := Yaml.exists_of_map_ok h
    cases heq
  · exact hacc
  · unfold Yaml.decodeOnce at hvalue
    split at hvalue
    · cases hvalue
    · exact Yaml.sorted_of_decodeNameMap hvalue
  · exact hacc
  · exact hacc
  · exact hacc

/-- **A map that is read has each key once.** -/
theorem sorted_of_readParts (h : readParts text = .ok parts) : NameMap.Sorted parts.entries := by
  unfold readParts at h
  split at h
  · cases h
    exact NameMap.sorted_nil
  · obtain ⟨next, hdecoded⟩ := Yaml.exists_of_decode h
    exact Yaml.decodeMapping_keeps (P := fun parts => NameMap.Sorted parts.entries)
      sorted_decodePart NameMap.sorted_nil hdecoded

/-! ## §2. Entries in some order. -/

/-- The parts when the entries for extensions are handed out in a given order. -/
def Parts.drained (parts : Parts) (order : List (String × String)) : Parts :=
  { parts with extensions := some order }

/-- Entries whose keys have one normal spelling have one language. -/
def Agreeing (entries : List (String × String)) : Prop :=
  ∀ a ∈ entries, ∀ b ∈ entries, normalExtension a.1 = normalExtension b.1 → a.2 = b.2

section Order

variable {entries order : List (String × String)}

theorem lookup_map_normalExtension (name : String) (entries : List (String × String)) :
    (entries.map fun entry => (normalExtension entry.1, entry.2)).lookup name
      = (entries.find? fun entry => normalExtension entry.1 == name).map Prod.snd := by
  induction entries with
  | nil => rfl
  | cons entry entries ih =>
      rw [List.map_cons, lookup_cons_ite, List.find?_cons]
      by_cases hname : name = normalExtension entry.1
      · rw [if_pos hname, hname, beq_self_eq_true]
        rfl
      · rw [if_neg hname, ih, beq_false_of_ne (Ne.symm hname)]

/-- **A look-up** finds the entry in that spelling that came last. -/
theorem find?_drained (parts : Parts) (order : List (String × String)) (name : String) :
    (parts.drained order).settings.extensions.find? name
      = (order.reverse.find? fun entry => normalExtension entry.1 == name).map Prod.snd := by
  show (NameMap.ofPairs (order.map fun entry => (normalExtension entry.1, entry.2))).find? name = _
  rw [NameMap.find?_ofPairs, ← List.map_reverse, lookup_map_normalExtension]

theorem sorted_drained (parts : Parts) (order : List (String × String)) :
    NameMap.Sorted (parts.drained order).settings.extensions :=
  NameMap.sorted_ofPairs _

/-- Whatever is found is the language of an entry in that spelling. -/
theorem exists_of_find?_drained (hperm : order.Perm entries) {name language : String}
    (h : (parts.drained order).settings.extensions.find? name = some language) :
    ∃ entry ∈ entries, normalExtension entry.1 = name ∧ entry.2 = language := by
  rw [find?_drained, Option.map_eq_some_iff] at h
  obtain ⟨entry, hfound, hlanguage⟩ := h
  have hmem : entry ∈ order := List.mem_reverse.1 (List.mem_of_find?_eq_some hfound)
  exact ⟨entry, hperm.mem_iff.1 hmem, by simpa using List.find?_some hfound, hlanguage⟩

/-- Where entries agree, each is found, whatever the order. -/
theorem Agreeing.find?_drained_eq_some_iff (hagree : Agreeing entries) (hperm : order.Perm entries)
    {name language : String} :
    (parts.drained order).settings.extensions.find? name = some language ↔
      ∃ entry ∈ entries, normalExtension entry.1 = name ∧ entry.2 = language := by
  refine ⟨exists_of_find?_drained hperm, ?_⟩
  rintro ⟨entry, hentry, hname, rfl⟩
  cases hfound : (parts.drained order).settings.extensions.find? name with
  | none =>
      rw [find?_drained, Option.map_eq_none_iff, List.find?_eq_none] at hfound
      exact absurd (beq_iff_eq.2 hname) (hfound entry (List.mem_reverse.2 (hperm.mem_iff.2 hentry)))
  | some language =>
      obtain ⟨other, hother, hname', rfl⟩ := exists_of_find?_drained hperm hfound
      rw [hagree other hother entry hentry (hname'.trans hname.symm)]

/-- The order in which an entry comes last. -/
theorem exists_order_last {entry : String × String} (hentry : entry ∈ entries) (parts : Parts) :
    ∃ order, order.Perm entries ∧ ∀ ext, normalExtension ext = normalExtension entry.1 →
      (parts.drained order).settings.languageOfExtension ext = some entry.2 := by
  refine ⟨entries.erase entry ++ [entry], ?_, fun ext hext => ?_⟩
  · exact List.perm_append_comm.trans (List.perm_cons_erase hentry).symm
  · unfold languageOfExtension
    rw [find?_drained, List.reverse_append, List.reverse_singleton, List.singleton_append,
      List.find?_cons_of_pos (by simp [hext])]
    rfl

end Order

/-! ## §3. The main result. -/

/-- **When the order of entries does not matter.**  Of any text that can be read as settings: the
keys for extensions are those that are written, each once, and the settings are made of them in some
order.  Whatever the order, an extension has the language of the entry that came last among those in
its spelling, and each of these can be that entry.  So all orders make the same settings exactly if
entries in one spelling agree, and exactly then every key has the language that is written for it,
whatever the order. -/
theorem extension_order_iff {text : String} {parts : Parts} (hread : readParts text = .ok parts) :
    parse text = .ok (parts.drained parts.entries).settings ∧
      (parts.entries.map Prod.fst).Nodup ∧
      (∀ order, order.Perm parts.entries → ∀ ext,
        (parts.drained order).settings.languageOfExtension ext
          = (order.reverse.find? fun entry =>
              normalExtension entry.1 == normalExtension ext).map Prod.snd) ∧
      (∀ entry ∈ parts.entries, ∃ order, order.Perm parts.entries ∧
        (parts.drained order).settings.languageOfExtension entry.1 = some entry.2) ∧
      (Agreeing parts.entries ↔ ∀ order order', order.Perm parts.entries →
        order'.Perm parts.entries →
          (parts.drained order).settings = (parts.drained order').settings) ∧
      (Agreeing parts.entries ↔ ∀ order, order.Perm parts.entries → ∀ entry ∈ parts.entries,
        (parts.drained order).settings.languageOfExtension entry.1 = some entry.2) := by
  have hparse : parse text = .ok parts.settings := parse_of_readParts hread
  refine ⟨hparse, (sorted_of_readParts hread).nodup,
    fun order _ ext => find?_drained parts order _, fun entry hentry => ?_,
    ⟨fun hagree order order' horder horder' => ?_, fun hsame a ha b hb hname => ?_⟩,
    ⟨fun hagree order horder entry hentry => ?_, fun hfound a ha b hb hname => ?_⟩⟩
  · obtain ⟨order, horder, hlast⟩ := exists_order_last hentry parts
    exact ⟨order, horder, hlast _ rfl⟩
  · have hmaps : (parts.drained order).settings.extensions
        = (parts.drained order').settings.extensions := by
      refine (sorted_drained parts order).ext (sorted_drained parts order') fun name => ?_
      refine Option.ext fun language => ?_
      rw [hagree.find?_drained_eq_some_iff horder, hagree.find?_drained_eq_some_iff horder']
    show ({ (parts.drained order).settings with
      extensions := (parts.drained order).settings.extensions } : Settings) = _
    rw [hmaps]
    rfl
  · -- once the one comes last, and once the other
    obtain ⟨order, horder, hlast⟩ := exists_order_last ha parts
    obtain ⟨order', horder', hlast'⟩ := exists_order_last hb parts
    have hlookup := hlast' a.1 hname
    rw [← hsame order order' horder horder', hlast a.1 rfl] at hlookup
    exact Option.some.inj hlookup
  · exact (hagree.find?_drained_eq_some_iff horder).2 ⟨entry, hentry, rfl, rfl⟩
  · obtain ⟨order, horder, hlast⟩ := exists_order_last hb parts
    have hlookup := hlast a.1 hname
    rw [hfound order horder a ha] at hlookup
    exact Option.some.inj hlookup

theorem exists_readParts {text : String} {entries : List (String × String)}
    (h : (readParts text).toOption.map Parts.entries = some entries) :
    ∃ parts, readParts text = .ok parts ∧ parts.entries = entries := by
  cases hread : readParts text with
  | error e =>
      rw [hread] at h
      cases h
  | ok parts =>
      rw [hread] at h
      exact ⟨parts, rfl, Option.some.inj h⟩

/-- Two extensions, one of them written with a dot and a capital letter. -/
def plainExtensions : String := "extensions:\n  .Tpl: java\n  pyx: python\n"

theorem plainExtensions_settled :
    ∃ parts, readParts plainExtensions = .ok parts ∧
      parts.entries = [(".Tpl", "java"), ("pyx", "python")] ∧
      (∀ order order', order.Perm parts.entries → order'.Perm parts.entries →
        (parts.drained order).settings = (parts.drained order').settings) ∧
      ∀ order, order.Perm parts.entries → ∀ entry ∈ parts.entries,
        (parts.drained order).settings.languageOfExtension entry.1 = some entry.2 := by
  have hwritten : (readParts plainExtensions).toOption.map Parts.entries
      = some [(".Tpl", "java"), ("pyx", "python")] := by decide +kernel
  obtain ⟨parts, hread, hentries⟩ := exists_readParts hwritten
  obtain ⟨-, -, -, -, hsame, hfound⟩ := extension_order_iff hread
  have hagree : Agreeing parts.entries := by
    rw [hentries]
    unfold Agreeing
    decide +kernel
  exact ⟨parts, hread, hentries, hsame.1 hagree, hfound.1 hagree⟩

/-- One extension in two spellings, with a language for each. -/
def clashingExtensions : String := "extensions:\n  foo: java\n  Foo: python\n"

/-- **A clash is settled by the order.**  Both keys have the language of the entry that comes last,
and either of them may. -/
theorem clashingExtensions_unsettled :
    ∃ parts order order', readParts clashingExtensions = .ok parts ∧
      order.Perm parts.entries ∧ order'.Perm parts.entries ∧
      ("foo", "java") ∈ parts.entries ∧ ("Foo", "python") ∈ parts.entries ∧
      (parts.drained order).settings ≠ (parts.drained order').settings ∧
      (parts.drained order).settings.languageOfExtension "Foo" = some "java" ∧
      (parts.drained order').settings.languageOfExtension "foo" = some "python" := by
  have hwritten : (readParts clashingExtensions).toOption.map Parts.entries
      = some [("Foo", "python"), ("foo", "java")] := by decide +kernel
  obtain ⟨parts, hread, hentries⟩ := exists_readParts hwritten
  have hfoo : ("foo", "java") ∈ parts.entries := by simp [hentries]
  have hFoo : ("Foo", "python") ∈ parts.entries := by simp [hentries]
  have hspelling : normalExtension "Foo" = normalExtension "foo" := by decide +kernel
  obtain ⟨order, horder, hlast⟩ := exists_order_last hfoo parts
  obtain ⟨order', horder', hlast'⟩ := exists_order_last hFoo parts
  refine ⟨parts, order, order', hread, horder, horder', hfoo, hFoo, fun hsame => ?_,
    hlast "Foo" hspelling, hlast' "foo" hspelling.symm⟩
  have hlookup := hlast "foo" rfl
  rw [hsame, hlast' "foo" hspelling.symm] at hlookup
  exact absurd hlookup (by decide)

end Settings

end CodeSurvey
