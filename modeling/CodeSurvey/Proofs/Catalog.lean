/-
  Catalogs after any additions.

  A catalog is a map of maps: languages in normal spelling, and for each of them queries by trimmed
  name.  Languages and names are brought into that spelling wherever a query is added or looked up.
  That this is done once too often does no harm, as the normal spelling of a normal spelling is
  itself; that it is done everywhere keeps the four views of a catalog in step:

      a look-up after one addition                             (`definition_insertDefinition`)
      what every catalog has in common                         (`Tidy`)
      a look-up after any additions: the last one that counts  (`definition_insertAll`)

  Main result, `lookups_tell_last_added`.
-/
import CodeSurvey.Proofs.NameMap
import CodeSurvey.Proofs.Spelling
import CodeSurvey.Query.Catalog

namespace CodeSurvey

namespace Query.Catalog

open Text

/-! ## §1. One addition. -/

section Insert

variable (c : Catalog) (language : String) (d : Definition)

/-- The queries of a language, none if it has no entry. -/
def queriesOf (c : Catalog) (language : String) : NameMap Definition :=
  (NameMap.find? c language).getD []

theorem definition_eq (l n : String) :
    c.definition l n = NameMap.find? (c.queriesOf (normalized l)) (trimmed n) := by
  unfold definition queriesOf
  cases NameMap.find? c (normalized l) with
  | none => rfl
  | some queries => rfl

theorem names_eq (l : String) : c.names l = (c.queriesOf (normalized l)).names := by
  unfold names queriesOf
  cases NameMap.find? c (normalized l) with
  | none => rfl
  | some queries => rfl

theorem queriesOf_insertDefinition (language' : String) :
    (c.insertDefinition language d).queriesOf language'
      = if language' = language then (c.queriesOf language).insert d.name d
        else c.queriesOf language' := by
  unfold insertDefinition NameMap.alter queriesOf
  rw [NameMap.find?_insert]
  split
  · rfl
  · rfl

/-- **A look-up after one addition** gives what was added, or what it gave before. -/
theorem definition_insertDefinition (l n : String) :
    (c.insertDefinition language d).definition l n
      = if normalized l = language ∧ trimmed n = d.name then some d else c.definition l n := by
  rw [definition_eq, definition_eq, queriesOf_insertDefinition]
  by_cases hl : normalized l = language
  · rw [if_pos hl, NameMap.find?_insert, hl]
    simp
  · rw [if_neg hl, if_neg fun h => hl h.1]

end Insert

/-! ## §2. What every catalog has in common. -/

/-- Languages are in normal spelling and names are trimmed, and both increase. -/
structure Tidy (c : Catalog) : Prop where
  sorted : NameMap.Sorted c
  normal : ∀ entry ∈ c, Normal entry.1
  queries : ∀ entry ∈ c, NameMap.Sorted entry.2
  trimmed : ∀ entry ∈ c, ∀ name ∈ NameMap.names entry.2, Text.trimmed name = name

section Tidy

variable {c : Catalog}

theorem tidy_empty : empty.Tidy where
  sorted := NameMap.sorted_nil
  normal := by rintro entry ⟨⟩
  queries := by rintro entry ⟨⟩
  trimmed := by rintro entry ⟨⟩

theorem Tidy.mem_of_find? (h : c.Tidy) {language : String} {queries : NameMap Definition}
    (hfind : NameMap.find? c language = some queries) : (language, queries) ∈ c :=
  h.sorted.find?_eq_some_iff.1 hfind

theorem Tidy.queriesOf_sorted (h : c.Tidy) (language : String) :
    (c.queriesOf language).Sorted := by
  unfold queriesOf
  cases hfind : NameMap.find? c language with
  | none => exact NameMap.sorted_nil
  | some queries => exact h.queries _ (h.mem_of_find? hfind)

theorem Tidy.trimmed_of_mem (h : c.Tidy) {language name : String}
    (hname : name ∈ (c.queriesOf language).names) : Text.trimmed name = name := by
  unfold queriesOf at hname
  cases hfind : NameMap.find? c language with
  | none =>
      rw [hfind] at hname
      cases hname
  | some queries =>
      rw [hfind] at hname
      exact h.trimmed _ (h.mem_of_find? hfind) name hname

/-- An addition in the right spelling keeps a catalog tidy. -/
theorem Tidy.insertDefinition (h : c.Tidy) {language : String} {d : Definition}
    (hlanguage : Normal language) (hname : Text.trimmed d.name = d.name) :
    (c.insertDefinition language d).Tidy := by
  have hentries : ∀ entry ∈ c.insertDefinition language d,
      entry = (language, (c.queriesOf language).insert d.name d) ∨ entry ∈ c :=
    fun entry hentry => NameMap.mem_of_mem_insert hentry
  refine ⟨h.sorted.insert _ _, fun entry hentry => ?_, fun entry hentry => ?_,
    fun entry hentry name hmem => ?_⟩
  · rcases hentries entry hentry with rfl | hold
    · exact hlanguage
    · exact h.normal entry hold
  · rcases hentries entry hentry with rfl | hold
    · exact (h.queriesOf_sorted language).insert _ _
    · exact h.queries entry hold
  · rcases hentries entry hentry with rfl | hold
    · rcases NameMap.mem_names_insert.1 hmem with rfl | hmem
      · exact hname
      · exact h.trimmed_of_mem hmem
    · exact h.trimmed entry hold name hmem

/-- The names listed for a language are those that can be looked up. -/
theorem Tidy.mem_names_iff (h : c.Tidy) {l n : String} :
    n ∈ c.names l ↔ Text.trimmed n = n ∧ (c.source? l n).isSome = true := by
  rw [names_eq, source?, Option.isSome_map, definition_eq]
  constructor
  · intro hn
    have htrimmed := h.trimmed_of_mem hn
    rw [htrimmed]
    exact ⟨rfl, NameMap.mem_names_iff.1 hn⟩
  · rintro ⟨htrimmed, hfound⟩
    rw [htrimmed] at hfound
    exact NameMap.mem_names_iff.2 hfound

/-- The languages listed are those for which names are listed. -/
theorem Tidy.mem_languages_iff (h : c.Tidy) {l : String} :
    l ∈ c.languages ↔ Normal l ∧ c.names l ≠ [] := by
  -- an entry with queries, seen through the names of its language
  have hnames : ∀ entry ∈ c, c.names entry.1 = NameMap.names entry.2 := by
    intro entry hentry
    have hfind : NameMap.find? c entry.1 = some entry.2 := h.sorted.find?_eq_some_iff.2 hentry
    rw [names_eq, (h.normal entry hentry : normalized entry.1 = entry.1), queriesOf, hfind]
    rfl
  constructor
  · intro hl
    obtain ⟨entry, hentry, rfl⟩ := List.mem_map.1 hl
    obtain ⟨hentry, hne⟩ := List.mem_filter.1 hentry
    refine ⟨h.normal entry hentry, fun hnil => ?_⟩
    rw [hnames entry hentry, NameMap.names, List.map_eq_nil_iff] at hnil
    rw [hnil] at hne
    cases hne
  · rintro ⟨hnormal, hne⟩
    cases hfind : NameMap.find? c l with
    | none =>
        rw [names_eq, (hnormal : normalized l = l), queriesOf, hfind] at hne
        exact absurd rfl hne
    | some queries =>
        have hentry := h.mem_of_find? hfind
        rw [hnames (l, queries) hentry] at hne
        refine List.mem_map.2 ⟨(l, queries), List.mem_filter.2 ⟨hentry, ?_⟩, rfl⟩
        rw [Bool.not_eq_true', List.isEmpty_eq_false_iff]
        exact fun hnil => hne (congrArg NameMap.names hnil)

theorem Tidy.languages_sorted (h : c.Tidy) : c.languages.Pairwise (· < ·) :=
  List.Pairwise.sublist (List.filter_sublist.map Prod.fst) h.sorted

end Tidy

/-! ## §3. Many additions. -/

/-- A query with its language, both in the spelling under which they are kept. -/
abbrev Entry := String × Definition

/-- Is an entry what a language and a name ask for? -/
def Entry.answers (entry : Entry) (l n : String) : Bool :=
  entry.1 == normalized l && entry.2.name == trimmed n

/-- The last entry that a language and a name ask for. -/
def lastFor (entries : List Entry) (l n : String) : Option Definition :=
  (entries.filter fun entry => entry.answers l n).getLast?.map Prod.snd

/-- Inserts entries, one after the other. -/
def insertAll (c : Catalog) (entries : List Entry) : Catalog :=
  entries.foldl (fun c entry => c.insertDefinition entry.1 entry.2) c

theorem Entry.answers_iff {entry : Entry} {l n : String} :
    entry.answers l n = true ↔ normalized l = entry.1 ∧ trimmed n = entry.2.name := by
  unfold answers
  rw [Bool.and_eq_true, beq_iff_eq, beq_iff_eq, eq_comm, eq_comm (b := trimmed n)]

/-- **A look-up after any additions** gives the last entry that was asked for. -/
theorem definition_insertAll (l n : String) : ∀ (entries : List Entry) (c : Catalog),
    (c.insertAll entries).definition l n = (lastFor entries l n).or (c.definition l n) := by
  intro entries
  induction entries with
  | nil => exact fun c => rfl
  | cons entry entries ih =>
      intro c
      rw [insertAll, List.foldl_cons, ← insertAll, ih, definition_insertDefinition]
      unfold lastFor
      cases hanswers : entry.answers l n with
      | false =>
          rw [if_neg fun h => Bool.eq_false_iff.1 hanswers (Entry.answers_iff.2 h),
            List.filter_cons_of_neg (by rw [hanswers]; exact Bool.false_ne_true)]
      | true =>
          rw [if_pos (Entry.answers_iff.1 hanswers),
            List.filter_cons_of_pos (p := fun entry => Entry.answers entry l n) hanswers,
            List.getLast?_cons]
          -- a later entry counts, or else this one
          cases (entries.filter fun entry => entry.answers l n).getLast? with
          | none => rfl
          | some later => rfl

theorem Tidy.insertAll : ∀ {entries : List Entry} {c : Catalog}, c.Tidy →
    (∀ entry ∈ entries, Normal entry.1 ∧ Text.trimmed entry.2.name = entry.2.name) →
    (c.insertAll entries).Tidy := by
  intro entries
  induction entries with
  | nil => exact fun h _ => h
  | cons entry entries ih =>
      intro c h hentries
      obtain ⟨hnormal, htrimmed⟩ := hentries entry List.mem_cons_self
      exact ih (h.insertDefinition hnormal htrimmed) fun later hlater =>
        hentries later (List.mem_cons_of_mem _ hlater)

/-! ## §4. The catalogs to begin with. -/

/-- The queries to begin with, each with its language. -/
def startingEntries : List Entry :=
  startingQueries.flatMap fun entry => entry.2.map fun d => (entry.1, d)

theorem builtin_eq : builtin = empty.insertAll startingEntries := by
  unfold builtin insertAll startingEntries
  rw [List.flatMap_def, List.foldl_flatten, List.foldl_map]
  simp only [List.foldl_map]

theorem startingEntries_spelled :
    ∀ entry ∈ startingEntries, Normal entry.1 ∧ Text.trimmed entry.2.name = entry.2.name := by
  have hlanguages : ∀ entry ∈ startingQueries, Normal entry.1 := by decide +kernel
  have hnames : ∀ entry ∈ startingQueries, ∀ d ∈ entry.2, Text.trimmed d.name = d.name := by
    decide +kernel
  intro entry hentry
  obtain ⟨stock, hstock, hentry⟩ := List.mem_flatMap.1 hentry
  obtain ⟨d, hd, rfl⟩ := List.mem_map.1 hentry
  exact ⟨hlanguages stock hstock, hnames stock hstock d hd⟩

/-- A catalog to begin with: with the queries at hand, or empty. -/
def start (stocked : Bool) : Catalog := if stocked then builtin else empty

/-- The entries that a catalog begins with. -/
def startEntries (stocked : Bool) : List Entry := if stocked then startingEntries else []

theorem start_eq (stocked : Bool) : start stocked = empty.insertAll (startEntries stocked) := by
  cases stocked with
  | false => rfl
  | true => exact builtin_eq

theorem tidy_start (stocked : Bool) : (start stocked).Tidy := by
  rw [start_eq]
  refine tidy_empty.insertAll ?_
  cases stocked with
  | false => rintro entry ⟨⟩
  | true => exact startingEntries_spelled

theorem definition_start (stocked : Bool) (l n : String) :
    (start stocked).definition l n = lastFor (startEntries stocked) l n := by
  rw [start_eq, definition_insertAll]
  exact Option.or_none

/-! ## §5. Histories. -/

/-- A query that is added, as it was written. -/
structure Addition where
  language : String
  name : String
  source : String
  description : Option String := none

/-- What an addition is kept as. -/
def Addition.entry (a : Addition) : Entry :=
  (normalized a.language, ⟨trimmed a.name, a.description.getD defaultDescription, a.source⟩)

/-- Adds a query. -/
def addNext (c : Catalog) (a : Addition) : Catalog :=
  c.add a.language a.name a.source a.description

/-- Adds queries, one after the other. -/
def addAll (c : Catalog) (history : List Addition) : Catalog := history.foldl addNext c

theorem addAll_eq (c : Catalog) (history : List Addition) :
    c.addAll history = c.insertAll (history.map Addition.entry) := by
  unfold addAll insertAll
  rw [List.foldl_map]
  rfl

theorem tidy_addAll (stocked : Bool) (history : List Addition) :
    ((start stocked).addAll history).Tidy := by
  rw [addAll_eq]
  refine (tidy_start stocked).insertAll fun entry hentry => ?_
  obtain ⟨a, -, rfl⟩ := List.mem_map.1 hentry
  exact ⟨normal_normalized a.language, trimmed_trimmed a.name⟩

/-- **Look-ups tell the last that was added.**  Whatever was added to a catalog, to one that begins
with the queries at hand or to an empty one: a language and a name, in any spelling, lead to the
last query that was added for them, else to the one the catalog began with; the names of a language
increase and are just the trimmed names that can be looked up; the languages increase and are just
those in normal spelling that have names; and adding a query changes no look-up of another. -/
theorem lookups_tell_last_added (stocked : Bool) (history : List Addition) :
    let c := (start stocked).addAll history
    (∀ l n,
      let d := (lastFor (history.map Addition.entry) l n).or (lastFor (startEntries stocked) l n)
      c.definition l n = d ∧ c.source? l n = d.map Definition.source ∧
        c.describe l n = d.map Definition.description) ∧
    (∀ l, (c.names l).Pairwise (· < ·) ∧
      ∀ n, n ∈ c.names l ↔ trimmed n = n ∧ (c.source? l n).isSome = true) ∧
    c.languages.Pairwise (· < ·) ∧
    (∀ l, l ∈ c.languages ↔ normalized l = l ∧ c.names l ≠ []) ∧
    ∀ (a : Addition) (l n : String),
      (normalized l, trimmed n) ≠ (normalized a.language, trimmed a.name) →
      (c.addNext a).definition l n = c.definition l n ∧
        (c.addNext a).source? l n = c.source? l n ∧
        (c.addNext a).describe l n = c.describe l n := by
  intro c
  have htidy : c.Tidy := tidy_addAll stocked history
  have hdefinition : ∀ l n, c.definition l n
      = (lastFor (history.map Addition.entry) l n).or (lastFor (startEntries stocked) l n) := by
    intro l n
    rw [← definition_start, ← definition_insertAll, ← addAll_eq]
  refine ⟨fun l n => ?_, fun l => ⟨?_, fun n => htidy.mem_names_iff⟩, htidy.languages_sorted,
    fun l => htidy.mem_languages_iff, fun a l n hother => ?_⟩
  · rw [source?, describe, hdefinition]
    exact ⟨rfl, rfl, rfl⟩
  · rw [names_eq]
    exact htidy.queriesOf_sorted _
  · have hsame : (c.addNext a).definition l n = c.definition l n := by
      rw [addNext, add, definition_insertDefinition, if_neg]
      rintro ⟨hl, hn⟩
      exact hother (Prod.ext hl hn)
    rw [source?, source?, describe, describe, hsame]
    exact ⟨rfl, rfl, rfl⟩

/-- A query at hand is replaced in another spelling; a language that ends in a sigma is added. -/
def respelled : List Addition :=
  [⟨" PYTHON", "functions ", "(comment) @c", none⟩, ⟨"ΛΌΓΟΣ", "words", "(word) @w", some "Words"⟩]

/-- The replaced query is found in every spelling, its neighbour is not touched, and the new
language is listed with the sigma at its end. -/
theorem respelled_found :
    let c := (start true).addAll respelled
    c.source? "Python\t" " functions" = some "(comment) @c" ∧
    c.describe "λόγος" "words" = some "Words" ∧ "λόγος" ∈ c.languages ∧
    (c.addNext ⟨"python", "functions", "", none⟩).source? "python" "classes"
      = c.source? "python" "classes" := by
  obtain ⟨hfound, -, -, hlanguages, hothers⟩ := lookups_tell_last_added true respelled
  refine ⟨?_, ?_, (hlanguages _).2 ⟨by decide +kernel, by decide +kernel⟩,
    (hothers _ _ _ (by decide +kernel)).2.1⟩
  · rw [(hfound _ _).2.1]
    decide +kernel
  · rw [(hfound _ _).2.2]
    decide +kernel

end Query.Catalog

end CodeSurvey
