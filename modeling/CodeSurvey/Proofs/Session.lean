/-
  Sessions and what they remember.

  What a query gives depends on a session in two ways only: by the catalog that says what a name
  means, and by what the memory has for the text (`runOn_cases`).  The counts do not matter.  So a
  relation between memories carries over to sessions with one catalog (`Akin`).

  Main results: sessions that compiling cannot tell apart find the same (`runAll_sim`), and queries
  that were run once come out alike in every later session and leave it as it is (`runAll_again`).
-/
import CodeSurvey.Query.Session
import CodeSurvey.Proofs.Remembering

namespace CodeSurvey

open Syntax

namespace Query.Session

/-! ## §1. What a query depends on. -/

variable {g : Grammars} {s s' : Session} {t : Target} {R : Memo → Memo → Prop}

/-- The captures that a compiled query gives, or what is said of its fault. -/
def capturesOf (tree : SyntaxTree) (d : Dialect) (source : List Char) (query : String) :
    Except Fault Compiled → Except String (List Capture)
  | .error fault =>
    .error ("invalid query for " ++ d.language ++ ": " ++ fault.message query.toList)
  | .ok q =>
    .ok ((q.captures (Text.octets source) tree.root).map fun (name, spot) =>
      Capture.ofNode tree source name spot.tree)

theorem run_eq (s : Session) (tree : SyntaxTree) (d : Dialect) (source : List Char)
    (query : String) :
    s.run tree d source query =
      (capturesOf tree d source query (s.memo.compile d query).1,
        { s with memo := (s.memo.compile d query).2 }) := by
  unfold run
  rcases s.memo.compile d query with ⟨_ | _, _⟩
  · rfl
  · rfl

theorem finish_memo (s : Session) (name : String) (result : Except String (List Capture)) :
    (s.finish name result).2.memo = s.memo := by
  cases result <;> rfl

theorem finish_catalog (s : Session) (name : String) (result : Except String (List Capture)) :
    (s.finish name result).2.catalog = s.catalog := by
  cases result <;> rfl

/-- A query is refused whatever the session, or all that matters is what it compiles to. -/
theorem runOn_cases (t : Target) (name : String) (query : Except String String) :
    (∃ message, ∀ s : Session, s.runOn t name query = s.finish name (.error message)) ∨
    (∃ tree d text, t.dialect = some d ∧ ∀ s : Session, s.runOn t name query =
      ({ s with memo := (s.memo.compile d text).2 } : Session).finish name
        (capturesOf tree d t.source text (s.memo.compile d text).1)) := by
  unfold runOn
  cases t.tree with
  | none => exact .inl ⟨_, fun s => rfl⟩
  | some tree =>
      cases t.dialect with
      | none => exact .inl ⟨_, fun s => rfl⟩
      | some d =>
          cases query with
          | error message => exact .inl ⟨message, fun s => rfl⟩
          | ok text =>
              refine .inr ⟨tree, d, text, rfl, fun s => ?_⟩
              dsimp only
              rw [run_eq]

/-- Two sessions with one catalog whose memories are so related. -/
structure Akin (R : Memo → Memo → Prop) (s s' : Session) : Prop where
  catalog : s.catalog = s'.catalog
  memo : R s.memo s'.memo

theorem Akin.grows_trans {s'' : Session} (h : Akin (Memo.Grows g) s s')
    (h' : Akin (Memo.Grows g) s' s'') : Akin (Memo.Grows g) s s'' :=
  ⟨h.catalog.trans h'.catalog, h.memo.trans h'.memo⟩

theorem Akin.trans_eq {s'' : Session} (h : Akin R s s') (h' : Akin Eq s' s'') : Akin R s s'' :=
  ⟨h.catalog.trans h'.catalog, h'.memo ▸ h.memo⟩

/-- The queries of a target are checked against a grammar of the moment. -/
def Target.KnownTo (t : Target) (g : Grammars) : Prop := ∀ d, t.dialect = some d → g.Knows d

/-! ## §2. One query. -/

theorem runOn_sim (ht : t.KnownTo g) (hR : Memo.Indistinguishable g R) (h : Akin R s s')
    (name : String) (query : Except String String) :
    (s.runOn t name query).1 = (s'.runOn t name query).1 ∧
      Akin R (s.runOn t name query).2 (s'.runOn t name query).2 := by
  rcases runOn_cases t name query with ⟨message, heq⟩ | ⟨tree, d, text, hdialect, heq⟩
  · rw [heq s, heq s']
    exact ⟨rfl, h.catalog, h.memo⟩
  · obtain ⟨hfst, hsnd⟩ := hR d text _ _ (ht d hdialect) h.memo
    rw [heq s, heq s', hfst]
    refine ⟨rfl, ?_, ?_⟩
    · rw [finish_catalog, finish_catalog]
      exact h.catalog
    · rw [finish_memo, finish_memo]
      exact hsnd

theorem runOn_grows (ht : t.KnownTo g) (s : Session) (name : String)
    (query : Except String String) : Akin (Memo.Grows g) s (s.runOn t name query).2 := by
  rcases runOn_cases t name query with ⟨message, heq⟩ | ⟨tree, d, text, hdialect, heq⟩
  · rw [heq s]
    exact ⟨rfl, .refl g _⟩
  · rw [heq s]
    refine ⟨?_, ?_⟩
    · rw [finish_catalog]
    · rw [finish_memo]
      exact Memo.compile_grows (ht d hdialect)

theorem runOn_again (ht : t.KnownTo g) {name : String} {query : Except String String}
    (h : Akin (Memo.Grows g) (s.runOn t name query).2 s') :
    (s'.runOn t name query).1 = (s.runOn t name query).1 ∧
      Akin Eq s' (s'.runOn t name query).2 := by
  rcases runOn_cases t name query with ⟨message, heq⟩ | ⟨tree, d, text, hdialect, heq⟩
  · rw [heq s, heq s']
    exact ⟨rfl, rfl, rfl⟩
  · have hmemo := h.memo
    rw [heq s, finish_memo] at hmemo
    have hagain := Memo.compile_again (ht d hdialect) hmemo
    rw [heq s, heq s', hagain]
    refine ⟨rfl, ?_, ?_⟩
    · rw [finish_catalog]
    · rw [finish_memo]

/-! ## §3. Several queries. -/

/-- Runs one of several queries. -/
def runNext (t : Target) (acc : NameMap Outcome × Session) (name : String) :
    NameMap Outcome × Session :=
  (acc.1.insert name (acc.2.runNamed t name).1, (acc.2.runNamed t name).2)

/-- With one catalog, a name means one query. -/
theorem runNext_eq (h : s.catalog = s'.catalog) (t : Target) (outcomes : NameMap Outcome)
    (name : String) : ∃ query,
      runNext t (outcomes, s) name
        = (outcomes.insert name (s.runOn t name query).1, (s.runOn t name query).2) ∧
      runNext t (outcomes, s') name
        = (outcomes.insert name (s'.runOn t name query).1, (s'.runOn t name query).2) := by
  refine ⟨_, rfl, ?_⟩
  unfold runNext runNamed runNamedAs lookUp
  rw [h]

/-- **Sessions that compiling cannot tell apart** find the same. -/
theorem runAll_sim (ht : t.KnownTo g) (hR : Memo.Indistinguishable g R) (h : Akin R s s')
    (names : List String) :
    (s.runAll t names).1 = (s'.runAll t names).1 ∧
      Akin R (s.runAll t names).2 (s'.runAll t names).2 := by
  have hfold : ∀ (names : List String) (outcomes : NameMap Outcome) (s s' : Session), Akin R s s' →
      (names.foldl (runNext t) (outcomes, s)).1 = (names.foldl (runNext t) (outcomes, s')).1 ∧
        Akin R (names.foldl (runNext t) (outcomes, s)).2
          (names.foldl (runNext t) (outcomes, s')).2 := by
    intro names
    induction names with
    | nil => exact fun outcomes s s' h => ⟨rfl, h⟩
    | cons name names ih =>
        intro outcomes s s' h
        obtain ⟨query, hs, hs'⟩ := runNext_eq h.catalog t outcomes name
        obtain ⟨hfst, hsnd⟩ := runOn_sim ht hR h name query
        rw [List.foldl_cons, List.foldl_cons, hs, hs', hfst]
        exact ih _ _ _ hsnd
  exact hfold names [] s s' h

theorem foldl_runNext_grows (ht : t.KnownTo g) :
    ∀ (names : List String) (acc : NameMap Outcome × Session),
      Akin (Memo.Grows g) acc.2 (names.foldl (runNext t) acc).2 := by
  intro names
  induction names with
  | nil => exact fun acc => ⟨rfl, .refl g _⟩
  | cons name names ih =>
      intro acc
      exact (runOn_grows ht acc.2 name _).grows_trans (ih (runNext t acc name))

theorem runAll_grows (ht : t.KnownTo g) (s : Session) (names : List String) :
    Akin (Memo.Grows g) s (s.runAll t names).2 :=
  foldl_runNext_grows ht names ([], s)

/-- **Queries that were run once** come out alike in every later session, and leave it as it is. -/
theorem runAll_again (ht : t.KnownTo g) {names : List String}
    (h : Akin (Memo.Grows g) (s.runAll t names).2 s') :
    (s'.runAll t names).1 = (s.runAll t names).1 ∧ Akin Eq s' (s'.runAll t names).2 := by
  have hfold : ∀ (names : List String) (outcomes : NameMap Outcome) (s s' : Session),
      Akin (Memo.Grows g) (names.foldl (runNext t) (outcomes, s)).2 s' →
      (names.foldl (runNext t) (outcomes, s')).1 = (names.foldl (runNext t) (outcomes, s)).1 ∧
        Akin Eq s' (names.foldl (runNext t) (outcomes, s')).2 := by
    intro names
    induction names with
    | nil => exact fun outcomes s s' h => ⟨rfl, rfl, rfl⟩
    | cons name names ih =>
        intro outcomes s s' h
        rw [List.foldl_cons] at h
        -- the first query is done, and what the others add comes on top of it
        have hrest := (foldl_runNext_grows ht names (runNext t (outcomes, s) name)).grows_trans h
        have hcatalog : s.catalog = s'.catalog :=
          (runOn_grows ht s name _).catalog.trans hrest.catalog
        obtain ⟨query, hs, hs'⟩ := runNext_eq hcatalog t outcomes name
        rw [hs] at hrest h
        obtain ⟨hfst, hsame⟩ := runOn_again ht hrest
        obtain ⟨hlast, hend⟩ := ih _ _ _ (h.trans_eq hsame)
        rw [List.foldl_cons, List.foldl_cons, hs, hs', hfst]
        exact ⟨hlast, hsame.trans_eq hend⟩
  exact hfold names [] s s' h

end Query.Session

end CodeSurvey
