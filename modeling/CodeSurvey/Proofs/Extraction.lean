/-
  Extractions and what they remember.

  An extraction may do anything with the memory of compiled queries; those of the plugins only
  compile (`OnlyCompiles`: built from results, errors and compiled queries, one after the other).
  Every fact about such work is one induction along that way of building it:

      it grows the memory                                        (`grows`)
      done once, it is done for good                             (`again`)
      memories that compiling cannot tell apart make no difference   (`run_sim`)

  Main result: the plugins at hand are of this kind (`Plugins.builtin_onlyCompile`).
-/
import CodeSurvey.Extract.Plugin
import CodeSurvey.Proofs.Remembering

namespace CodeSurvey

open Syntax Query Extract

namespace Extract

/-! ## §1. Work that only compiles. -/

section Running

variable {α β : Type}

theorem run_bind (x : Extraction α) (f : α → Extraction β) (m : Memo) :
    (x >>= f).run m =
      match x.run m with
      | (.ok a, m') => (f a).run m'
      | (.error message, m') => (.error message, m') := by
  show (ExceptT.bindCont f ((x.run m).1)) (x.run m).2 = _
  rcases x.run m with ⟨_ | a, m'⟩
  · rfl
  · rfl

theorem run_map (f : α → β) (x : Extraction α) (m : Memo) :
    (f <$> x).run m = ((x.run m).1.map f, (x.run m).2) := by
  rw [← bind_pure_comp, run_bind]
  rcases x.run m with ⟨_ | _, _⟩
  · rfl
  · rfl

theorem run_compiled (p : Parsed) (query : String) (m : Memo) :
    (compiled p query).run m =
      ((m.compile p.dialect query).1.mapError fun fault => fault.message query.toList,
        (m.compile p.dialect query).2) := by
  have hget : (getThe Memo : Extraction Memo).run m = (.ok m, m) := rfl
  rw [compiled, run_bind, hget]
  dsimp only
  rcases m.compile p.dialect query with ⟨_ | c, m'⟩
  · rfl
  · rfl

theorem mapError_ok {ε ε' : Type} (f : ε → ε') (a : α) :
    (.ok a : Except ε α).mapError f = .ok a := rfl

theorem mapError_eq_ok {ε ε' : Type} {x : Except ε α} {f : ε → ε'} {a : α} :
    x.mapError f = .ok a ↔ x = .ok a := by
  cases x with
  | error e =>
      constructor
      · intro h
        cases h
      · intro h
        cases h
  | ok b =>
      constructor
      · intro h
        cases h
        rfl
      · intro h
        cases h
        rfl

end Running

/-- Work whose only dealings with the memory are that it compiles queries for one parsed file. -/
inductive OnlyCompiles (p : Parsed) : {α : Type} → Extraction α → Prop where
  | pure {α : Type} (a : α) : OnlyCompiles p (pure a : Extraction α)
  | throw {α : Type} (message : String) : OnlyCompiles p (throw message : Extraction α)
  | compiled (query : String) : OnlyCompiles p (compiled p query)
  | bind {α β : Type} {x : Extraction α} {f : α → Extraction β} :
      OnlyCompiles p x → (∀ a, OnlyCompiles p (f a)) → OnlyCompiles p (x >>= f)

namespace OnlyCompiles

variable {p : Parsed} {α : Type} {x : Extraction α} {g : Grammars}

/-- Such work grows the memory. -/
theorem grows (h : OnlyCompiles p x) (hd : g.Knows p.dialect) :
    ∀ m, Memo.Grows g m (x.run m).2 := by
  induction h with
  | pure a => exact .refl g
  | throw message => exact .refl g
  | compiled query =>
      intro m
      rw [run_compiled]
      exact Memo.compile_grows hd
  | @bind _ _ x f _ _ ihx ihf =>
      intro m
      have hgrown := ihx m
      rw [run_bind]
      rcases hx : x.run m with ⟨message | a, m'⟩
      · rwa [hx] at hgrown
      · rw [hx] at hgrown
        exact hgrown.trans (ihf a m')

/-- **Done once, done for good**: work that succeeded succeeds alike on whatever memory knows what
it compiled, and has nothing to add to it. -/
theorem again (h : OnlyCompiles p x) (hd : g.Knows p.dialect) :
    ∀ {m : Memo} {a : α} {m' : Memo}, x.run m = (.ok a, m') →
      ∀ {later : Memo}, Memo.Extends m' later → x.run later = (.ok a, later) := by
  induction h with
  | pure a =>
      rintro m _ _ ⟨⟩ later _
      rfl
  | throw message => rintro m a m' ⟨⟩
  | compiled query =>
      intro m c m' hrun later hlater
      rw [run_compiled, Prod.mk.injEq] at hrun
      obtain ⟨hok, rfl⟩ := hrun
      rw [run_compiled, Memo.compile_again_of_ok (mapError_eq_ok.1 hok) hlater]
      rfl
  | @bind _ _ x f _ hf ihx ihf =>
      intro m b m'' hrun later hlater
      rw [run_bind] at hrun
      rcases hx : x.run m with ⟨message | a, m'⟩
      · rw [hx] at hrun
        cases hrun
      · rw [hx] at hrun
        replace hrun : (f a).run m' = (.ok b, m'') := hrun
        have hgrown := (hf a).grows hd m'
        rw [hrun] at hgrown
        rw [run_bind, ihx hx (hgrown.extends.trans hlater)]
        exact ihf a hrun hlater

/-- Memories that compiling cannot tell apart give such work one outcome. -/
theorem run_sim {R : Memo → Memo → Prop} (h : OnlyCompiles p x) (hd : g.Knows p.dialect)
    (hR : Memo.Indistinguishable g R) :
    ∀ {m m' : Memo}, R m m' → (x.run m).1 = (x.run m').1 ∧ R (x.run m).2 (x.run m').2 := by
  induction h with
  | pure a => exact fun hm => ⟨rfl, hm⟩
  | throw message => exact fun hm => ⟨rfl, hm⟩
  | compiled query =>
      intro m m' hm
      obtain ⟨hfst, hsnd⟩ := hR _ query m m' hd hm
      rw [run_compiled, run_compiled]
      exact ⟨by dsimp only; rw [hfst], hsnd⟩
  | @bind _ _ x f _ _ ihx ihf =>
      intro m m' hm
      obtain ⟨hfst, hsnd⟩ := ihx hm
      rw [run_bind, run_bind]
      rcases hr : x.run m with ⟨r, n⟩
      rcases hr' : x.run m' with ⟨r', n'⟩
      rw [hr, hr'] at hfst hsnd
      obtain rfl : r = r' := hfst
      cases r with
      | error message => exact ⟨rfl, hsnd⟩
      | ok a => exact ihf a hsnd

/-! ## §2. The plugins at hand. -/

theorem map {β : Type} (f : α → β) (h : OnlyCompiles p x) : OnlyCompiles p (f <$> x) := by
  rw [← bind_pure_comp]
  exact h.bind fun a => .pure (f a)

theorem mapM {β : Type} {f : β → Extraction α} (h : ∀ b, OnlyCompiles p (f b)) :
    ∀ bs : List β, OnlyCompiles p (bs.mapM f) := by
  intro bs
  induction bs with
  | nil => exact .pure []
  | cons b bs ih =>
      rw [List.mapM_cons]
      exact (h b).bind fun a => ih.bind fun as => .pure (a :: as)

theorem functionOf (t : Tree) (name : String) (facts : FunctionFacts) (decisions : String) :
    OnlyCompiles p (functionOf p t name facts decisions) :=
  .bind (.bind (.compiled decisions) fun _ => .pure _) fun _ => .pure _

theorem sightings (query : String) (roles : List String) :
    OnlyCompiles p (sightings p query roles) :=
  .bind (.bind (.compiled query) fun _ => .pure _) fun _ => .pure _

theorem candidates {rule : Sighting → Extraction (Option Element)}
    (h : ∀ s, OnlyCompiles p (rule s)) (found : List Sighting) :
    OnlyCompiles p (candidates rule found) :=
  .bind (.mapM (fun s => .bind (h s) fun _ => .pure _) found) fun _ => .pure _

end OnlyCompiles

theorem Python.extract_onlyCompiles (p : Parsed) : OnlyCompiles p (Python.extract p) := by
  refine .bind (.sightings _ _) fun found => .map _ (.candidates (fun s => ?_) found)
  unfold Python.rule
  split
  · exact .map _ (.functionOf _ _ _ _)
  all_goals exact .pure _

theorem Java.extract_onlyCompiles (p : Parsed) : OnlyCompiles p (Java.extract p) := by
  refine .bind (.sightings _ _) fun found => .map _ (.candidates (fun s => ?_) found)
  unfold Java.rule
  split
  · exact .pure _
  · exact .pure _
  · exact .map _ (.functionOf _ _ _ _)
  · exact .map _ (.functionOf _ _ _ _)
  all_goals exact .pure _

theorem Script.extract_onlyCompiles (typed : Bool) (p : Parsed) :
    OnlyCompiles p (Script.extract typed p) := by
  refine .bind (.sightings _ _) fun found => .map _ (.candidates (fun s => ?_) found)
  unfold Script.rule
  split
  · exact .map _ (.functionOf _ _ _ _)
  · exact .map _ (.functionOf _ _ _ _)
  · dsimp only
    split
    · exact .map _ (.functionOf _ _ _ _)
    · exact .pure _
  all_goals exact .pure _

theorem Go.extract_onlyCompiles (p : Parsed) : OnlyCompiles p (Go.extract p) := by
  refine .bind (.sightings _ _) fun found =>
    .bind (.candidates (fun s => ?_) found) fun _ => .pure _
  unfold Go.rule
  split
  · exact .pure _
  · exact .pure _
  · exact .map _ (.functionOf _ _ _ _)
  · exact .map _ (.functionOf _ _ _ _)
  all_goals exact .pure _

theorem Rust.extract_onlyCompiles (p : Parsed) : OnlyCompiles p (Rust.extract p) := by
  refine .bind (.sightings _ _) fun found =>
    .bind (.candidates (fun s => ?_) found) fun _ => .pure _
  unfold Rust.rule
  split
  · exact .map _ (.functionOf _ _ _ _)
  all_goals exact .pure _

/-! ## §3. Tables of plugins. -/

/-- A plugin that works on nothing but the parsed file: its dealings with the memory are that it
compiles queries for it. -/
def Plugin.OnlyCompiles (plugin : Plugin) : Prop :=
  ∀ p, Extract.OnlyCompiles p (plugin.extract p)

namespace Plugins

/-- All plugins of a table are such. -/
def OnlyCompile (ps : Plugins) : Prop := ∀ entry ∈ ps.table, entry.2.OnlyCompiles

variable {ps : Plugins}

theorem OnlyCompile.register (h : ps.OnlyCompile) (language : String) {plugin : Plugin}
    (hplugin : plugin.OnlyCompiles) : (ps.register language plugin).OnlyCompile := by
  intro entry hentry
  rcases NameMap.mem_of_mem_insert hentry with rfl | hentry
  · exact hplugin
  · exact h entry hentry

theorem OnlyCompile.resolve (h : ps.OnlyCompile) (language : String) :
    (ps.resolve language).OnlyCompiles := by
  unfold Plugins.resolve
  cases hfound : ps.find? language with
  | none => exact fun p => .pure []
  | some plugin =>
      obtain ⟨before, after, hsplit, -⟩ := List.lookup_eq_some_iff.1 hfound
      exact h (Text.normalized language, plugin) (by rw [hsplit]; simp)

theorem builtin_onlyCompile : Plugins.builtin.OnlyCompile := by
  have hempty : Plugins.empty.OnlyCompile := by
    intro entry hentry
    cases hentry
  have hpython : Plugin.python.OnlyCompiles := Python.extract_onlyCompiles
  have hjava : Plugin.java.OnlyCompiles := Java.extract_onlyCompiles
  have hjavascript : Plugin.javascript.OnlyCompiles := Script.extract_onlyCompiles false
  have htypescript : Plugin.typescript.OnlyCompiles := Script.extract_onlyCompiles true
  have htsx : Plugin.tsx.OnlyCompiles := Script.extract_onlyCompiles true
  have hgo : Plugin.go.OnlyCompiles := Go.extract_onlyCompiles
  have hrust : Plugin.rust.OnlyCompiles := Rust.extract_onlyCompiles
  exact ((((((hempty.register _ hpython).register _ hjava).register _ hjavascript).register _
    htypescript).register _ htsx).register _ hgo).register _ hrust

end Plugins

end Extract

end CodeSurvey
