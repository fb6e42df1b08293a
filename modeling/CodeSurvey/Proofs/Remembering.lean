/-
  What becomes of remembered queries.

  A query text is compiled once for a language NAME and then remembered, while the grammar behind
  the name may be exchanged.  Of a memory and the grammars of the moment three things can be said:

      `Extends m m'`    nothing that `m` knows is forgotten or changed in `m'`
      `Grows g m m'`    and what `m'` knows beyond `m` was compiled with the grammars `g`
      `Fresh g m`       all that `m` knows is what the grammars `g` would give now

  Main results: compiling grows a memory (`compile_grows`); compiling again in a grown memory gives
  the same answer and changes nothing (`compile_again`); a memory is fresh exactly when compiling
  gives what the grammar of the moment gives (`fresh_iff`).
-/
import CodeSurvey.Proofs.NameMap
import CodeSurvey.Query.Compiled

namespace CodeSurvey

open Syntax Query

/-! ## §1. Grammars of the moment. -/

namespace Syntax.Grammars

/-- The grammar that a language name in normal spelling stands for. -/
def grammar? (g : Grammars) (name : String) : Option Grammar :=
  (g.find? name).or (Grammar.ofName? name)

/-- The dialect is the one that its name stands for. -/
def Knows (g : Grammars) (d : Dialect) : Prop := g.grammar? d.language = some d.grammar

theorem knows_of_dialect? {g : Grammars} {language : String} {d : Dialect}
    (h : g.dialect? language = some d) : g.Knows d := by
  simp only [dialect?, Option.map_eq_some_iff] at h
  obtain ⟨grammar, hgrammar, rfl⟩ := h
  exact hgrammar

/-- What was parsed was parsed with a grammar of the moment. -/
theorem parse_knows {g : Grammars} {parser : Parser} {source language path : String} {p : Parsed}
    (h : g.parse parser source language path = .ok p) : g.Knows p.dialect := by
  unfold parse at h
  split at h
  · cases h
  · rename_i d hd
    split at h
    · cases h
    · cases h
      exact knows_of_dialect? hd

end Syntax.Grammars

/-! ## §2. Memories. -/

namespace Query.Memo

variable {g : Grammars} {m m' m'' : Memo} {d : Dialect} {query : String}

theorem find?_cons (language source : String) (c : Compiled) (m : Memo)
    (language' source' : String) :
    Memo.find? (((language, source), c) :: m) language' source'
      = if language' = language ∧ source' = source then some c else m.find? language' source' := by
  unfold find?
  rw [lookup_cons_ite]
  simp only [Prod.mk.injEq]

theorem find?_append (m more : Memo) (language source : String) :
    Memo.find? (m ++ more) language source
      = (m.find? language source).or (more.find? language source) :=
  List.lookup_append

/-- Nothing is forgotten or changed. -/
def Extends (m m' : Memo) : Prop :=
  ∀ language query c, m.find? language query = some c → m'.find? language query = some c

/-- Nothing is forgotten or changed, and what is new was compiled with the grammars given. -/
def Grows (g : Grammars) (m m' : Memo) : Prop :=
  ∀ language query, m'.find? language query = m.find? language query ∨
    (m.find? language query = none ∧ ∃ grammar c, g.grammar? language = some grammar ∧
      Query.compile grammar query = .ok c ∧ m'.find? language query = some c)

/-- All that is remembered is what the grammars given would give now. -/
def Fresh (g : Grammars) (m : Memo) : Prop :=
  ∀ language query c grammar, m.find? language query = some c →
    g.grammar? language = some grammar → Query.compile grammar query = .ok c

theorem fresh_nil (g : Grammars) : Fresh g [] := by
  intro language query c grammar hfound
  cases hfound

theorem Extends.refl (m : Memo) : Extends m m := fun _ _ _ hfound => hfound

theorem Extends.trans (h : Extends m m') (h' : Extends m' m'') : Extends m m'' :=
  fun language query c hfound => h' language query c (h language query c hfound)

theorem extends_append (m more : Memo) : Extends m (m ++ more) := by
  intro language query c hfound
  rw [find?_append, hfound]
  rfl

theorem Grows.refl (g : Grammars) (m : Memo) : Grows g m m := fun _ _ => .inl rfl

theorem Grows.extends (h : Grows g m m') : Extends m m' := by
  intro language query c hfound
  rcases h language query with heq | ⟨hnone, -⟩
  · rw [heq, hfound]
  · rw [hnone] at hfound
    cases hfound

theorem Grows.trans (h : Grows g m m') (h' : Grows g m' m'') : Grows g m m'' := by
  intro language query
  rcases h' language query with heq' | ⟨hnone', hnew'⟩
  · rcases h language query with heq | ⟨hnone, grammar, c, hgrammar, hcompile, hfound⟩
    · exact .inl (heq'.trans heq)
    · exact .inr ⟨hnone, grammar, c, hgrammar, hcompile, heq'.trans hfound⟩
  · rcases h language query with heq | ⟨-, grammar, c, -, -, hfound⟩
    · exact .inr ⟨heq.symm.trans hnone', hnew'⟩
    · rw [hfound] at hnone'
      cases hnone'

/-- A fresh memory stays fresh when it grows. -/
theorem Fresh.grows (hm : Fresh g m) (h : Grows g m m') : Fresh g m' := by
  intro language query c grammar hfound hgrammar
  rcases h language query with heq | ⟨-, grammar', c', hgrammar', hcompile, hfound'⟩
  · exact hm language query c grammar (heq.symm.trans hfound) hgrammar
  · rw [hfound'] at hfound
    rw [hgrammar'] at hgrammar
    cases hfound
    cases hgrammar
    exact hcompile

/-! ## §3. Compiling. -/

theorem compile_of_found {c : Compiled} (h : m.find? d.language query = some c) :
    m.compile d query = (.ok c, m) := by
  rw [compile, h]

/-- A query is remembered, or at fault, or new. -/
theorem compile_cases (m : Memo) (d : Dialect) (query : String) :
    (∃ c, m.find? d.language query = some c ∧ m.compile d query = (.ok c, m)) ∨
    (∃ fault, m.find? d.language query = none ∧ Query.compile d.grammar query = .error fault ∧
      m.compile d query = (.error fault, m)) ∨
    (∃ c, m.find? d.language query = none ∧ Query.compile d.grammar query = .ok c ∧
      m.compile d query = (.ok c, ((d.language, query), c) :: m)) := by
  cases hfound : m.find? d.language query with
  | some c => exact .inl ⟨c, rfl, compile_of_found hfound⟩
  | none =>
      unfold compile
      rw [hfound]
      cases hc : Query.compile d.grammar query with
      | error fault => exact .inr (.inl ⟨fault, rfl, rfl, rfl⟩)
      | ok c => exact .inr (.inr ⟨c, rfl, rfl, rfl⟩)

/-- **Compiling grows a memory.** -/
theorem compile_grows (hd : g.Knows d) : Grows g m (m.compile d query).2 := by
  rcases compile_cases m d query with ⟨c, -, heq⟩ | ⟨fault, -, -, heq⟩ | ⟨c, hnone, hc, heq⟩
  · rw [heq]
    exact .refl g m
  · rw [heq]
    exact .refl g m
  · rw [heq]
    intro language source
    rw [find?_cons]
    split
    · rename_i hkey
      rw [hkey.1, hkey.2]
      exact .inr ⟨hnone, d.grammar, c, hd, hc, rfl⟩
    · exact .inl rfl

/-- A query that compiled once compiles to the same whatever else is remembered since. -/
theorem compile_again_of_ok {c : Compiled} (h : (m.compile d query).1 = .ok c)
    (hm : Extends (m.compile d query).2 m') : m'.compile d query = (.ok c, m') := by
  suffices hfound : (m.compile d query).2.find? d.language query = some c from
    compile_of_found (hm _ _ _ hfound)
  rcases compile_cases m d query with ⟨c', hsome, heq⟩ | ⟨fault, -, -, heq⟩ | ⟨c', -, -, heq⟩
  · rw [heq] at h ⊢
    cases h
    exact hsome
  · rw [heq] at h
    cases h
  · rw [heq] at h ⊢
    cases h
    rw [find?_cons, if_pos ⟨rfl, rfl⟩]

/-- **Compiling again** in a grown memory gives the same and changes nothing. -/
theorem compile_again (hd : g.Knows d) (hm : Grows g (m.compile d query).2 m') :
    m'.compile d query = ((m.compile d query).1, m') := by
  cases h : (m.compile d query).1 with
  | ok c => exact compile_again_of_ok h hm.extends
  | error fault =>
      rcases compile_cases m d query with
        ⟨c, -, heq⟩ | ⟨fault', hnone, hfault, heq⟩ | ⟨c, -, -, heq⟩
      · rw [heq] at h
        cases h
      · rw [heq] at h hm
        cases h
        -- no grown memory can know the query, since the grammar of its name faults it
        rcases compile_cases m' d query with
          ⟨c, hsome, -⟩ | ⟨fault', -, hfault', heq'⟩ | ⟨c, -, hc, -⟩
        · rcases hm d.language query with hsame | ⟨-, grammar, c', hgrammar, hc, -⟩
          · rw [hsame, hnone] at hsome
            cases hsome
          · rw [hd] at hgrammar
            cases hgrammar
            rw [hfault] at hc
            cases hc
        · rw [hfault] at hfault'
          cases hfault'
          exact heq'
        · rw [hfault] at hc
          cases hc
      · rw [heq] at h
        cases h

/-- **Fresh memories**: compiling gives what the grammar of the moment gives. -/
theorem fresh_iff :
    Fresh g m ↔ ∀ d query, g.Knows d → (m.compile d query).1 = Query.compile d.grammar query := by
  constructor
  · intro h d query hd
    rcases compile_cases m d query with ⟨c, hsome, heq⟩ | ⟨fault, -, hc, heq⟩ | ⟨c, -, hc, heq⟩
    · rw [heq, h _ _ _ _ hsome hd]
    · rw [heq, hc]
    · rw [heq, hc]
  · intro h language query c grammar hfound hgrammar
    have hcompile := h ⟨language, grammar⟩ query hgrammar
    rw [compile_of_found hfound] at hcompile
    exact hcompile.symm

/-- Memories so related compile alike with the grammars given, and stay so related. -/
def Indistinguishable (g : Grammars) (R : Memo → Memo → Prop) : Prop :=
  ∀ d query m m', g.Knows d → R m m' →
    (m.compile d query).1 = (m'.compile d query).1 ∧
      R (m.compile d query).2 (m'.compile d query).2

theorem indistinguishable_eq (g : Grammars) : Indistinguishable g Eq := by
  rintro d query m _ - rfl
  exact ⟨rfl, rfl⟩

theorem indistinguishable_fresh (g : Grammars) :
    Indistinguishable g fun m m' => Fresh g m ∧ Fresh g m' := by
  rintro d query m m' hd ⟨hm, hm'⟩
  refine ⟨?_, hm.grows (compile_grows hd), hm'.grows (compile_grows hd)⟩
  rw [fresh_iff.1 hm d query hd, fresh_iff.1 hm' d query hd]

/-- What another memory knows already may be learnt. -/
theorem Grows.learn {c : Compiled} {more : Memo} (h : Grows g m m')
    (hfound : more.find? d.language query = some c)
    (hrest : ∀ language source, ¬(language = d.language ∧ source = query) →
      more.find? language source = m'.find? language source) :
    Grows g (((d.language, query), c) :: m) more := by
  intro language source
  rw [find?_cons]
  by_cases hkey : language = d.language ∧ source = query
  · rw [if_pos hkey, hkey.1, hkey.2]
    exact .inl hfound
  · rw [if_neg hkey, hrest language source hkey]
    exact h language source

/-- What was learnt with the grammars given makes no difference. -/
theorem indistinguishable_grows (g : Grammars) : Indistinguishable g (Grows g) := by
  intro d query m m' hd hm
  rcases hm d.language query with hsame | ⟨hnone, grammar, c, hgrammar, hc, hfound⟩
  · rcases compile_cases m d query with ⟨c, hfound, heq⟩ | ⟨fault, hnone, hfault, heq⟩ |
      ⟨c, hnone, hc, heq⟩
    · rw [heq, compile_of_found (hsame.trans hfound)]
      exact ⟨rfl, hm⟩
    · rw [heq, compile, hsame.trans hnone, hfault]
      exact ⟨rfl, hm⟩
    · rw [heq, compile, hsame.trans hnone, hc]
      refine ⟨rfl, hm.learn (by rw [find?_cons, if_pos ⟨rfl, rfl⟩]) fun language source hkey => ?_⟩
      rw [find?_cons, if_neg hkey]
  · -- the one compiles what the other has compiled with the same grammar
    obtain rfl : d.grammar = grammar := Option.some.inj (hd.symm.trans hgrammar)
    rw [compile_of_found hfound, compile, hnone, hc]
    exact ⟨rfl, hm.learn hfound fun _ _ _ => rfl⟩

end Query.Memo

end CodeSurvey
