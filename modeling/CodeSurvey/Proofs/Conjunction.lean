/-
  Filter expressions joined by a comma.

  An expression is read piece by piece (`parse_eq_ok_iff`), and a comma between two expressions is
  one more cut (`pieces_comma`).  So the clauses of `a,b` are those of `a` followed by those of `b`,
  or the first faulty piece decides (`parse_comma_eq_ok`, `parse_eq_error_iff`).  A filter that gives
  an answer keeps what all its clauses accept (`keep_eq_ok_iff`); the question whether all texts are
  there is asked of everything that comes in, and what comes in the second time was there the first.

  Main result, `keep_comma`: filtering by `a,b` is filtering by `a` and then by `b`, in either
  order, keeps exactly what both keep, and does nothing when it is done again.
-/
import CodeSurvey.Filter.Expr
import CodeSurvey.Proofs.Pieces
import CodeSurvey.Proofs.Spelling

namespace CodeSurvey

namespace Filter

/-! ## §1. Reading. -/

/-- The pieces of an expression between its commas. -/
def pieces (source : String) : List (List Char) := Text.splitAll (· == ',') source.toList

theorem pieces_comma (a b : String) : pieces (a ++ "," ++ b) = pieces a ++ pieces b := by
  unfold pieces
  rw [String.toList_append, String.toList_append, List.append_assoc]
  exact Text.splitAll_append_sep (p := (· == ',')) rfl b.toList a.toList

/-- What is read are the pieces that are not blank, without their outer blanks. -/
theorem clauseTexts_eq (source : String) :
    clauseTexts source.toList
      = ((pieces source).filter fun p => !Text.allBlank p).map Text.trim := by
  show ((pieces source).map Text.trim).filter _ = _
  rw [List.filter_map]
  refine congrArg (List.map Text.trim) (List.filter_congr fun p _ => congrArg not ?_)
  rw [Bool.eq_iff_iff, List.isEmpty_iff]
  exact Text.trim_eq_nil_iff

theorem clauseTexts_comma (a b : String) :
    clauseTexts (a ++ "," ++ b).toList = clauseTexts a.toList ++ clauseTexts b.toList := by
  rw [clauseTexts_eq, clauseTexts_eq, clauseTexts_eq, pieces_comma, List.filter_append,
    List.map_append]

/-- An expression is read clause by clause. -/
theorem parse_eq_ok_iff {source : String} {expr : Expr} : Expr.parse source = .ok expr ↔
    List.Forall₂ (fun text clause => readClause text = .ok clause)
      (clauseTexts source.toList) expr :=
  mapM_eq_ok_iff

/-- The error of the first piece that is neither blank nor a clause. -/
def FirstFault (ps : List (List Char)) (e : Error) : Prop :=
  ∃ before p after, ps = before ++ p :: after ∧ Text.allBlank p = false ∧
    readClause (Text.trim p) = .error e ∧
    ∀ q ∈ before, Text.allBlank q = false → ∃ clause, readClause (Text.trim q) = .ok clause

/-- **Reading fails** with the error of the first piece at fault. -/
theorem parse_eq_error_iff {source : String} {e : Error} :
    Expr.parse source = .error e ↔ FirstFault (pieces source) e := by
  rw [Expr.parse, clauseTexts_eq, List.mapM_map, mapM_eq_error_iff, exists_first_filter_iff]
  simp only [Bool.not_eq_true']
  rfl

/-! ## §2. Keeping. -/

section Keep

variable {α : Type} {language source : String} {view : α → Subject} {items kept : List α}
  {expr : Expr}

/-- Every text is there, or no clause reads one. -/
def Answerable (expr : Expr) (view : α → Subject) (items : List α) : Prop :=
  (∃ clause ∈ expr, clause.readsText = true) → ∀ item ∈ items, (view item).hasText = true

theorem missingText?_eq_none_iff (language : String) :
    expr.missingText? language view items = none ↔ Answerable expr view items := by
  unfold Expr.missingText? Answerable
  cases hclause : expr.find? Clause.readsText with
  | none =>
      rw [List.find?_eq_none] at hclause
      simp only [true_iff]
      rintro ⟨clause, hmem, hreads⟩
      exact absurd hreads (hclause clause hmem)
  | some clause =>
      have hsome : ∃ clause ∈ expr, clause.readsText = true :=
        ⟨clause, List.mem_of_find?_eq_some hclause, List.find?_some hclause⟩
      cases hitem : items.find? fun item => !(view item).hasText with
      | none =>
          rw [List.find?_eq_none] at hitem
          simp only [true_iff]
          intro _ item hmem
          simpa using hitem item hmem
      | some item =>
          simp only [reduceCtorEq, false_iff]
          intro hall
          have hlacks := List.find?_some hitem
          simp [hall hsome item (List.mem_of_find?_eq_some hitem)] at hlacks

/-- **A filter that answers** keeps what its clauses accept. -/
theorem keep_eq_ok_iff :
    keep language view items source = .ok kept ↔
      ∃ expr, Expr.parse source = .ok expr ∧ Answerable expr view items ∧
        kept = items.filter fun item => expr.accepts (Text.normalized language) (view item) := by
  unfold keep
  cases Expr.parse source with
  | error e => simp
  | ok expr =>
      simp only [Except.ok.injEq, exists_eq_left']
      rw [← missingText?_eq_none_iff (Text.normalized language)]
      cases expr.missingText? (Text.normalized language) view items with
      | none => simp [eq_comm]
      | some e => simp

theorem Answerable.sublist (h : Answerable expr view items) {fewer : List α}
    (hfewer : fewer.Sublist items) : Answerable expr view fewer :=
  fun hreads item hitem => h hreads item (hfewer.subset hitem)

theorem answerable_append {first second : Expr} :
    Answerable (first ++ second) view items ↔
      Answerable first view items ∧ Answerable second view items := by
  unfold Answerable
  constructor
  · intro h
    constructor
    · rintro ⟨clause, hmem, hreads⟩
      exact h ⟨clause, List.mem_append_left _ hmem, hreads⟩
    · rintro ⟨clause, hmem, hreads⟩
      exact h ⟨clause, List.mem_append_right _ hmem, hreads⟩
  · rintro ⟨hfirst, hsecond⟩ ⟨clause, hmem, hreads⟩
    rcases List.mem_append.1 hmem with hmem | hmem
    · exact hfirst ⟨clause, hmem, hreads⟩
    · exact hsecond ⟨clause, hmem, hreads⟩

theorem accepts_append (first second : Expr) (language : String) (subject : Subject) :
    Expr.accepts (first ++ second) language subject
      = (Expr.accepts first language subject && Expr.accepts second language subject) :=
  List.all_append

end Keep

/-! ## §3. The law. -/

theorem parse_comma_eq_ok {a b : String} {clauses : Expr} :
    Expr.parse (a ++ "," ++ b) = .ok clauses ↔
      ∃ first second, Expr.parse a = .ok first ∧ Expr.parse b = .ok second ∧
        clauses = first ++ second := by
  simp only [parse_eq_ok_iff]
  rw [clauseTexts_comma]
  constructor
  · intro h
    have hswapped := List.Forall₂.flip (R := fun clause text => readClause text = .ok clause) h
    exact ⟨_, _, (List.forall₂_take_append _ _ _ hswapped).flip,
      (List.forall₂_drop_append _ _ _ hswapped).flip, (List.take_append_drop _ clauses).symm⟩
  · rintro ⟨first, second, hfirst, hsecond, rfl⟩
    exact List.rel_append hfirst hsecond

/-- **Filters joined by a comma.**  The clauses of `a,b` are those of `a` and then those of `b`; if
one of the two cannot be read, the error is that of the first piece at fault.  Where filtering by
`a,b` answers, so does filtering by `a`, by `b`, by `b,a`, and by `b` after `a`; what is kept is a
part of what came in, in its order, is what both keep, and is kept when it is filtered again. -/
theorem keep_comma {α : Type} [DecidableEq α] (language : String) (view : α → Subject)
    (items : List α) (a b : String) :
    (∀ clauses, Expr.parse (a ++ "," ++ b) = .ok clauses ↔
        ∃ first second, Expr.parse a = .ok first ∧ Expr.parse b = .ok second ∧
          clauses = first ++ second) ∧
      (∀ e, Expr.parse (a ++ "," ++ b) = .error e ↔ FirstFault (pieces (a ++ "," ++ b)) e) ∧
      ∀ kept, keep language view items (a ++ "," ++ b) = .ok kept →
        kept.Sublist items ∧
          keep language view items (b ++ "," ++ a) = .ok kept ∧
          keep language view kept (a ++ "," ++ b) = .ok kept ∧
          ∃ keptByA keptByB, keep language view items a = .ok keptByA ∧
            keep language view items b = .ok keptByB ∧
            keep language view keptByA b = .ok kept ∧
            kept = items.filter fun item => item ∈ keptByA ∧ item ∈ keptByB := by
  refine ⟨fun clauses => parse_comma_eq_ok, fun e => parse_eq_error_iff, fun kept h => ?_⟩
  obtain ⟨clauses, hparse, hanswer, rfl⟩ := keep_eq_ok_iff.1 h
  obtain ⟨first, second, hfirst, hsecond, rfl⟩ := parse_comma_eq_ok.1 hparse
  obtain ⟨hanswerA, hanswerB⟩ := answerable_append.1 hanswer
  refine ⟨List.filter_sublist, ?_, ?_, _, _, keep_eq_ok_iff.2 ⟨first, hfirst, hanswerA, rfl⟩,
    keep_eq_ok_iff.2 ⟨second, hsecond, hanswerB, rfl⟩, ?_, ?_⟩
  · refine keep_eq_ok_iff.2 ⟨second ++ first, parse_comma_eq_ok.2 ⟨_, _, hsecond, hfirst, rfl⟩,
      answerable_append.2 ⟨hanswerB, hanswerA⟩, ?_⟩
    simp only [accepts_append, Bool.and_comm]
  · refine keep_eq_ok_iff.2 ⟨first ++ second, hparse, hanswer.sublist List.filter_sublist, ?_⟩
    rw [List.filter_filter]
    simp only [Bool.and_self]
  · refine keep_eq_ok_iff.2 ⟨second, hsecond, hanswerB.sublist List.filter_sublist, ?_⟩
    rw [List.filter_filter]
    simp only [accepts_append, Bool.and_comm]
  · refine List.filter_congr fun item hitem => ?_
    rw [accepts_append]
    simp [List.mem_filter, hitem]

/-- Of three methods, one is public and has one parameter. -/
def threeMethods : List String :=
  ["public void open(String owner)", "private void audit(int n)", "public int size()"]

theorem keep_public_unary :
    keep "java" Subject.snippet threeMethods ("public=true" ++ "," ++ "params=1")
        = .ok ["public void open(String owner)"] ∧
      keep "java" Subject.snippet threeMethods ("params=1" ++ "," ++ "public=true")
        = .ok ["public void open(String owner)"] ∧
      keep "java" Subject.snippet ["public void open(String owner)"]
        ("public=true" ++ "," ++ "params=1") = .ok ["public void open(String owner)"] := by
  have hkept : keep "java" Subject.snippet threeMethods ("public=true" ++ "," ++ "params=1")
      = .ok ["public void open(String owner)"] := by decide +kernel
  obtain ⟨-, hswapped, hagain, -⟩ :=
    (keep_comma "java" Subject.snippet threeMethods "public=true" "params=1").2.2 _ hkept
  exact ⟨hkept, hswapped, hagain⟩

end Filter

end CodeSurvey
