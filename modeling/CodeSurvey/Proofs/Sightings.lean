/-
  Extraction with and without some nodes.

  Two pieces of work are `Related` if they compile the same queries one after the other, fail alike
  and come to related results.  That is kept by doing one thing after another, so the two
  extractions of a file, with and without the nodes that `drop` holds of, are compared step by step:

      what is read off a node                 the same                   (`fieldText_without`, …)
      a function with its complexity          the same                   (`related_functionOf`)
      the sightings of a query                the same, each without     (`related_sightings`)
      the candidates, if the rule's are       the same                   (`related_candidates`)

  Main results: so is the whole extraction, if the rule makes the same of all that is seen
  (`related_arranged`, and `related_credited` where types gain methods that stand elsewhere).
  Nothing that a field leads to may be dropped (`Spares`), and the query must overlook comments.
-/
import CodeSurvey.Proofs.Extraction
import CodeSurvey.Proofs.Overlooking
import CodeSurvey.Proofs.Reading

namespace CodeSurvey

open Syntax Query Extract

/-! ## §1. Memories of what was compiled. -/

namespace Query

/-- All that is remembered was compiled from its text, with whatever grammar. -/
def Memo.Genuine (m : Memo) : Prop :=
  ∀ language query c, m.find? language query = some c → ∃ g, Query.compile g query = .ok c

theorem Memo.genuine_nil : Memo.Genuine [] := by
  intro language query c hfound
  cases hfound

theorem Memo.Genuine.compile {m : Memo} (h : m.Genuine) (d : Dialect) (query : String) :
    (m.compile d query).2.Genuine ∧
      ∀ c, (m.compile d query).1 = .ok c → ∃ g, Query.compile g query = .ok c := by
  rcases Memo.compile_cases m d query with
    ⟨c, hfound, heq⟩ | ⟨fault, -, -, heq⟩ | ⟨c, -, hc, heq⟩
  · rw [heq]
    refine ⟨h, fun c' hok => ?_⟩
    cases hok
    exact h _ _ _ hfound
  · rw [heq]
    refine ⟨h, fun c' hok => ?_⟩
    cases hok
  · rw [heq]
    refine ⟨fun language query' c' hfound => ?_, fun c' hok => ?_⟩
    · rw [Memo.find?_cons] at hfound
      split at hfound
      · rename_i hhere
        cases hfound
        exact ⟨d.grammar, hhere.2 ▸ hc⟩
      · exact h _ _ _ hfound
    · cases hok
      exact ⟨d.grammar, hc⟩

/-- What the grammar accepts is compiled, be it remembered or not. -/
theorem Memo.Genuine.compile_accepted {m : Memo} (h : m.Genuine) {d : Dialect}
    {check : List Rule → Bool} {query : String} (haccepted : Accepted d.grammar check query) :
    ∃ c m', m.compile d query = (.ok c, m') ∧ check c.rules = true ∧ m'.Genuine := by
  obtain ⟨c, hc, hcheck⟩ := haccepted
  have hgenuine := (h.compile d query).1
  rcases Memo.compile_cases m d query with
    ⟨c', hfound, heq⟩ | ⟨fault, -, hfault, -⟩ | ⟨c', -, hc', heq⟩
  · -- remembered from whatever grammar, with the same rules
    obtain ⟨g, hg⟩ := h _ _ _ hfound
    rw [heq] at hgenuine ⊢
    exact ⟨c', m, rfl, rules_eq_of_compile hc hg ▸ hcheck, hgenuine⟩
  · rw [hc] at hfault
    cases hfault
  · rw [heq] at hgenuine ⊢
    exact ⟨c', _, rfl, rules_eq_of_compile hc hc' ▸ hcheck, hgenuine⟩

end Query

/-! ## §2. Work that is related. -/

namespace Extract

/-- The same failure, or results that are related, with one memory in the end. -/
inductive Alike {α β : Type} (R : α → β → Prop) :
    Except String α × Memo → Except String β × Memo → Prop where
  | failed (message : String) {m : Memo} (hm : m.Genuine) :
      Alike R (.error message, m) (.error message, m)
  | done {a : α} {b : β} {m : Memo} (h : R a b) (hm : m.Genuine) : Alike R (.ok a, m) (.ok b, m)

/-- Two pieces of work that end alike from every memory of what was compiled. -/
def Related {α β : Type} (R : α → β → Prop) (x : Extraction α) (y : Extraction β) : Prop :=
  ∀ m : Memo, m.Genuine → Alike R (x.run m) (y.run m)

namespace Related

variable {α β γ δ : Type} {R : α → β → Prop} {S : γ → δ → Prop}

theorem pure {a : α} {b : β} (h : R a b) : Related R (pure a) (pure b) :=
  fun _ hm => .done h hm

theorem bind {x : Extraction α} {y : Extraction β} {f : α → Extraction γ} {g : β → Extraction δ}
    (hx : Related R x y) (hf : ∀ a b, R a b → Related S (f a) (g b)) :
    Related S (x >>= f) (y >>= g) := by
  intro m hm
  have halike := hx m hm
  rw [run_bind, run_bind]
  generalize x.run m = rx at halike ⊢
  generalize y.run m = ry at halike ⊢
  cases halike with
  | failed message hm' => exact .failed message hm'
  | @done a b m' hab hm' => exact hf a b hab m' hm'

theorem map {x : Extraction α} {y : Extraction β} {f : α → γ} {g : β → δ}
    (hx : Related R x y) (hf : ∀ a b, R a b → S (f a) (g b)) : Related S (f <$> x) (g <$> y) := by
  rw [← bind_pure_comp, ← bind_pure_comp]
  exact hx.bind fun a b hab => .pure (hf a b hab)

/-- A list is worked through in step with its image. -/
theorem mapM {f : α → Extraction γ} {g : β → Extraction γ} {k : α → β} : ∀ {as : List α},
    (∀ a ∈ as, Related Eq (f a) (g (k a))) → Related Eq (as.mapM f) ((as.map k).mapM g) := by
  intro as
  induction as with
  | nil => exact fun _ => .pure rfl
  | cons a as ih =>
      intro h
      rw [List.map_cons, List.mapM_cons, List.mapM_cons]
      refine (h a List.mem_cons_self).bind fun c _ hc => ?_
      refine (ih fun a' ha' => h a' (List.mem_cons_of_mem a ha')).bind fun cs _ hcs => ?_
      subst hc hcs
      exact .pure rfl

/-- Work with the same results is the same. -/
theorem run_eq {x y : Extraction α} (h : Related Eq x y) {m : Memo} (hm : m.Genuine) :
    x.run m = y.run m := by
  have halike := h m hm
  generalize x.run m = rx at halike ⊢
  generalize y.run m = ry at halike ⊢
  cases halike with
  | failed message _ => rfl
  | done hab _ => rw [hab]

/-- Compiling is the same for files of one dialect. -/
theorem compiled (p : Parsed) {q : Parsed} (hdialect : q.dialect = p.dialect) (query : String) :
    Related (fun c c' => c' = c ∧ ∃ g, compile g query = .ok c)
      (compiled p query) (compiled q query) := by
  intro m hm
  rw [run_compiled, run_compiled, hdialect]
  obtain ⟨hgenuine, hmade⟩ := hm.compile p.dialect query
  cases hresult : (m.compile p.dialect query).1 with
  | error fault => exact .failed _ hgenuine
  | ok q => exact .done ⟨rfl, hmade q hresult⟩ hgenuine

end Related

/-! ## §3. What is read off a node. -/

/-- Nothing is dropped that a field leads to. -/
structure Spares (drop : Tree → Bool) (root : Tree) : Prop where
  droppable : Droppable drop
  fields : ∀ n ∈ root.nodes, ∀ field c, n.childByField field = some c → drop c = false

end Extract

/-- The parsed file, without the nodes to be dropped. -/
def Syntax.Parsed.without (drop : Tree → Bool) (p : Parsed) : Parsed :=
  { p with tree := { p.tree with root := p.tree.root.without drop } }

namespace Extract

section Reading

variable {drop : Tree → Bool} {p : Parsed} {t : Tree}

@[simp] theorem text_without (t : Tree) :
    (p.without drop).tree.text (t.without drop) = p.tree.text t := by
  unfold SyntaxTree.text SyntaxTree.text?
  rw [Tree.start_without, Tree.stop_without]
  rfl

@[simp] theorem elementOf_without (t : Tree) (name : String) (kind : ElementKind) :
    elementOf (p.without drop) (t.without drop) name kind = elementOf p t name kind := by
  unfold elementOf SyntaxTree.startLine SyntaxTree.endLine
  rw [Tree.start_without, Tree.stop_without, text_without]
  rfl

@[simp] theorem importOf_without (t : Tree) (path : String) (shortName : Option String) :
    importOf (p.without drop) (t.without drop) path shortName = importOf p t path shortName :=
  elementOf_without t _ _

@[simp] theorem classOf_without (t : Tree) (name classKind : String) (methods fields : Nat) :
    classOf (p.without drop) (t.without drop) name classKind methods fields
      = classOf p t name classKind methods fields :=
  elementOf_without t _ _

theorem childByField_spared (hs : Spares drop p.tree.root) (ht : t ∈ p.tree.root.nodes)
    (field : String) :
    (t.without drop).childByField field = (t.childByField field).map (Tree.without drop) :=
  Tree.childByField_without hs.droppable (hs.fields t ht field)

theorem fieldText_without (hs : Spares drop p.tree.root) (ht : t ∈ p.tree.root.nodes)
    (field : String) :
    fieldText (p.without drop) (t.without drop) field = fieldText p t field := by
  unfold fieldText
  rw [childByField_spared hs ht, Option.map_map]
  exact congrArg (Option.map · _) (funext text_without)

theorem isComment_without (t : Tree) : isComment (t.without drop) = isComment t := by
  unfold isComment
  rw [Tree.kind_without]

theorem childTexts_without (hd : Droppable drop) (t : Tree) (skipped : List String) :
    childTexts (p.without drop) (t.without drop) skipped = childTexts p t skipped := by
  unfold childTexts
  rw [Tree.namedChildren_without, filter_kept, List.map_map]
  · exact congrArg (List.map · _) (funext text_without)
  · intro c _
    rw [isComment_without, Tree.kind_without]
  · intro c _ hc
    cases hdrop : drop c with
    | false => rfl
    | true => simp [hd.comment c hdrop] at hc

theorem kept_of_kind (hd : Droppable drop) {c : Tree} (hc : isCommentKind c.kind = false) :
    drop c = false := by
  cases hdrop : drop c with
  | false => rfl
  | true =>
      have hcomment : isCommentKind c.kind = true := hd.comment c hdrop
      rw [hc] at hcomment
      cases hcomment

/-- The texts of the children of the node in a field. -/
theorem fieldTexts_without (hs : Spares drop p.tree.root) (ht : t ∈ p.tree.root.nodes)
    (field : String) (skipped : List String) :
    (((t.without drop).childByField field).map
        fun q => childTexts (p.without drop) q skipped).getD []
      = ((t.childByField field).map fun q => childTexts p q skipped).getD [] := by
  rw [childByField_spared hs ht, Option.map_map]
  simp only [Function.comp_def, childTexts_without hs.droppable]

/-- A question about kinds that no comment has is answered by what is kept. -/
theorem find?_named_without (hd : Droppable drop) (g : String → Bool)
    (hg : ∀ kind, g kind = true → isCommentKind kind = false) (t : Tree) :
    (t.without drop).namedChildren.find? (fun c => g c.kind)
      = (t.namedChildren.find? fun c => g c.kind).map (Tree.without drop) := by
  rw [Tree.namedChildren_without]
  refine find?_kept (fun c => by rw [Tree.kind_without]) fun c hc => ?_
  have hkind : g c.kind = true := List.find?_some (p := fun c : Tree => g c.kind) hc
  exact kept_of_kind hd (hg c.kind hkind)

theorem not_commentKind_of_beq {kind : String} (h : isCommentKind kind = false) :
    ∀ k, (k == kind) = true → isCommentKind k = false := by
  intro k hk
  rwa [eq_of_beq hk]

theorem childOfKind_without (hd : Droppable drop) (kind : String)
    (hkind : isCommentKind kind = false) (t : Tree) :
    (t.without drop).childOfKind kind = (t.childOfKind kind).map (Tree.without drop) := by
  unfold Tree.childOfKind
  rw [Tree.children_without]
  refine find?_kept (fun c => by rw [Tree.kind_without]) fun c hc => ?_
  have hc : (c.kind == kind) = true := List.find?_some (p := fun c : Tree => c.kind == kind) hc
  exact kept_of_kind hd (not_commentKind_of_beq hkind c.kind hc)

theorem hasChild_without (hd : Droppable drop) (kind : String)
    (hkind : isCommentKind kind = false) (t : Tree) :
    hasChild (t.without drop) kind = hasChild t kind := by
  unfold hasChild
  rw [childOfKind_without hd kind hkind, Option.isSome_map]

theorem countChildren_without (hd : Droppable drop) (kinds : List String)
    (hkinds : kinds.any isCommentKind = false) (t : Tree) :
    countChildren (t.without drop) kinds = countChildren t kinds := by
  unfold countChildren
  rw [Tree.namedChildren_without]
  refine countP_kept (fun c _ => by rw [Tree.kind_without]) fun c _ hc => ?_
  refine kept_of_kind hd (Bool.eq_false_iff.2 fun hcomment => ?_)
  have hkind : c.kind ∈ kinds := List.contains_iff_mem.1 hc
  exact Bool.eq_false_iff.1 hkinds (List.any_eq_true.2 ⟨c.kind, hkind, hcomment⟩)

/-- The first named child stays the first, if it stays. -/
theorem head?_named_without (h : ∀ c, t.namedChildren.head? = some c → drop c = false) :
    (t.without drop).namedChildren.head? = t.namedChildren.head?.map (Tree.without drop) := by
  rw [Tree.namedChildren_without]
  cases hnamed : t.namedChildren with
  | nil => rfl
  | cons c cs =>
      have hc : drop c = false := h c (by rw [hnamed]; rfl)
      rw [List.filter_cons_of_pos (by simp [hc])]
      rfl

theorem parent_without (s : Spot) :
    (s.without drop).parent = s.parent.map (Spot.without drop) := by
  obtain ⟨t, _ | ⟨up, above⟩⟩ := s
  · rfl
  · rfl

/-- **Functions**: what is known of one is the same, its complexity included. -/
theorem related_functionOf (hd : Droppable drop) {decisions : String}
    (hover : Ensures Rule.overlooks decisions) (t : Tree) (name : String)
    {facts facts' : FunctionFacts} (hfacts : facts' = facts) :
    Related Eq (functionOf p t name facts decisions)
      (functionOf (p.without drop) (t.without drop) name facts' decisions) := by
  subst hfacts
  have hcount : Related Eq (complexity p t decisions)
      (complexity (p.without drop) (t.without drop) decisions) := by
    refine (Related.compiled p (q := p.without drop) rfl decisions).bind ?_
    rintro q q' ⟨hsame, g, hq⟩
    subst hsame
    refine .pure (congrArg (1 + ·) ?_)
    exact (Compiled.length_captures_without hd (List.all_eq_true.2 (hover g q' hq)) _ t).symm
  refine hcount.bind fun n n' hn => .pure ?_
  rw [elementOf_without, hn]

end Reading

/-! ## §4. What is sighted. -/

/-- The sighting, without the nodes to be dropped. -/
def Sighting.without (drop : Tree → Bool) (s : Sighting) : Sighting :=
  ⟨s.role, s.spot.without drop, s.name, Bindings.without drop s.bindings⟩

/-- What the sightings of a query are: the main node is captured in the match, and so is all else,
by heads of the query. -/
structure Seen (p : Parsed) (query : String) (s : Sighting) : Prop where
  main : (s.role, s.spot) ∈ s.bindings
  captured : ∃ g q, compile g query = .ok q ∧ ∀ x ∈ s.bindings, Captured p.tree.root q.heads x

section Sightings

variable {drop : Tree → Bool} {p : Parsed} {query : String}

namespace Sighting

variable (s : Sighting)

@[simp] theorem role_without : (s.without drop).role = s.role := rfl

@[simp] theorem name_without : (s.without drop).name = s.name := rfl

@[simp] theorem spot_without : (s.without drop).spot = s.spot.without drop := rfl

@[simp] theorem bindings_without :
    (s.without drop).bindings = Bindings.without drop s.bindings := rfl

end Sighting

theorem captured?_without (b : Bindings) (name : String) :
    captured? (Bindings.without drop b) name = (captured? b name).map (Spot.without drop) := by
  unfold captured?
  induction b with
  | nil => rfl
  | cons x b ih =>
      rw [Bindings.without, List.map_cons, List.lookup_cons, List.lookup_cons]
      split
      · rfl
      · exact ih

theorem firstOf?_without (b : Bindings) (names : List String) :
    firstOf? (Bindings.without drop b) names
      = (firstOf? b names).map fun x => (x.1, x.2.without drop) := by
  unfold firstOf? Bindings.without
  rw [List.find?_map]
  rfl

theorem startsBefore_without (a b : Match) :
    startsBefore (a.without drop) (b.without drop) = startsBefore a b := by
  obtain ⟨i, _ | ⟨x, xs⟩⟩ := a
  · rfl
  obtain ⟨j, _ | ⟨y, ys⟩⟩ := b
  · rfl
  show precedes (x.2.tree.without drop) (y.2.tree.without drop) = precedes x.2.tree y.2.tree
  unfold precedes
  rw [Tree.start_without, Tree.start_without, Tree.id_without, Tree.id_without]

/-- What the matches of a compiled query are about. -/
def sighted (p : Parsed) (roles : List String) (q : Compiled) : List Sighting :=
  let found := q.matchesIn (Text.octets p.tree.source) p.tree.root
  ((found.mergeSort fun a b => !startsBefore b a).map Match.bindings).filterMap fun b =>
    (firstOf? b roles).map fun (role, spot) =>
      ⟨role, spot, (captured? b "name").map fun s => p.tree.text s.tree, b⟩

theorem sightings_eq (p : Parsed) (query : String) (roles : List String) :
    sightings p query roles = sighted p roles <$> compiled p query := by
  rw [sightings, matchesOf, bind_assoc, ← bind_pure_comp]
  simp only [pure_bind]
  rfl

theorem run_sightings_nil {q : Compiled} (hq : compile p.dialect.grammar query = .ok q)
    (roles : List String) :
    (sightings p query roles).run []
      = (.ok (sighted p roles q), [((p.dialect.language, query), q)]) := by
  have hcompile : Memo.compile [] p.dialect query
      = (.ok q, [((p.dialect.language, query), q)]) := by
    rcases Memo.compile_cases [] p.dialect query with
      ⟨c, hfound, -⟩ | ⟨fault, -, hfault, -⟩ | ⟨c, -, hc, heq⟩
    · cases hfound
    · rw [hq] at hfault
      cases hfault
    · rw [hq] at hc
      cases hc
      exact heq
  rw [sightings_eq, run_map, run_compiled, hcompile]
  rfl

/-- The matches come in the same order. -/
theorem matches_without (hd : Droppable drop) {q : Compiled} (hover : q.overlooks = true)
    (source : List UInt8) (root : Tree) :
    ((q.matchesIn source (root.without drop)).mergeSort fun a b => !startsBefore b a).map
        Match.bindings
      = (((q.matchesIn source root).mergeSort fun a b => !startsBefore b a).map
          Match.bindings).map (Bindings.without drop) := by
  have hsorted := List.map_mergeSort (r := fun a b : Match => !startsBefore b a)
    (s := fun a b : Match => !startsBefore b a) (f := Match.without drop)
    (l := q.matchesIn source root) fun a _ b _ => by rw [startsBefore_without]
  rw [Compiled.matchesIn_without hd hover, ← hsorted, List.map_map, List.map_map]
  rfl

theorem sighted_without (hd : Droppable drop) {q : Compiled} (hover : q.overlooks = true)
    (p : Parsed) (roles : List String) :
    sighted (p.without drop) roles q = (sighted p roles q).map (Sighting.without drop) := by
  have hfound := matches_without hd hover (Text.octets p.tree.source) p.tree.root
  refine (congrArg (List.filterMap _) hfound).trans ?_
  rw [List.filterMap_map, sighted, List.map_filterMap]
  refine List.filterMap_congr fun b _ => ?_
  rw [Function.comp_apply, firstOf?_without, captured?_without, Option.map_map, Option.map_map,
    Option.map_map]
  refine congrArg (Option.map · _) (funext fun x => ?_)
  simp only [Function.comp_apply, Sighting.without, Function.comp_def, Spot.without, text_without]

theorem seen_of_mem_sighted {g : Grammar} {q : Compiled} (hq : compile g query = .ok q)
    (hover : q.overlooks = true) {roles : List String} {s : Sighting}
    (hs : s ∈ sighted p roles q) : Seen p query s := by
  obtain ⟨b, hb, hs⟩ := List.mem_filterMap.1 hs
  obtain ⟨⟨role, spot⟩, hfirst, rfl⟩ := Option.map_eq_some_iff.1 hs
  obtain ⟨m, hm, rfl⟩ := List.mem_map.1 hb
  exact ⟨List.mem_of_find?_eq_some hfirst, g, q, hq,
    Compiled.binds hover (List.mem_mergeSort.1 hm)⟩

/-- **The sightings of a query.** -/
theorem related_sightings (hd : Droppable drop) (hover : Ensures Rule.overlooks query)
    (roles : List String) :
    Related (fun found found' => found' = found.map (Sighting.without drop) ∧
        ∀ s ∈ found, Seen p query s)
      (sightings p query roles) (sightings (p.without drop) query roles) := by
  rw [sightings_eq, sightings_eq]
  refine (Related.compiled p (q := p.without drop) rfl query).map ?_
  rintro q q' ⟨hsame, g, hq⟩
  subst hsame
  have hover : q'.overlooks = true := List.all_eq_true.2 (hover g q' hq)
  exact ⟨sighted_without hd hover p roles, fun s hs => seen_of_mem_sighted hq hover hs⟩

/-- **The candidates**, if the rule makes the same of each sighting. -/
theorem related_candidates {rule rule' : Sighting → Extraction (Option Element)}
    {found : List Sighting} (h : ∀ s ∈ found, Related Eq (rule s) (rule' (s.without drop))) :
    Related Eq (candidates rule found)
      (candidates rule' (found.map (Sighting.without drop))) := by
  refine Related.bind (R := Eq) (.mapM fun s hs => ?_) fun made made' hmade => ?_
  · refine (h s hs).bind fun e e' he => .pure ?_
    subst he
    rw [Sighting.spot_without, Spot.tree_without, Tree.start_without]
  · subst hmade
    exact .pure rfl

namespace Seen

variable {s : Sighting}

theorem inside_of_captured (h : Seen p query s) {name : String} {spot : Spot}
    (hcaptured : captured? s.bindings name = some spot) : spot.tree ∈ p.tree.root.nodes := by
  obtain ⟨g, q, -, hall⟩ := h.captured
  obtain ⟨before, after, hsplit, -⟩ := List.lookup_eq_some_iff.1 hcaptured
  exact (hall (name, spot) (by rw [hsplit]; simp)).inside

theorem inside (h : Seen p query s) : s.spot.tree ∈ p.tree.root.nodes := by
  obtain ⟨g, q, -, hall⟩ := h.captured
  exact (hall _ h.main).inside

/-- A main node under a name that stands for one kind is of that kind. -/
theorem kind_of_reserves (h : Seen p query s) {kind : String}
    (hreserves : Ensures (Rule.reserves s.role kind) query) : s.spot.tree.kind = kind := by
  obtain ⟨g, q, hq, hall⟩ := h.captured
  obtain ⟨head, hhead, hname, hpasses⟩ := (hall _ h.main).head
  obtain ⟨r, hr, hhead⟩ := List.mem_flatMap.1 hhead
  exact Rule.kind_of_reserves (hreserves g q hq r hr) hhead hname hpasses

end Seen

/-! ## §5. Whole extractions. -/

section Extractions

variable {rule : Parsed → Sighting → Extraction (Option Element)}

/-- **Extraction by a rule**: the same with and without the nodes to be dropped, if the rule makes
the same of all that is seen. -/
theorem related_arranged (hd : Droppable drop) (hover : Ensures Rule.overlooks query)
    (roles : List String)
    (hrule : ∀ s, Seen p query s →
      Related Eq (rule p s) (rule (p.without drop) (s.without drop))) :
    Related Eq (sightings p query roles >>= fun found => arrange <$> candidates (rule p) found)
      (sightings (p.without drop) query roles >>=
        fun found => arrange <$> candidates (rule (p.without drop)) found) := by
  refine (related_sightings hd hover roles).bind ?_
  rintro found found' ⟨hsame, hseen⟩
  subst hsame
  exact (related_candidates fun s hfound => hrule s (hseen s hfound)).map
    fun _ _ hmade => congrArg arrange hmade

/-- The same where types gain the methods that stand elsewhere. -/
theorem related_credited (hd : Droppable drop) (hover : Ensures Rule.overlooks query)
    (roles : List String)
    (hrule : ∀ s, Seen p query s →
      Related Eq (rule p s) (rule (p.without drop) (s.without drop)))
    {owner? : Parsed → Sighting → Option (String × Nat)}
    (howner : ∀ s, Seen p query s → owner? (p.without drop) (s.without drop) = owner? p s)
    (exempt : String) :
    Related Eq
      (sightings p query roles >>= fun found => candidates (rule p) found >>= fun made =>
        pure (arrange (creditMethods exempt (found.filterMap (owner? p)) made)))
      (sightings (p.without drop) query roles >>= fun found =>
        candidates (rule (p.without drop)) found >>= fun made => pure (arrange
          (creditMethods exempt (found.filterMap (owner? (p.without drop))) made))) := by
  refine (related_sightings hd hover roles).bind ?_
  rintro found found' ⟨hsame, hseen⟩
  subst hsame
  have howners : (found.map (Sighting.without drop)).filterMap (owner? (p.without drop))
      = found.filterMap (owner? p) := by
    rw [List.filterMap_map]
    exact List.filterMap_congr fun s hfound => howner s (hseen s hfound)
  refine (related_candidates fun s hfound => hrule s (hseen s hfound)).bind ?_
  rintro made made' rfl
  rw [howners]
  exact .pure rfl

end Extractions

end Sightings

end Extract

end CodeSurvey
