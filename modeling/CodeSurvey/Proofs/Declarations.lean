/-
  Declarations that have a name.

  The queries that find declarations ask for a node of some kind with its name in a field.  If each
  such node has exactly one name, each gives one sighting, and what is observed of the elements that
  an extraction makes comes from these nodes one by one:

      work that succeeds, whatever is remembered                     (`Gives`)
      the matches of a form are its places                           (`Form.filterMap_matchesIn`)
      what is observed of sightings is what is seen at the places    (`sighted_perm`)
      sorting and dropping repeats loses nothing of it               (`arrange_observed`)

  Main results, `gives_arranged` and `gives_credited`: an extraction succeeds and its elements, as far
  as they are observed, are those of the places, in the order of their starts.
-/
import CodeSurvey.Proofs.Shapes
import CodeSurvey.Proofs.Sightings

namespace CodeSurvey.Extract

open Syntax Query

/-! ## §1. Work that succeeds. -/

/-- The work succeeds from every memory of what was compiled, with a result of some kind. -/
def Gives {α : Type} (P : α → Prop) (x : Extraction α) : Prop :=
  ∀ m : Memo, m.Genuine → ∃ a m', x.run m = (.ok a, m') ∧ m'.Genuine ∧ P a

namespace Gives

variable {α β : Type} {P : α → Prop} {Q : β → Prop}

theorem pure {a : α} (h : P a) : Gives P (pure a) :=
  fun m hm => ⟨a, m, rfl, hm, h⟩

theorem imp {P' : α → Prop} {x : Extraction α} (hx : Gives P x) (h : ∀ a, P a → P' a) :
    Gives P' x := by
  intro m hm
  obtain ⟨a, m', hrun, hm', ha⟩ := hx m hm
  exact ⟨a, m', hrun, hm', h a ha⟩

theorem bind {x : Extraction α} {f : α → Extraction β} (hx : Gives P x)
    (hf : ∀ a, P a → Gives Q (f a)) : Gives Q (x >>= f) := by
  intro m hm
  obtain ⟨a, m', hrun, hm', ha⟩ := hx m hm
  rw [run_bind, hrun]
  exact hf a ha m' hm'

theorem map {x : Extraction α} {f : α → β} (hx : Gives P x) (hf : ∀ a, P a → Q (f a)) :
    Gives Q (f <$> x) := by
  rw [← bind_pure_comp]
  exact hx.bind fun a ha => .pure (hf a ha)

/-- What the grammar accepts is compiled. -/
theorem compiled {p : Parsed} {check : List Rule → Bool} {query : String}
    (haccepted : Accepted p.dialect.grammar check query) :
    Gives (fun c => check c.rules = true ∧ ∃ g, compile g query = .ok c) (compiled p query) := by
  intro m hm
  obtain ⟨c, m', hcompile, hcheck, hm'⟩ := hm.compile_accepted haccepted
  have hmade := (hm.compile p.dialect query).2
  rw [run_compiled, hcompile]
  rw [hcompile] at hmade
  exact ⟨c, m', rfl, hm', hcheck, hmade c rfl⟩

/-- A list is worked through; what is observed of the results is told by what went in. -/
theorem mapM {γ : Type} {f : α → Extraction β} {seen : α → Option γ} {obs : β → Option γ} :
    ∀ {as : List α}, (∀ a ∈ as, Gives (fun b => obs b = seen a) (f a)) →
      Gives (fun bs => bs.filterMap obs = as.filterMap seen) (as.mapM f) := by
  intro as
  induction as with
  | nil => exact fun _ => .pure rfl
  | cons a as ih =>
      intro h
      rw [List.mapM_cons]
      refine (h a List.mem_cons_self).bind fun b hb => ?_
      refine (ih fun a' ha' => h a' (List.mem_cons_of_mem a ha')).bind fun bs hbs => .pure ?_
      rw [List.filterMap_cons, List.filterMap_cons, hb, hbs]

end Gives

/-- A function has an element, if its decision points can be counted. -/
theorem gives_functionOf {p : Parsed} {decisions : String}
    (haccepted : Accepted p.dialect.grammar (fun _ => true) decisions) (t : Tree)
    (name : String) (facts : FunctionFacts) :
    Gives (fun e => ∃ facts', e = elementOf p t name (.function facts'))
      (functionOf p t name facts decisions) := by
  have hcount : Gives (fun _ => True) (complexity p t decisions) :=
    (Gives.compiled haccepted).bind fun _ _ => .pure trivial
  exact hcount.bind fun n _ => .pure ⟨_, rfl⟩

/-! ## §2. Forms of declarations. -/

/-- A form of declaration: nodes of a kind whose name is a node of another, and the role under which
they are sighted. -/
structure Form where
  kind : String
  nameKind : String
  role : String

namespace Form

/-- The pattern that asks for such declarations. -/
def pattern (f : Form) : Pattern :=
  .node (.ofKind f.kind none [f.role])
    [(false, .node (.ofKind f.nameKind (some "name") ["name"]) [])]

/-- Is a node the name of such a declaration? -/
def isName (f : Form) (c : Tree) : Bool := c.isA f.nameKind && c.field == some "name"

/-- Every such declaration has exactly one name. -/
def Named (f : Form) (root : Tree) : Prop :=
  ∀ n ∈ root.nodes, n.isA f.kind = true → n.children.countP f.isName = 1

variable {f : Form} {root : Tree}

theorem startingAt_pattern (hroot : root.Numbered)
    (hsingle : (runs.lookup (f.kind, "name")).isNone = true) {s : Spot} (hs : s ∈ root.spots)
    (after : List Spot) :
    (f.pattern.startingAt s after).map Prod.fst
      = if s.tree.isA f.kind then
          (s.children.filter fun c => f.isName c.tree).map fun c => [(f.role, s), ("name", c)]
        else [] := by
  rw [pattern, map_startingAt_node, Head.fits_ofKind, Option.all_none, Bool.and_true]
  split
  · rename_i hkind
    have hsingle : (runs.lookup (s.tree.kind, "name")).isNone = true := by
      rw [Tree.kind_of_isA hkind]
      exact hsingle
    have hclosed : (Head.ofKind f.nameKind (some "name") ["name"]).Closed s.children :=
      Head.closed_children (hroot.children (mem_nodes_of_mem_spots hs)) hsingle
    rw [map_itemsAmong_single, map_among_node rfl rfl hclosed, List.map_flatMap]
    simp only [Head.fits_ofKind, Option.all_some]
    exact List.flatMap_pure_eq_map _ _
  · rfl

/-- **The matches of a form**: one for each place. -/
theorem matchesAt_pattern (hroot : root.Numbered) (hnamed : f.Named root)
    (hsingle : (runs.lookup (f.kind, "name")).isNone = true) {s : Spot} (hs : s ∈ root.spots) :
    (s.tree.isA f.kind = false ∧ f.pattern.matchesAt s = []) ∨
      (s.tree.isA f.kind = true ∧ ∃ c, f.pattern.matchesAt s = [[(f.role, s), ("name", c)]]) := by
  unfold Pattern.matchesAt
  dsimp only
  rw [startingAt_pattern hroot hsingle hs]
  cases hkind : s.tree.isA f.kind with
  | false => exact .inl ⟨rfl, rfl⟩
  | true =>
      -- the one name
      have hlength : (s.children.filter fun c => f.isName c.tree).length = 1 := by
        rw [← hnamed s.tree (mem_nodes_of_mem_spots hs) hkind, ← map_tree_children,
          List.countP_map, List.countP_eq_length_filter]
        rfl
      obtain ⟨c, hc⟩ := List.length_eq_one_iff.1 hlength
      refine .inr ⟨rfl, c, ?_⟩
      rw [if_pos rfl, hc]
      exact maximal_of_eq (List.cons_ne_nil _ _) (by simp)

theorem filterMap_matchesIn (hroot : root.Numbered) (hnamed : f.Named root)
    (hsingle : (runs.lookup (f.kind, "name")).isNone = true) {β : Type}
    {g : Bindings → Option β} {k : Spot → β}
    (hg : ∀ s c, g [(f.role, s), ("name", c)] = some (k s)) :
    (f.pattern.matchesIn root).filterMap g = (placesOf f.kind root).map k := by
  rw [pattern, matchesIn_node, placesOf, ← pattern, List.filterMap_flatMap]
  have hspots : ∀ s ∈ root.spots.filter fun s => 0 < s.tree.stop,
      (f.pattern.matchesAt s).filterMap g = if s.tree.isA f.kind then [k s] else [] := by
    intro s hs
    rcases matchesAt_pattern hroot hnamed hsingle (List.mem_of_mem_filter hs) with
      ⟨hkind, heq⟩ | ⟨hkind, c, heq⟩
    · rw [heq, hkind]
      rfl
    · rw [heq, hkind, List.filterMap_cons, hg]
      rfl
  rw [List.flatMap_congr hspots, ← flatMap_filter_ite]
  exact List.flatMap_pure_eq_map _ _

end Form

/-! ## §3. What is seen of a form. -/

/-- What a match is about, if it has one of the roles. -/
def sight? (p : Parsed) (roles : List String) (b : Bindings) : Option Sighting :=
  (firstOf? b roles).map fun (role, spot) =>
    ⟨role, spot, (captured? b "name").map fun s => p.tree.text s.tree, b⟩

/-- Does a rule capture anything under one of the names? -/
def speaksOf (names : List String) (r : Rule) : Bool :=
  r.heads.any fun h => h.captures.any names.contains

/-- Are the rules that speak of the forms just those that ask for them? -/
def declares (forms : List Form) (rules : List Rule) : Bool :=
  decide ((rules.filter (speaksOf (forms.map Form.role))).map Rule.plain?
    = (forms.map Form.pattern).map some)

/-- Forms that can be told apart, by roles that a query has. -/
def wellFormed (roles : List String) (forms : List Form) : Bool :=
  forms.all fun f => roles.contains f.role && f.role != "name"
    && (runs.lookup (f.kind, "name")).isNone

/-- What is seen at the place of a sighting, if it has one of the roles. -/
def Sighting.observed {β : Type} (names : List String) (k : Spot → β) (s : Sighting) : Option β :=
  if names.contains s.role then some (k s.spot) else none

theorem Sighting.observed_of_mem {β : Type} {names : List String} {s : Sighting}
    (h : s.role ∈ names) (k : Spot → β) : s.observed names k = some (k s.spot) :=
  if_pos (List.contains_iff_mem.2 h)

theorem Sighting.observed_of_notMem {β : Type} {names : List String} {s : Sighting}
    (h : s.role ∉ names) (k : Spot → β) : s.observed names k = none :=
  if_neg fun hrole => h (List.contains_iff_mem.1 hrole)

section Seen

variable {p : Parsed} {roles : List String} {forms : List Form} {q : Compiled}

theorem sighted_perm_matches (p : Parsed) (roles : List String) (q : Compiled) :
    (sighted p roles q).Perm
      ((q.rules.flatMap (·.matchesIn (Text.octets p.tree.source) p.tree.root)).filterMap
        (sight? p roles)) := by
  rw [← map_bindings_matchesIn]
  exact ((List.mergeSort_perm _ _).map _).filterMap _

/-- A match of a main node and a name. -/
theorem sight?_pair {role : String} (hrole : roles.contains role = true) (hne : role ≠ "name")
    (s c : Spot) : sight? p roles [(role, s), ("name", c)]
      = some ⟨role, s, some (p.tree.text c.tree), [(role, s), ("name", c)]⟩ := by
  have hfirst : firstOf? [(role, s), ("name", c)] roles = some (role, s) :=
    List.find?_cons_of_pos hrole
  have hname : captured? [(role, s), ("name", c)] "name" = some c := by
    unfold captured?
    rw [List.lookup_cons, beq_eq_false_iff_ne.2 (Ne.symm hne)]
    rfl
  rw [sight?, hfirst, hname]
  rfl

theorem sight?_form {f : Form} (hforms : wellFormed roles forms = true) (hf : f ∈ forms)
    (s c : Spot) : sight? p roles [(f.role, s), ("name", c)]
      = some ⟨f.role, s, some (p.tree.text c.tree), [(f.role, s), ("name", c)]⟩ := by
  have hgood := List.all_eq_true.1 hforms f hf
  simp only [Bool.and_eq_true, bne_iff_ne] at hgood
  exact sight?_pair hgood.1.1 hgood.1.2 s c

theorem role_mem_of_sight? {b : Bindings} {s : Sighting} (h : sight? p roles b = some s) :
    (s.role, s.spot) ∈ b := by
  unfold sight? at h
  obtain ⟨x, hx, rfl⟩ := Option.map_eq_some_iff.1 h
  exact List.mem_of_find?_eq_some hx

/-- A rule that does not speak of the forms is about something else. -/
theorem role_of_not_speaksOf {r : Rule} (hover : r.overlooks = true) {names : List String}
    (hspeaks : speaksOf names r = false) {source : List UInt8} {root : Tree} {b : Bindings}
    (hb : b ∈ r.matchesIn source root) {s : Sighting} (hs : sight? p roles b = some s) :
    names.contains s.role = false := by
  obtain ⟨-, h, hh, hcaptured, -⟩ := Rule.binds hover hb _ (role_mem_of_sight? hs)
  rw [Bool.eq_false_iff]
  intro hrole
  rw [Bool.eq_false_iff] at hspeaks
  exact hspeaks (List.any_eq_true.2 ⟨h, hh, List.any_eq_true.2 ⟨_, hcaptured, hrole⟩⟩)

/-- A rule that speaks of the forms asks for one of them. -/
theorem exists_form_of_speaksOf (hdeclares : declares forms q.rules = true) {r : Rule}
    (hr : r ∈ q.rules) (hspeaks : speaksOf (forms.map Form.role) r = true) :
    ∃ f ∈ forms, r.plain? = some f.pattern := by
  have hmem : r.plain? ∈ (q.rules.filter (speaksOf (forms.map Form.role))).map Rule.plain? :=
    List.mem_map_of_mem (List.mem_filter.2 ⟨hr, hspeaks⟩)
  rw [of_decide_eq_true hdeclares, List.map_map] at hmem
  obtain ⟨f, hf, heq⟩ := List.mem_map.1 hmem
  exact ⟨f, hf, heq.symm⟩

/-- **What is observed of some roles** comes of the patterns that speak of them. -/
theorem sighted_perm_speaking {β : Type} {names : List String} {ps : List Pattern}
    (hrules : (q.rules.filter (speaksOf names)).map Rule.plain? = ps.map some)
    (hover : ∀ r ∈ q.rules, r.overlooks = true) {g : Sighting → Option β}
    (hg : ∀ s, names.contains s.role = false → g s = none) :
    ((sighted p roles q).filterMap g).Perm
      ((ps.flatMap (·.matchesIn p.tree.root)).filterMap fun b => (sight? p roles b).bind g) := by
  refine ((sighted_perm_matches p roles q).filterMap _).trans (.of_eq ?_)
  rw [List.filterMap_filterMap, List.filterMap_flatMap]
  -- the rules that speak of something else have no part in it
  have hspeaking : ∀ r ∈ q.rules,
      (r.matchesIn (Text.octets p.tree.source) p.tree.root).filterMap
        (fun b => (sight? p roles b).bind g)
      = if speaksOf names r then
          (r.matchesIn (Text.octets p.tree.source) p.tree.root).filterMap
            (fun b => (sight? p roles b).bind g)
        else [] := by
    intro r hr
    split
    · rfl
    · rename_i hspeaks
      rw [Bool.not_eq_true] at hspeaks
      rw [List.filterMap_eq_nil_iff]
      intro b hb
      rw [Option.bind_eq_none_iff]
      intro s hs
      exact hg s (role_of_not_speaksOf (hover r hr) hspeaks hb hs)
  rw [List.flatMap_congr hspeaking, ← flatMap_filter_ite, ← List.filterMap_flatMap,
    flatMap_matchesIn_of_plain? _ _ hrules]

/-- **What is seen of the sightings** is what is seen at the places of the forms. -/
theorem sighted_perm {β : Type} (hdeclares : declares forms q.rules = true)
    (hover : ∀ r ∈ q.rules, r.overlooks = true) (hforms : wellFormed roles forms = true)
    (hroot : p.tree.root.Numbered) (hnamed : ∀ f ∈ forms, f.Named p.tree.root) (k : Spot → β) :
    ((sighted p roles q).filterMap (Sighting.observed (forms.map Form.role) k)).Perm
      ((forms.flatMap fun f => placesOf f.kind p.tree.root).map k) := by
  refine (sighted_perm_speaking (of_decide_eq_true hdeclares) hover fun s hrole => ?_).trans
    (.of_eq ?_)
  · rw [Sighting.observed, hrole]
    rfl
  rw [List.filterMap_flatMap, List.flatMap_map, List.map_flatMap]
  refine List.flatMap_congr fun f hf => ?_
  have hgood := List.all_eq_true.1 hforms f hf
  rw [Bool.and_eq_true] at hgood
  refine Form.filterMap_matchesIn hroot (hnamed f hf) hgood.2 fun s c => ?_
  rw [sight?_form hforms hf]
  exact if_pos (List.contains_iff_mem.2 (List.mem_map_of_mem hf))

/-- A sighting in the role of a form has a name. -/
theorem name_of_sighted (hdeclares : declares forms q.rules = true)
    (hover : ∀ r ∈ q.rules, r.overlooks = true) (hforms : wellFormed roles forms = true)
    (hroot : p.tree.root.Numbered) (hnamed : ∀ f ∈ forms, f.Named p.tree.root) {s : Sighting}
    (hs : s ∈ sighted p roles q) (hrole : (forms.map Form.role).contains s.role = true) :
    s.name.isSome = true := by
  obtain ⟨b, hb, hsight⟩ := List.mem_filterMap.1 ((sighted_perm_matches p roles q).mem_iff.1 hs)
  obtain ⟨r, hr, hb⟩ := List.mem_flatMap.1 hb
  -- only a rule that speaks of the forms gives such a role
  have hspeaks : speaksOf (forms.map Form.role) r = true := by
    by_contra hspeaks
    rw [Bool.not_eq_true] at hspeaks
    rw [role_of_not_speaksOf (hover r hr) hspeaks hb hsight] at hrole
    cases hrole
  obtain ⟨f, hf, hpattern⟩ := exists_form_of_speaksOf hdeclares hr hspeaks
  rw [Rule.matchesIn_of_plain? hpattern, Form.pattern, matchesIn_node, ← Form.pattern] at hb
  obtain ⟨n, hn, hb⟩ := List.mem_flatMap.1 hb
  have hgood := List.all_eq_true.1 hforms f hf
  rw [Bool.and_eq_true] at hgood
  rcases Form.matchesAt_pattern hroot (hnamed f hf) hgood.2 (List.mem_of_mem_filter hn) with
    ⟨-, heq⟩ | ⟨-, c, heq⟩
  · rw [heq] at hb
    cases hb
  · rw [heq] at hb
    obtain rfl := List.mem_singleton.1 hb
    rw [sight?_form hforms hf] at hsight
    cases hsight
    rfl

end Seen

/-! ## §4. Candidates in their order. -/

/-- What is observed of a candidate, with its start. -/
def Candidate.observed {β : Type} (obs : Element → Option β) (c : Candidate) : Option (Nat × β) :=
  (obs c.2).map fun b => (c.1, b)

section Candidates

variable {β : Type} {obs : Element → Option β} {word : String}

theorem gives_candidates {rule : Sighting → Extraction (Option Element)}
    {seen : Sighting → Option β} {found : List Sighting}
    (hrule : ∀ s ∈ found, Gives (fun e => e.bind obs = seen s) (rule s)) :
    Gives (fun made => made.filterMap (Candidate.observed obs)
        = found.filterMap fun s => (seen s).map fun b => (s.spot.tree.start, b))
      (candidates rule found) := by
  have hmade : Gives (fun made : List (Option Candidate) =>
      made.filterMap (fun c => c.bind (Candidate.observed obs))
        = found.filterMap fun s => (seen s).map fun b => (s.spot.tree.start, b))
      (found.mapM fun s => do
        let element ← rule s
        pure (element.map fun e => (s.spot.tree.start, e))) := by
    refine Gives.mapM fun s hs => (hrule s hs).bind fun e he => .pure ?_
    rw [← he]
    cases e with
    | none => rfl
    | some e => rfl
  refine hmade.bind fun made hmade => .pure ?_
  rw [List.filterMap_filterMap]
  exact hmade

/-- A candidate that repeats the one before it is observed at the same start. -/
theorem sameDeclaration_observed (hword : ∀ e, (obs e).isSome = (e.kind.word == word))
    {c last : Candidate} (hsame : sameDeclaration c last = true) {x : Nat × β}
    (hc : c.observed obs = some x) : ∃ y, last.observed obs = some y ∧ y.1 = x.1 := by
  simp only [sameDeclaration, Bool.and_eq_true, beq_iff_eq] at hsame
  obtain ⟨b, hb, rfl⟩ := Option.map_eq_some_iff.1 hc
  have hkind : (obs last.2).isSome = true := by
    rw [hword, ← hsame.2, ← hword, hb]
    rfl
  obtain ⟨b', hb'⟩ := Option.isSome_iff_exists.1 hkind
  exact ⟨(last.1, b'), by rw [Candidate.observed, hb']; rfl, hsame.1.1.symm⟩

/-- Dropping repeats loses nothing that is observed, if it is observed at different starts. -/
theorem dropRepeats_observed (hword : ∀ e, (obs e).isSome = (e.kind.word == word)) :
    ∀ (cs : List Candidate) (last : Candidate),
      (((last :: cs).filterMap (Candidate.observed obs)).map Prod.fst).Nodup →
      (dropRepeats last cs).filterMap (Candidate.observed obs)
        = cs.filterMap (Candidate.observed obs) := by
  intro cs
  induction cs with
  | nil => exact fun _ _ => rfl
  | cons c cs ih =>
      -- `last` is what was kept before, so its start is among those that differ
      intro last hnodup
      rw [dropRepeats]
      split
      · rename_i hsame
        cases hc : c.observed obs with
        | none =>
            rw [List.filterMap_cons_none hc]
            refine ih last (hnodup.sublist (.map _ (.filterMap _ ?_)))
            exact (List.sublist_cons_self c cs).cons_cons last
        | some x =>
            -- the one before is observed too, at the same start
            obtain ⟨y, hy, hstart⟩ := sameDeclaration_observed hword hsame hc
            rw [List.filterMap_cons_some hy, List.filterMap_cons_some hc, List.map_cons,
              List.map_cons, hstart] at hnodup
            exact absurd List.mem_cons_self (List.nodup_cons.1 hnodup).1
      · have hrest : (((c :: cs).filterMap (Candidate.observed obs)).map Prod.fst).Nodup :=
          hnodup.sublist (.map _ (.filterMap _ (List.sublist_cons_self last (c :: cs))))
        rw [List.filterMap_cons, List.filterMap_cons, ih c hrest]

/-- Candidates are sorted by their starts. -/
theorem pairwise_mergeSort_start (made : List Candidate) :
    (made.mergeSort fun a b => a.1 ≤ b.1).Pairwise fun a b => a.1 ≤ b.1 := by
  refine List.Pairwise.imp (fun h => of_decide_eq_true h) (List.pairwise_mergeSort ?_ ?_ _)
  · intro a b c hab hbc
    simp only [decide_eq_true_eq] at hab hbc ⊢
    omega
  · intro a b
    simp only [Bool.or_eq_true, decide_eq_true_eq]
    omega

/-- **Arranging candidates** keeps what is observed, in the order of the starts. -/
theorem arrange_observed (hword : ∀ e, (obs e).isSome = (e.kind.word == word))
    {made : List Candidate}
    (hnodup : ((made.filterMap (Candidate.observed obs)).map Prod.fst).Nodup) :
    ∃ sorted : List (Nat × β), sorted.Perm (made.filterMap (Candidate.observed obs)) ∧
      sorted.Pairwise (fun a b => a.1 ≤ b.1) ∧
      (arrange made).filterMap obs = sorted.map Prod.snd := by
  have hperm : (made.mergeSort fun a b => a.1 ≤ b.1).Perm made := List.mergeSort_perm _ _
  have hsorted := pairwise_mergeSort_start made
  refine ⟨(made.mergeSort fun a b => a.1 ≤ b.1).filterMap (Candidate.observed obs),
    hperm.filterMap _, ?_, ?_⟩
  · refine hsorted.filterMap _ fun a b hab x hx y hy => ?_
    obtain ⟨_, -, rfl⟩ := Option.map_eq_some_iff.1 hx
    obtain ⟨_, -, rfl⟩ := Option.map_eq_some_iff.1 hy
    exact hab
  · have hnodup : ((((made.mergeSort fun a b => a.1 ≤ b.1).filterMap
        (Candidate.observed obs)).map Prod.fst)).Nodup :=
      ((hperm.filterMap _).map _).nodup_iff.2 hnodup
    have hsnd : ∀ cs : List Candidate, (cs.map Prod.snd).filterMap obs
        = (cs.filterMap (Candidate.observed obs)).map Prod.snd := by
      intro cs
      rw [List.filterMap_map, List.map_filterMap]
      refine List.filterMap_congr fun c _ => ?_
      unfold Candidate.observed
      cases hc : obs c.2 <;> simp [hc]
    unfold arrange
    generalize made.mergeSort (fun a b => a.1 ≤ b.1) = cs at hnodup ⊢
    cases cs with
    | nil => rfl
    | cons c cs =>
        dsimp only
        rw [hsnd, List.filterMap_cons, List.filterMap_cons, dropRepeats_observed hword cs c hnodup]

theorem obs_eq_none (hword : ∀ e, (obs e).isSome = (e.kind.word == word)) {e : Element}
    (he : e.kind.word ≠ word) : obs e = none := by
  rw [← Option.isNone_iff_eq_none, ← Option.not_isSome, hword, beq_eq_false_iff_ne.2 he]
  rfl

theorem observed_eq_none (hword : ∀ e, (obs e).isSome = (e.kind.word == word))
    {c : Candidate} (hc : c.2.kind.word ≠ word) : c.observed obs = none := by
  rw [Candidate.observed, obs_eq_none hword hc]
  rfl

/-- Crediting methods to types changes nothing about other elements. -/
theorem creditMethods_observed (hword : ∀ e, (obs e).isSome = (e.kind.word == word))
    (hclass : word ≠ "class") (exempt : String) (owners : List (String × Nat))
    (made : List Candidate) :
    (creditMethods exempt owners made).filterMap (Candidate.observed obs)
      = made.filterMap (Candidate.observed obs) := by
  unfold creditMethods
  rw [List.filterMap_map]
  refine List.filterMap_congr fun c _ => ?_
  obtain ⟨start, e⟩ := c
  dsimp only [Function.comp_apply]
  split
  · -- a type is not observed, neither before it is credited nor after
    rename_i facts hkind
    have hbefore : Candidate.observed obs (start, e) = none :=
      observed_eq_none hword (by rw [hkind]; exact Ne.symm hclass)
    split
    · rfl
    · rw [hbefore]
      exact observed_eq_none hword (Ne.symm hclass)
  · rfl

end Candidates

/-! ## §5. Whole extractions. -/

/-- As far as elements are observed, they are those of the places, in the order of their starts. -/
def ArrangedAs {β : Type} (obs : Element → Option β) (places : List Spot) (k : Spot → β)
    (elements : List Element) : Prop :=
  ∃ sorted : List (Nat × β), sorted.Perm (places.map fun s => (s.tree.start, k s)) ∧
    sorted.Pairwise (fun a b => a.1 ≤ b.1) ∧ elements.filterMap obs = sorted.map Prod.snd

section Extractions

variable {β : Type} {p : Parsed} {declarations : String} {roles : List String} {forms : List Form}
  {rule : Sighting → Extraction (Option Element)} {obs : Element → Option β} {k : Spot → β}
  {word : String}

theorem arrangedAs_of_perm (hword : ∀ e, (obs e).isSome = (e.kind.word == word))
    {places : List Spot} (hstarts : (places.map fun s => s.tree.start).Nodup)
    {made : List Candidate}
    (hmade : (made.filterMap (Candidate.observed obs)).Perm
      (places.map fun s => (s.tree.start, k s))) : ArrangedAs obs places k (arrange made) := by
  have hnodup : ((made.filterMap (Candidate.observed obs)).map Prod.fst).Nodup := by
    rw [(hmade.map _).nodup_iff, List.map_map]
    exact hstarts
  obtain ⟨sorted, hperm, hsorted, heq⟩ := arrange_observed hword hnodup
  exact ⟨sorted, hperm.trans hmade, hsorted, heq⟩

/-- What is needed of a query and a tree for the declarations of some forms to be found. -/
structure Declares (p : Parsed) (declarations : String) (roles : List String)
    (forms : List Form) : Prop where
  accepted : Accepted p.dialect.grammar (declares forms) declarations
  overlooks : Ensures Rule.overlooks declarations
  formed : wellFormed roles forms = true
  numbered : p.tree.root.Numbered
  named : ∀ f ∈ forms, f.Named p.tree.root
  starts : ((forms.flatMap fun f => placesOf f.kind p.tree.root).map fun s => s.tree.start).Nodup

/-- No two declarations start together, if no two nodes of their kinds do. -/
theorem nodup_starts {root : Tree} (hkinds : (forms.map Form.kind).Nodup)
    (hstarts : ((root.nodes.filter fun n => forms.any fun f => n.isA f.kind).map
      Tree.start).Nodup) :
    ((forms.flatMap fun f => placesOf f.kind root).map fun s => s.tree.start).Nodup := by
  have hmem : ∀ f ∈ forms, ∀ s ∈ placesOf f.kind root,
      s.tree ∈ root.nodes.filter (fun n => forms.any fun f => n.isA f.kind) ∧
        s.tree.isA f.kind = true := by
    intro f hf s hs
    obtain ⟨hspot, hisA⟩ := List.mem_filter.1 hs
    have hnode := mem_nodes_of_mem_spots (List.mem_of_mem_filter hspot)
    exact ⟨List.mem_filter.2 ⟨hnode, List.any_eq_true.2 ⟨f, hf, hisA⟩⟩, hisA⟩
  rw [List.map_flatMap, List.nodup_flatMap]
  constructor
  · intro f hf
    have hsub : ((placesOf f.kind root).map Spot.tree).Sublist
        (root.nodes.filter fun n => forms.any fun f => n.isA f.kind) := by
      rw [map_tree_placesOf, List.filter_filter]
      refine List.monotone_filter_right _ fun n hn => ?_
      exact List.any_eq_true.2 ⟨f, hf, (Bool.and_eq_true_iff.1 hn).1⟩
    rw [← Function.comp_def Tree.start Spot.tree, ← List.map_map]
    exact hstarts.sublist (hsub.map _)
  · refine (List.pairwise_map.1 hkinds).imp_of_mem fun {f f'} hf hf' hne start hhere hthere => ?_
    obtain ⟨s, hs, rfl⟩ := List.mem_map.1 hhere
    obtain ⟨s', hs', heq⟩ := List.mem_map.1 hthere
    -- one start, one node, one kind
    obtain ⟨hnode, hisA⟩ := hmem f hf s hs
    obtain ⟨hnode', hisA'⟩ := hmem f' hf' s' hs'
    have hsame := List.inj_on_of_nodup_map hstarts hnode' hnode heq
    rw [hsame] at hisA'
    exact hne ((Tree.kind_of_isA hisA).symm.trans (Tree.kind_of_isA hisA'))

/-- The rule succeeds, and what is observed of its element is seen at the place of the sighting. -/
def Observes (forms : List Form) (obs : Element → Option β) (k : Spot → β)
    (rule : Sighting → Extraction (Option Element)) : Prop :=
  ∀ s : Sighting, ((forms.map Form.role).contains s.role = true → s.name.isSome = true) →
    Gives (fun e => e.bind obs = s.observed (forms.map Form.role) k) (rule s)

theorem bind_eq_none (hword : ∀ e, (obs e).isSome = (e.kind.word == word)) {e : Option Element}
    (he : ∀ x, e = some x → x.kind.word ≠ word) : e.bind obs = none := by
  rw [Option.bind_eq_none_iff]
  exact fun x hx => obs_eq_none hword (he x hx)

theorem gives_sightings (hp : Declares p declarations roles forms) (k : Spot → β) :
    Gives (fun found =>
        (∀ s ∈ found, (forms.map Form.role).contains s.role = true → s.name.isSome = true) ∧
        (found.filterMap (Sighting.observed (forms.map Form.role) k)).Perm
          ((forms.flatMap fun f => placesOf f.kind p.tree.root).map k))
      (sightings p declarations roles) := by
  rw [sightings_eq]
  refine (Gives.compiled hp.accepted).map ?_
  rintro c ⟨hdeclares, g, hg⟩
  have hover : ∀ r ∈ c.rules, r.overlooks = true := hp.overlooks g c hg
  exact ⟨fun s hs => name_of_sighted hdeclares hover hp.formed hp.numbered hp.named hs,
    sighted_perm hdeclares hover hp.formed hp.numbered hp.named k⟩

theorem gives_made (hrule : Observes forms obs k rule) {found : List Sighting}
    (hnames : ∀ s ∈ found, (forms.map Form.role).contains s.role = true → s.name.isSome = true) :
    Gives (fun made => made.filterMap (Candidate.observed obs)
        = found.filterMap (Sighting.observed (forms.map Form.role) fun s => (s.tree.start, k s)))
      (candidates rule found) := by
  have hobserved : found.filterMap (Sighting.observed (forms.map Form.role)
        fun s => (s.tree.start, k s))
      = found.filterMap fun s =>
          (s.observed (forms.map Form.role) k).map fun b => (s.spot.tree.start, b) := by
    refine List.filterMap_congr fun s _ => ?_
    unfold Sighting.observed
    split
    · rfl
    · rfl
  rw [hobserved]
  exact gives_candidates fun s hs => hrule s (hnames s hs)

/-- **An extraction** succeeds and arranges what is seen of the declarations. -/
theorem gives_arranged (hp : Declares p declarations roles forms)
    (hword : ∀ e, (obs e).isSome = (e.kind.word == word)) (hrule : Observes forms obs k rule) :
    Gives (ArrangedAs obs (forms.flatMap fun f => placesOf f.kind p.tree.root) k)
      (do
        let found ← sightings p declarations roles
        arrange <$> candidates rule found) := by
  refine (gives_sightings hp fun s => (s.tree.start, k s)).bind fun found hfound => ?_
  refine (gives_made hrule hfound.1).map fun made hmade => ?_
  exact arrangedAs_of_perm hword hp.starts (hmade ▸ hfound.2)

/-- The same where types gain methods that stand elsewhere. -/
theorem gives_credited (hp : Declares p declarations roles forms)
    (hword : ∀ e, (obs e).isSome = (e.kind.word == word)) (hclass : word ≠ "class")
    (hrule : Observes forms obs k rule) (exempt : String)
    (owner? : Sighting → Option (String × Nat)) :
    Gives (ArrangedAs obs (forms.flatMap fun f => placesOf f.kind p.tree.root) k)
      (do
        let found ← sightings p declarations roles
        let made ← candidates rule found
        pure (arrange (creditMethods exempt (found.filterMap owner?) made))) := by
  refine (gives_sightings hp fun s => (s.tree.start, k s)).bind fun found hfound => ?_
  refine (gives_made hrule hfound.1).bind fun made hmade => .pure ?_
  refine arrangedAs_of_perm hword hp.starts ?_
  rw [creditMethods_observed hword hclass, hmade]
  exact hfound.2

end Extractions

end CodeSurvey.Extract
