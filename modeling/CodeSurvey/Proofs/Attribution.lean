/-
  Methods of types that are declared elsewhere.

  Types are sighted in one order and methods in another, and methods are credited to types by name
  once all of them are known.  So the place of a type among its methods does not matter.

      what is credited to a name is a sum over owners, in any order   (`creditOf_perm`)
      each name of a type declaration gives one type                  (`typesSighted_perm`)
      each implementation is matched once                             (`Rust.matchesAt_implPattern`)
      credit and own methods make up the methods of a type            (`gives_attributed`)

  Main result, `methods_attributed`, for Rust and for Go.
-/
import CodeSurvey.Proofs.BaseNames
import CodeSurvey.Proofs.MethodCounts
import CodeSurvey.Proofs.Names
import CodeSurvey.Proofs.Nesting
import CodeSurvey.Proofs.Pieces

namespace CodeSurvey.Extract

open Syntax Query

/-! ## §1. Credit. -/

/-- What is credited to a name. -/
def creditOf (owners : List (String × Nat)) (name : String) : Nat :=
  (owners.filter (·.1 == name)).foldl (fun n o => n + o.2) 0

theorem creditOf_eq (owners : List (String × Nat)) (name : String) :
    creditOf owners name = ((owners.filter (·.1 == name)).map Prod.snd).sum := by
  rw [List.sum_eq_foldl, List.foldl_map]
  rfl

/-- The order of owners does not matter. -/
theorem creditOf_perm {owners owners' : List (String × Nat)} (h : owners.Perm owners')
    (name : String) : creditOf owners name = creditOf owners' name := by
  rw [creditOf_eq, creditOf_eq, ((h.filter _).map _).sum_eq]

theorem creditOf_flatMap {α β : Type} {owners : α → List (String × Nat)} {methods : α → List β}
    {name : String} : ∀ {as : List α}, (∀ a ∈ as, creditOf (owners a) name = (methods a).length) →
      creditOf (as.flatMap owners) name = (as.flatMap methods).length := by
  intro as h
  have happend : ∀ l l' : List (String × Nat),
      creditOf (l ++ l') name = creditOf l name + creditOf l' name := by
    intro l l'
    rw [creditOf_eq, creditOf_eq, creditOf_eq, List.filter_append, List.map_append,
      List.sum_append]
  induction as with
  | nil => rfl
  | cons a as ih =>
      rw [List.flatMap_cons, List.flatMap_cons, happend, List.length_append, h a List.mem_cons_self,
        ih fun a' ha' => h a' (List.mem_cons_of_mem a ha')]

/-- A candidate with the methods that are credited to its name. -/
def credited (exempt : String) (owners : List (String × Nat)) (c : Candidate) : Candidate :=
  match c.2.kind with
  | .classLike facts =>
    if facts.classKind == exempt then c
    else
      (c.1, { c.2 with kind := .classLike { facts with
        methodCount := facts.methodCount + creditOf owners c.2.name } })
  | _ => c

theorem creditMethods_eq (exempt : String) (owners : List (String × Nat)) (made : List Candidate) :
    creditMethods exempt owners made = made.map (credited exempt owners) := rfl

/-- Is a candidate a type? -/
def isType (c : Candidate) : Bool := c.2.kind.word == "class"

theorem isType_credited (exempt : String) (owners : List (String × Nat)) (c : Candidate) :
    isType (credited exempt owners c) = isType c := by
  unfold credited
  split
  · rename_i facts hkind
    split
    · rfl
    · unfold isType
      rw [hkind]
      rfl
  · rfl

/-- Crediting changes the types one by one. -/
theorem filter_isType_creditMethods (exempt : String) (owners : List (String × Nat))
    (made : List Candidate) : (creditMethods exempt owners made).filter isType
      = (made.filter isType).map (credited exempt owners) := by
  rw [creditMethods_eq, List.filter_map]
  exact congrArg (List.map _) (List.filter_congr fun c _ => isType_credited exempt owners c)

/-! ## §2. Types and their names. -/

/-- A name in a declaration of a type, with the role under which the declaration is sighted. -/
structure TypeName where
  role : String
  node : Tree
  name : String

/-- All names in declarations of types. -/
def typeNames (forms : List Form) (p : Parsed) : List TypeName :=
  forms.flatMap fun f => (p.tree.root.nodes.filter (·.isA f.kind)).flatMap fun n =>
    (n.children.filter f.isName).map fun c => ⟨f.role, n, p.tree.text c⟩

/-- The name of a type that is sighted. -/
def typeAt? (roles : List String) (s : Sighting) : Option TypeName :=
  if roles.contains s.role then s.name.map fun name => ⟨s.role, s.spot.tree, name⟩ else none

theorem typeAt?_of_role {roles : List String} {s : Sighting} (h : roles.contains s.role = false) :
    typeAt? roles s = none := by
  rw [typeAt?, h]
  rfl

/-- **The types that are sighted** are those of all names, each once. -/
theorem typesSighted_perm {p : Parsed} {roles : List String} {forms : List Form} {q : Compiled}
    (hdeclares : declares forms q.rules = true) (hover : ∀ r ∈ q.rules, r.overlooks = true)
    (hforms : wellFormed roles forms = true) (hroot : p.tree.root.Numbered)
    (hstop : ∀ f ∈ forms, ∀ n ∈ p.tree.root.nodes, n.isA f.kind = true → 0 < n.stop) :
    ((sighted p roles q).filterMap (typeAt? (forms.map Form.role))).Perm (typeNames forms p) := by
  refine (sighted_perm_speaking (of_decide_eq_true hdeclares) hover
    fun s hrole => typeAt?_of_role hrole).trans (.of_eq ?_)
  rw [List.filterMap_flatMap, List.flatMap_map, typeNames]
  refine List.flatMap_congr fun f hf => ?_
  have hgood := List.all_eq_true.1 hforms f hf
  simp only [Bool.and_eq_true, bne_iff_ne, Option.isNone_iff_eq_none] at hgood
  refine (Form.filterMap_matchesIn_names (k := fun s c =>
    some ⟨f.role, s.tree, p.tree.text c.tree⟩) hgood.1.2 hroot fun s c => ?_).trans
    (flatMap_placesOf (hstop f hf) fun s hs hkind => ?_)
  · rw [sight?_pair hgood.1.1 hgood.1.2, Option.bind_some, typeAt?,
      if_pos (List.contains_iff_mem.2 (List.mem_map_of_mem hf))]
    rfl
  · have hrun : runs.lookup (s.tree.kind, "name") = none := by
      rw [Tree.kind_of_isA hkind]
      exact hgood.2
    rw [Form.namesAt_eq hroot hs hrun, ← map_tree_filter_children s f.isName, List.map_map,
      ← List.filterMap_eq_map]
    rfl

/-! ## §3. How types count their methods. -/

/-- How the methods of a language's types are counted. -/
structure TypeView where
  extractor : Extractor
  grammar : Grammar
  /-- How types are declared. -/
  forms : List Form
  /-- The class kind of the types that count the methods in their own declarations only. -/
  exempt : String
  /-- These methods, if a declaration is of such a type. -/
  own? : String → Tree → Option (List Tree)
  /-- The methods for a name, wherever they are declared. -/
  elsewhere : Parsed → String → List Tree
  /-- The kinds of nodes that declare types or methods. -/
  kinds : List String
  /-- What the grammar says about such nodes. -/
  Formed : Tree → Prop

namespace TypeView

variable {v : TypeView} {p : Parsed}

/-- A candidate is the type of a name.  It is of the exempt class kind if it counts its own methods,
and counts these or the given ones for its name. -/
def Counts (v : TypeView) (p : Parsed) (elsewhere : String → List Tree) (x : TypeName)
    (c : Candidate) : Prop :=
  ∃ facts, c = (x.node.start, elementOf p x.node x.name (.classLike facts)) ∧
    (facts.classKind = v.exempt ↔ (v.own? x.role x.node).isSome = true) ∧
    facts.methodCount = ((v.own? x.role x.node).getD (elsewhere x.name)).length

theorem Counts.reported {elsewhere : String → List Tree} {s : Sighting} {x : TypeName} {e : Element}
    (h : v.Counts p elsewhere x (s.spot.tree.start, e)) :
    Reported (v.Counts p elsewhere) s (some x) ((some e).bind (ofWord "class")) := by
  have hword : e.kind.word = "class" := by
    obtain ⟨facts, heq, -⟩ := h
    rw [(Prod.mk.inj heq).2]
    rfl
  rw [Option.bind_some, ofWord_of_eq hword]
  exact h

/-- **What a rule makes of types**: in the roles for them the type of each name, in other roles
none. -/
theorem gives_type {decisions : String} {r : RoleTable} {s : Sighting}
    {x : Extraction (Option Element)} (hmakes : Makes p decisions r s x)
    (haccepted : Accepted p.dialect.grammar (fun _ => true) decisions)
    (hroles : v.forms.map Form.role = r.rolesFor "class")
    (hnamed : ∀ role ∈ r.rolesFor "class", role ∈ r.named)
    (htype : s.role ∈ r.rolesFor "class" → ∀ name, s.name = some name → ∃ e, x = pure (some e) ∧
      v.Counts p (fun _ => []) ⟨s.role, s.spot.tree, name⟩ (s.spot.tree.start, e)) :
    Gives (fun e => Reported (v.Counts p fun _ => []) s (typeAt? (v.forms.map Form.role) s)
      (e.bind (ofWord "class"))) x := by
  rw [hroles]
  by_cases hrole : s.role ∈ r.rolesFor "class"
  · cases hname : s.name with
    | none =>
        have hnone : typeAt? (r.rolesFor "class") s = none := by
          rw [typeAt?, hname]
          exact ite_self none
        rw [hmakes.unnamed (hnamed _ hrole) hname, hnone]
        exact .pure trivial
    | some name =>
        obtain ⟨e, rfl, hcounts⟩ := htype hrole name hname
        have hsome : typeAt? (r.rolesFor "class") s = some ⟨s.role, s.spot.tree, name⟩ := by
          rw [typeAt?, hname]
          exact if_pos (List.contains_iff_mem.2 hrole)
        rw [hsome]
        exact .pure hcounts.reported
  · refine (hmakes.unobserved haccepted isSome_ofWord hrole).imp fun e he => ?_
    rw [he, typeAt?_of_role (Bool.eq_false_iff.2 (mt List.contains_iff_mem.1 hrole))]
    trivial

/-- A type gains the methods that are credited to its name. -/
theorem Counts.credited {owners : List (String × Nat)} {elsewhere : String → List Tree}
    (howners : ∀ name, creditOf owners name = (elsewhere name).length) {x : TypeName} {c : Candidate}
    (h : v.Counts p (fun _ => []) x c) : v.Counts p elsewhere x (credited v.exempt owners c) := by
  obtain ⟨facts, rfl, hkind, hcount⟩ := h
  by_cases hexempt : facts.classKind = v.exempt
  · obtain ⟨own, hown⟩ := Option.isSome_iff_exists.1 (hkind.1 hexempt)
    refine ⟨facts, if_pos (beq_iff_eq.2 hexempt), hkind, ?_⟩
    rw [hcount, hown]
    rfl
  · have hown : v.own? x.role x.node = none := by
      cases hown : v.own? x.role x.node with
      | none => rfl
      | some own => exact absurd (hkind.2 (by rw [hown]; rfl)) hexempt
    refine ⟨{ facts with methodCount := facts.methodCount + creditOf owners x.name },
      if_neg (mt beq_iff_eq.1 hexempt), hkind, ?_⟩
    rw [hown] at hcount ⊢
    show facts.methodCount + creditOf owners x.name = _
    rw [hcount, howners]
    exact Nat.zero_add _

/-- **Types and credit together** give each name of a type its methods. -/
theorem gives_attributed (owner? : Sighting → Option (String × Nat)) {check : List Rule → Bool}
    (hcredit : ∀ found made, v.extractor.credit p found made
      = creditMethods v.exempt (found.filterMap owner?) made)
    (haccepted : Accepted p.dialect.grammar check v.extractor.declarations)
    (hover : Ensures Rule.overlooks v.extractor.declarations)
    (hrule : ∀ s, Gives (fun e => Reported (v.Counts p fun _ => []) s
      (typeAt? (v.forms.map Form.role) s) (e.bind (ofWord "class"))) (v.extractor.rule p s))
    (htypes : ∀ q : Compiled, check q.rules = true → (∀ r ∈ q.rules, r.overlooks = true) →
      ((sighted p v.extractor.roles q).filterMap (typeAt? (v.forms.map Form.role))).Perm
          (typeNames v.forms p) ∧
        ∀ name, creditOf ((sighted p v.extractor.roles q).filterMap owner?) name
          = (v.elsewhere p name).length) :
    Gives (fun made => ∃ found, found.Perm (typeNames v.forms p) ∧
        List.Forall₂ (v.Counts p (v.elsewhere p)) found (made.filter isType))
      (v.extractor.candidates p) := by
  refine Extractor.gives_candidates_of_accepted haccepted hover fun q hcheck hoverq => ?_
  obtain ⟨hperm, howners⟩ := htypes q hcheck hoverq
  refine (gives_candidates_reported fun s _ => hrule s).imp fun made hmade => ?_
  refine ⟨_, hperm, ?_⟩
  rw [filterMap_observed_ofWord] at hmade
  rw [hcredit, filter_isType_creditMethods, List.forall₂_map_right_iff]
  exact hmade.imp fun x c h => h.credited howners

end TypeView

/-! ## §4. Rust: implementations. -/

namespace Rust

/-- How types are declared. -/
def typeForms : List Form :=
  [⟨"struct_item", "type_identifier", "struct"⟩, ⟨"enum_item", "type_identifier", "enum"⟩,
   ⟨"union_item", "type_identifier", "union"⟩, ⟨"trait_item", "type_identifier", "trait"⟩,
   ⟨"type_item", "type_identifier", "type"⟩]

/-- What a pattern says of the type that an implementation is for. -/
def targetHead : Head := { test := .anyNamed, field := some "type", captures := ["impl_type"] }

/-- The pattern that asks for implementations. -/
def implPattern : Pattern :=
  .node (.ofKind "impl_item" none ["impl"])
    [(false, .node targetHead []),
     (false, .node (.ofKind "declaration_list" (some "body") ["impl_body"]) [])]

/-- Is a child the type that an implementation is for? -/
def isTarget (c : Tree) : Bool := c.isNamed && !c.label.isError && c.field == some "type"

/-- Is a child the body of an implementation? -/
def isBody (c : Tree) : Bool := c.isA "declaration_list" && c.field == some "body"

/-- The functions of all implementations for types with a base name. -/
def methodsFor (p : Parsed) (name : String) : List Tree :=
  (p.tree.root.nodes.filter (·.isA "impl_item")).flatMap fun n =>
    if n.children.any fun t => isTarget t && decide (HasBase (p.tree.text t).toList name.toList) then
      (n.children.filter isBody).flatMap fun body =>
        body.namedChildren.filter (·.kind == "function_item")
    else []

/-- The functions and signatures of a trait. -/
def ownMethods? (role : String) (n : Tree) : Option (List Tree) :=
  if role = "trait" then
    some (((n.childByField "body").map fun body => body.namedChildren.filter fun c =>
      ["function_item", "function_signature_item"].contains c.kind).getD [])
  else none

/-- An implementation is for at most one type, and has at most one body, which comes after it. -/
structure ImplFormed (n : Tree) : Prop where
  target : n.children.countP isTarget ≤ 1
  body : n.children.countP isBody ≤ 1
  order : n.children.Pairwise fun b t => ¬ (isBody b = true ∧ isTarget t = true)

instance (n : Tree) : Decidable (ImplFormed n) :=
  decidable_of_iff (n.children.countP isTarget ≤ 1 ∧ n.children.countP isBody ≤ 1 ∧
    n.children.Pairwise fun b t => ¬ (isBody b = true ∧ isTarget t = true))
    ⟨fun h => ⟨h.1, h.2.1, h.2.2⟩, fun h => ⟨h.target, h.body, h.order⟩⟩

section Implementations

variable {root : Tree} {s : Spot}

theorem fits_targetHead (c : Spot) : targetHead.fits c [] = isTarget c.tree := by
  simp [Head.fits, targetHead, Test.passes, isTarget]

theorem not_isBody_of_isTarget {c : Tree} (h : isTarget c = true) : isBody c = false := by
  unfold isTarget at h
  simp only [Bool.and_eq_true, beq_iff_eq] at h
  simp [isBody, h.2]

/-- **What is found in an implementation**: its type and, behind it, its body. -/
theorem map_itemsAmong_impl (hroot : root.Numbered) (hs : s ∈ root.spots)
    (hkind : s.tree.isA "impl_item" = true) (hformed : ImplFormed s.tree) :
    (itemsAmong false [(false, .node targetHead []),
        (false, .node (.ofKind "declaration_list" (some "body") ["impl_body"]) [])] s.children).map
          Prod.fst
      = (s.children.filter fun c => isTarget c.tree).flatMap fun t =>
          (s.children.filter fun c => isBody c.tree).map fun b =>
            [("impl_type", t), ("impl_body", b)] := by
  have hnumbered := hroot.children (mem_nodes_of_mem_spots hs)
  have htargets : s.children.countP (fun c => isTarget c.tree) ≤ 1 :=
    (countP_children s isTarget).trans_le hformed.target
  rcases split_of_countP_le_one htargets with hnone | ⟨before, t, after, hsplit, ht, hbefore, hafter⟩
  · have hscan : (Pattern.node targetHead []).among false s.children = [] := by
      rw [Pattern.among]
      exact scan_eq_nil rfl _ fun c hc => (fits_targetHead c).trans (hnone c hc)
    rw [itemsAmong, Bool.or_false, hscan,
      List.filter_eq_nil_iff.2 fun c hc => Bool.eq_false_iff.1 (hnone c hc)]
    rfl
  · have hclosed : targetHead.Closed s.children :=
      Head.closed_children hnumbered (by rw [Tree.kind_of_isA hkind]; rfl)
    have hbodyClosed : (Head.ofKind "declaration_list" (some "body") ["impl_body"]).Closed after := by
      have hall : (Head.ofKind "declaration_list" (some "body") ["impl_body"]).Closed s.children :=
        Head.closed_children hnumbered (by rw [Tree.kind_of_isA hkind]; rfl)
      rw [hsplit] at hall
      exact hall.of_append.tail
    have hscan : (Pattern.node targetHead []).among false s.children
        = [([("impl_type", t)], after)] := by
      rw [hsplit] at hclosed ⊢
      rw [Pattern.among]
      refine scan_of_unique rfl ((fits_targetHead t).trans ht) ?_ _ hclosed ?_
      · exact fun c hc => (fits_targetHead c).trans (hafter c hc)
      · exact fun c hc => (fits_targetHead c).trans (hbefore c hc)
    -- no body comes before the type
    have hbody : s.children.filter (fun c => isBody c.tree)
        = after.filter fun c => isBody c.tree := by
      have horder := hformed.order
      rw [← map_tree_children, List.pairwise_map, hsplit, List.pairwise_append] at horder
      have hearlier : before.filter (fun c => isBody c.tree) = [] :=
        List.filter_eq_nil_iff.2 fun c hc hb => horder.2.2 c hc t List.mem_cons_self ⟨hb, ht⟩
      rw [hsplit, List.filter_append, hearlier, List.nil_append, List.filter_cons,
        not_isBody_of_isTarget ht, if_neg Bool.false_ne_true]
    have htarget : s.children.filter (fun c => isTarget c.tree) = [t] := by
      have hnone : ∀ cs : List Spot, (∀ c ∈ cs, isTarget c.tree = false) →
          cs.filter (fun c => isTarget c.tree) = [] :=
        fun cs hcs => List.filter_eq_nil_iff.2 fun c hc => Bool.eq_false_iff.1 (hcs c hc)
      rw [hsplit, List.filter_append, hnone before hbefore, List.nil_append, List.filter_cons, ht,
        if_pos rfl, hnone after hafter]
    have hbehind : ((Pattern.node (.ofKind "declaration_list" (some "body") ["impl_body"]) []).among
          false after).map Prod.fst
        = (after.filter fun c => isBody c.tree).map fun b => [("impl_body", b)] := by
      rw [map_among_node rfl rfl hbodyClosed]
      simp only [Head.fits_ofKind, Option.all_some]
      exact List.flatMap_pure_eq_map _ _
    rw [map_itemsAmong_cons hscan, map_itemsAmong_single, hbehind, htarget, hbody,
      List.flatMap_singleton, List.map_map]
    rfl

/-- **The matches of an implementation**: one if it is for a type and has a body. -/
theorem matchesAt_implPattern (hroot : root.Numbered) (hs : s ∈ root.spots)
    (hformed : s.tree.isA "impl_item" = true → ImplFormed s.tree) :
    implPattern.matchesAt s = if s.tree.isA "impl_item" then
      (s.children.filter fun c => isTarget c.tree).flatMap fun t =>
        (s.children.filter fun c => isBody c.tree).map fun b =>
          [("impl", s), ("impl_type", t), ("impl_body", b)] else [] := by
  unfold Pattern.matchesAt
  dsimp only
  rw [implPattern, map_startingAt_node, Head.fits_ofKind, Option.all_none, Bool.and_true]
  split
  · rename_i hkind
    rw [map_itemsAmong_impl hroot hs hkind (hformed hkind)]
    rcases filter_of_countP_le_one ((countP_children s isTarget).trans_le (hformed hkind).target) with
      hnone | ⟨t, ht⟩
    · rw [hnone]
      rfl
    rcases filter_of_countP_le_one ((countP_children s isBody).trans_le (hformed hkind).body) with
      hnone | ⟨b, hb⟩
    · rw [ht, hnone]
      rfl
    · rw [ht, hb]
      exact maximal_of_eq (List.cons_ne_nil _ _) (by simp [Head.bind, Head.ofKind])
  · rfl

/-- What is seen of the matches of implementations. -/
theorem filterMap_matchesIn_implPattern (hroot : root.Numbered)
    (hformed : ∀ n ∈ root.nodes, n.isA "impl_item" = true → ImplFormed n) {β : Type}
    {g : Bindings → Option β} {k : Spot → Spot → Spot → β}
    (hg : ∀ s t b, g [("impl", s), ("impl_type", t), ("impl_body", b)] = some (k s t b)) :
    (implPattern.matchesIn root).filterMap g
      = (placesOf "impl_item" root).flatMap fun s =>
          (s.children.filter fun c => isTarget c.tree).flatMap fun t =>
            (s.children.filter fun c => isBody c.tree).map (k s t) := by
  rw [placesOf, flatMap_filter_ite (fun s : Spot => s.tree.isA "impl_item"), implPattern,
    matchesIn_node, ← implPattern, List.filterMap_flatMap]
  refine List.flatMap_congr fun s hs => ?_
  have hspot := List.mem_of_mem_filter hs
  rw [matchesAt_implPattern hroot hspot (hformed _ (mem_nodes_of_mem_spots hspot))]
  split
  · rw [List.filterMap_flatMap]
    refine List.flatMap_congr fun t _ => ?_
    rw [List.filterMap_map, ← List.filterMap_eq_map]
    exact List.filterMap_congr fun b _ => hg s t b
  · rfl

/-- The credit that an implementation gives. -/
def implOwners (p : Parsed) (n : Tree) : List (String × Nat) :=
  (n.children.filter isTarget).flatMap fun t => (n.children.filter isBody).map fun body =>
    (baseName (p.tree.text t), countChildren body ["function_item"])

/-- **The credit of all implementations** that are sighted. -/
theorem owners_perm {p : Parsed} {q : Compiled}
    (hrules : (q.rules.filter (speaksOf ["impl"])).map Rule.plain? = [implPattern].map some)
    (hover : ∀ r ∈ q.rules, r.overlooks = true) (hroot : p.tree.root.Numbered)
    (hformed : ∀ n ∈ p.tree.root.nodes, n.isA "impl_item" = true → ImplFormed n)
    (hstop : ∀ n ∈ p.tree.root.nodes, n.isA "impl_item" = true → 0 < n.stop) :
    ((sighted p Extractor.rust.roles q).filterMap (owner? p)).Perm
      ((p.tree.root.nodes.filter (·.isA "impl_item")).flatMap (implOwners p)) := by
  refine (sighted_perm_speaking hrules hover fun s hrole => ?_).trans (.of_eq ?_)
  · have hne : (s.role == "impl") = false := by simpa using hrole
    rw [owner?, hne]
    rfl
  rw [List.flatMap_singleton, filterMap_matchesIn_implPattern (k := fun _ t b =>
    (baseName (p.tree.text t.tree), countChildren b.tree ["function_item"])) hroot hformed
    fun _ _ _ => rfl]
  refine flatMap_placesOf hstop fun s _ _ => ?_
  unfold implOwners
  rw [← map_tree_filter_children s isTarget, ← map_tree_filter_children s isBody, List.flatMap_map]
  refine List.flatMap_congr fun t _ => ?_
  rw [List.map_map]
  rfl

/-- What an implementation credits to a name are its functions, if it is for that name. -/
theorem creditOf_implOwners (p : Parsed) {n : Tree} (hformed : ImplFormed n) (name : String) :
    creditOf (implOwners p n) name = List.length
      (if n.children.any fun t => isTarget t && decide (HasBase (p.tree.text t).toList name.toList) then
        (n.children.filter isBody).flatMap fun body =>
          body.namedChildren.filter (·.kind == "function_item")
      else []) := by
  have hcount : ∀ body : Tree, countChildren body ["function_item"]
      = (body.namedChildren.filter (·.kind == "function_item")).length := by
    intro body
    rw [countChildren, List.countP_eq_length_filter]
    refine congrArg List.length (List.filter_congr fun c _ => ?_)
    rw [List.contains_cons, List.contains_nil, Bool.or_false]
  have hbase : ∀ t : Tree, decide (HasBase (p.tree.text t).toList name.toList)
      = (baseName (p.tree.text t) == name) := by
    intro t
    rw [Bool.eq_iff_iff, decide_eq_true_iff, hasBase_iff, String.ofList_toList, beq_iff_eq]
  simp only [hbase]
  rw [← List.any_filter, implOwners]
  rcases filter_of_countP_le_one hformed.target with hnone | ⟨t, ht⟩
  · rw [hnone]
    rfl
  · rw [ht, List.flatMap_singleton, creditOf_eq, List.filter_map, List.map_map, List.any_cons,
      List.any_nil, Bool.or_false]
    simp only [Function.comp_def, hcount]
    split
    · rename_i heq
      rw [List.filter_eq_self.2 fun _ _ => heq]
      exact List.length_flatMap.symm
    · rename_i hne
      rw [List.filter_eq_nil_iff.2 fun _ _ => hne]
      rfl

end Implementations

section Types

variable {p : Parsed}

/-- The methods of Rust types. -/
def typeView : TypeView where
  extractor := .rust
  grammar := .rust
  forms := typeForms
  exempt := "trait"
  own? := ownMethods?
  elsewhere := methodsFor
  kinds := "impl_item" :: typeForms.map Form.kind
  Formed n := n.isA "impl_item" = true → ImplFormed n

/-- A type has the methods of its own declaration, before others are credited to it. -/
theorem counts_typeElement (role : String) (t : Tree) (name : String) :
    typeView.Counts p (fun _ => []) ⟨role, t, name⟩ (t.start, typeElement p t role name) := by
  have hexempt : role = "trait" ↔ (ownMethods? role t).isSome = true := by
    unfold ownMethods?
    split <;> simp_all
  suffices h : ∃ fields, typeElement p t role name
      = classOf p t name role ((ownMethods? role t).getD []).length fields by
    obtain ⟨fields, heq⟩ := h
    exact ⟨_, Prod.ext rfl heq, hexempt, rfl⟩
  by_cases htrait : role = "trait"
  · subst htrait
    rw [ownMethods?, if_pos rfl, Option.getD_some, typeElement]
    cases t.childByField "body" with
    | none => exact ⟨0, rfl⟩
    | some body => exact ⟨0, by simp [countChildren, List.countP_eq_length_filter]⟩
  · rw [ownMethods?, if_neg htrait, typeElement]
    cases t.childByField "body" with
    | none => exact ⟨0, rfl⟩
    | some body =>
        dsimp only
        split
        · exact ⟨_, rfl⟩
        split
        · exact ⟨_, rfl⟩
        split
        · exact ⟨_, rfl⟩
        rw [if_neg (mt beq_iff_eq.1 htrait)]
        exact ⟨0, rfl⟩

/-- What is made of a type that has a name. -/
theorem rule_type {s : Sighting} (h : s.role ∈ roleTable.rolesFor "class") {name : String}
    (hname : s.name = some name) :
    rule p s = pure (some (typeElement p s.spot.tree s.role name)) := by
  have hrole : s.role ∈ ["struct", "enum", "union", "trait", "type"] := h
  simp only [List.mem_cons, List.not_mem_nil, or_false] at hrole
  unfold rule
  rcases hrole with hrole | hrole | hrole | hrole | hrole
  all_goals
    rw [hrole, hname]
    rfl

end Types

/-- Does a query ask for types and for implementations? -/
def asksForTypes (rules : List Rule) : Bool :=
  declares typeForms rules &&
    decide ((rules.filter (speaksOf ["impl"])).map Rule.plain? = [implPattern].map some)

section Reading

set_option maxRecDepth 10000

theorem declarations_ask_for_types : Accepted .rust asksForTypes declarations :=
  accepted_of_compileText rfl (by decide +kernel)

end Reading

end Rust

/-! ## §5. Go: receivers. -/

namespace Go

/-- How types are declared. -/
def typeForms : List Form := [⟨"type_spec", "type_identifier", "type"⟩]

/-- How methods are declared. -/
def methodForm : Form := ⟨"method_declaration", "field_identifier", "method"⟩

/-- The methods with a name whose receiver has a type with a base name. -/
def methodsFor (p : Parsed) (name : String) : List Tree :=
  (p.tree.root.nodes.filter (·.isA "method_declaration")).filter fun n =>
    n.children.any methodForm.isName &&
      (receiverType? n).any fun t => decide (HasBase (p.tree.text t).toList name.toList)

/-- The methods of an interface. -/
def ownMethods? (n : Tree) : Option (List Tree) :=
  (n.childByField "type").bind fun body =>
    if body.kind = "interface_type" then
      some (body.namedChildren.filter fun c => ["method_elem", "method_spec"].contains c.kind)
    else none

section Methods

variable {p : Parsed}

/-- The credit that a method gives, once for each of its names. -/
def methodOwners (p : Parsed) (n : Tree) : List (String × Nat) :=
  (n.children.filter methodForm.isName).filterMap fun _ => (receiver? p n).map (·, 1)

/-- **The credit of all methods** that are sighted. -/
theorem owners_perm {q : Compiled} (hdeclares : declares [methodForm] q.rules = true)
    (hover : ∀ r ∈ q.rules, r.overlooks = true) (hroot : p.tree.root.Numbered)
    (hstop : ∀ n ∈ p.tree.root.nodes, n.isA "method_declaration" = true → 0 < n.stop) :
    ((sighted p Extractor.go.roles q).filterMap (owner? p)).Perm
      ((p.tree.root.nodes.filter (·.isA "method_declaration")).flatMap (methodOwners p)) := by
  refine (sighted_perm_speaking (of_decide_eq_true hdeclares) hover fun s hrole => ?_).trans
    (.of_eq ?_)
  · have hne : (s.role == "method") = false := by simpa [methodForm] using hrole
    rw [owner?, hne]
    rfl
  rw [List.map_singleton, List.flatMap_singleton]
  refine (Form.filterMap_matchesIn_names (k := fun s _ => (receiver? p s.tree).map (·, 1))
    (by decide) hroot fun s c => ?_).trans (flatMap_placesOf hstop fun s hs hkind => ?_)
  · rfl
  · have hrun : runs.lookup (s.tree.kind, "name") = none := by
      rw [Tree.kind_of_isA hkind]
      rfl
    rw [Form.namesAt_eq hroot hs hrun, methodOwners, ← map_tree_filter_children s methodForm.isName,
      List.filterMap_map]
    rfl

/-- What a method credits to a name is itself, if it has a name and its receiver is for that name. -/
theorem creditOf_methodOwners {n : Tree} (hnamed : n.children.countP methodForm.isName ≤ 1)
    (name : String) : creditOf (methodOwners p n) name = List.length
      (if n.children.any methodForm.isName && (receiverType? n).any fun t =>
        decide (HasBase (p.tree.text t).toList name.toList) then [n] else []) := by
  have hbase : ((receiverType? n).any fun t => decide (HasBase (p.tree.text t).toList name.toList))
      = (receiver? p n == some name) := by
    rw [Bool.eq_iff_iff, beq_iff_eq, Option.any_eq_true]
    have hiff := @receiver?_eq_some_iff p n name.toList
    rw [String.ofList_toList] at hiff
    rw [hiff]
    simp only [decide_eq_true_iff, Option.mem_def]
  rw [hbase, methodOwners]
  rcases filter_of_countP_le_one hnamed with hnone | ⟨c, hc⟩
  · rw [hnone, List.any_eq_false.2 fun c hc => List.filter_eq_nil_iff.1 hnone c hc]
    rfl
  · have hany : n.children.any methodForm.isName = true := by
      have hmem : c ∈ n.children.filter methodForm.isName := by rw [hc]; exact List.mem_singleton_self c
      exact List.any_eq_true.2 ⟨c, List.mem_filter.1 hmem⟩
    rw [hc, hany, Bool.true_and]
    cases receiver? p n with
    | none => rfl
    | some base =>
        rw [creditOf]
        by_cases hname : base = name
        · simp [hname]
        · simp [hname]

/-- The methods for a name, one by one. -/
theorem flatMap_methods (p : Parsed) (name : String) :
    ((p.tree.root.nodes.filter (·.isA "method_declaration")).flatMap fun n =>
      if n.children.any methodForm.isName && (receiverType? n).any fun t =>
        decide (HasBase (p.tree.text t).toList name.toList) then [n] else []) = methodsFor p name := by
  rw [methodsFor, ← flatMap_filter_ite]
  exact List.flatMap_singleton' _

end Methods

section Types

variable {p : Parsed}

/-- The methods of Go types. -/
def typeView : TypeView where
  extractor := .go
  grammar := .go
  forms := typeForms
  exempt := "interface"
  own? _ := ownMethods?
  elsewhere := methodsFor
  kinds := "method_declaration" :: typeForms.map Form.kind
  Formed n := n.isA "method_declaration" = true → n.children.countP methodForm.isName ≤ 1

/-- A type has the methods of its own declaration, before others are credited to it. -/
theorem counts_typeElement (role : String) (t : Tree) (name : String) :
    typeView.Counts p (fun _ => []) ⟨role, t, name⟩ (t.start, typeElement p t name) := by
  have hown : ∀ own classKind fields, ownMethods? t = own →
      (classKind = "interface" ↔ own.isSome = true) → typeView.Counts p (fun _ => [])
        ⟨role, t, name⟩ (t.start, classOf p t name classKind (own.getD []).length fields) := by
    rintro _ classKind fields rfl hkind
    exact ⟨_, rfl, hkind, rfl⟩
  unfold typeElement
  cases htype : t.childByField "type" with
  | none => exact hown none "type" 0 (congrArg (Option.bind · _) htype) (by decide)
  | some body =>
      dsimp only
      split
      · rename_i hkind
        refine hown none "struct" _ ?_ (by decide)
        rw [ownMethods?, htype]
        exact if_neg (by rw [hkind]; decide)
      · rename_i hkind
        rw [countChildren, List.countP_eq_length_filter]
        refine hown (some _) "interface" 0 ?_ (by simp)
        rw [ownMethods?, htype]
        exact if_pos hkind
      · rename_i hkind
        refine hown none "type" 0 ?_ (by decide)
        rw [ownMethods?, htype]
        exact if_neg hkind

/-- What is made of a type that has a name. -/
theorem rule_type {s : Sighting} (h : s.role ∈ roleTable.rolesFor "class") {name : String}
    (hname : s.name = some name) : rule p s = pure (some (typeElement p s.spot.tree name)) := by
  have hrole : s.role = "type" := List.mem_singleton.1 h
  simp only [rule, hrole, hname]

end Types

/-- Does a query ask for types and for methods? -/
def asksForTypes (rules : List Rule) : Bool := declares typeForms rules && declares [methodForm] rules

section Reading

set_option maxRecDepth 10000

theorem declarations_ask_for_types : Accepted .go asksForTypes declarations :=
  accepted_of_compileText rfl (by decide +kernel)

end Reading

end Go

/-! ## §6. The methods of types. -/

/-- The languages whose types gain methods that are declared elsewhere. -/
def typeViews : List TypeView := [Rust.typeView, Go.typeView]

/-- A tree of the language, formed as its grammar says, in which no declaration ends at the start. -/
structure TypeView.Clear (v : TypeView) (p : Parsed) : Prop where
  grammar : p.dialect.grammar = v.grammar
  numbered : p.tree.root.Numbered
  formed : ∀ n ∈ p.tree.root.nodes, v.Formed n
  stops : ∀ n ∈ p.tree.root.nodes, v.kinds.any (n.isA ·) = true → 0 < n.stop

namespace TypeView

variable {v : TypeView} {p : Parsed}

theorem Clear.stop_of_mem (h : v.Clear p) {kind : String} (hkind : kind ∈ v.kinds) :
    ∀ n ∈ p.tree.root.nodes, n.isA kind = true → 0 < n.stop :=
  fun n hn hisA => h.stops n hn (List.any_eq_true.2 ⟨kind, hkind, hisA⟩)

/-- What the grammar of the language accepts, that of the tree accepts. -/
theorem Clear.accepted (h : v.Clear p) {check : List Rule → Bool} {query : String}
    (haccepted : Accepted v.grammar check query) : Accepted p.dialect.grammar check query := by
  rw [h.grammar]
  exact haccepted

/-- The types that are made are those of all names, with their methods. -/
def Attributed (v : TypeView) (p : Parsed) (made : List Candidate) : Prop :=
  ∃ found, found.Perm (typeNames v.forms p) ∧
    List.Forall₂ (v.Counts p (v.elsewhere p)) found (made.filter isType)

theorem gives_rust (hp : Rust.typeView.Clear p) :
    Gives (Rust.typeView.Attributed p) (Extractor.rust.candidates p) := by
  have hdecided := (hp.accepted Rust.decisions_accepted).weaken
  have htype : ∀ s, Gives (fun e => Reported (Rust.typeView.Counts p fun _ => []) s
      (typeAt? (Rust.typeForms.map Form.role) s) (e.bind (ofWord "class"))) (Rust.rule p s) := by
    intro s
    refine gives_type (v := Rust.typeView) (Rust.makes_rule p s) hdecided rfl (by decide) ?_
    intro hrole name hname
    exact ⟨_, Rust.rule_type hrole hname, Rust.counts_typeElement _ _ _⟩
  refine gives_attributed (v := Rust.typeView) (Rust.owner? p) (fun _ _ => rfl)
    (hp.accepted Rust.declarations_ask_for_types) Rust.declarations_overlook htype
    fun q hcheck hover => ?_
  obtain ⟨htypes, himpls⟩ := Bool.and_eq_true_iff.1 hcheck
  refine ⟨typesSighted_perm htypes hover (by decide) hp.numbered fun f hf =>
    hp.stop_of_mem (List.mem_cons_of_mem _ (List.mem_map_of_mem hf)), fun name => ?_⟩
  refine (creditOf_perm (Rust.owners_perm (of_decide_eq_true himpls) hover hp.numbered hp.formed
    (hp.stop_of_mem List.mem_cons_self)) name).trans (creditOf_flatMap fun n hn => ?_)
  obtain ⟨hnode, hkind⟩ := List.mem_filter.1 hn
  exact Rust.creditOf_implOwners p (hp.formed n hnode hkind) name

theorem gives_go (hp : Go.typeView.Clear p) :
    Gives (Go.typeView.Attributed p) (Extractor.go.candidates p) := by
  have hdecided := (hp.accepted Go.decisions_accepted).weaken
  have htype : ∀ s, Gives (fun e => Reported (Go.typeView.Counts p fun _ => []) s
      (typeAt? (Go.typeForms.map Form.role) s) (e.bind (ofWord "class"))) (Go.rule p s) := by
    intro s
    refine gives_type (v := Go.typeView) (Go.makes_rule p s) hdecided rfl (by decide) ?_
    intro hrole name hname
    exact ⟨_, Go.rule_type hrole hname, Go.counts_typeElement _ _ _⟩
  refine gives_attributed (v := Go.typeView) (Go.owner? p) (fun _ _ => rfl)
    (hp.accepted Go.declarations_ask_for_types) Go.declarations_overlook htype
    fun q hcheck hover => ?_
  obtain ⟨htypes, hmethods⟩ := Bool.and_eq_true_iff.1 hcheck
  refine ⟨typesSighted_perm htypes hover (by decide) hp.numbered fun f hf =>
    hp.stop_of_mem (List.mem_cons_of_mem _ (List.mem_map_of_mem hf)), fun name => ?_⟩
  refine (creditOf_perm (Go.owners_perm hmethods hover hp.numbered
    (hp.stop_of_mem List.mem_cons_self)) name).trans ?_
  refine (creditOf_flatMap fun n hn => ?_).trans (congrArg List.length (Go.flatMap_methods p name))
  obtain ⟨hnode, hkind⟩ := List.mem_filter.1 hn
  exact Go.creditOf_methodOwners (hp.formed n hnode hkind) name

end TypeView

/-- **Methods are attributed to types wherever they are declared.**  For Rust and for Go: a tree that is
formed as the grammar says has its elements extracted, and they are arranged of candidates of which the
types are, up to their order, one for each name in a declaration of a type.  A trait or an interface
counts the methods in its own declaration; any other type counts the methods that are declared for its
name anywhere in the tree.  So does each type among the elements. -/
theorem methods_attributed {v : TypeView} (hv : v ∈ typeViews) {p : Parsed} (hp : v.Clear p)
    {m : Memo} (hm : m.Genuine) :
    ∃ made m', (v.extractor.plugin.extract p).run m = (.ok (arrange made), m') ∧
      (v.extractor.candidates p).run m = (.ok made, m') ∧
      (∃ found, found.Perm (typeNames v.forms p) ∧
        List.Forall₂ (v.Counts p (v.elsewhere p)) found (made.filter isType)) ∧
      ∀ e ∈ arrange made, ∀ facts, e.kind = .classLike facts → ∃ x ∈ typeNames v.forms p,
        x.name = e.name ∧ (facts.classKind = v.exempt ↔ (v.own? x.role x.node).isSome = true) ∧
        facts.methodCount = ((v.own? x.role x.node).getD (v.elsewhere p e.name)).length := by
  have hgives : v.extractor.Sound ∧ Gives (v.Attributed p) (v.extractor.candidates p) := by
    simp only [typeViews, List.mem_cons, List.not_mem_nil, or_false] at hv
    rcases hv with rfl | rfl
    · exact ⟨Extractor.sound_rust, TypeView.gives_rust hp⟩
    · exact ⟨Extractor.sound_go, TypeView.gives_go hp⟩
  obtain ⟨made, m', hextract, hmade, found, hperm, hcounts⟩ := hgives.1.exists_extract hgives.2 hm
  refine ⟨made, m', hextract, hmade, ⟨found, hperm, hcounts⟩, fun e he facts hkind => ?_⟩
  obtain ⟨c, hc, rfl⟩ := exists_candidate_of_mem_arrange he
  have htype : isType c = true := by
    rw [isType, hkind]
    rfl
  obtain ⟨x, hx, facts', rfl, hexempt, hcount⟩ :=
    exists_of_forall₂ hcounts c (List.mem_filter.2 ⟨hc, htype⟩)
  cases hkind
  exact ⟨x, hperm.mem_iff.1 hx, rfl, hexempt, hcount⟩

/-- A Rust file with an implementation before its type, and a trait. -/
def earlyImpl : Parsed :=
  { tree :=
      { source := "impl S \x7b fn f() \x7b\x7d \x7d\nstruct S;\ntrait T \x7b fn g(); \x7d\n".toList,
        root := phrase 0 "source_file" none 0 51
          [phrase 1 "impl_item" none 0 20
            [token 2 "impl" 0 4, phrase 3 "type_identifier" (some "type") 5 6 [],
             phrase 4 "declaration_list" (some "body") 7 20
              [token 5 "\x7b" 7 8,
               phrase 6 "function_item" none 9 18
                [token 7 "fn" 9 11, phrase 8 "identifier" (some "name") 12 13 [],
                 phrase 9 "parameters" (some "parameters") 13 15
                  [token 10 "(" 13 14, token 11 ")" 14 15],
                 phrase 12 "block" (some "body") 16 18 [token 13 "\x7b" 16 17, token 14 "\x7d" 17 18]],
               token 15 "\x7d" 19 20]],
           phrase 16 "struct_item" none 21 30
            [token 17 "struct" 21 27, phrase 18 "type_identifier" (some "name") 28 29 [],
             token 19 ";" 29 30],
           phrase 20 "trait_item" none 31 50
            [token 21 "trait" 31 36, phrase 22 "type_identifier" (some "name") 37 38 [],
             phrase 23 "declaration_list" (some "body") 39 50
              [token 24 "\x7b" 39 40,
               phrase 25 "function_signature_item" none 41 48
                [token 26 "fn" 41 43, phrase 27 "identifier" (some "name") 44 45 [],
                 phrase 28 "parameters" (some "parameters") 45 47
                  [token 29 "(" 45 46, token 30 ")" 46 47],
                 token 31 ";" 47 48],
               token 32 "\x7d" 49 50]]] },
    dialect := ⟨"rust", .rust⟩,
    path := "s.rs" }

/-- A Go file with a method before the type of its receiver. -/
def earlyMethod : Parsed :=
  { tree :=
      { source := "package p\nfunc (s *S) f() \x7b\x7d\ntype S struct \x7b\x7d\n".toList,
        root := phrase 0 "source_file" none 0 46
          [phrase 1 "package_clause" none 0 9
            [token 2 "package" 0 7, phrase 3 "package_identifier" none 8 9 []],
           phrase 4 "method_declaration" none 10 28
            [token 5 "func" 10 14,
             phrase 6 "parameter_list" (some "receiver") 15 21
              [token 7 "(" 15 16,
               phrase 8 "parameter_declaration" none 16 20
                [phrase 9 "identifier" (some "name") 16 17 [],
                 phrase 10 "pointer_type" (some "type") 18 20
                  [token 11 "*" 18 19, phrase 12 "type_identifier" none 19 20 []]],
               token 13 ")" 20 21],
             phrase 14 "field_identifier" (some "name") 22 23 [],
             phrase 15 "parameter_list" (some "parameters") 23 25
              [token 16 "(" 23 24, token 17 ")" 24 25],
             phrase 18 "block" (some "body") 26 28 [token 19 "\x7b" 26 27, token 20 "\x7d" 27 28]],
           phrase 21 "type_declaration" none 29 45
            [token 22 "type" 29 33,
             phrase 23 "type_spec" none 34 45
              [phrase 24 "type_identifier" (some "name") 34 35 [],
               phrase 25 "struct_type" (some "type") 36 45
                [token 26 "struct" 36 42,
                 phrase 27 "field_declaration_list" none 43 45
                  [token 28 "\x7b" 43 44, token 29 "\x7d" 44 45]]]]] },
    dialect := ⟨"go", .go⟩,
    path := "p.go" }

theorem clear_earlyImpl : Rust.typeView.Clear earlyImpl where
  grammar := rfl
  numbered := by decide
  formed := by
    show ∀ n ∈ earlyImpl.tree.root.nodes, n.isA "impl_item" = true → Rust.ImplFormed n
    decide
  stops := by decide

theorem clear_earlyMethod : Go.typeView.Clear earlyMethod where
  grammar := rfl
  numbered := by decide
  formed := by
    show ∀ n ∈ earlyMethod.tree.root.nodes, n.isA "method_declaration" = true →
      n.children.countP Go.methodForm.isName ≤ 1
    decide
  stops := by decide

/-- Methods before their types are counted: each type here has one. -/
theorem early_methods_attributed :
    (∃ made m', (Plugin.rust.extract earlyImpl).run [] = (.ok (arrange made), m') ∧
      (made.filter isType).length = 2 ∧
      ∀ e ∈ arrange made, ∀ facts, e.kind = .classLike facts → facts.methodCount = 1) ∧
    ∃ made m', (Plugin.go.extract earlyMethod).run [] = (.ok (arrange made), m') ∧
      (made.filter isType).length = 1 ∧
      ∀ e ∈ arrange made, ∀ facts, e.kind = .classLike facts → facts.methodCount = 1 := by
  have himpl : ∀ x ∈ typeNames Rust.typeForms earlyImpl,
      ((Rust.ownMethods? x.role x.node).getD (Rust.methodsFor earlyImpl x.name)).length = 1 := by
    decide +kernel
  have hmethod : ∀ x ∈ typeNames Go.typeForms earlyMethod,
      ((Go.ownMethods? x.node).getD (Go.methodsFor earlyMethod x.name)).length = 1 := by
    decide +kernel
  constructor
  · obtain ⟨made, m', hextract, -, ⟨found, hperm, hcounts⟩, helements⟩ :=
      methods_attributed (v := Rust.typeView) (by simp [typeViews]) clear_earlyImpl Memo.genuine_nil
    refine ⟨made, m', hextract, hcounts.length_eq.symm.trans hperm.length_eq, ?_⟩
    intro e he facts hkind
    obtain ⟨x, hx, hname, -, hcount⟩ := helements e he facts hkind
    exact hcount.trans (hname ▸ himpl x hx)
  · obtain ⟨made, m', hextract, -, ⟨found, hperm, hcounts⟩, helements⟩ :=
      methods_attributed (v := Go.typeView) (by simp [typeViews]) clear_earlyMethod Memo.genuine_nil
    refine ⟨made, m', hextract, hcounts.length_eq.symm.trans hperm.length_eq, ?_⟩
    intro e he facts hkind
    obtain ⟨x, hx, hname, -, hcount⟩ := helements e he facts hkind
    exact hcount.trans (hname ▸ hmethod x hx)

end CodeSurvey.Extract
