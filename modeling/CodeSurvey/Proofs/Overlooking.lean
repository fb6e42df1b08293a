/-
  Patterns that overlook comments.

  A head overlooks comments if it asks for a kind that no comment has, or for a field, and says
  nothing of what is absent or last; a pattern overlooks them if all its heads do and nothing is
  anchored.  This can be checked, and what passes the check finds the same with and without the
  comments, capture by capture:

      among (kept siblings)  =  among siblings, each match without          (`among_without`)

  Main result, `Compiled.matchesIn_without`: so does a whole query.  What a match captures are nodes
  of the tree that pass the test of a head with that name (`Compiled.binds`).
-/
import CodeSurvey.Proofs.Places
import Mathlib.Data.List.Basic

namespace CodeSurvey.Query

open Syntax Extract

/-! ## §1. Heads. -/

/-- Does a kind speak of a comment? -/
def isCommentKind (kind : String) : Bool := Text.contains "comment".toList kind.toList

/-- Does no comment pass the test? -/
def Test.overlooks : Test → Bool
  | .kind name => !isCommentKind name
  | .token text => !isCommentKind text
  | _ => false

/-- Does the head pass over comments, and is it all the same to it whether they are there? -/
def Head.overlooks (h : Head) : Bool :=
  (h.field.isSome || h.test.overlooks) && h.absent.isEmpty && !h.last

section Heads

variable {drop : Tree → Bool} {h : Head}

theorem Test.passes_of_overlooks {test : Test} {t : Tree} (hover : test.overlooks = true)
    (ht : isComment t = true) : test.passes t = false := by
  have hkind : isCommentKind t.kind = true := ht
  cases test with
  | kind name =>
      have hne : (t.kind == name) = false := by
        rw [beq_eq_false_iff_ne]
        rintro rfl
        simp [Test.overlooks, hkind] at hover
      simp [Test.passes, hne]
  | token text =>
      have hne : (t.kind == text) = false := by
        rw [beq_eq_false_iff_ne]
        rintro rfl
        simp [Test.overlooks, hkind] at hover
      simp [Test.passes, hne]
  | _ => cases hover

theorem Test.passes_without (test : Test) (t : Tree) :
    test.passes (t.without drop) = test.passes t := by
  cases test with
  | _ => simp only [Test.passes, Tree.isNamed_without, Tree.label_without, Tree.kind_without]

/-- Nothing that is dropped fits. -/
theorem Head.fits_of_drop (hd : Droppable drop) (hover : h.overlooks = true) {s : Spot}
    (hs : drop s.tree = true) (after : List Spot) : h.fits s after = false := by
  simp only [overlooks, Bool.and_eq_true, Bool.or_eq_true] at hover
  unfold fits
  rcases hover.1.1 with hfield | htest
  · obtain ⟨field, hfield⟩ := Option.isSome_iff_exists.1 hfield
    simp [hfield, hd.unfielded s.tree hs]
  · simp [Test.passes_of_overlooks htest (hd.comment s.tree hs)]

/-- What is kept fits as before, whatever stands behind it. -/
theorem Head.fits_without (hover : h.overlooks = true) (s : Spot) (after after' : List Spot) :
    h.fits (s.without drop) after' = h.fits s after := by
  simp only [overlooks, Bool.and_eq_true, List.isEmpty_iff, Bool.not_eq_true'] at hover
  unfold fits
  simp [hover.1.2, hover.2, Spot.without, Test.passes_without]

end Heads

/-! ## §2. Patterns. -/

mutual

/-- Do all heads of a pattern overlook comments, and is nothing anchored? -/
def Pattern.overlooks : Pattern → Bool
  | .node head items => head.overlooks && itemsOverlook items
  | .either branches => allOverlook branches
  | .group items => itemsOverlook items
  | .optional body => body.overlooks

/-- Do all of several patterns overlook comments? -/
def allOverlook : List Pattern → Bool
  | [] => true
  | p :: ps => p.overlooks && allOverlook ps

/-- Do all items overlook comments? -/
def itemsOverlook : List (Bool × Pattern) → Bool
  | [] => true
  | (anchored, p) :: items => !anchored && p.overlooks && itemsOverlook items

end

/-- The captures, without the nodes to be dropped. -/
def Bindings.without (drop : Tree → Bool) (b : Bindings) : Bindings :=
  b.map fun x => (x.1, x.2.without drop)

/-- A match with the siblings left behind it, without the nodes to be dropped. -/
def foundWithout (drop : Tree → Bool) (found : Bindings × List Spot) : Bindings × List Spot :=
  (Bindings.without drop found.1, keptSpots drop found.2)

section Matching

variable {drop : Tree → Bool}

theorem Bindings.without_append (b b' : Bindings) :
    Bindings.without drop (b ++ b') = Bindings.without drop b ++ Bindings.without drop b' :=
  List.map_append

theorem Head.bind_without (h : Head) (s : Spot) :
    h.bind (s.without drop) = Bindings.without drop (h.bind s) := by
  unfold bind Bindings.without
  rw [List.map_map]
  rfl

/-- **One head tried along siblings** passes over what is dropped. -/
theorem scan_without (hd : Droppable drop) {h : Head} (hover : h.overlooks = true)
    {inside inside' : Spot → List Bindings}
    (hinside : ∀ s, inside' (s.without drop) = (inside s).map (Bindings.without drop))
    (settles : Bool) : ∀ siblings,
      scan h inside' false settles (keptSpots drop siblings)
        = (scan h inside false settles siblings).map (foundWithout drop) := by
  intro siblings
  induction siblings with
  | nil => rfl
  | cons s after ih =>
      cases hs : drop s.tree with
      | true =>
          -- it does not fit, and it closes no field
          have hopen : h.field.any s.closes = false := by
            cases h.field with
            | none => rfl
            | some field => simp [Spot.closes, hd.unfielded s.tree hs]
          rw [keptSpots_cons_of_drop hs, ih, scan]
          simp [hopen, h.fits_of_drop hd hover hs after]
      | false =>
          have hclose : h.field.any (s.without drop).closes = h.field.any s.closes := by
            cases h.field with
            | none => rfl
            | some field => exact closes_without hd s field
          have hhere : ((inside' (s.without drop)).map fun b =>
                (h.bind (s.without drop) ++ b, keptSpots drop after))
              = ((inside s).map fun b => (h.bind s ++ b, after)).map (foundWithout drop) := by
            rw [hinside, List.map_map, List.map_map]
            refine List.map_congr_left fun b _ => ?_
            simp only [Function.comp_apply, foundWithout, Bindings.without_append,
              Head.bind_without]
          rw [keptSpots_cons_of_keep hs, scan, scan, hclose, ih, hhere,
            h.fits_without hover s after]
          simp only [Bool.false_and, Bool.false_or]
          cases h.fits s after <;> cases settles <;> cases h.field.any s.closes <;>
            simp

mutual

/-- **Patterns among siblings**, one case for each way to build a pattern. -/
theorem among_without (hd : Droppable drop) : ∀ (p : Pattern) (siblings : List Spot),
    p.overlooks = true → p.among false (keptSpots drop siblings)
      = (p.among false siblings).map (foundWithout drop)
  | .node head items, siblings, hover => by
      rw [Pattern.overlooks, Bool.and_eq_true] at hover
      rw [Pattern.among, Pattern.among]
      refine scan_without hd hover.1 (fun s => ?_) _ siblings
      rw [children_spot_without, itemsAmong_without hd items s.children hover.2, List.map_map,
        List.map_map]
      rfl
  | .either branches, siblings, hover => anyAmong_without hd branches siblings hover
  | .group items, siblings, hover => itemsAmong_without hd items siblings hover
  | .optional body, siblings, hover => by
      rw [Pattern.among, Pattern.among, among_without hd body siblings hover, List.map_append]
      rfl

theorem anyAmong_without (hd : Droppable drop) : ∀ (ps : List Pattern) (siblings : List Spot),
    allOverlook ps = true → anyAmong ps false (keptSpots drop siblings)
      = (anyAmong ps false siblings).map (foundWithout drop)
  | [], _, _ => rfl
  | p :: ps, siblings, hover => by
      rw [allOverlook, Bool.and_eq_true] at hover
      rw [anyAmong, anyAmong, List.map_append, among_without hd p siblings hover.1,
        anyAmong_without hd ps siblings hover.2]

theorem itemsAmong_without (hd : Droppable drop) :
    ∀ (items : List (Bool × Pattern)) (siblings : List Spot),
      itemsOverlook items = true → itemsAmong false items (keptSpots drop siblings)
        = (itemsAmong false items siblings).map (foundWithout drop)
  | [], _, _ => rfl
  | (anchored, p) :: items, siblings, hover => by
      rw [itemsOverlook, Bool.and_eq_true, Bool.and_eq_true, Bool.not_eq_true'] at hover
      obtain ⟨⟨rfl, hp⟩, hitems⟩ := hover
      rw [itemsAmong, itemsAmong, Bool.or_false, among_without hd p siblings hp,
        List.flatMap_map, List.map_flatMap]
      refine congrArg (List.flatMap · _) (funext fun found => ?_)
      dsimp only [foundWithout]
      rw [itemsAmong_without hd items found.2 hitems, List.map_map, List.map_map]
      refine List.map_congr_left fun found' _ => ?_
      simp only [Function.comp_apply, foundWithout, Bindings.without_append]

end

/-! ## §3. Matches in a tree. -/

theorem covers_without (a b : Bindings) :
    covers (Bindings.without drop a) (Bindings.without drop b) = covers a b := by
  unfold covers Bindings.without
  simp only [List.all_map, List.any_map, Function.comp_def, Spot.without, Tree.id_without]

theorem maximal_without (found : List Bindings) :
    maximal (found.map (Bindings.without drop)) = (maximal found).map (Bindings.without drop) := by
  unfold maximal
  dsimp only
  rw [List.zipIdx_map, List.filter_map, List.map_map, List.map_map]
  simp only [Function.comp_def, List.any_map, Prod.map, covers_without, id]

theorem matchesAt_of_drop (hd : Droppable drop) {head : Head} {items : List (Bool × Pattern)}
    (hover : head.overlooks = true) {s : Spot} (hs : drop s.tree = true) :
    (Pattern.node head items).matchesAt s = [] := by
  unfold Pattern.matchesAt
  dsimp only
  rw [Pattern.startingAt, if_neg (by simp [head.fits_of_drop hd hover hs])]
  rfl

/-- What stands behind the first node does not matter. -/
theorem startingAt_without (hd : Droppable drop) {head : Head} {items : List (Bool × Pattern)}
    (hover : (Pattern.node head items).overlooks = true) (s : Spot) (after after' : List Spot) :
    ((Pattern.node head items).startingAt (s.without drop) after').map Prod.fst
      = (((Pattern.node head items).startingAt s after).map Prod.fst).map
          (Bindings.without drop) := by
  rw [Pattern.overlooks, Bool.and_eq_true] at hover
  rw [Pattern.startingAt, Pattern.startingAt, head.fits_without hover.1 s after,
    children_spot_without, itemsAmong_without hd items s.children hover.2]
  split
  · simp only [List.map_map]
    refine List.map_congr_left fun found _ => ?_
    simp only [Function.comp_apply, foundWithout, Bindings.without_append, Head.bind_without]
  · rfl

theorem matchesAt_without (hd : Droppable drop) {head : Head} {items : List (Bool × Pattern)}
    (hover : (Pattern.node head items).overlooks = true) (s : Spot) :
    (Pattern.node head items).matchesAt (s.without drop)
      = ((Pattern.node head items).matchesAt s).map (Bindings.without drop) := by
  unfold Pattern.matchesAt
  dsimp only
  rw [← maximal_without]
  exact congrArg maximal (startingAt_without hd hover s _ _)

/-- The places that are kept have the matches, and no others have any. -/
theorem matchesAt_keptSpots (hd : Droppable drop) {head : Head} {items : List (Bool × Pattern)}
    (hover : (Pattern.node head items).overlooks = true) : ∀ ss : List Spot,
    ((keptSpots drop ss).filter fun s => 0 < s.tree.stop).flatMap
        (Pattern.node head items).matchesAt
      = ((ss.filter fun s => 0 < s.tree.stop).flatMap (Pattern.node head items).matchesAt).map
          (Bindings.without drop) := by
  intro ss
  induction ss with
  | nil => rfl
  | cons s ss ih =>
      have hstop : (s.without drop).tree.stop = s.tree.stop := Tree.stop_without s.tree
      have hhead : head.overlooks = true := by
        rw [Pattern.overlooks, Bool.and_eq_true] at hover
        exact hover.1
      cases hs : drop s.tree with
      | true =>
          rw [keptSpots_cons_of_drop hs, ih, List.filter_cons]
          split
          · rw [List.flatMap_cons, matchesAt_of_drop hd hhead hs, List.nil_append]
          · rfl
      | false =>
          rw [keptSpots_cons_of_keep hs, List.filter_cons, List.filter_cons, hstop]
          split
          · rw [List.flatMap_cons, List.flatMap_cons, List.map_append, ih,
              matchesAt_without hd hover]
          · exact ih

theorem matchesIn_node (head : Head) (items : List (Bool × Pattern)) (t : Tree) :
    (Pattern.node head items).matchesIn t
      = (t.spots.filter fun s => 0 < s.tree.stop).flatMap (Pattern.node head items).matchesAt := rfl

/-- **The matches in a tree.** -/
theorem matchesIn_without (hd : Droppable drop) {head : Head} {items : List (Bool × Pattern)}
    (hover : (Pattern.node head items).overlooks = true) (t : Tree) :
    (Pattern.node head items).matchesIn (t.without drop)
      = ((Pattern.node head items).matchesIn t).map (Bindings.without drop) := by
  have hspots : t.spots = ⟨t, []⟩ :: spotsOfAll [t] t.children := by
    cases t
    rfl
  have hstop : (Spot.without drop ⟨t, []⟩).tree.stop = t.stop := Tree.stop_without t
  have hrest := matchesAt_keptSpots hd hover (spotsOfAll [t] t.children)
  rw [matchesIn_node, matchesIn_node, spots_without hd, hspots, List.filter_cons, List.filter_cons,
    hstop]
  -- the root is there in any case
  split
  · rw [List.flatMap_cons, List.flatMap_cons, List.map_append, hrest, matchesAt_without hd hover]
  · exact hrest

end Matching

/-! ## §4. Queries. -/

/-- Does a rule start with one node, overlook comments and ask for nothing else? -/
def Rule.overlooks (r : Rule) : Bool :=
  r.predicates.isEmpty &&
    match r.pattern with
    | some (.node head items) => (Pattern.node head items).overlooks
    | _ => false

/-- Do all rules of a query overlook comments? -/
def Compiled.overlooks (q : Compiled) : Bool := q.rules.all Rule.overlooks

/-- The match, without the nodes to be dropped. -/
def Match.without (drop : Tree → Bool) (m : Match) : Match :=
  ⟨m.rule, Bindings.without drop m.bindings⟩

section Queries

variable {drop : Tree → Bool} {q : Compiled}

theorem Rule.exists_node_of_overlooks {r : Rule} (h : r.overlooks = true) :
    ∃ head items, r.pattern = some (.node head items) ∧ r.predicates = [] ∧
      (Pattern.node head items).overlooks = true := by
  unfold overlooks at h
  rw [Bool.and_eq_true, List.isEmpty_iff] at h
  obtain ⟨hpredicates, hpattern⟩ := h
  split at hpattern
  · rename_i head items heq
    exact ⟨head, items, heq, hpredicates, hpattern⟩
  · cases hpattern

theorem Rule.matchesIn_eq {r : Rule} {p : Pattern} (hpattern : r.pattern = some p)
    (hpredicates : r.predicates = []) (source : List UInt8) (t : Tree) :
    r.matchesIn source t = p.matchesIn t := by
  unfold Rule.matchesIn
  rw [hpattern, hpredicates]
  exact List.filter_eq_self.2 fun _ _ => rfl

theorem Compiled.matchesIn_without (hd : Droppable drop) (hover : q.overlooks = true)
    (source : List UInt8) (t : Tree) :
    q.matchesIn source (t.without drop) = (q.matchesIn source t).map (Match.without drop) := by
  unfold Compiled.matchesIn
  rw [List.map_flatMap]
  refine List.flatMap_congr fun entry hentry => ?_
  have hrule : entry.1.overlooks = true :=
    List.all_eq_true.1 hover _ (List.fst_mem_of_mem_zipIdx hentry)
  obtain ⟨head, items, hpattern, hpredicates, hnode⟩ := Rule.exists_node_of_overlooks hrule
  dsimp only
  rw [Rule.matchesIn_eq hpattern hpredicates, Rule.matchesIn_eq hpattern hpredicates,
    Query.matchesIn_without hd hnode, List.map_map, List.map_map]
  rfl

/-- As much is captured as before. -/
theorem Compiled.length_captures_without (hd : Droppable drop) (hover : q.overlooks = true)
    (source : List UInt8) (t : Tree) :
    (q.captures source (t.without drop)).length = (q.captures source t).length := by
  unfold Compiled.captures
  rw [List.length_mergeSort, List.length_mergeSort, matchesIn_without hd hover, List.flatMap_map,
    List.length_flatMap, List.length_flatMap]
  simp only [Match.without, Bindings.without, List.length_map]

end Queries

/-! ## §5. What is captured. -/

mutual

/-- The heads of a pattern. -/
def Pattern.heads : Pattern → List Head
  | .node head items => head :: itemsHeads items
  | .either branches => allHeads branches
  | .group items => itemsHeads items
  | .optional body => body.heads

/-- The heads of several patterns. -/
def allHeads : List Pattern → List Head
  | [] => []
  | p :: ps => p.heads ++ allHeads ps

/-- The heads of items. -/
def itemsHeads : List (Bool × Pattern) → List Head
  | [] => []
  | (_, p) :: items => p.heads ++ itemsHeads items

end

/-- The heads of a rule. -/
def Rule.heads (r : Rule) : List Head := (r.pattern.map Pattern.heads).getD []

/-- The heads of a query. -/
def Compiled.heads (q : Compiled) : List Head := q.rules.flatMap Rule.heads

/-- A node of the tree, captured under a name that a head has for what passes its test. -/
structure Captured (root : Tree) (heads : List Head) (x : String × Spot) : Prop where
  inside : x.2.tree ∈ root.nodes
  head : ∃ h ∈ heads, x.1 ∈ h.captures ∧ h.test.passes x.2.tree = true

section Captured

variable {root : Tree} {heads heads' : List Head} {x : String × Spot}

theorem Captured.mono (h : Captured root heads x) (hsub : heads ⊆ heads') :
    Captured root heads' x := by
  obtain ⟨head, hhead, hname⟩ := h.head
  exact ⟨h.inside, head, hsub hhead, hname⟩

theorem Head.passes_of_fits {h : Head} {s : Spot} {after : List Spot}
    (hfits : h.fits s after = true) : h.test.passes s.tree = true := by
  unfold fits at hfits
  simp only [Bool.and_eq_true] at hfits
  exact hfits.1.1.1

/-- A match of one head: a sibling that passes the test, and a match inside it. -/
theorem exists_of_mem_scan {h : Head} {inside : Spot → List Bindings} {anchored settles : Bool}
    {found : Bindings × List Spot} : ∀ {siblings : List Spot},
      found ∈ scan h inside anchored settles siblings →
        found.2 ⊆ siblings ∧ ∃ s ∈ siblings, h.test.passes s.tree = true ∧
          ∃ b ∈ inside s, found.1 = h.bind s ++ b := by
  intro siblings
  induction siblings with
  | nil => exact fun hfound => absurd hfound List.not_mem_nil
  | cons s after ih =>
      intro hfound
      have hsplit : found ∈ (if h.fits s after then
          (inside s).map fun b => (h.bind s ++ b, after) else []) ∨
          found ∈ scan h inside anchored settles after := by
        rw [scan] at hfound
        split at hfound
        · exact .inl hfound
        · exact List.mem_append.1 hfound
      rcases hsplit with hhere | hlater
      · split at hhere
        · rename_i hfits
          obtain ⟨b, hb, rfl⟩ := List.mem_map.1 hhere
          exact ⟨List.subset_cons_self s after, s, List.mem_cons_self, Head.passes_of_fits hfits, b,
            hb, rfl⟩
        · cases hhere
      · obtain ⟨hrest, s', hs', hmatch⟩ := ih hlater
        exact ⟨List.subset_cons_of_subset s hrest, s', List.mem_cons_of_mem s hs', hmatch⟩

theorem captured_bind {h : Head} {s : Spot} (hs : s.tree ∈ root.nodes)
    (htest : h.test.passes s.tree = true) : ∀ x ∈ h.bind s, Captured root [h] x := by
  intro x hx
  obtain ⟨name, hname, rfl⟩ := List.mem_map.1 hx
  exact ⟨hs, h, List.mem_singleton.2 rfl, hname, htest⟩

theorem inside_of_mem_children {s c : Spot} (hs : s.tree ∈ root.nodes) (hc : c ∈ s.children) :
    c.tree ∈ root.nodes := by
  obtain ⟨t, ht, rfl⟩ := List.mem_map.1 hc
  exact Tree.mem_nodes_trans (Tree.mem_nodes_of_mem_children ht) hs

/-- All that is captured among siblings, and what is left of them. -/
structure Binds (root : Tree) (heads : List Head) (siblings : List Spot)
    (found : Bindings × List Spot) : Prop where
  captured : ∀ x ∈ found.1, Captured root heads x
  rest : found.2 ⊆ siblings

mutual

theorem among_binds : ∀ (p : Pattern) (anchored : Bool) {siblings : List Spot},
    (∀ s ∈ siblings, s.tree ∈ root.nodes) →
      ∀ found ∈ p.among anchored siblings, Binds root p.heads siblings found
  | .node head items, anchored, siblings, hin, found, hfound => by
      rw [Pattern.among] at hfound
      obtain ⟨hrest, s, hs, htest, b, hb, heq⟩ := exists_of_mem_scan hfound
      obtain ⟨found', hfound', rfl⟩ := List.mem_map.1 hb
      have hbelow := itemsAmong_binds items false
        (fun c hc => inside_of_mem_children (hin s hs) hc) found' hfound'
      refine ⟨fun x hx => ?_, hrest⟩
      rw [heq] at hx
      rcases List.mem_append.1 hx with hx | hx
      · exact (captured_bind (hin s hs) htest x hx).mono (by simp [Pattern.heads])
      · exact (hbelow.captured x hx).mono (by simp [Pattern.heads])
  | .either branches, anchored, siblings, hin, found, hfound =>
      anyAmong_binds branches anchored hin found hfound
  | .group items, anchored, siblings, hin, found, hfound =>
      itemsAmong_binds items anchored hin found hfound
  | .optional body, anchored, siblings, hin, found, hfound => by
      rcases List.mem_append.1 hfound with hfound | hfound
      · exact among_binds body anchored hin found hfound
      · obtain rfl := List.mem_singleton.1 hfound
        exact ⟨fun x hx => absurd hx List.not_mem_nil, List.Subset.refl _⟩

theorem anyAmong_binds : ∀ (ps : List Pattern) (anchored : Bool) {siblings : List Spot},
    (∀ s ∈ siblings, s.tree ∈ root.nodes) →
      ∀ found ∈ anyAmong ps anchored siblings, Binds root (allHeads ps) siblings found
  | p :: ps, anchored, siblings, hin, found, hfound => by
      rcases List.mem_append.1 hfound with hfound | hfound
      · obtain ⟨hcaptured, hrest⟩ := among_binds p anchored hin found hfound
        exact ⟨fun x hx => (hcaptured x hx).mono (by simp [allHeads]), hrest⟩
      · obtain ⟨hcaptured, hrest⟩ := anyAmong_binds ps anchored hin found hfound
        exact ⟨fun x hx => (hcaptured x hx).mono (by simp [allHeads]), hrest⟩

theorem itemsAmong_binds : ∀ (items : List (Bool × Pattern)) (outer : Bool) {siblings : List Spot},
    (∀ s ∈ siblings, s.tree ∈ root.nodes) →
      ∀ found ∈ itemsAmong outer items siblings, Binds root (itemsHeads items) siblings found
  | [], outer, siblings, hin, found, hfound => by
      obtain rfl := List.mem_singleton.1 hfound
      exact ⟨fun x hx => absurd hx List.not_mem_nil, List.Subset.refl _⟩
  | (anchored, p) :: items, outer, siblings, hin, found, hfound => by
      rw [itemsAmong] at hfound
      obtain ⟨first, hfirst, hfound⟩ := List.mem_flatMap.1 hfound
      obtain ⟨later, hlater, rfl⟩ := List.mem_map.1 hfound
      obtain ⟨hcaptured, hrest⟩ := among_binds p _ hin first hfirst
      obtain ⟨hcaptured', hrest'⟩ := itemsAmong_binds items false
        (fun s hs => hin s (hrest hs)) later hlater
      refine ⟨fun x hx => ?_, List.Subset.trans hrest' hrest⟩
      rcases List.mem_append.1 hx with hx | hx
      · exact (hcaptured x hx).mono (by simp [itemsHeads])
      · exact (hcaptured' x hx).mono (by simp [itemsHeads])

end

mutual

/-- **Patterns from their first node on**, one case for each way to build a pattern. -/
theorem startingAt_binds : ∀ (p : Pattern) {s : Spot} {after : List Spot},
    s.tree ∈ root.nodes → (∀ t ∈ after, t.tree ∈ root.nodes) →
      ∀ found ∈ p.startingAt s after, Binds root p.heads after found
  | .node head items, s, after, hs, hafter, found, hfound => by
      rw [Pattern.startingAt] at hfound
      split at hfound
      · rename_i hfits
        obtain ⟨found', hfound', rfl⟩ := List.mem_map.1 hfound
        have hbelow := itemsAmong_binds items false
          (fun c hc => inside_of_mem_children hs hc) found' hfound'
        refine ⟨fun x hx => ?_, List.Subset.refl _⟩
        rcases List.mem_append.1 hx with hx | hx
        · exact (captured_bind hs (Head.passes_of_fits hfits) x hx).mono (by simp [Pattern.heads])
        · exact (hbelow.captured x hx).mono (by simp [Pattern.heads])
      · cases hfound
  | .either branches, s, after, hs, hafter, found, hfound =>
      anyStartingAt_binds branches hs hafter found hfound
  | .group items, s, after, hs, hafter, found, hfound =>
      itemsStartingAt_binds items hs hafter found hfound
  | .optional body, s, after, hs, hafter, found, hfound =>
      startingAt_binds body hs hafter found hfound

theorem anyStartingAt_binds : ∀ (ps : List Pattern) {s : Spot} {after : List Spot},
    s.tree ∈ root.nodes → (∀ t ∈ after, t.tree ∈ root.nodes) →
      ∀ found ∈ anyStartingAt ps s after, Binds root (allHeads ps) after found
  | p :: ps, s, after, hs, hafter, found, hfound => by
      rcases List.mem_append.1 hfound with hfound | hfound
      · obtain ⟨hcaptured, hrest⟩ := startingAt_binds p hs hafter found hfound
        exact ⟨fun x hx => (hcaptured x hx).mono (by simp [allHeads]), hrest⟩
      · obtain ⟨hcaptured, hrest⟩ := anyStartingAt_binds ps hs hafter found hfound
        exact ⟨fun x hx => (hcaptured x hx).mono (by simp [allHeads]), hrest⟩

theorem itemsStartingAt_binds : ∀ (items : List (Bool × Pattern)) {s : Spot} {after : List Spot},
    s.tree ∈ root.nodes → (∀ t ∈ after, t.tree ∈ root.nodes) →
      ∀ found ∈ itemsStartingAt items s after, Binds root (itemsHeads items) after found
  | (anchored, p) :: items, s, after, hs, hafter, found, hfound => by
      unfold itemsStartingAt at hfound
      rcases List.mem_append.1 hfound with hfound | hfound
      · -- the first item holds the first node
        obtain ⟨first, hfirst, hfound⟩ := List.mem_flatMap.1 hfound
        obtain ⟨later, hlater, rfl⟩ := List.mem_map.1 hfound
        obtain ⟨hcaptured, hrest⟩ := startingAt_binds p hs hafter first hfirst
        obtain ⟨hcaptured', hrest'⟩ := itemsAmong_binds items false
          (fun t ht => hafter t (hrest ht)) later hlater
        refine ⟨fun x hx => ?_, List.Subset.trans hrest' hrest⟩
        rcases List.mem_append.1 hx with hx | hx
        · exact (hcaptured x hx).mono (by simp [itemsHeads])
        · exact (hcaptured' x hx).mono (by simp [itemsHeads])
      · -- it is left out
        split at hfound
        · obtain ⟨hcaptured, hrest⟩ := itemsStartingAt_binds items hs hafter found hfound
          exact ⟨fun x hx => (hcaptured x hx).mono (by simp [itemsHeads]), hrest⟩
        · cases hfound

end

theorem mem_of_mem_maximal {found : List Bindings} {b : Bindings} (h : b ∈ maximal found) :
    b ∈ found := by
  unfold maximal at h
  obtain ⟨⟨b', i⟩, hb, rfl⟩ := List.mem_map.1 h
  exact List.fst_mem_of_mem_zipIdx (List.mem_filter.1 hb).1

theorem mem_of_mem_withAfter {entry : Spot × List Spot} : ∀ {siblings : List Spot},
    entry ∈ withAfter siblings → entry.1 ∈ siblings ∧ entry.2 ⊆ siblings := by
  intro siblings
  induction siblings with
  | nil => exact fun hentry => absurd hentry List.not_mem_nil
  | cons s after ih =>
      intro hentry
      rcases List.mem_cons.1 hentry with rfl | hentry
      · exact ⟨List.mem_cons_self, List.subset_cons_self s after⟩
      · obtain ⟨hmem, hafter⟩ := ih hentry
        exact ⟨List.mem_cons_of_mem s hmem, List.subset_cons_of_subset s hafter⟩

variable {p : Pattern} {b : Bindings}

theorem matchesBelow_binds {s : Spot} (hs : s.tree ∈ root.nodes) (hb : b ∈ p.matchesBelow s) :
    ∀ x ∈ b, Captured root p.heads x := by
  unfold Pattern.matchesBelow at hb
  split at hb
  · cases hb
  · obtain ⟨entry, hentry, hb⟩ := List.mem_flatMap.1 (mem_of_mem_maximal hb)
    obtain ⟨found, hfound, rfl⟩ := List.mem_map.1 hb
    obtain ⟨hfirst, hafter⟩ := mem_of_mem_withAfter hentry
    exact (startingAt_binds p (inside_of_mem_children hs hfirst)
      (fun t ht => inside_of_mem_children hs (hafter ht)) found hfound).captured

theorem matchesAt_binds {s : Spot} (hs : s ∈ root.spots) (hb : b ∈ p.matchesAt s) :
    ∀ x ∈ b, Captured root p.heads x := by
  unfold Pattern.matchesAt at hb
  obtain ⟨found, hfound, rfl⟩ := List.mem_map.1 (mem_of_mem_maximal hb)
  refine (startingAt_binds p (mem_nodes_of_mem_spots hs) (fun t ht => ?_) found hfound).captured
  -- the siblings behind it are children of the node around it
  split at ht
  · cases ht
  · rename_i up hup
    have hchild : t ∈ up.children :=
      List.dropWhile_subset _ (List.mem_of_mem_drop ht)
    exact inside_of_mem_children (mem_nodes_of_mem_spots (mem_of_parent hs hup).1) hchild

/-- What the matches of a pattern capture. -/
theorem matchesIn_binds (hb : b ∈ p.matchesIn root) : ∀ x ∈ b, Captured root p.heads x := by
  unfold Pattern.matchesIn at hb
  obtain ⟨s, hs, hb⟩ := List.mem_flatMap.1 hb
  have hplace : s ∈ root.spots := (List.mem_filter.1 hs).1
  split at hb
  · exact matchesBelow_binds (mem_nodes_of_mem_spots hplace) hb
  · exact matchesAt_binds hplace hb

theorem Rule.binds {r : Rule} (hover : r.overlooks = true) {source : List UInt8} {b : Bindings}
    (hb : b ∈ r.matchesIn source root) : ∀ x ∈ b, Captured root r.heads x := by
  obtain ⟨head, items, hpattern, hpredicates, -⟩ := Rule.exists_node_of_overlooks hover
  rw [Rule.matchesIn_eq hpattern hpredicates] at hb
  rw [Rule.heads, hpattern]
  exact matchesIn_binds hb

/-- **What the matches of a query capture.** -/
theorem Compiled.binds {q : Compiled} (hover : q.overlooks = true) {source : List UInt8}
    {m : Match} (hm : m ∈ q.matchesIn source root) : ∀ x ∈ m.bindings, Captured root q.heads x := by
  unfold Compiled.matchesIn at hm
  obtain ⟨⟨r, i⟩, hentry, hm⟩ := List.mem_flatMap.1 hm
  obtain ⟨b, hb, rfl⟩ := List.mem_map.1 hm
  have hr : r ∈ q.rules := List.fst_mem_of_mem_zipIdx hentry
  intro x hx
  refine (Rule.binds (List.all_eq_true.1 hover r hr) hb x hx).mono fun head hhead => ?_
  exact List.mem_flatMap.2 ⟨r, hr, hhead⟩

end Captured

/-- Does the test ask for one kind? -/
def Test.asks (kind : String) : Test → Bool
  | .kind name => name == kind
  | _ => false

theorem Test.kind_of_asks {test : Test} {kind : String} {t : Tree} (hasks : test.asks kind = true)
    (ht : test.passes t = true) : t.kind = kind := by
  cases test with
  | kind asked =>
      simp only [Test.asks, beq_iff_eq] at hasks
      simp only [Test.passes, Bool.and_eq_true, beq_iff_eq] at ht
      rw [← hasks, ht.2]
  | _ => cases hasks

/-- Does a capture name stand for nodes of one kind in a rule? -/
def Rule.reserves (name kind : String) (r : Rule) : Bool :=
  r.heads.all fun h => !h.captures.contains name || h.test.asks kind

theorem Rule.kind_of_reserves {r : Rule} {name kind : String} (h : r.reserves name kind = true)
    {head : Head} (hhead : head ∈ r.heads) (hname : name ∈ head.captures) {t : Tree}
    (ht : head.test.passes t = true) : t.kind = kind := by
  have hasks : head.test.asks kind = true := by
    have hhere := List.all_eq_true.1 h head hhead
    rwa [List.contains_iff_mem.2 hname] at hhere
  exact Test.kind_of_asks hasks ht

end CodeSurvey.Query
