/-
  All names of a declaration.

  A declaration may have several names, and each of them makes a match of its own.  Which names are
  found is decided by the field they are in: it is looked for among the children up to the one that
  closes it.

      a head with a field is tried up to there              (`map_scan_upToClosing`)
      a form has one match for each name that is found      (`Form.matchesAt_eq`)
      where names have a slot each, all of them are found   (`Form.namesAt_eq`)

  What is made of the matches is told one by one (`gives_candidates_reported`).
-/
import CodeSurvey.Proofs.Arrangement

namespace CodeSurvey

open Syntax Query

namespace Query

/-! ## §1. Up to where a field is closed. -/

/-- The siblings that are looked at for a field: up to the first one that closes it. -/
def upToClosing (field : String) : List Spot → List Spot
  | [] => []
  | s :: after => if s.closes field then [s] else s :: upToClosing field after

theorem upToClosing_isPrefix (field : String) : ∀ siblings : List Spot,
    upToClosing field siblings <+: siblings
  | [] => List.prefix_refl _
  | s :: after => by
      rw [upToClosing]
      split
      · exact (List.prefix_cons_inj s).2 ⟨after, rfl⟩
      · exact (List.prefix_cons_inj s).2 (upToClosing_isPrefix field after)

section Scanning

variable {h : Head} {inside : Spot → List Bindings} {field : String}

/-- **A head with a field** finds all that fit up to where the field is closed. -/
theorem map_scan_upToClosing (hlast : h.last = false) (hfield : h.field = some field) :
    ∀ siblings : List Spot, (scan h inside false false siblings).map Prod.fst
      = ((upToClosing field siblings).filter (h.fits · [])).flatMap fun s =>
          (inside s).map (h.bind s ++ ·) := by
  intro siblings
  induction siblings with
  | nil => rfl
  | cons s after ih =>
      have hhere : ((if h.fits s after then (inside s).map fun b => (h.bind s ++ b, after)
            else []).map Prod.fst)
          = ([s].filter (h.fits · [])).flatMap fun s => (inside s).map (h.bind s ++ ·) := by
        rw [h.fits_of_last hlast, List.filter_cons, List.filter_nil]
        split
        · rw [List.flatMap_singleton, List.map_map]
          rfl
        · rfl
      rw [scan, upToClosing, hfield]
      simp only [Bool.false_and, Bool.and_false, Bool.false_or, Option.any_some]
      split
      · exact hhere
      · rw [List.map_append, hhere, ih, ← List.flatMap_append, ← List.filter_append]
        rfl

end Scanning

/-- A child that is captured, for each that is found in its field. -/
theorem map_among_leaf (kind field name : String) (siblings : List Spot) :
    ((Pattern.node (.ofKind kind (some field) [name]) []).among false siblings).map Prod.fst
      = ((upToClosing field siblings).filter fun c =>
          c.tree.isA kind && c.tree.field == some field).map fun c => [(name, c)] := by
  rw [Pattern.among]
  refine (map_scan_upToClosing rfl rfl siblings).trans ?_
  simp only [Head.fits_ofKind, Option.all_some]
  exact List.flatMap_pure_eq_map _ _

/-- Where each child in a field is a slot of its own, all of them are looked at. -/
theorem filter_upToClosing {s : Spot} {field : String}
    (hnumbered : (s.tree.children.map Tree.id).Pairwise (· < ·))
    (hrun : runs.lookup (s.tree.kind, field) = none) (keep : Tree → Bool) :
    (upToClosing field s.children).filter (fun c => keep c.tree && c.tree.field == some field)
      = s.children.filter fun c => keep c.tree && c.tree.field == some field := by
  obtain ⟨rest, hrest⟩ := upToClosing_isPrefix field s.children
  -- what is not looked at stands behind a child that closes the field
  have hbehind : ∀ x ∈ rest, x.tree.field ≠ some field := by
    intro x hx
    have hcut : ∀ siblings earlier : List Spot, s.children = earlier ++ siblings →
        ∀ rest, upToClosing field siblings ++ rest = siblings → x ∈ rest →
        x.tree.field ≠ some field := by
      intro siblings
      induction siblings with
      | nil =>
          intro earlier _ rest heq hmem
          rw [List.append_eq_nil_iff.1 heq |>.2] at hmem
          cases hmem
      | cons c after ih =>
          intro earlier hsplit rest heq hmem
          rw [upToClosing] at heq
          split at heq
          · rename_i hcloses
            obtain rfl : rest = after := List.cons.inj heq |>.2
            exact field_of_closes hnumbered hrun hsplit hcloses x hmem
          · refine ih (earlier ++ [c]) ?_ rest (List.cons.inj heq).2 hmem
            rw [hsplit, List.append_assoc]
            rfl
    exact hcut s.children [] rfl rest hrest hx
  have hnone : rest.filter (fun c => keep c.tree && c.tree.field == some field) = [] := by
    refine List.filter_eq_nil_iff.2 fun x hx => ?_
    simp [hbehind x hx]
  conv_rhs => rw [← hrest]
  rw [List.filter_append, hnone, List.append_nil]

/-- A node has one kind only. -/
theorem isA_eq_false_of_ne {t : Tree} {kind kind' : String} (hkind : t.isA kind = true)
    (hne : kind ≠ kind') : t.isA kind' = false := by
  refine Bool.eq_false_iff.2 fun hkind' => hne ?_
  exact (Tree.kind_of_isA hkind).symm.trans (Tree.kind_of_isA hkind')

section Places

variable {root : Tree} {kind : String}

/-- The places of a kind are all places with such a node, if none of them ends at the start of the
file. -/
theorem placesOf_eq (hstop : ∀ n ∈ root.nodes, n.isA kind = true → 0 < n.stop) :
    placesOf kind root = root.spots.filter fun s => s.tree.isA kind := by
  rw [placesOf, List.filter_filter]
  refine List.filter_congr fun s hs => ?_
  cases hkind : s.tree.isA kind with
  | false => rfl
  | true => exact decide_eq_true (hstop s.tree (mem_nodes_of_mem_spots hs) hkind)

/-- What is gathered at the places of a kind is gathered from its nodes, if none of them ends at the
start of the file. -/
theorem flatMap_placesOf {β : Type} {atSpot : Spot → List β} {atNode : Tree → List β}
    (hstop : ∀ n ∈ root.nodes, n.isA kind = true → 0 < n.stop)
    (heq : ∀ s ∈ root.spots, s.tree.isA kind = true → atSpot s = atNode s.tree) :
    (placesOf kind root).flatMap atSpot = (root.nodes.filter (·.isA kind)).flatMap atNode := by
  rw [placesOf_eq hstop, ← map_tree_spots, List.filter_map, List.flatMap_map]
  refine List.flatMap_congr fun s hs => ?_
  obtain ⟨hspot, hkind⟩ := List.mem_filter.1 hs
  exact heq s hspot hkind

/-- The nodes of some kinds, kind by kind. -/
theorem filter_kinds_perm (nodes : List Tree) : ∀ {kinds : List String}, kinds.Nodup →
    (kinds.flatMap fun kind => nodes.filter (·.isA kind)).Perm
      (nodes.filter fun n => kinds.any (n.isA ·)) := by
  intro kinds
  induction kinds with
  | nil => exact fun _ => .of_eq (List.filter_eq_nil_iff.2 fun _ _ => Bool.false_ne_true).symm
  | cons kind kinds ih =>
      intro hnodup
      obtain ⟨hnew, hnodup⟩ := List.nodup_cons.1 hnodup
      rw [List.flatMap_cons]
      refine ((ih hnodup).append_left _).trans ?_
      -- no node is of two kinds
      refine .trans (.of_eq ?_) (List.filter_append_perm (·.isA kind) _)
      rw [List.filter_filter, List.filter_filter]
      congr 1
      · refine List.filter_congr fun n _ => ?_
        rw [List.any_cons, Bool.and_or_distrib_left]
        cases n.isA kind <;> rfl
      · refine List.filter_congr fun n _ => ?_
        rw [List.any_cons]
        cases hkind : n.isA kind with
        | false => rfl
        | true =>
            refine List.any_eq_false.2 fun kind' hmem => Bool.eq_false_iff.1 ?_
            exact isA_eq_false_of_ne hkind fun heq => hnew (heq ▸ hmem)

end Places

end Query

namespace Extract

/-! ## §2. The names of a form. -/

namespace Form

variable {f : Form} {root : Tree} {s : Spot}

/-- The names of a declaration that are found. -/
def namesAt (f : Form) (s : Spot) : List Spot :=
  (upToClosing "name" s.children).filter fun c => f.isName c.tree

theorem namesAt_sublist (f : Form) (s : Spot) : (f.namesAt s).Sublist s.children :=
  List.filter_sublist.trans (upToClosing_isPrefix "name" s.children).sublist

/-- **All names are found** where each has a slot of its own. -/
theorem namesAt_eq (hroot : root.Numbered) (hs : s ∈ root.spots)
    (hrun : runs.lookup (s.tree.kind, "name") = none) :
    f.namesAt s = s.children.filter fun c => f.isName c.tree :=
  filter_upToClosing (hroot.children (mem_nodes_of_mem_spots hs)) hrun fun c => c.isA f.nameKind

/-- **The matches of a form** at a place: one for each name that is found. -/
theorem matchesAt_eq (hrole : f.role ≠ "name") (hroot : root.Numbered) (hs : s ∈ root.spots) :
    f.pattern.matchesAt s = if s.tree.isA f.kind then
      (f.namesAt s).map fun c => [(f.role, s), ("name", c)] else [] := by
  have hstarting : ∀ after, (f.pattern.startingAt s after).map Prod.fst
      = if s.tree.isA f.kind then (f.namesAt s).map fun c => [(f.role, s), ("name", c)] else [] := by
    intro after
    rw [pattern, map_startingAt_node, Head.fits_ofKind, Option.all_none, Bool.and_true,
      map_itemsAmong_single, map_among_leaf, List.map_map]
    rfl
  unfold Pattern.matchesAt
  dsimp only
  rw [hstarting]
  split
  · -- names are told apart by their numbers
    refine maximal_of_pairwise (List.pairwise_map.2 ?_)
    have hids : (s.tree.children.map Tree.id).Pairwise (· < ·) :=
      hroot.children (mem_nodes_of_mem_spots hs)
    rw [← map_tree_children, List.map_map, List.pairwise_map] at hids
    refine (hids.sublist (f.namesAt_sublist s)).imp fun {c c'} hlt => ?_
    have hne : c.tree.id ≠ c'.tree.id := Nat.ne_of_lt hlt
    simp [covers, hne, Ne.symm hne, Ne.symm hrole]
  · rfl

/-- What is seen of the matches of a form, name by name. -/
theorem filterMap_matchesIn_names (hrole : f.role ≠ "name") (hroot : root.Numbered) {β : Type}
    {g : Bindings → Option β} {k : Spot → Spot → Option β}
    (hg : ∀ s c, g [(f.role, s), ("name", c)] = k s c) :
    (f.pattern.matchesIn root).filterMap g
      = (placesOf f.kind root).flatMap fun s => (f.namesAt s).filterMap (k s) := by
  rw [placesOf, flatMap_filter_ite (fun s : Spot => s.tree.isA f.kind), pattern, matchesIn_node,
    ← pattern, List.filterMap_flatMap]
  refine List.flatMap_congr fun s hs => ?_
  rw [matchesAt_eq hrole hroot (List.mem_of_mem_filter hs)]
  split
  · rw [List.filterMap_map]
    exact List.filterMap_congr fun c _ => hg s c
  · rfl

/-- **What is seen of the matches of some forms** is gathered from their nodes. -/
theorem filterMap_matchesIn_perm {forms : List Form} (hkinds : (forms.map Form.kind).Nodup)
    (hroles : ∀ f ∈ forms, f.role ≠ "name") (hroot : root.Numbered)
    (hstop : ∀ n ∈ root.nodes, (forms.any fun f => n.isA f.kind) = true → 0 < n.stop) {β : Type}
    {g : Bindings → Option β} (k : Form → Spot → Spot → Option β) (atNode : Tree → List β)
    (hg : ∀ f ∈ forms, ∀ s c, g [(f.role, s), ("name", c)] = k f s c)
    (hat : ∀ f ∈ forms, ∀ s ∈ root.spots, s.tree.isA f.kind = true →
      (f.namesAt s).filterMap (k f s) = atNode s.tree) :
    (((forms.map Form.pattern).flatMap (·.matchesIn root)).filterMap g).Perm
      ((root.nodes.filter fun n => forms.any fun f => n.isA f.kind).flatMap atNode) := by
  have hform : ∀ f ∈ forms, (f.pattern.matchesIn root).filterMap g
      = (root.nodes.filter (·.isA f.kind)).flatMap atNode := by
    intro f hf
    rw [filterMap_matchesIn_names (hroles f hf) hroot (hg f hf)]
    refine flatMap_placesOf (fun n hn hkind => hstop n hn ?_) (hat f hf)
    exact List.any_eq_true.2 ⟨f, hf, hkind⟩
  have hperm := (filter_kinds_perm root.nodes hkinds).flatMap_right atNode
  simp only [List.flatMap_map, List.flatMap_assoc, List.any_map] at hperm
  rw [List.filterMap_flatMap, List.flatMap_map, List.flatMap_congr hform]
  exact hperm

end Form

/-! ## §3. What is made of the matches, one by one. -/

section Reported

variable {α β : Type}

/-- A list is worked through, and the results are told by what went in, one by one. -/
theorem Gives.mapM_forall₂ {R : α → β → Prop} {f : α → Extraction β} : ∀ {as : List α},
    (∀ a ∈ as, Gives (R a) (f a)) → Gives (List.Forall₂ R as) (as.mapM f) := by
  intro as
  induction as with
  | nil => exact fun _ => .pure .nil
  | cons a as ih =>
      intro h
      rw [List.mapM_cons]
      refine (h a List.mem_cons_self).bind fun b hb => ?_
      exact (ih fun a' ha' => h a' (List.mem_cons_of_mem a ha')).bind fun bs hbs => .pure (.cons hb hbs)

/-- There is nothing to report and nothing is made, or what is made reports it. -/
def Reported (R : β → Candidate → Prop) (s : Sighting) : Option β → Option Element → Prop
  | none, none => True
  | some b, some e => R b (s.spot.tree.start, e)
  | _, _ => False

variable {obs : Element → Option Element}

theorem forall₂_of_reported {R : β → Candidate → Prop} {seen : Sighting → Option β}
    {found : List Sighting} {made : List (Option Candidate)}
    (h : List.Forall₂ (fun s c => ∃ e : Option Element, Reported R s (seen s) (e.bind obs) ∧
      c = e.map fun x => (s.spot.tree.start, x)) found made) :
    List.Forall₂ R (found.filterMap seen)
      ((made.filterMap id).filterMap (Candidate.observed obs)) := by
  rw [List.filterMap_filterMap]
  induction h with
  | nil => exact .nil
  | @cons s c found made hhere _ ih =>
      obtain ⟨e, he, rfl⟩ := hhere
      have hobserved : (id (e.map fun x => (s.spot.tree.start, x))).bind (Candidate.observed obs)
          = (e.bind obs).map fun x => (s.spot.tree.start, x) := by
        cases e with
        | none => rfl
        | some e => rfl
      cases hseen : seen s with
      | none =>
          rw [hseen] at he
          cases hx : e.bind obs with
          | none =>
              rw [hx] at hobserved
              rw [List.filterMap_cons_none hseen, List.filterMap_cons, hobserved]
              exact ih
          | some x =>
              rw [hx] at he
              exact he.elim
      | some b =>
          rw [hseen] at he
          cases hx : e.bind obs with
          | none =>
              rw [hx] at he
              exact he.elim
          | some x =>
              rw [hx] at he hobserved
              rw [List.filterMap_cons_some hseen, List.filterMap_cons, hobserved]
              exact .cons he ih

/-- **Candidates report what is seen of the sightings**, one by one, as far as they are observed. -/
theorem gives_candidates_reported {rule : Sighting → Extraction (Option Element)}
    {R : β → Candidate → Prop} {seen : Sighting → Option β} {found : List Sighting}
    (hrule : ∀ s ∈ found, Gives (fun e => Reported R s (seen s) (e.bind obs)) (rule s)) :
    Gives (fun made => List.Forall₂ R (found.filterMap seen)
      (made.filterMap (Candidate.observed obs))) (candidates rule found) :=
  (Gives.mapM_forall₂ fun s hs => (hrule s hs).bind fun e he => .pure ⟨e, he, rfl⟩).bind
    fun _ hmade => .pure (forall₂_of_reported hmade)

end Reported

/-! ## §4. Elements of one kind. -/

/-- The element, if it is of a kind. -/
def ofWord (word : String) (e : Element) : Option Element := Option.guard (·.kind.word == word) e

section OfWord

variable {word : String}

theorem isSome_ofWord (e : Element) : (ofWord word e).isSome = (e.kind.word == word) := by
  rw [ofWord, Option.guard]
  split <;> simp_all

theorem ofWord_of_eq {e : Element} (h : e.kind.word = word) : ofWord word e = some e :=
  Option.guard_eq_some_iff.2 ⟨rfl, beq_iff_eq.2 h⟩

/-- To observe the elements of a kind is to keep their candidates. -/
theorem filterMap_observed_ofWord (made : List Candidate) :
    made.filterMap (Candidate.observed (ofWord word))
      = made.filter fun c => c.2.kind.word == word := by
  rw [← List.filterMap_eq_filter]
  refine List.filterMap_congr fun c _ => ?_
  unfold Candidate.observed ofWord Option.guard
  dsimp only
  split <;> rfl

end OfWord

/-! ## §5. Plugins that credit methods. -/

namespace Extractor

/-- The plugin for Go. -/
def go : Extractor :=
  { Counting.go with
    credit := fun p found => creditMethods "interface" (found.filterMap (Go.owner? p)) }

/-- The plugin for Rust. -/
def rust : Extractor :=
  { Counting.rust with
    credit := fun p found => creditMethods "trait" (found.filterMap (Rust.owner? p)) }

theorem sound_go : go.Sound := sound_of_mem (by simp [all, go])

theorem sound_rust : rust.Sound := sound_of_mem (by simp [all, rust])

/-- **The candidates of a file** are made of the sightings of a query with a property that was
checked. -/
theorem gives_candidates_of_accepted {v : Extractor} {p : Parsed} {check : List Rule → Bool}
    (haccepted : Accepted p.dialect.grammar check v.declarations)
    (hover : Ensures Rule.overlooks v.declarations) {P : List Candidate → Prop}
    (hmade : ∀ q : Compiled, check q.rules = true → (∀ r ∈ q.rules, r.overlooks = true) →
      Gives (fun made => P (v.credit p (sighted p v.roles q) made))
        (Extract.candidates (v.rule p) (sighted p v.roles q))) : Gives P (v.candidates p) := by
  have hfound : Gives (fun found => Gives P do
        let made ← Extract.candidates (v.rule p) found
        pure (v.credit p found made)) (sightings p v.declarations v.roles) := by
    rw [sightings_eq]
    refine (Gives.compiled haccepted).map ?_
    rintro q ⟨hcheck, g, hg⟩
    exact (hmade q hcheck (hover g q hg)).bind fun made hmade => .pure hmade
  exact hfound.bind fun found h => h

/-- If candidates are made, the elements are what is arranged of them. -/
theorem Sound.exists_extract {v : Extractor} (hv : v.Sound) {p : Parsed}
    {P : List Candidate → Prop} (h : Gives P (v.candidates p)) {m : Memo} (hm : m.Genuine) :
    ∃ made m', (v.plugin.extract p).run m = (.ok (arrange made), m') ∧
      (v.candidates p).run m = (.ok made, m') ∧ P made := by
  obtain ⟨made, m', hrun, -, hmade⟩ := h m hm
  refine ⟨made, m', ?_, hrun, hmade⟩
  rw [hv.extract, run_map, hrun]
  rfl

end Extractor

end Extract

end CodeSurvey
