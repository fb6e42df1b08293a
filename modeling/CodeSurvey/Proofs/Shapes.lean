/-
  Queries that ask for shapes.

  A shape says what a node is and, at most, what it holds in a field or in which body it stands.  It
  can be read off a place directly (`Shape.describes`), and it can be written as a pattern
  (`Shape.pattern`).  The two say the same: what the matcher finds, by trying heads along siblings
  with every choice of gaps, are the places that the shape describes, each once.

      a head tried along siblings      those that fit, also behind a closed field   (`map_scan`)
      the matches at one place         one for each place they capture              (`maximal_startingAt`)
      the captures of a query          the places its shapes describe               (`captures_perm`)

  Nodes must be numbered in their order, and what a match starts with must not end where the text
  begins, where the matcher passes it over.
-/
import CodeSurvey.Proofs.Overlooking
import CodeSurvey.Proofs.Places

namespace CodeSurvey.Query

open Syntax

/-! ## §1. Patterns can be compared. -/

mutual

/-- Are two patterns the same? -/
def Pattern.same : Pattern → Pattern → Bool
  | .node h items, .node h' items' => decide (h = h') && sameItems items items'
  | .either ps, .either qs => sameAll ps qs
  | .group items, .group items' => sameItems items items'
  | .optional p, .optional q => p.same q
  | _, _ => false

/-- Are the patterns of two lists the same, one by one? -/
def sameAll : List Pattern → List Pattern → Bool
  | [], [] => true
  | p :: ps, q :: qs => p.same q && sameAll ps qs
  | _, _ => false

/-- Are the items of two lists the same, one by one? -/
def sameItems : List (Bool × Pattern) → List (Bool × Pattern) → Bool
  | [], [] => true
  | (a, p) :: items, (b, q) :: items' => a == b && p.same q && sameItems items items'
  | _, _ => false

end

mutual

theorem Pattern.same_iff : ∀ p q : Pattern, p.same q = true ↔ p = q
  | .node h items, q => by
      cases q <;> simp [Pattern.same, sameItems_iff items]
  | .either ps, q => by
      cases q <;> simp [Pattern.same, sameAll_iff ps]
  | .group items, q => by
      cases q <;> simp [Pattern.same, sameItems_iff items]
  | .optional p, q => by
      cases q <;> simp [Pattern.same, Pattern.same_iff p]

theorem sameAll_iff : ∀ ps qs : List Pattern, sameAll ps qs = true ↔ ps = qs
  | [], qs => by
      cases qs <;> simp [sameAll]
  | p :: ps, qs => by
      cases qs <;> simp [sameAll, Pattern.same_iff p, sameAll_iff ps]

theorem sameItems_iff : ∀ items items' : List (Bool × Pattern),
    sameItems items items' = true ↔ items = items'
  | [], items' => by
      cases items' <;> simp [sameItems]
  | (a, p) :: items, items' => by
      rcases items' with _ | ⟨⟨b, q⟩, items'⟩
      · simp [sameItems]
      · simp [sameItems, Pattern.same_iff p, sameItems_iff items]

end

instance : DecidableEq Pattern := fun p q => decidable_of_iff _ (Pattern.same_iff p q)

/-- The pattern of a rule that sets no conditions. -/
def Rule.plain? (r : Rule) : Option Pattern := if r.predicates.isEmpty then r.pattern else none

theorem Rule.matchesIn_of_plain? {r : Rule} {p : Pattern} (h : r.plain? = some p)
    (source : List UInt8) (t : Tree) : r.matchesIn source t = p.matchesIn t := by
  unfold Rule.plain? at h
  split at h
  · rename_i hempty
    exact Rule.matchesIn_eq h (List.isEmpty_iff.1 hempty) source t
  · cases h

/-! ## §2. Heads along siblings. -/

section Heads

variable {h : Head} {inside : Spot → List Bindings}

theorem Head.fits_of_last (hlast : h.last = false) (s : Spot) (after : List Spot) :
    h.fits s after = h.fits s [] := by
  unfold Head.fits
  rw [hlast]
  rfl

/-- Behind a sibling that closes the head's field none fits. -/
def Head.Closed (h : Head) (siblings : List Spot) : Prop :=
  ∀ before s after, siblings = before ++ s :: after → h.field.any s.closes = true →
    ∀ x ∈ after, h.fits x [] = false

theorem Head.Closed.tail {s : Spot} {after : List Spot} (hclosed : h.Closed (s :: after)) :
    h.Closed after := by
  intro before x rest hsplit
  exact hclosed (s :: before) x rest (by rw [hsplit]; rfl)

/-- The children of a numbered node, if the field does not cover a run. -/
theorem Head.closed_children {s : Spot} (hnumbered : (s.tree.children.map Tree.id).Pairwise (· < ·))
    (hruns : h.field.all fun field => (runs.lookup (s.tree.kind, field)).isNone) :
    h.Closed s.children := by
  intro before c after hsplit hcloses x hx
  cases hfield : h.field with
  | none =>
      rw [hfield] at hcloses
      cases hcloses
  | some field =>
      rw [hfield] at hcloses hruns
      have hrun : runs.lookup (s.tree.kind, field) = none := by simpa using hruns
      have hother := field_of_closes hnumbered hrun hsplit hcloses x hx
      unfold Head.fits
      simp [hfield, hother]

/-- **A head along siblings** finds all that fit. -/
theorem map_scan (hlast : h.last = false) : ∀ siblings, h.Closed siblings →
    (scan h inside false false siblings).map Prod.fst
      = (siblings.filter (h.fits · [])).flatMap fun s => (inside s).map (h.bind s ++ ·) := by
  intro siblings
  induction siblings with
  | nil => exact fun _ => rfl
  | cons s after ih =>
      intro hclosed
      have hhere : ((if h.fits s after then (inside s).map fun b => (h.bind s ++ b, after)
            else []).map Prod.fst)
          = if h.fits s [] then (inside s).map (h.bind s ++ ·) else [] := by
        rw [h.fits_of_last hlast]
        split
        · rw [List.map_map]
          rfl
        · rfl
      have hcons : ((s :: after).filter (h.fits · [])).flatMap
            (fun s => (inside s).map (h.bind s ++ ·))
          = (if h.fits s [] then (inside s).map (h.bind s ++ ·) else [])
            ++ (after.filter (h.fits · [])).flatMap fun s => (inside s).map (h.bind s ++ ·) := by
        rw [List.filter_cons]
        split
        · rw [List.flatMap_cons]
        · rfl
      rw [scan, hcons]
      simp only [Bool.false_and, Bool.and_false, Bool.false_or]
      split
      · -- the field is closed: what is not looked at does not fit
        rename_i hcloses
        have hnone : after.filter (h.fits · []) = [] := by
          rw [List.filter_eq_nil_iff]
          intro x hx
          simp [hclosed [] s after rfl hcloses x hx]
        rw [hhere, hnone, List.flatMap_nil, List.append_nil]
      · rw [List.map_append, hhere, ih hclosed.tail]

/-- A head that captures nothing settles for the first that fits. -/
theorem map_scan_settled (hlast : h.last = false) (hcaptures : h.captures = [])
    (hinside : ∀ s, inside s = [[]]) : ∀ siblings, h.Closed siblings →
    (scan h inside false true siblings).map Prod.fst
      = if siblings.any (h.fits · []) then [[]] else [] := by
  intro siblings
  induction siblings with
  | nil => exact fun _ => rfl
  | cons s after ih =>
      intro hclosed
      have hbind : h.bind s = [] := by rw [Head.bind, hcaptures]; rfl
      rw [scan, List.any_cons, h.fits_of_last hlast, hinside, hbind]
      cases hfits : h.fits s [] with
      | true => simp
      | false =>
          cases hcloses : h.field.any s.closes with
          | true =>
              -- the field is closed, so the first was the only one to try
              have hnone : after.any (h.fits · []) = false := by
                rw [List.any_eq_false]
                intro x hx
                simp [hclosed [] s after rfl hcloses x hx]
              simp [hnone]
          | false => simpa using ih hclosed.tail

end Heads

theorem map_itemsAmong_single (p : Pattern) (siblings : List Spot) :
    (itemsAmong false [(false, p)] siblings).map Prod.fst = (p.among false siblings).map Prod.fst := by
  rw [itemsAmong, List.map_flatMap, Bool.or_false]
  induction p.among false siblings with
  | nil => rfl
  | cons found rest ih =>
      rw [List.flatMap_cons, ih]
      simp [itemsAmong]

/-! ## §3. Matches that no other covers. -/

theorem covers_self (b : Bindings) : covers b b = true := by
  unfold covers
  rw [List.all_eq_true]
  intro x hx
  exact List.any_eq_true.2 ⟨x, hx, by simp⟩

/-- Of equal matches one is left. -/
theorem maximal_of_eq {b : Bindings} {found : List Bindings} (hne : found ≠ [])
    (hall : ∀ a ∈ found, a = b) : maximal found = [b] := by
  obtain ⟨a, rest, rfl⟩ := List.exists_cons_of_ne_nil hne
  obtain rfl := hall a List.mem_cons_self
  unfold maximal
  dsimp only
  rw [List.zipIdx_cons, List.filter_cons_of_pos]
  · -- the first one stands before each of the others
    rw [List.filter_eq_nil_iff.2]
    · rfl
    · rintro ⟨x, i⟩ hx
      obtain rfl := hall x (List.mem_cons_of_mem _ (List.fst_mem_of_mem_zipIdx hx))
      have hi : 1 ≤ i := List.le_snd_of_mem_zipIdx hx
      simp [covers_self]
      omega
  · simp only [Bool.not_eq_true', List.any_eq_false]
    rintro ⟨x, j⟩ hx
    rcases List.mem_cons.1 hx with heq | hx
    · cases heq
      simp
    · obtain rfl := hall x (List.mem_cons_of_mem _ (List.fst_mem_of_mem_zipIdx hx))
      simp [covers_self]

/-- Matches that do not cover each other are all left. -/
theorem maximal_of_pairwise {found : List Bindings}
    (h : found.Pairwise fun a b => covers a b = false ∧ covers b a = false) :
    maximal found = found := by
  -- the same by positions, which `maximal` compares
  have hcovers : ∀ (i j : Nat) a b, found[i]? = some a → found[j]? = some b → i ≠ j →
      covers a b = false := by
    intro i j a b ha hb hij
    obtain ⟨hi, rfl⟩ := List.getElem?_eq_some_iff.1 ha
    obtain ⟨hj, rfl⟩ := List.getElem?_eq_some_iff.1 hb
    rcases Nat.lt_or_gt_of_ne hij with hlt | hgt
    · exact (List.pairwise_iff_getElem.1 h i j hi hj hlt).1
    · exact (List.pairwise_iff_getElem.1 h j i hj hi hgt).2
  unfold maximal
  dsimp only
  rw [List.filter_eq_self.2, List.zipIdx_map_fst]
  rintro ⟨b, i⟩ hb
  simp only [Bool.not_eq_true', List.any_eq_false]
  rintro ⟨a, j⟩ ha
  by_cases hij : i = j
  · simp [hij]
  · have hnot := hcovers j i a b (List.mk_mem_zipIdx_iff_getElem?.1 ha)
      (List.mk_mem_zipIdx_iff_getElem?.1 hb) (Ne.symm hij)
    simp [hnot]

/-- Single captures of several nodes. -/
theorem maximal_singles (name : String) {nodes : List Spot}
    (hids : (nodes.map fun n => n.tree.id).Nodup) :
    maximal (nodes.map fun n => [(name, n)]) = nodes.map fun n => [(name, n)] := by
  refine maximal_of_pairwise (List.pairwise_map.2 ?_)
  refine (List.pairwise_map.1 hids).imp fun {a b} hne => ?_
  simp [covers, hne, Ne.symm hne]

/-! ## §4. Shapes. -/

/-- What a query can ask of the places it captures. -/
inductive Shape where
  /-- A node of a kind. -/
  | plain (kind : String)
  /-- A node of a kind with a child of one of several kinds in a field. -/
  | holding (kind field : String) (kinds : List String)
  /-- A node of a kind in the body that an owner has in a field. -/
  | within (kind body field owner : String)
deriving DecidableEq

namespace Shape

/-- Does a shape describe a place? -/
def describes : Shape → Spot → Bool
  | .plain kind, s => s.tree.isA kind
  | .holding kind field kinds, s =>
    s.tree.isA kind
      && s.tree.children.any fun c => c.field == some field && kinds.any fun k => c.isA k
  | .within kind body field owner, s =>
    s.tree.isA kind && s.parent.any fun b =>
      b.tree.isA body && b.tree.field == some field && b.parent.any fun o => o.tree.isA owner

/-- The kind of the nodes that are captured. -/
def kind : Shape → String
  | .plain kind => kind
  | .holding kind _ _ => kind
  | .within kind _ _ _ => kind

/-- The kind of the node where a match starts. -/
def outer : Shape → String
  | .plain kind => kind
  | .holding kind _ _ => kind
  | .within _ _ _ owner => owner

/-- Is each child in the field that the shape speaks of a slot of its own? -/
def single : Shape → Bool
  | .plain _ => true
  | .holding kind field _ => (runs.lookup (kind, field)).isNone
  | .within _ _ field owner => (runs.lookup (owner, field)).isNone

end Shape

/-- A head that asks for a kind, and maybe a field. -/
def Head.ofKind (kind : String) (field : Option String) (captures : List String) : Head :=
  { test := .kind kind, field := field, captures := captures }

/-- One of several patterns, none around a single one. -/
def oneOf : List Pattern → Pattern
  | [p] => p
  | ps => .either ps

/-- The pattern that asks for a shape and captures it under a name. -/
def Shape.pattern (name : String) : Shape → Pattern
  | .plain kind => .node (.ofKind kind none [name]) []
  | .holding kind field kinds =>
    .node (.ofKind kind none [name])
      [(false, oneOf (kinds.map fun k => .node (.ofKind k (some field) []) []))]
  | .within kind body field owner =>
    .node (.ofKind owner none [])
      [(false, .node (.ofKind body (some field) []) [(false, .node (.ofKind kind none [name]) [])])]

/-- The places that are captured by the matches that start at a place. -/
def Shape.captured : Shape → Spot → List Spot
  | .within kind body field owner, s =>
    if s.tree.isA owner then
      (s.children.filter fun b => b.tree.isA body && b.tree.field == some field).flatMap fun b =>
        b.children.filter fun c => c.tree.isA kind
    else []
  | sh, s => if sh.describes s then [s] else []

section Describing

variable {sh : Shape} {root : Tree}

theorem Shape.isA_of_describes {s : Spot} (h : sh.describes s = true) : s.tree.isA sh.kind = true := by
  cases sh with
  | plain kind => exact h
  | holding kind field kinds => exact (Bool.and_eq_true_iff.1 h).1
  | within kind body field owner => exact (Bool.and_eq_true_iff.1 h).1

theorem Shape.captured_of_not {s : Spot} (h : s.tree.isA sh.outer = false) : sh.captured s = [] := by
  cases sh with
  | plain kind => exact if_neg (by rw [Bool.not_eq_true]; exact h)
  | holding kind field kinds =>
      have hkind : s.tree.isA kind = false := h
      exact if_neg (by simp [Shape.describes, hkind])
  | within kind body field owner => exact if_neg (by rw [Bool.not_eq_true]; exact h)

/-- Is a place the body that an owner has in a field? -/
def isBody (body field owner : String) (b : Spot) : Bool :=
  b.tree.isA body && b.tree.field == some field && b.parent.any fun o => o.tree.isA owner

/-- **The places a shape describes** are those that the matches at some place capture. -/
theorem Shape.describes_perm (sh : Shape) (root : Tree) :
    (root.spots.filter sh.describes).Perm (root.spots.flatMap sh.captured) := by
  have hplain : ∀ keep : Spot → Bool,
      root.spots.filter keep = root.spots.flatMap fun s => if keep s then [s] else [] := by
    intro keep
    rw [← flatMap_filter_ite, List.flatMap_singleton']
  cases sh with
  | plain kind => exact .of_eq (hplain _)
  | holding kind field kinds => exact .of_eq (hplain _)
  | within kind body field owner =>
      -- from the node to its body, and from the body to its owner
      have hnodes := filter_spots_perm root (Shape.within kind body field owner).describes
        (isBody body field owner) (fun c => c.isA kind) (by simp [Shape.describes, Spot.parent])
        fun s _ c hc => by
          rw [Shape.describes, parent_of_mem_children hc, Bool.and_comm]
          rfl
      have hbodies := filter_spots_perm root (isBody body field owner) (fun o => o.tree.isA owner)
        (fun b => b.isA body && b.field == some field) (by simp [isBody, Spot.parent])
        fun s _ c hc => by
          rw [isBody, parent_of_mem_children hc, Bool.and_comm]
          rfl
      refine (hnodes.trans (hbodies.flatMap_right _)).trans (.of_eq ?_)
      rw [List.flatMap_assoc, flatMap_filter_ite]
      rfl

/-- No place is captured twice by the matches that start at one. -/
theorem Shape.nodup_captured (sh : Shape) (hroot : root.Numbered) {s : Spot} (hs : s ∈ root.spots) :
    ((sh.captured s).map fun n => n.tree.id).Nodup := by
  have hall : ((root.spots.flatMap sh.captured).map fun n => n.tree.id).Nodup :=
    ((sh.describes_perm root).map _).nodup_iff.1
      (hroot.nodup_spots.sublist (List.filter_sublist.map _))
  rw [List.map_flatMap] at hall
  exact (List.nodup_flatMap.1 hall).1 s hs

end Describing

/-! ## §5. The matches at one place. -/

section Matching

variable {root : Tree} {s : Spot} (name : String) (after : List Spot)

theorem Head.fits_ofKind (kind : String) (field : Option String) (captures : List String) (s : Spot)
    (after : List Spot) : (Head.ofKind kind field captures).fits s after
      = (s.tree.isA kind && field.all fun f => s.tree.field == some f) := by
  simp [Head.fits, Head.ofKind, Test.passes, Tree.isA]

theorem map_startingAt_node (head : Head) (items : List (Bool × Pattern)) (s : Spot)
    (after : List Spot) : ((Pattern.node head items).startingAt s after).map Prod.fst
      = if head.fits s after then
          ((itemsAmong false items s.children).map Prod.fst).map (head.bind s ++ ·)
        else [] := by
  rw [Pattern.startingAt]
  split
  · rw [List.map_map, List.map_map]
    rfl
  · rfl

theorem among_oneOf (ps : List Pattern) (siblings : List Spot) :
    (oneOf ps).among false siblings = anyAmong ps false siblings := by
  unfold oneOf
  split
  · rw [anyAmong, anyAmong, List.append_nil]
  · rw [Pattern.among]

theorem startingAt_oneOf (ps : List Pattern) (s : Spot) (after : List Spot) :
    (oneOf ps).startingAt s after = anyStartingAt ps s after := by
  unfold oneOf
  split
  · rw [anyStartingAt, anyStartingAt, List.append_nil]
  · rw [Pattern.startingAt]

/-- A node of one of several kinds in a field is there, or it is not. -/
theorem map_anyAmong_closed {field : String} {siblings : List Spot}
    (hclosed : ∀ k, (Head.ofKind k (some field) []).Closed siblings) (kinds : List String) :
    (anyAmong (kinds.map fun k => .node (.ofKind k (some field) []) []) false siblings).map Prod.fst
      = (kinds.filter fun k => siblings.any fun c =>
          c.tree.field == some field && c.tree.isA k).map fun _ => [] := by
  induction kinds with
  | nil => rfl
  | cons k kinds ih =>
      have hany : siblings.any (fun c => (Head.ofKind k (some field) []).fits c [])
          = siblings.any fun c => c.tree.field == some field && c.tree.isA k := by
        refine congrArg (List.any siblings) (funext fun c => ?_)
        rw [Head.fits_ofKind, Bool.and_comm]
        rfl
      have hleaf : ((Pattern.node (.ofKind k (some field) []) []).among false siblings).map Prod.fst
          = if siblings.any fun c => c.tree.field == some field && c.tree.isA k then [[]] else [] := by
        rw [← hany, Pattern.among]
        exact map_scan_settled rfl rfl (fun _ => rfl) _ (hclosed k)
      rw [List.map_cons, anyAmong, List.map_append, ih, hleaf, List.filter_cons]
      split
      · rfl
      · rfl

theorem map_anyAmong_leaves (hnumbered : (s.tree.children.map Tree.id).Pairwise (· < ·))
    {field : String} (hruns : (runs.lookup (s.tree.kind, field)).isNone = true)
    (kinds : List String) :
    (anyAmong (kinds.map fun k => .node (.ofKind k (some field) []) []) false s.children).map Prod.fst
      = (kinds.filter fun k => s.tree.children.any fun c => c.field == some field && c.isA k).map
          fun _ => [] := by
  have hclosed : ∀ k, (Head.ofKind k (some field) []).Closed s.children :=
    fun k => Head.closed_children hnumbered (by simpa [Head.ofKind] using hruns)
  rw [map_anyAmong_closed hclosed]
  simp only [← map_tree_children, List.any_map]
  rfl

theorem map_among_node {head : Head} {items : List (Bool × Pattern)} {siblings : List Spot}
    (hlast : head.last = false) (hsettles : (head.captures.isEmpty && items.isEmpty) = false)
    (hclosed : head.Closed siblings) :
    ((Pattern.node head items).among false siblings).map Prod.fst
      = (siblings.filter (head.fits · [])).flatMap fun s =>
          ((itemsAmong false items s.children).map Prod.fst).map (head.bind s ++ ·) := by
  rw [Pattern.among, hsettles]
  exact map_scan hlast siblings hclosed

/-- A node of a kind that holds a node of one of several kinds: a match for each of these kinds. -/
theorem map_startingAt_holding (hnumbered : (s.tree.children.map Tree.id).Pairwise (· < ·))
    {kind field : String} (hsingle : (runs.lookup (kind, field)).isNone = true)
    (kinds : List String) :
    (((Shape.holding kind field kinds).pattern name).startingAt s after).map Prod.fst
      = if s.tree.isA kind then
          (kinds.filter fun k => s.tree.children.any fun c => c.field == some field && c.isA k).map
            fun _ => [(name, s)]
        else [] := by
  rw [Shape.pattern, map_startingAt_node, Head.fits_ofKind, map_itemsAmong_single, among_oneOf,
    Option.all_none, Bool.and_true]
  split
  · rename_i hkind
    obtain rfl := Tree.kind_of_isA hkind
    rw [map_anyAmong_leaves hnumbered hsingle, List.map_map]
    rfl
  · rfl

/-- What holds a node of one of several kinds holds a node of some of them. -/
theorem Shape.describes_holding {kind field : String} {kinds : List String} :
    (Shape.holding kind field kinds).describes s = true ↔ s.tree.isA kind = true ∧
      kinds.filter (fun k => s.tree.children.any fun c => c.field == some field && c.isA k) ≠ [] := by
  rw [Shape.describes, Bool.and_eq_true]
  refine and_congr_right fun _ => ?_
  rw [Ne, List.filter_eq_nil_iff]
  simp only [List.any_eq_true, Bool.and_eq_true]
  constructor
  · rintro ⟨c, hc, hfield, k, hk, hisA⟩ hnone
    exact hnone k hk ⟨c, hc, hfield, hisA⟩
  · intro hsome
    by_contra hnone
    refine hsome fun k hk => ?_
    rintro ⟨c, hc, hfield, hisA⟩
    exact hnone ⟨c, hc, hfield, k, hk, hisA⟩

/-- A node of a kind in the body of its owner: a match for each. -/
theorem map_startingAt_within (hroot : root.Numbered) (hs : s ∈ root.spots)
    {kind body field owner : String} (hsingle : (runs.lookup (owner, field)).isNone = true) :
    (((Shape.within kind body field owner).pattern name).startingAt s after).map Prod.fst
      = ((Shape.within kind body field owner).captured s).map fun n => [(name, n)] := by
  have hnumbered : ∀ b ∈ root.spots, (b.tree.children.map Tree.id).Pairwise (· < ·) :=
    fun b hb => hroot.children (mem_nodes_of_mem_spots hb)
  rw [Shape.pattern, map_startingAt_node, Head.fits_ofKind, map_itemsAmong_single, Shape.captured,
    Option.all_none, Bool.and_true]
  split
  · rename_i howner
    obtain rfl := Tree.kind_of_isA howner
    -- what is found in one body
    have hbody : ∀ b ∈ s.children,
        ((itemsAmong false [(false, .node (.ofKind kind none [name]) [])] b.children).map
          Prod.fst).map ((Head.ofKind body (some field) []).bind b ++ ·)
          = (b.children.filter fun c => c.tree.isA kind).map fun c => [(name, c)] := by
      intro b hb
      have hclosed : (Head.ofKind kind none [name]).Closed b.children :=
        Head.closed_children (hnumbered b (mem_spots_of_child hs hb)) rfl
      rw [map_itemsAmong_single, map_among_node rfl rfl hclosed, List.map_flatMap]
      simp only [Head.fits_ofKind, Option.all_none, Bool.and_true]
      exact List.flatMap_pure_eq_map _ _
    have hclosed : (Head.ofKind body (some field) []).Closed s.children :=
      Head.closed_children (hnumbered s hs) hsingle
    rw [map_among_node rfl rfl hclosed, List.map_flatMap, List.map_flatMap]
    simp only [Head.fits_ofKind, Option.all_some]
    refine List.flatMap_congr fun b hb => ?_
    rw [hbody b (List.mem_of_mem_filter hb), List.map_map]
    rfl
  · rfl

/-- **The matches of a shape at one place**: one for each place they capture. -/
theorem Shape.maximal_startingAt {sh : Shape} (hsingle : sh.single = true) (hroot : root.Numbered)
    (hs : s ∈ root.spots) :
    maximal (((sh.pattern name).startingAt s after).map Prod.fst)
      = (sh.captured s).map fun n => [(name, n)] := by
  cases sh with
  | plain kind =>
      have hmatches : (((Shape.plain kind).pattern name).startingAt s after).map Prod.fst
          = ((Shape.plain kind).captured s).map fun n => [(name, n)] := by
        rw [Shape.pattern, map_startingAt_node, Head.fits_ofKind, Option.all_none, Bool.and_true,
          Shape.captured, Shape.describes]
        · split
          · rfl
          · rfl
        · rintro _ _ _ _ ⟨⟩
      rw [hmatches, maximal_singles name ((Shape.plain kind).nodup_captured hroot hs)]
  | holding kind field kinds =>
      have hnumbered := hroot.children (mem_nodes_of_mem_spots hs)
      rw [map_startingAt_holding name after hnumbered hsingle]
      by_cases hdescribes : (Shape.holding kind field kinds).describes s = true
      · have hcaptured : (Shape.holding kind field kinds).captured s = [s] := if_pos hdescribes
        obtain ⟨hkind, hheld⟩ := Shape.describes_holding.1 hdescribes
        rw [if_pos hkind, hcaptured]
        -- one match for each kind that is held, all of them equal
        exact maximal_of_eq (fun hnil => hheld (List.map_eq_nil_iff.1 hnil)) (by simp)
      · have hcaptured : (Shape.holding kind field kinds).captured s = [] := if_neg hdescribes
        rw [hcaptured]
        split
        · rename_i hkind
          have hheld : kinds.filter (fun k =>
              s.tree.children.any fun c => c.field == some field && c.isA k) = [] := by
            by_contra hne
            exact hdescribes (Shape.describes_holding.2 ⟨hkind, hne⟩)
          rw [hheld]
          rfl
        · rfl
  | within kind body field owner =>
      rw [map_startingAt_within name after hroot hs hsingle,
        maximal_singles name (Shape.nodup_captured _ hroot hs)]

end Matching

/-! ## §6. The captures of a query. -/

/-- Shapes that are captured under one name. -/
structure Want where
  name : String
  shapes : List Shape

namespace Want

/-- The pattern that asks for one of the shapes. -/
def pattern (w : Want) : Pattern := oneOf (w.shapes.map (·.pattern w.name))

/-- Do matches of different shapes start at different kinds, and are their fields slot by slot? -/
def sound (w : Want) : Bool :=
  decide (w.shapes.map Shape.outer).Nodup && w.shapes.all Shape.single

/-- The captures of the matches that start at a place. -/
def capturesAt (w : Want) (s : Spot) : Bindings :=
  (w.shapes.flatMap (·.captured s)).map fun n => (w.name, n)

end Want

section Queries

variable {root : Tree}

theorem flatMap_matchesIn_of_plain? (source : List UInt8) (t : Tree) : ∀ {rules : List Rule}
    {ps : List Pattern}, rules.map Rule.plain? = ps.map some →
    rules.flatMap (·.matchesIn source t) = ps.flatMap (·.matchesIn t) := by
  intro rules
  induction rules with
  | nil =>
      rintro (_ | ⟨p, ps⟩) h
      · rfl
      · cases h
  | cons r rules ih =>
      rintro (_ | ⟨p, ps⟩) h
      · cases h
      · rw [List.map_cons, List.map_cons, List.cons.injEq] at h
        rw [List.flatMap_cons, List.flatMap_cons, Rule.matchesIn_of_plain? h.1, ih h.2]

/-- What the matches of a query capture, rule by rule. -/
theorem map_bindings_matchesIn (q : Compiled) (source : List UInt8) (t : Tree) :
    (q.matchesIn source t).map Match.bindings = q.rules.flatMap (·.matchesIn source t) := by
  unfold Compiled.matchesIn
  rw [List.map_flatMap]
  calc q.rules.zipIdx.flatMap (fun x => ((x.1.matchesIn source t).map (Match.mk x.2)).map
        Match.bindings)
      = q.rules.zipIdx.flatMap fun x => x.1.matchesIn source t := by
        refine List.flatMap_congr fun x _ => ?_
        rw [List.map_map]
        exact List.map_id' _
    _ = (q.rules.zipIdx.map Prod.fst).flatMap (·.matchesIn source t) := by
        rw [List.flatMap_map]
    _ = _ := by rw [List.zipIdx_map_fst]

theorem startingAt_of_not {sh : Shape} {s : Spot} (h : s.tree.isA sh.outer = false) (name : String)
    (after : List Spot) : (sh.pattern name).startingAt s after = [] := by
  cases sh with
  | _ =>
      rw [Shape.pattern, Pattern.startingAt, if_neg]
      rw [Head.fits_ofKind, Option.all_none, Bool.and_true, Bool.not_eq_true]
      exact h

theorem anyStartingAt_of_not {s : Spot} (name : String) (after : List Spot) {shapes : List Shape}
    (h : ∀ sh ∈ shapes, s.tree.isA sh.outer = false) :
    anyStartingAt (shapes.map (·.pattern name)) s after = [] := by
  induction shapes with
  | nil => rfl
  | cons sh shapes ih =>
      rw [List.map_cons, anyStartingAt, startingAt_of_not (h sh List.mem_cons_self), List.nil_append]
      exact ih fun sh' hsh' => h sh' (List.mem_cons_of_mem _ hsh')

/-- Where shapes start at different kinds, at most one of them has matches at a place. -/
theorem maximal_anyStartingAt (hroot : root.Numbered) {s : Spot} (hs : s ∈ root.spots)
    (name : String) (after : List Spot) : ∀ shapes : List Shape,
    (shapes.map Shape.outer).Nodup → (∀ sh ∈ shapes, sh.single = true) →
    maximal ((anyStartingAt (shapes.map (·.pattern name)) s after).map Prod.fst)
      = (shapes.flatMap (·.captured s)).map fun n => [(name, n)] := by
  intro shapes
  induction shapes with
  | nil => exact fun _ _ => rfl
  | cons sh shapes ih =>
      intro hnodup hsingle
      rw [List.map_cons, List.nodup_cons] at hnodup
      rw [List.map_cons, anyStartingAt, List.flatMap_cons]
      cases hkind : s.tree.isA sh.outer with
      | false =>
          rw [startingAt_of_not hkind, Shape.captured_of_not hkind, List.nil_append, List.nil_append]
          exact ih hnodup.2 fun sh' hsh' => hsingle sh' (List.mem_cons_of_mem _ hsh')
      | true =>
          -- none of the others starts here
          have hothers : ∀ sh' ∈ shapes, s.tree.isA sh'.outer = false := by
            intro sh' hsh'
            rw [Bool.eq_false_iff]
            intro hkind'
            refine hnodup.1 (List.mem_map.2 ⟨sh', hsh', ?_⟩)
            exact (Tree.kind_of_isA hkind').symm.trans (Tree.kind_of_isA hkind)
          have hcaptured : shapes.flatMap (·.captured s) = [] := by
            rw [List.flatMap_eq_nil_iff]
            exact fun sh' hsh' => Shape.captured_of_not (hothers sh' hsh')
          rw [anyStartingAt_of_not name after hothers, hcaptured, List.append_nil, List.append_nil]
          exact Shape.maximal_startingAt name after (hsingle sh List.mem_cons_self) hroot hs

theorem isSpread_oneOf (name : String) (shapes : List Shape) :
    (oneOf (shapes.map (·.pattern name))).isSpread = false := by
  have hnode : ∀ sh : Shape, (sh.pattern name).isSpread = false := by
    intro sh
    cases sh with
    | _ => rfl
  have hany : anyIsSpread (shapes.map (·.pattern name)) = false := by
    induction shapes with
    | nil => rfl
    | cons sh shapes ih =>
        rw [List.map_cons, anyIsSpread, hnode, ih]
        rfl
  unfold oneOf
  split
  · rename_i p heq
    rw [heq, anyIsSpread, Bool.or_eq_false_iff] at hany
    exact hany.1
  · rw [Pattern.isSpread]
    exact hany

/-- **The matches of a want** in a tree, place by place. -/
theorem Want.matchesIn {w : Want} (hw : w.sound = true) (hroot : root.Numbered) :
    (w.pattern.matchesIn root).flatMap id
      = (root.spots.filter fun s => 0 < s.tree.stop).flatMap w.capturesAt := by
  unfold Want.sound at hw
  rw [Bool.and_eq_true, decide_eq_true_eq, List.all_eq_true] at hw
  unfold Pattern.matchesIn
  rw [List.flatMap_assoc]
  refine List.flatMap_congr fun s hs => ?_
  have hspread : w.pattern.isSpread = false := isSpread_oneOf w.name w.shapes
  rw [if_neg (by rw [hspread]; exact Bool.false_ne_true)]
  unfold Pattern.matchesAt
  dsimp only
  rw [Want.pattern, startingAt_oneOf,
    maximal_anyStartingAt hroot (List.mem_of_mem_filter hs) _ _ _ hw.1 hw.2, List.flatMap_map,
    Want.capturesAt]
  exact List.flatMap_pure_eq_map _ _

/-- The captures of a query whose rules ask for shapes, want by want. -/
theorem captures_perm {q : Compiled} {wants : List Want}
    (hrules : q.rules.map Rule.plain? = (wants.map Want.pattern).map some)
    (hwants : ∀ w ∈ wants, w.sound = true) (hroot : root.Numbered) (source : List UInt8) :
    (q.captures source root).Perm (wants.flatMap fun w =>
      (root.spots.filter fun s => 0 < s.tree.stop).flatMap w.capturesAt) := by
  unfold Compiled.captures
  refine (List.mergeSort_perm _ _).trans (.of_eq ?_)
  calc (q.matchesIn source root).flatMap Match.bindings
      = ((q.matchesIn source root).map Match.bindings).flatMap id := by
        rw [List.flatMap_map]
        rfl
    _ = (wants.flatMap fun w => w.pattern.matchesIn root).flatMap id := by
        rw [map_bindings_matchesIn, flatMap_matchesIn_of_plain? source root hrules,
          List.flatMap_map]
    _ = _ := by
        rw [List.flatMap_assoc]
        exact List.flatMap_congr fun w hw => Want.matchesIn (hwants w hw) hroot

/-- The places of a kind, but for those that end where the text begins. -/
def placesOf (kind : String) (root : Tree) : List Spot :=
  (root.spots.filter fun s => 0 < s.tree.stop).filter fun s => s.tree.isA kind

theorem map_tree_placesOf (kind : String) (root : Tree) :
    (placesOf kind root).map Spot.tree
      = (root.nodes.filter fun n => 0 < n.stop).filter fun n => n.isA kind := by
  rw [← map_tree_spots, List.filter_map, List.filter_map]
  rfl

/-- The captured places of a query that asks for plain kinds. -/
theorem map_snd_captures_perm {q : Compiled} {wants : List Want} {kinds : List String}
    (hrules : q.rules.map Rule.plain? = (wants.map Want.pattern).map some)
    (hwants : wants.map Want.shapes = kinds.map fun kind => [.plain kind])
    (hroot : root.Numbered) (source : List UInt8) :
    ((q.captures source root).map Prod.snd).Perm (kinds.flatMap fun kind => placesOf kind root) := by
  have hsound : ∀ w ∈ wants, w.sound = true := by
    intro w hw
    have hmem : w.shapes ∈ wants.map Want.shapes := List.mem_map_of_mem hw
    rw [hwants] at hmem
    obtain ⟨kind, -, hshapes⟩ := List.mem_map.1 hmem
    rw [Want.sound, ← hshapes]
    rfl
  refine ((captures_perm hrules hsound hroot source).map Prod.snd).trans (.of_eq ?_)
  calc (wants.flatMap fun w => (root.spots.filter fun s => 0 < s.tree.stop).flatMap
        w.capturesAt).map Prod.snd
      = (wants.map Want.shapes).flatMap fun shapes =>
          (root.spots.filter fun s => 0 < s.tree.stop).flatMap fun s =>
            shapes.flatMap (·.captured s) := by
        simp only [List.map_flatMap, List.flatMap_map, Want.capturesAt, List.map_map]
        simp only [Function.comp_def, List.map_id']
    _ = kinds.flatMap fun kind => placesOf kind root := by
        rw [hwants, List.flatMap_map]
        refine List.flatMap_congr fun kind _ => ?_
        simp only [List.flatMap_cons, List.flatMap_nil, List.append_nil, placesOf]
        show List.flatMap (fun s : Spot => if s.tree.isA kind then [s] else []) _ = _
        rw [← flatMap_filter_ite, List.flatMap_singleton']

/-- Captures come in the order of their starts. -/
theorem captures_sorted (q : Compiled) (source : List UInt8) (t : Tree) :
    (q.captures source t).Pairwise fun a b => a.2.tree.start ≤ b.2.tree.start := by
  unfold Compiled.captures
  refine List.Pairwise.imp ?_ (List.pairwise_mergeSort ?_ ?_ _)
  · intro a b hle
    simp only [precedes, Bool.not_eq_true', Bool.or_eq_false_iff, decide_eq_false_iff_not] at hle
    omega
  · intro a b c hab hbc
    simp [precedes] at hab hbc ⊢
    grind
  · intro a b
    simp [precedes]
    grind

/-! ## §7. The places a query describes. -/

/-- The places that wants describe, each under the name of its want. -/
def describedBy (wants : List Want) (root : Tree) : Bindings :=
  wants.flatMap fun w => w.shapes.flatMap fun sh =>
    (root.spots.filter sh.describes).map fun n => (w.name, n)

/-- Do the shapes of a query capture nodes of different kinds, and is each want sound? -/
def separate (wants : List Want) : Bool :=
  decide ((wants.flatMap Want.shapes).map Shape.kind).Nodup && wants.all Want.sound

theorem mem_describedBy {wants : List Want} {name : String} {place : Spot} :
    (name, place) ∈ describedBy wants root ↔
      place ∈ root.spots ∧ ∃ w ∈ wants, w.name = name ∧
        ∃ sh ∈ w.shapes, sh.describes place = true := by
  unfold describedBy
  simp only [List.mem_flatMap, List.mem_map, List.mem_filter, Prod.mk.injEq]
  constructor
  · rintro ⟨w, hw, sh, hsh, n, ⟨hn, hdescribes⟩, hname, rfl⟩
    exact ⟨hn, w, hw, hname, sh, hsh, hdescribes⟩
  · rintro ⟨hplace, w, hw, hname, sh, hsh, hdescribes⟩
    exact ⟨w, hw, sh, hsh, place, ⟨hplace, hdescribes⟩, hname, rfl⟩

theorem flatMap_capturesAt_perm (w : Want) (spots : List Spot) :
    (spots.flatMap w.capturesAt).Perm
      (w.shapes.flatMap fun sh => (spots.flatMap sh.captured).map fun n => (w.name, n)) := by
  unfold Want.capturesAt
  induction w.shapes with
  | nil => simp
  | cons sh shapes ih =>
      simp only [List.flatMap_cons, List.map_append]
      refine (List.flatMap_append_perm spots _ _).symm.trans ?_
      rw [List.map_flatMap]
      exact ih.append_left _

/-- If nothing that a match can start with ends where the text begins, **a query captures the places
its shapes describe**. -/
theorem captures_perm_describedBy {q : Compiled} {wants : List Want}
    (hrules : q.rules.map Rule.plain? = (wants.map Want.pattern).map some)
    (hwants : separate wants = true) (hroot : root.Numbered)
    (hstop : ∀ n ∈ root.nodes, ∀ w ∈ wants, ∀ sh ∈ w.shapes, n.isA sh.outer = true → 0 < n.stop)
    (source : List UInt8) :
    (q.captures source root).Perm (describedBy wants root) := by
  unfold separate at hwants
  rw [Bool.and_eq_true, List.all_eq_true] at hwants
  refine (captures_perm hrules hwants.2 hroot source).trans (.flatMap_left _ fun w hw => ?_)
  refine (flatMap_capturesAt_perm w _).trans (.flatMap_left _ fun sh hsh => .map _ ?_)
  have hall : (root.spots.filter fun s => 0 < s.tree.stop).flatMap sh.captured
      = root.spots.flatMap sh.captured := by
    rw [flatMap_filter_ite]
    refine List.flatMap_congr fun s hs => ?_
    split
    · rfl
    · -- a place that is passed over is none where a match starts
      rename_i hpassed
      have hkind : s.tree.isA sh.outer = false := by
        rw [Bool.eq_false_iff]
        intro hkind
        exact hpassed (decide_eq_true (hstop _ (mem_nodes_of_mem_spots hs) w hw sh hsh hkind))
      exact (Shape.captured_of_not hkind).symm
  rw [hall]
  exact (sh.describes_perm root).symm

/-- Shapes of different kinds describe different nodes. -/
theorem nodup_describedBy {wants : List Want} (hwants : separate wants = true)
    (hroot : root.Numbered) :
    ((describedBy wants root).map fun x => x.2.tree.id).Nodup := by
  unfold separate at hwants
  rw [Bool.and_eq_true, decide_eq_true_eq] at hwants
  have hids : (describedBy wants root).map (fun x => x.2.tree.id)
      = (wants.flatMap Want.shapes).flatMap fun sh =>
          (root.spots.filter sh.describes).map fun n => n.tree.id := by
    unfold describedBy
    simp only [List.map_flatMap, List.map_map, List.flatMap_assoc]
    rfl
  rw [hids, List.nodup_flatMap]
  refine ⟨fun sh _ => hroot.nodup_spots.sublist (List.filter_sublist.map _), ?_⟩
  refine (List.pairwise_map.1 hwants.1).imp fun {sh sh'} hne id hid hid' => ?_
  obtain ⟨s, hs, rfl⟩ := List.mem_map.1 hid
  obtain ⟨s', hs', heq⟩ := List.mem_map.1 hid'
  rw [List.mem_filter] at hs hs'
  -- one number, one place, one kind
  obtain rfl := hroot.spot_eq hs'.1 hs.1 heq
  have hkind := Tree.kind_of_isA (Shape.isA_of_describes hs.2)
  have hkind' := Tree.kind_of_isA (Shape.isA_of_describes hs'.2)
  exact hne (hkind.symm.trans hkind')

end Queries

end CodeSurvey.Query
