/-
  Patterns with patterns inside.

  A pattern may ask for several things among the children of a node, one after the other, and for
  things inside these in turn.  Where a head fits one sibling only, the next is looked for behind it:

      a head that fits one sibling                  is matched there         (`scan_of_unique`)
      a child with something inside it              is found with all of it  (`mem_among_nested`)
      matches that are told by what they capture    are left once each       (`maximal_of_told`)
-/
import CodeSurvey.Proofs.Shapes
import Mathlib.Data.Nat.Find

namespace CodeSurvey.Query

open Syntax

section Scanning

variable {h : Head} {inside : Spot → List Bindings}

theorem Head.Closed.of_append {before rest : List Spot} (hclosed : h.Closed (before ++ rest)) :
    h.Closed rest := by
  intro earlier s after hsplit
  exact hclosed (before ++ earlier) s after (by rw [hsplit, List.append_assoc])

theorem scan_eq_nil (hlast : h.last = false) {settles : Bool} : ∀ siblings : List Spot,
    (∀ x ∈ siblings, h.fits x [] = false) → scan h inside false settles siblings = [] := by
  intro siblings
  induction siblings with
  | nil => exact fun _ => rfl
  | cons s after ih =>
      intro hnone
      have hhere : h.fits s after = false := by
        rw [h.fits_of_last hlast]
        exact hnone s List.mem_cons_self
      rw [scan, ih fun x hx => hnone x (List.mem_cons_of_mem s hx), hhere]
      simp

/-- **A head that fits one sibling** is matched there, with the siblings behind it left. -/
theorem scan_of_unique (hlast : h.last = false) {s : Spot} {after : List Spot}
    (hs : h.fits s [] = true) (hafter : ∀ x ∈ after, h.fits x [] = false) :
    ∀ before : List Spot, h.Closed (before ++ s :: after) → (∀ x ∈ before, h.fits x [] = false) →
      scan h inside false false (before ++ s :: after)
        = (inside s).map fun b => (h.bind s ++ b, after) := by
  intro before
  induction before with
  | nil =>
      intro _ _
      rw [List.nil_append, scan, scan_eq_nil hlast after hafter, h.fits_of_last hlast, hs]
      simp
  | cons x before ih =>
      intro hclosed hbefore
      -- were the field closed here, nothing behind would fit
      have hopen : h.field.any x.closes = false := by
        rw [Bool.eq_false_iff]
        intro hcloses
        rw [hclosed [] x (before ++ s :: after) rfl hcloses s (by simp)] at hs
        cases hs
      rw [List.cons_append, scan, h.fits_of_last hlast, hbefore x List.mem_cons_self, hopen,
        ih hclosed.tail fun y hy => hbefore y (List.mem_cons_of_mem x hy)]
      simp

end Scanning

/-- A first item that is found at one place. -/
theorem map_itemsAmong_cons {p : Pattern} {items : List (Bool × Pattern)} {siblings rest : List Spot}
    {b : Bindings} (hp : p.among false siblings = [(b, rest)]) :
    (itemsAmong false ((false, p) :: items) siblings).map Prod.fst
      = ((itemsAmong false items rest).map Prod.fst).map (b ++ ·) := by
  rw [itemsAmong, Bool.or_false, hp, List.flatMap_singleton, List.map_map, List.map_map]
  rfl

section Told

variable {found : List Bindings}

/-- A match that is told by what it captures is kept if it is the first of its kind. -/
theorem kept_iff_first (htold : ∀ a ∈ found, ∀ b ∈ found, covers a b = true → a = b) {b : Bindings}
    {i : Nat} (hb : (b, i) ∈ found.zipIdx) :
    (!found.zipIdx.any fun x => i != x.2 && covers x.1 b && (x.2 < i || !covers b x.1)) = true ↔
      ∀ j, (b, j) ∈ found.zipIdx → i ≤ j := by
  simp only [Bool.not_eq_true', List.any_eq_false]
  constructor
  · intro hnone j hj
    by_contra hlt
    refine hnone (b, j) hj ?_
    simp [covers_self]
    omega
  · rintro hfirst ⟨a, j⟩ ha
    by_cases hcovers : covers a b = true
    · obtain rfl := htold a (List.fst_mem_of_mem_zipIdx ha) b (List.fst_mem_of_mem_zipIdx hb) hcovers
      have hle := hfirst j ha
      simp [covers_self]
      omega
    · simp [hcovers]

/-- **Matches that are told by what they capture**: each is left once. -/
theorem maximal_of_told (htold : ∀ a ∈ found, ∀ b ∈ found, covers a b = true → a = b) :
    (maximal found).Nodup ∧ ∀ b, b ∈ maximal found ↔ b ∈ found := by
  unfold maximal
  dsimp only
  constructor
  · have hnodup : found.zipIdx.Nodup := by
      refine List.Nodup.of_map Prod.snd ?_
      rw [List.zipIdx_map_snd]
      exact List.nodup_range'
    refine (hnodup.filter _).map_on ?_
    rintro ⟨b, i⟩ hb ⟨b', j⟩ hb' heq
    obtain rfl : b = b' := heq
    rw [List.mem_filter] at hb hb'
    have hij := (kept_iff_first htold hb.1).1 hb.2 j hb'.1
    have hji := (kept_iff_first htold hb'.1).1 hb'.2 i hb.1
    rw [Nat.le_antisymm hij hji]
  · intro b
    refine ⟨mem_of_mem_maximal, fun hb => ?_⟩
    have hsome : ∃ i, (b, i) ∈ found.zipIdx := by
      obtain ⟨i, hi⟩ := List.mem_iff_getElem?.1 hb
      exact ⟨i, List.mk_mem_zipIdx_iff_getElem?.2 hi⟩
    -- the first of its positions
    classical
    refine List.mem_map.2 ⟨(b, Nat.find hsome), List.mem_filter.2 ⟨Nat.find_spec hsome, ?_⟩, rfl⟩
    exact (kept_iff_first htold (Nat.find_spec hsome)).2 fun j hj => Nat.find_min' hsome hj

end Told

section Nested

variable {root : Tree} {s : Spot} {b : Bindings}

/-- A child with something inside it. -/
theorem mem_among_nested (hroot : root.Numbered) (hs : s ∈ root.spots) {kind : String}
    {field : Option String} {captures : List String} {q : Pattern}
    (hruns : field.all fun f => (runs.lookup (s.tree.kind, f)).isNone) :
    b ∈ ((Pattern.node (.ofKind kind field captures) [(false, q)]).among false s.children).map
        Prod.fst ↔
      ∃ x ∈ s.children, x.tree.isA kind = true ∧ (field.all fun f => x.tree.field == some f) = true ∧
        ∃ b' ∈ (q.among false x.children).map Prod.fst, b = captures.map (·, x) ++ b' := by
  have hclosed : (Head.ofKind kind field captures).Closed s.children :=
    Head.closed_children (hroot.children (mem_nodes_of_mem_spots hs)) hruns
  rw [map_among_node rfl (by simp) hclosed]
  simp only [map_itemsAmong_single, Head.fits_ofKind]
  constructor
  · intro hb
    obtain ⟨x, hx, hb⟩ := List.mem_flatMap.1 hb
    obtain ⟨b', hb', rfl⟩ := List.mem_map.1 hb
    obtain ⟨hx, hfits⟩ := List.mem_filter.1 hx
    rw [Bool.and_eq_true] at hfits
    exact ⟨x, hx, hfits.1, hfits.2, b', hb', rfl⟩
  · rintro ⟨x, hx, hkind, hfield, b', hb', rfl⟩
    refine List.mem_flatMap.2 ⟨x, List.mem_filter.2 ⟨hx, ?_⟩, List.mem_map.2 ⟨b', hb', rfl⟩⟩
    rw [hkind, hfield]
    rfl

/-- A child that is captured. -/
theorem mem_among_captured (hroot : root.Numbered) (hs : s ∈ root.spots) {kind name : String}
    {field : Option String} (hruns : field.all fun f => (runs.lookup (s.tree.kind, f)).isNone) :
    b ∈ ((Pattern.node (.ofKind kind field [name]) []).among false s.children).map Prod.fst ↔
      ∃ x ∈ s.children, x.tree.isA kind = true ∧ (field.all fun f => x.tree.field == some f) = true ∧
        b = [(name, x)] := by
  have hclosed : (Head.ofKind kind field [name]).Closed s.children :=
    Head.closed_children (hroot.children (mem_nodes_of_mem_spots hs)) hruns
  rw [map_among_node rfl rfl hclosed]
  simp only [Head.fits_ofKind, List.mem_flatMap, List.mem_filter, Bool.and_eq_true]
  constructor
  · rintro ⟨x, ⟨hx, hkind, hfield⟩, hb⟩
    exact ⟨x, hx, hkind, hfield, List.mem_singleton.1 hb⟩
  · rintro ⟨x, hx, hkind, hfield, rfl⟩
    exact ⟨x, ⟨hx, hkind, hfield⟩, List.mem_singleton.2 rfl⟩

end Nested

end CodeSurvey.Query
