/-
  Elements in the order of the document.

  An extraction makes candidates of the matches of a query, sorts them by where they start and keeps,
  of neighbours that are the same declaration, the first.

      sorting does not mix up what starts together                    (`stablySorted_mergeSort`)
      what is dropped repeats something that is kept                  (`mem_keys_settled`)
      nothing is left twice if and only if repeats stand together     (`nodup_keys_settled_iff`)

  Main results, for all plugins at hand: the elements are in the order of the document and nothing is
  lost (`elements_in_document_order`); each declaration is there once if and only if nothing else comes
  between repeats (`declared_once_iff`), which three names in one declaration can do
  (`interleaved_declared_twice`).
-/
import CodeSurvey.Proofs.Complexity

namespace CodeSurvey

open Syntax Query Extract

/-- Later octets are in later rows. -/
theorem Text.rowAt_mono : ∀ (cs : List Char) {n n' : Nat}, n ≤ n' → rowAt cs n ≤ rowAt cs n' := by
  intro cs
  induction cs with
  | nil => exact fun _ => Nat.le_refl _
  | cons c cs ih =>
      intro n n' hle
      rw [rowAt, rowAt]
      by_cases hn : n = 0
      · rw [if_pos hn]
        exact Nat.zero_le _
      · have hn' : n' ≠ 0 := by omega
        rw [if_neg hn, if_neg hn']
        exact Nat.add_le_add_left (ih (Nat.sub_le_sub_right hle _)) _

namespace Extract

/-! ## §1. Candidates in their order. -/

/-- What tells declarations apart: where they start, their names and the words for their kinds. -/
def Candidate.key (c : Candidate) : Nat × String × String := (c.1, c.2.name, c.2.kind.word)

theorem sameDeclaration_iff {a b : Candidate} : sameDeclaration a b = true ↔ a.key = b.key := by
  simp [sameDeclaration, Candidate.key, and_assoc]

/-- The candidates in the order of their starts, those that start together in the order they had. -/
structure StablySorted (made sorted : List Candidate) : Prop where
  ordered : sorted.Pairwise fun a b => a.1 ≤ b.1
  stable : ∀ start, sorted.filter (fun c => c.1 == start) = made.filter fun c => c.1 == start

namespace StablySorted

variable {made sorted : List Candidate}

/-- What starts at one place stands in one order in both. -/
theorem sublist_iff (h : StablySorted made sorted) {l : List Candidate} {start : Nat}
    (hl : ∀ c ∈ l, c.1 = start) : l.Sublist sorted ↔ l.Sublist made := by
  have hself : l.filter (fun c => c.1 == start) = l :=
    List.filter_eq_self.2 fun c hc => beq_iff_eq.2 (hl c hc)
  constructor
  · intro hsub
    have hsub := hsub.filter fun c => c.1 == start
    rw [hself, h.stable start] at hsub
    exact hsub.trans List.filter_sublist
  · intro hsub
    have hsub := hsub.filter fun c => c.1 == start
    rw [hself, ← h.stable start] at hsub
    exact hsub.trans List.filter_sublist

theorem mem_iff (h : StablySorted made sorted) {c : Candidate} : c ∈ sorted ↔ c ∈ made := by
  rw [← List.singleton_sublist, ← List.singleton_sublist]
  exact h.sublist_iff fun c' hc' => by rw [List.mem_singleton.1 hc']

end StablySorted

theorem stablySorted_mergeSort (made : List Candidate) :
    StablySorted made (made.mergeSort fun a b => a.1 ≤ b.1) where
  ordered := pairwise_mergeSort_start made
  stable start := by
    -- what starts together is in order already, so the sort leaves it as it is
    have horder : (made.filter fun c => c.1 == start).Pairwise fun a b => decide (a.1 ≤ b.1) := by
      refine List.pairwise_iff_forall_sublist.2 fun {a b} hsub => decide_eq_true ?_
      have hstart : ∀ c ∈ [a, b], c.1 = start := fun c hc =>
        beq_iff_eq.1 (List.mem_filter.1 (hsub.subset hc)).2
      exact Nat.le_of_eq ((hstart a (by simp)).trans (hstart b (by simp)).symm)
    have hsub := (List.sublist_mergeSort (fun a b c hab hbc => by
      simp only [decide_eq_true_eq] at hab hbc ⊢
      omega) (fun a b => by
      simp only [Bool.or_eq_true, decide_eq_true_eq]
      omega) horder List.filter_sublist).filter fun c => c.1 == start
    simp only [List.filter_filter, Bool.and_self] at hsub
    exact (hsub.eq_of_length ((List.mergeSort_perm made _).filter _).length_eq.symm).symm

/-! ## §2. Repeats. -/

/-- Of neighbours that are the same declaration, the first. -/
def firstOfRepeats : List Candidate → List Candidate
  | [] => []
  | c :: cs => c :: dropRepeats c cs

/-- The candidates that are left of those that were made. -/
def settled (made : List Candidate) : List Candidate :=
  firstOfRepeats (made.mergeSort fun a b => a.1 ≤ b.1)

theorem arrange_eq (made : List Candidate) : arrange made = (settled made).map Prod.snd := by
  unfold arrange settled
  split
  · rename_i hnil
    rw [hnil]
    rfl
  · rename_i hcons
    rw [hcons]
    rfl

theorem firstOfRepeats_sublist (cs : List Candidate) : (firstOfRepeats cs).Sublist cs := by
  cases cs with
  | nil => exact .refl _
  | cons c cs => exact (dropRepeats_sublist cs c).cons_cons c

/-- What is dropped repeats something that is kept. -/
theorem mem_keys_dropRepeats {k : Nat × String × String} : ∀ (cs : List Candidate)
    (last : Candidate), k ∈ (last :: dropRepeats last cs).map Candidate.key ↔
      k ∈ (last :: cs).map Candidate.key := by
  intro cs
  induction cs with
  | nil => exact fun _ => Iff.rfl
  | cons c cs ih =>
      intro last
      rw [dropRepeats]
      split
      · rename_i hsame
        rw [ih last, List.map_cons, List.map_cons, List.map_cons, sameDeclaration_iff.1 hsame]
        simp
      · rw [List.map_cons, List.mem_cons, ih c, ← List.mem_cons, ← List.map_cons]

theorem mem_keys_settled {made : List Candidate} {c : Candidate} (hc : c ∈ made) :
    ∃ c' ∈ settled made, c'.key = c.key := by
  have hsorted := (stablySorted_mergeSort made).mem_iff.2 hc
  unfold settled
  generalize made.mergeSort (fun a b => a.1 ≤ b.1) = sorted at hsorted
  cases sorted with
  | nil => cases hsorted
  | cons c' cs =>
      exact List.mem_map.1 ((mem_keys_dropRepeats cs c').2 (List.mem_map_of_mem hsorted))

/-- Where at most one candidate starts, it is left. -/
theorem filter_settled {made : List Candidate} {start : Nat}
    (h : (made.filter fun c => c.1 == start).length ≤ 1) :
    (settled made).filter (fun c => c.1 == start) = made.filter fun c => c.1 == start := by
  have hsub : ((settled made).filter fun c => c.1 == start).Sublist
      (made.filter fun c => c.1 == start) := by
    rw [← (stablySorted_mergeSort made).stable start]
    exact (firstOfRepeats_sublist _).filter _
  refine hsub.eq_of_length (Nat.le_antisymm hsub.length_le ?_)
  cases hmade : made.filter fun c => c.1 == start with
  | nil => exact Nat.zero_le _
  | cons c rest =>
      -- something is left that has the same start
      obtain ⟨hc, hstart⟩ := List.mem_filter.1 (hmade ▸ List.mem_cons_self (a := c) (l := rest))
      obtain ⟨c', hc', hkey⟩ := mem_keys_settled hc
      have hstart' : c'.1 = c.1 := congrArg (fun k : Nat × String × String => k.1) hkey
      rw [hmade] at h
      refine Nat.le_trans h (List.length_pos_of_mem (List.mem_filter.2 ⟨hc', ?_⟩))
      rw [hstart']
      exact hstart

section Together

variable {κ : Type}

/-- What comes back has not been left: nothing else stands between two of the same. -/
def Together (keys : List κ) : Prop := ∀ k l, [k, l, k].Sublist keys → l = k

theorem Together.of_cons {k : κ} {keys : List κ} (h : Together (k :: keys)) : Together keys :=
  fun a b hsub => h a b (hsub.cons k)

theorem together_cons_self {k : κ} {keys : List κ} :
    Together (k :: k :: keys) ↔ Together (k :: keys) := by
  refine ⟨Together.of_cons, fun h a b hsub => ?_⟩
  cases hsub with
  | cons _ hsub => exact h a b hsub
  | cons_cons _ hsub =>
      cases hsub with
      | cons _ hsub => exact h k b (hsub.cons_cons k)
      | cons_cons _ _ => rfl

theorem together_cons_of_ne {k l : κ} {keys : List κ} (hne : k ≠ l) :
    Together (k :: l :: keys) ↔ k ∉ l :: keys ∧ Together (l :: keys) := by
  constructor
  · refine fun h => ⟨fun hmem => ?_, h.of_cons⟩
    -- `k` comes back behind `l`
    have hback : [k].Sublist keys :=
      List.singleton_sublist.2 ((List.mem_cons.1 hmem).resolve_left hne)
    exact hne (h k l ((hback.cons_cons l).cons_cons k)).symm
  · rintro ⟨hnot, h⟩ a b hsub
    cases hsub with
    | cons _ hsub => exact h a b hsub
    | cons_cons _ hsub => exact absurd (hsub.subset (by simp)) hnot

/-- **Neighbours suffice** if and only if repeats stand together. -/
theorem nodup_keys_dropRepeats_iff : ∀ (cs : List Candidate) (last : Candidate),
    ((last :: dropRepeats last cs).map Candidate.key).Nodup ↔
      Together ((last :: cs).map Candidate.key) := by
  intro cs
  induction cs with
  | nil =>
      intro last
      refine ⟨fun _ k l hsub => ?_, fun _ => List.nodup_singleton _⟩
      exact absurd hsub.length_le (by simp)
  | cons c cs ih =>
      intro last
      rw [dropRepeats]
      split
      · rename_i hsame
        rw [ih last, List.map_cons, List.map_cons, List.map_cons, sameDeclaration_iff.1 hsame,
          together_cons_self]
      · rename_i hsame
        rw [sameDeclaration_iff] at hsame
        rw [List.map_cons, List.nodup_cons, ih c, mem_keys_dropRepeats, List.map_cons, List.map_cons,
          List.map_cons, together_cons_of_ne (Ne.symm hsame)]

end Together

/-- Between two candidates for the same declaration there are only more of the same, among those that
start there. -/
def RepeatsTogether (made : List Candidate) : Prop :=
  ∀ a b c, [a, b, c].Sublist made → b.1 = a.1 → c.key = a.key → b.key = a.key

theorem together_keys_iff {made sorted : List Candidate} (h : StablySorted made sorted) :
    Together (sorted.map Candidate.key) ↔ RepeatsTogether made := by
  have hstart : ∀ {a c : Candidate}, c.key = a.key → c.1 = a.1 := fun {a c} hkey =>
    congrArg (fun k : Nat × String × String => k.1) hkey
  constructor
  · intro htogether a b c hsub hb hc
    have hall : ∀ x ∈ [a, b, c], x.1 = a.1 := by simp [hb, hstart hc]
    have hkeys := ((h.sublist_iff hall).2 hsub).map Candidate.key
    rw [List.map_cons, List.map_cons, List.map_cons, List.map_nil, hc] at hkeys
    exact htogether _ _ hkeys
  · intro hrepeats k l hsub
    obtain ⟨abc, hsorted, hkeys⟩ := List.sublist_map_iff.1 hsub
    obtain ⟨a, bc, rfl, rfl, hbc⟩ := List.map_eq_cons_iff.1 hkeys.symm
    obtain ⟨b, cs, rfl, rfl, hcs⟩ := List.map_eq_cons_iff.1 hbc
    obtain ⟨c, rest, rfl, hc, hrest⟩ := List.map_eq_cons_iff.1 hcs
    obtain rfl := List.map_eq_nil_iff.1 hrest
    -- what stands between two starts of one kind starts there too
    have hca := hstart hc
    have horder := h.ordered.sublist hsorted
    simp only [List.pairwise_cons, List.mem_cons, List.not_mem_nil, or_false, forall_eq_or_imp,
      forall_eq] at horder
    have hba : b.1 = a.1 := by omega
    have hall : ∀ x ∈ [a, b, c], x.1 = a.1 := by simp [hba, hca]
    exact hrepeats a b c ((h.sublist_iff hall).1 hsorted) hba hc

/-- **Each declaration is left once** if and only if repeats stand together. -/
theorem nodup_keys_settled_iff (made : List Candidate) :
    ((settled made).map Candidate.key).Nodup ↔ RepeatsTogether made := by
  have hsorted := stablySorted_mergeSort made
  rw [← together_keys_iff hsorted]
  unfold settled
  generalize made.mergeSort (fun a b => a.1 ≤ b.1) = sorted
  cases sorted with
  | nil =>
      refine ⟨fun _ k l hsub => ?_, fun _ => List.nodup_nil⟩
      exact absurd hsub.length_le (by simp)
  | cons c cs => exact nodup_keys_dropRepeats_iff cs c

theorem nodup_keys_iff_pairwise {cs : List Candidate} : (cs.map Candidate.key).Nodup ↔
    cs.Pairwise fun a b =>
      ¬ (a.1 = b.1 ∧ a.2.name = b.2.name ∧ a.2.kind.word = b.2.kind.word) := by
  rw [List.Nodup, List.pairwise_map]
  simp only [Candidate.key, Ne, Prod.mk.injEq]

/-! ## §3. Elements and their nodes. -/

/-- The element tells of a node: its lines, its text and the language are those of the node. -/
def TellsOf (p : Parsed) (t : Tree) (e : Element) : Prop :=
  ∃ name kind, e = elementOf p t name kind

theorem TellsOf.startLine {p : Parsed} {t : Tree} {e : Element} (h : TellsOf p t e) :
    e.startLine = Text.rowAt p.tree.source t.start + 1 := by
  obtain ⟨name, kind, rfl⟩ := h
  rfl

/-- **Whatever a rule makes** tells of the node that it looks at. -/
theorem Makes.tellsOf {p : Parsed} {decisions : String} {r : RoleTable} {s : Sighting}
    {x : Extraction (Option Element)} (h : Makes p decisions r s x) {e : Element}
    (he : ComesOf x (some e)) : TellsOf p s.spot.tree e := by
  have hmade : Yields (fun made => ∀ e, made = some e → TellsOf p s.spot.tree e) x := by
    cases h with
    | function name facts hrole hname =>
        refine (yields_facts p s.spot.tree name facts decisions).map ?_
        rintro _ ⟨n, rfl⟩ e ⟨⟩
        exact ⟨name, _, rfl⟩
    | element name kind hkind hname =>
        refine .pure ?_
        rintro e ⟨⟩
        exact ⟨name, kind, rfl⟩
    | nothing hname =>
        refine .pure ?_
        rintro e ⟨⟩
  exact hmade.of_comesOf he e rfl

/-- A change to candidates that leaves their nodes and what tells them apart. -/
structure Harmless (f : Candidate → Candidate) : Prop where
  key : ∀ c, (f c).key = c.key
  tellsOf : ∀ p t c, TellsOf p t c.2 → TellsOf p t (f c).2

theorem harmless_id : Harmless id := ⟨fun _ => rfl, fun _ _ _ h => h⟩

/-- Types that are credited with methods stay the same declarations. -/
theorem creditMethods_harmless (exempt : String) (owners : List (String × Nat)) :
    ∃ f, Harmless f ∧ ∀ made, creditMethods exempt owners made = made.map f := by
  refine ⟨_, ⟨?_, ?_⟩, fun _ => rfl⟩
  · rintro ⟨start, e⟩
    dsimp only
    split
    · rename_i facts hkind
      split
      · rfl
      · unfold Candidate.key
        rw [hkind]
        rfl
    · rfl
  · rintro p t ⟨start, e⟩ ⟨name, kind, rfl⟩
    dsimp only
    repeat' split
    all_goals exact ⟨name, _, rfl⟩

/-- The name of an element and the word for its kind. -/
def titleOf (e : Element) : String × String := (e.name, e.kind.word)

theorem titles_eq (cs : List Candidate) :
    (cs.map Prod.snd).map titleOf = (cs.map Candidate.key).map Prod.snd := by
  rw [List.map_map, List.map_map]
  rfl

/-- What a rule makes has one name and kind, whatever is remembered. -/
theorem Makes.exists_title {p : Parsed} {decisions : String} {r : RoleTable} {s : Sighting}
    {x : Extraction (Option Element)} (h : Makes p decisions r s x) :
    ∃ title, Yields (fun e => e.map titleOf = title) x := by
  cases h with
  | function name facts hrole hname =>
      refine ⟨some (name, "function"), (yields_facts p s.spot.tree name facts decisions).map ?_⟩
      rintro _ ⟨n, rfl⟩
      rfl
  | element name kind hkind hname => exact ⟨_, .pure rfl⟩
  | nothing hname => exact ⟨_, .pure rfl⟩

theorem sighted_congr {q q' : Compiled} (h : q.rules = q'.rules) (p : Parsed)
    (roles : List String) : sighted p roles q = sighted p roles q' := by
  unfold sighted Compiled.matchesIn
  rw [h]

/-- Matches that are found in order need no sorting. -/
theorem sighted_of_pairwise (p : Parsed) (roles : List String) {q : Compiled}
    (h : (q.matchesIn (Text.octets p.tree.source) p.tree.root).Pairwise
      fun a b => (!startsBefore b a) = true) :
    sighted p roles q = (q.matchesIn (Text.octets p.tree.source) p.tree.root).filterMap
      fun b => sight? p roles b.bindings := by
  unfold sighted
  dsimp only
  rw [List.mergeSort_of_pairwise h, List.filterMap_map]
  rfl

/-! ## §4. Extractions. -/

/-- How a plugin extracts: what it makes of its matches, and what is done to the candidates before they
are arranged. -/
structure Extractor extends Counting where
  credit : Parsed → List Sighting → List Candidate → List Candidate := fun _ _ made => made

namespace Extractor

/-- The candidates of a file. -/
def candidates (v : Extractor) (p : Parsed) : Extraction (List Candidate) := do
  let found ← sightings p v.declarations v.roles
  let made ← Extract.candidates (v.rule p) found
  pure (v.credit p found made)

/-- A plugin that arranges the candidates as they are. -/
def plain (v : Counting) : Extractor := { v with }

/-- All plugins at hand. -/
def all : List Extractor :=
  [plain .python, plain .java, plain (.script .javascript false), plain (.script .typescript true),
   plain (.script .tsx true),
   { Counting.go with
     credit := fun p found => creditMethods "interface" (found.filterMap (Go.owner? p)) },
   { Counting.rust with
     credit := fun p found => creditMethods "trait" (found.filterMap (Rust.owner? p)) }]

/-- What makes the elements those of the candidates, and the candidates those of the nodes. -/
structure Sound (v : Extractor) : Prop where
  counting : v.toCounting.Sound
  credit : ∀ p found, ∃ f, Harmless f ∧ ∀ made, v.credit p found made = made.map f
  extract : ∀ p, v.plugin.extract p = arrange <$> v.candidates p

theorem extract_eq_of_credited {v : Extractor} {p : Parsed} (h : v.plugin.extract p = do
      let found ← sightings p v.declarations v.roles
      let made ← Extract.candidates (v.rule p) found
      pure (arrange (v.credit p found made))) : v.plugin.extract p = arrange <$> v.candidates p := by
  rw [h, candidates]
  simp only [map_bind, map_pure]

theorem sound_plain {v : Counting} (hv : v.Sound)
    (hextract : ∀ p, v.plugin.extract p = do
      let found ← sightings p v.declarations v.roles
      arrange <$> Extract.candidates (v.rule p) found) : (plain v).Sound where
  counting := hv
  credit _ _ := ⟨id, harmless_id, fun made => (List.map_id made).symm⟩
  extract p := by
    refine extract_eq_of_credited ((hextract p).trans ?_)
    simp only [bind_pure_comp]
    rfl

theorem sound_of_mem {v : Extractor} (hv : v ∈ all) : v.Sound := by
  simp only [all, List.mem_cons, List.not_mem_nil, or_false] at hv
  rcases hv with rfl | rfl | rfl | rfl | rfl | rfl | rfl
  · exact sound_plain Counting.sound_python fun _ => rfl
  · exact sound_plain Counting.sound_java fun _ => rfl
  · exact sound_plain (Counting.sound_script rfl) fun _ => rfl
  · exact sound_plain (Counting.sound_script rfl) fun _ => rfl
  · exact sound_plain (Counting.sound_script rfl) fun _ => rfl
  · exact ⟨Counting.sound_go, fun _ _ => creditMethods_harmless _ _,
      fun _ => extract_eq_of_credited rfl⟩
  · exact ⟨Counting.sound_rust, fun _ _ => creditMethods_harmless _ _,
      fun _ => extract_eq_of_credited rfl⟩

variable {v : Extractor} {p : Parsed}

/-- **Candidates and matches**: each candidate tells of a node of the tree and has its start, and
whatever can be made of a match is among them. -/
theorem Sound.yields_candidates (hv : v.Sound) (p : Parsed) :
    Yields (fun made =>
        (∀ c ∈ made, ∃ n ∈ p.tree.root.nodes, c.1 = n.start ∧ TellsOf p n c.2) ∧
        ∀ n e, v.Extracted p n e → (n.start, e.name, e.kind.word) ∈ made.map Candidate.key)
      (v.candidates p) := by
  refine (yields_sightings p v.declarations v.roles).bind ?_
  rintro found ⟨g, q, hq, rfl⟩
  refine (Extract.yields_candidates fun s _ => hv.counting.yields_rule p s).bind ?_
  rintro made ⟨hof, hfrom⟩
  obtain ⟨f, hharmless, hcredit⟩ := hv.credit p (sighted p v.roles q)
  have hkeys : (v.credit p (sighted p v.roles q) made).map Candidate.key
      = made.map Candidate.key := by
    rw [hcredit, List.map_map]
    exact List.map_congr_left fun c _ => hharmless.key c
  refine .pure ⟨fun c hc => ?_, ?_⟩
  · rw [hcredit] at hc
    obtain ⟨c, hmem, rfl⟩ := List.mem_map.1 hc
    obtain ⟨s, hs, hstart, hcomes⟩ := hof c hmem
    have hfirst : (f c).1 = c.1 := congrArg (fun k : Nat × String × String => k.1) (hharmless.key c)
    obtain ⟨r, hmakes⟩ := hv.counting.rule p s
    exact ⟨s.spot.tree, hv.counting.mem_nodes ⟨g, q, s, hq, hs, rfl, hcomes⟩,
      hfirst.trans hstart, hharmless.tellsOf p _ c (hmakes.tellsOf hcomes)⟩
  · rintro n e ⟨g', q', s, hq', hs, rfl, hcomes⟩
    rw [sighted_congr (rules_eq_of_compile hq' hq)] at hs
    obtain ⟨e', hcomes', hmade⟩ := hfrom s hs
    -- what was made of this match has the same name and kind
    obtain ⟨r, hmakes⟩ := hv.counting.rule p s
    obtain ⟨title, htitle⟩ := hmakes.exists_title
    have heq := (htitle.of_comesOf hcomes').trans (htitle.of_comesOf hcomes).symm
    obtain ⟨x, rfl, hx⟩ := Option.map_eq_some_iff.1 heq
    rw [hkeys]
    refine List.mem_map.2 ⟨_, hmade x rfl, ?_⟩
    exact congrArg (Prod.mk s.spot.tree.start) hx

/-- The elements are those of the candidates that are left. -/
theorem Sound.exists_candidates (hv : v.Sound) {m m' : Memo} {elements : List Element}
    (hrun : (v.plugin.extract p).run m = (.ok elements, m')) :
    ∃ made, (v.candidates p).run m = (.ok made, m') ∧ elements = (settled made).map Prod.snd := by
  rw [hv.extract, run_map] at hrun
  rcases hmade : (v.candidates p).run m with ⟨message | made, m''⟩
  · rw [hmade] at hrun
    cases hrun
  · rw [hmade] at hrun
    cases hrun
    exact ⟨made, rfl, arrange_eq made⟩

/-- The candidates of a file whose matches need no sorting, its query having just been compiled. -/
def candidatesBy (v : Extractor) (p : Parsed) (q : Compiled) :
    Except String (List Candidate) × Memo :=
  let found := (q.matchesIn (Text.octets p.tree.source) p.tree.root).filterMap fun b =>
    sight? p v.roles b.bindings
  (do let made ← Extract.candidates (v.rule p) found
      pure (v.credit p found made)).run [((p.dialect.language, v.declarations), q)]

/-- Are the matches and the candidates of a file found in their order, with some outcome? -/
def foundInOrder (v : Extractor) (p : Parsed) (check : List Candidate → Bool) (q : Compiled) : Bool :=
  decide ((q.matchesIn (Text.octets p.tree.source) p.tree.root).Pairwise
    fun a b => (!startsBefore b a) = true) &&
  (v.candidatesBy p q).1.toOption.any fun made =>
    decide (made.Pairwise fun a b => decide (a.1 ≤ b.1) = true) && check (firstOfRepeats made)

/-- With nothing remembered, the elements of a file are those of candidates that pass a check. -/
def Leaves (v : Extractor) (p : Parsed) (check : List Candidate → Bool) : Prop :=
  ∃ elements made m', (v.plugin.extract p).run [] = (.ok elements, m') ∧
    (v.candidates p).run [] = (.ok made, m') ∧ elements = (settled made).map Prod.snd ∧
    check (settled made) = true

/-- **What comes of a file** is computed by reading the query once, if all is found in order. -/
theorem Sound.leaves_of_compileText (hv : v.Sound) {text : List Char}
    {check : List Candidate → Bool} (htext : v.declarations = String.ofList text)
    (h : (compileText p.dialect.grammar text).toOption.any (v.foundInOrder p check) = true) :
    v.Leaves p check := by
  cases hread : compileText p.dialect.grammar text with
  | error fault =>
      rw [hread] at h
      cases h
  | ok q =>
      rw [hread] at h
      have hq : compile p.dialect.grammar v.declarations = .ok q := by
        rw [← hread, ← compile_ofList, ← htext]
      obtain ⟨hmatches, hmade⟩ := Bool.and_eq_true_iff.1 h
      have hrun : (v.candidates p).run [] = v.candidatesBy p q := by
        rw [candidates, run_bind, run_sightings_nil hq,
          sighted_of_pairwise p v.roles (of_decide_eq_true hmatches), candidatesBy]
      rcases hby : v.candidatesBy p q with ⟨message | made, m'⟩
      · rw [hby] at hmade
        cases hmade
      · rw [hby] at hrun hmade
        obtain ⟨hsorted, hcheck⟩ := Bool.and_eq_true_iff.1 hmade
        have hsettled : settled made = firstOfRepeats made := by
          rw [settled, List.mergeSort_of_pairwise (of_decide_eq_true hsorted)]
        refine ⟨arrange made, made, m', ?_, hrun, arrange_eq made, hsettled ▸ hcheck⟩
        rw [hv.extract, run_map, hrun]
        rfl

/-! ## §5. Three names in one declaration. -/

/-- A Java class with three fields that are declared at once. -/
def threeFields (a b c : Char) : Parsed :=
  { tree :=
      { source := "class C \x7b int ".toList ++ [a, ',', ' ', b, ',', ' ', c] ++ "; \x7d\n".toList,
        root := phrase 0 "program" none 0 25
          [phrase 1 "class_declaration" none 0 24
            [token 2 "class" 0 5, phrase 3 "identifier" (some "name") 6 7 [],
             phrase 4 "class_body" (some "body") 8 24
              [token 5 "\x7b" 8 9,
               phrase 6 "field_declaration" none 10 22
                [phrase 7 "integral_type" (some "type") 10 13 [token 8 "int" 10 13],
                 phrase 9 "variable_declarator" (some "declarator") 14 15
                  [phrase 10 "identifier" (some "name") 14 15 []],
                 token 11 "," 15 16,
                 phrase 12 "variable_declarator" (some "declarator") 17 18
                  [phrase 13 "identifier" (some "name") 17 18 []],
                 token 14 "," 18 19,
                 phrase 15 "variable_declarator" (some "declarator") 20 21
                  [phrase 16 "identifier" (some "name") 20 21 []],
                 token 17 ";" 21 22],
               token 18 "\x7d" 23 24]]] },
    dialect := ⟨"java", .java⟩,
    path := "C.java" }

section Reading

set_option maxRecDepth 10000

theorem leaves_repeated : (plain .java).Leaves (threeFields 'a' 'a' 'b') fun left =>
    left.map Candidate.key == [(0, "C", "class"), (10, "a", "variable"), (10, "b", "variable")] :=
  (sound_of_mem (by simp [all])).leaves_of_compileText rfl (by decide +kernel)

theorem leaves_interleaved : (plain .java).Leaves (threeFields 'a' 'b' 'a') fun left =>
    left.map Candidate.key == [(0, "C", "class"), (10, "a", "variable"), (10, "b", "variable"),
      (10, "a", "variable")] :=
  (sound_of_mem (by simp [all])).leaves_of_compileText rfl (by decide +kernel)

end Reading

/-! ## §6. Order and repeats. -/

/-- **Elements are in the order of the document, and nothing is lost.**  Whenever a plugin extracts the
elements of a tree, they are what is left of its candidates: a subsequence of the candidates as sorted
by their starts, with what starts together in the order of the matches.  Their lines do not go back.
Each candidate tells of a node of the tree and has its start.  For each candidate, and for whatever can
be made of a match, something is left that has its start, its name and its kind. -/
theorem elements_in_document_order {v : Extractor} (hv : v ∈ all) {p : Parsed} {m m' : Memo}
    (hm : m.Genuine) {elements : List Element}
    (hrun : (v.plugin.extract p).run m = (.ok elements, m')) :
    ∃ made, (v.candidates p).run m = (.ok made, m') ∧
      elements = (settled made).map Prod.snd ∧
      (∃ sorted, StablySorted made sorted ∧ (settled made).Sublist sorted) ∧
      (elements.Pairwise fun a b => a.startLine ≤ b.startLine) ∧
      (∀ c ∈ made, ∃ n ∈ p.tree.root.nodes, c.1 = n.start ∧ TellsOf p n c.2) ∧
      (∀ c ∈ made, ∃ c' ∈ settled made, c'.1 = c.1 ∧ c'.2.name = c.2.name ∧
        c'.2.kind.word = c.2.kind.word) ∧
      ∀ n e, v.Extracted p n e → ∃ c' ∈ settled made, c'.1 = n.start ∧ c'.2.name = e.name ∧
        c'.2.kind.word = e.kind.word := by
  have hsound := sound_of_mem hv
  obtain ⟨made, hmade, rfl⟩ := hsound.exists_candidates hrun
  obtain ⟨-, htells, hextracted⟩ := hsound.yields_candidates p m hm made m' hmade
  have hsorted := stablySorted_mergeSort made
  have hsublist : (settled made).Sublist _ := firstOfRepeats_sublist _
  have hleft : ∀ c ∈ made, ∃ c' ∈ settled made, c'.1 = c.1 ∧ c'.2.name = c.2.name ∧
      c'.2.kind.word = c.2.kind.word := by
    intro c hc
    obtain ⟨c', hc', hkey⟩ := mem_keys_settled hc
    simp only [Candidate.key, Prod.mk.injEq] at hkey
    exact ⟨c', hc', hkey⟩
  refine ⟨made, hmade, rfl, ⟨_, hsorted, hsublist⟩, ?_, htells, hleft, fun n e he => ?_⟩
  · -- lines go up with starts
    refine List.pairwise_map.2 ((hsorted.ordered.sublist hsublist).imp_of_mem ?_)
    intro a b ha hb hab
    obtain ⟨n, -, hn, htell⟩ := htells a (hsorted.mem_iff.1 (hsublist.subset ha))
    obtain ⟨n', -, hn', htell'⟩ := htells b (hsorted.mem_iff.1 (hsublist.subset hb))
    rw [htell.startLine, htell'.startLine, ← hn, ← hn']
    exact Nat.succ_le_succ (Text.rowAt_mono _ hab)
  · obtain ⟨c, hc, hkey⟩ := List.mem_map.1 (hextracted n e he)
    simp only [Candidate.key, Prod.mk.injEq] at hkey
    obtain ⟨c', hc', hstart, hname, hword⟩ := hleft c hc
    exact ⟨c', hc', hstart.trans hkey.1, hname.trans hkey.2.1, hword.trans hkey.2.2⟩

/-- Three fields, one of them twice, come in their order. -/
theorem interleaved_in_document_order : ∃ elements made m',
    (Plugin.java.extract (threeFields 'a' 'b' 'a')).run [] = (.ok elements, m') ∧
      elements.length = 4 ∧ elements = (settled made).map Prod.snd ∧
      (∃ sorted, StablySorted made sorted ∧ (settled made).Sublist sorted) ∧
      (elements.Pairwise fun a b => a.startLine ≤ b.startLine) ∧
      ∀ n e, (plain .java).Extracted (threeFields 'a' 'b' 'a') n e →
        ∃ c' ∈ settled made, c'.1 = n.start ∧ c'.2.name = e.name ∧
          c'.2.kind.word = e.kind.word := by
  obtain ⟨elements, made, m', hrun, hmade, heq, hkeys⟩ := leaves_interleaved
  obtain ⟨made', hmade', -, hsorted, hlines, -, -, hextracted⟩ :=
    elements_in_document_order (v := plain .java) (by simp [all]) Memo.genuine_nil hrun
  cases hmade.symm.trans hmade'
  have hlength := congrArg List.length (eq_of_beq hkeys)
  rw [List.length_map] at hlength
  refine ⟨elements, made, m', hrun, ?_, heq, hsorted, hlines, hextracted⟩
  rw [heq, List.length_map, hlength]
  rfl

/-- **Each declaration is there once** if and only if repeats stand together: of the candidates that
start at one place, in the order of the matches, none comes between two of one name and kind unless it
has that name and kind too. -/
theorem declared_once_iff {v : Extractor} (hv : v ∈ all) {p : Parsed} {m m' : Memo}
    {elements : List Element} (hrun : (v.plugin.extract p).run m = (.ok elements, m')) :
    ∃ made, (v.candidates p).run m = (.ok made, m') ∧
      elements = (settled made).map Prod.snd ∧
      (((settled made).Pairwise fun a b =>
          ¬ (a.1 = b.1 ∧ a.2.name = b.2.name ∧ a.2.kind.word = b.2.kind.word)) ↔
        RepeatsTogether made) := by
  obtain ⟨made, hmade, rfl⟩ := (sound_of_mem hv).exists_candidates hrun
  exact ⟨made, hmade, rfl, nodup_keys_iff_pairwise.symm.trans (nodup_keys_settled_iff made)⟩

/-- Repeats that are neighbours are dropped. -/
theorem repeated_declared_once : ∃ elements made m',
    (Plugin.java.extract (threeFields 'a' 'a' 'b')).run [] = (.ok elements, m') ∧
      elements.map titleOf = [("C", "class"), ("a", "variable"), ("b", "variable")] ∧
      elements = (settled made).map Prod.snd ∧ RepeatsTogether made := by
  obtain ⟨elements, made, m', hrun, hmade, heq, hkeys⟩ := leaves_repeated
  obtain ⟨made', hmade', -, honce⟩ := declared_once_iff (v := plain .java) (by simp [all]) hrun
  cases hmade.symm.trans hmade'
  refine ⟨elements, made, m', hrun, ?_, heq, honce.1 ?_⟩
  · rw [heq, titles_eq, eq_of_beq hkeys]
    rfl
  · rw [← nodup_keys_iff_pairwise, eq_of_beq hkeys]
    decide

/-- Three names in one declaration, the first one again after another, are all left: two elements have
the same start, name and kind. -/
theorem interleaved_declared_twice : ∃ elements made m',
    (Plugin.java.extract (threeFields 'a' 'b' 'a')).run [] = (.ok elements, m') ∧
      ((plain .java).candidates (threeFields 'a' 'b' 'a')).run [] = (.ok made, m') ∧
      elements = (settled made).map Prod.snd ∧
      elements.map titleOf
        = [("C", "class"), ("a", "variable"), ("b", "variable"), ("a", "variable")] ∧
      ¬ (settled made).Pairwise fun a b =>
        ¬ (a.1 = b.1 ∧ a.2.name = b.2.name ∧ a.2.kind.word = b.2.kind.word) := by
  obtain ⟨elements, made, m', hrun, hmade, heq, hkeys⟩ := leaves_interleaved
  refine ⟨elements, made, m', hrun, hmade, heq, ?_, ?_⟩
  · rw [heq, titles_eq, eq_of_beq hkeys]
    rfl
  · rw [← nodup_keys_iff_pairwise, eq_of_beq hkeys]
    decide

end Extractor

end Extract

end CodeSurvey
