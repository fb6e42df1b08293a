/-
  What the guard lets through.

  A path that is resolved has two halves: the place that its longest existing beginning leads to,
  and the parts behind that beginning, as they were asked for (`resolve_eq`).  The first half
  stands.  The second half is missing below the BEGINNING; whether it is missing below the PLACE
  as well is a question of links: the beginning may have used up the links that the look-up of the
  next part would have needed, and then the place finds what the path did not.

  Main result, `check_contains`: what the guard lets through lies below the root and has no dots;
  and it is its own real path, or hangs below a real place inside the root, and is let through
  unchanged a second time, EXACTLY when the limit on links hides no part of the path
  (`HidesNothing`).  `check_escapes` is a path for which it does, and which leads out of the root.
-/
import CodeSurvey.Proofs.Lookup
import CodeSurvey.Proofs.PathText

namespace CodeSurvey.Files

open Disk

/-! ## §1. Disks as operating systems keep them. -/

/-- Names are names, none holds a NUL, and the current directory is a real one. -/
structure Disk.WellFormed (d : Disk) : Prop where
  names : ∀ entry ∈ d.entries, ∀ part ∈ entry.1, IsName part ∧ '\x00' ∉ part.toList
  current : d.Stands d.current

/-- The parts of a place that stands are names on the disk. -/
theorem Disk.Stands.names {d : Disk} (hd : d.WellFormed) {place : Place} (h : d.Stands place) :
    ∀ part ∈ place, IsName part ∧ '\x00' ∉ part.toList := by
  cases h with
  | top => intro part hpart; cases hpart
  | @down here name _ _ _ _ hentry =>
      rcases hentry with hentry | ⟨bytes, hentry⟩
      · exact hd.names _ (mem_entries_of_lookup hentry)
      · exact hd.names _ (mem_entries_of_lookup hentry)

/-- What a look-up finds stands, wherever it starts. -/
theorem Disk.real?_stands {d : Disk} (hd : d.WellFormed) {p : Path} {place : Place}
    (h : d.real? p = some place) : d.Stands place := by
  unfold real? at h
  split at h
  · cases h
  · cases habs : p.absolute with
    | true =>
        rw [habs, if_pos rfl] at h
        exact follow_stands _ _ _ _ .top h
    | false =>
        rw [habs, if_neg (by simp)] at h
        exact follow_stands _ _ _ _ hd.current h

/-! ## §2. Resolving a path. -/

/-- `above` leads to `place`, and the part that follows, if there is one, leads nowhere. -/
structure LongestBeginning (d : Disk) (above below : List String) (place : Place) : Prop where
  leads : d.real? (pathOf above) = some place
  missing : ∀ part rest, below = part :: rest → d.real? (pathOf (above ++ [part])) = none

/-- Of one path there is one longest beginning that leads somewhere. -/
theorem LongestBeginning.unique {d : Disk} {above above' below below' : List String}
    {place place' : Place} (h : LongestBeginning d above below place)
    (h' : LongestBeginning d above' below' place') (hparts : above ++ below = above' ++ below') :
    above = above' ∧ below = below' ∧ place = place' := by
  -- if one beginning were shorter, its next part would lie on the way of the other
  have hshort : ∀ {a a' b b' : List String} {q q' : Place}, LongestBeginning d a b q →
      LongestBeginning d a' b' q' → a ++ b = a' ++ b' → ∀ mid, a' = a ++ mid → mid = [] := by
    intro a a' b b' q q' ha ha' heq mid hmid
    cases mid with
    | nil => rfl
    | cons part mid =>
        subst hmid
        rw [List.append_assoc, List.append_cancel_left_eq] at heq
        have hnone := ha.missing part (mid ++ b') heq
        have hleads := ha'.leads
        rw [← List.singleton_append, ← List.append_assoc] at hleads
        rw [real?_pathOf_append_eq_none mid hnone] at hleads
        cases hleads
  have habove : above = above' := by
    rcases List.append_eq_append_iff.1 hparts with ⟨mid, hmid, -⟩ | ⟨mid, hmid, -⟩
    · rw [hmid, hshort h h' hparts mid hmid, List.append_nil]
    · rw [hmid, hshort h' h hparts.symm mid hmid, List.append_nil]
  subst habove
  refine ⟨rfl, List.append_cancel_left hparts, ?_⟩
  exact Option.some.inj (h.leads.symm.trans h'.leads)

/-- Climbing up from the end stops at the longest beginning that leads somewhere. -/
theorem followExisting_eq {d : Disk} {p : Path} (habs : p.absolute = true) :
    ∀ (up tail : List String),
      (∀ part rest, tail = part :: rest → d.real? (pathOf (up.reverse ++ [part])) = none) →
      ∃ above below place, up.reverse ++ tail = above ++ below ∧
        LongestBeginning d above below place ∧
        followExisting d p up tail = pathOf (place ++ below) := by
  intro up
  induction up with
  | nil =>
      intro tail htail
      refine ⟨[], tail, [], rfl, ⟨rfl, htail⟩, ?_⟩
      rw [followExisting, if_pos habs]
      rfl
  | cons last up ih =>
      intro tail htail
      have hpath : ({ absolute := p.absolute, parts := (last :: up).reverse } : Path)
          = pathOf (last :: up).reverse := by
        rw [habs]
        rfl
      cases hreal : d.real? (pathOf (last :: up).reverse) with
      | some place =>
          refine ⟨(last :: up).reverse, tail, place, rfl, ⟨hreal, htail⟩, ?_⟩
          simp only [followExisting, hpath, hreal]
          rfl
      | none =>
          obtain ⟨above, below, place, hparts, hlong, heq⟩ := ih (last :: tail) (by
            intro part rest hcons
            rw [List.cons.injEq] at hcons
            rw [← hcons.1, ← List.reverse_cons]
            exact hreal)
          refine ⟨above, below, place, ?_, hlong, ?_⟩
          · rw [← hparts, List.reverse_cons, List.append_assoc]
            rfl
          · simp only [← heq, followExisting, hpath, hreal]

theorem collapse_parts {p : Path} (hplain : ".." ∉ p.parts) : p.collapse.parts = p.parts := by
  have hfold : ∀ (parts acc : List String), ".." ∉ parts →
      parts.foldl (fun acc part => if part = ".." then acc.dropLast else acc ++ [part]) acc
        = acc ++ parts := by
    intro parts
    induction parts with
    | nil => intro acc _; simp
    | cons part parts ih =>
        intro acc hparts
        simp only [List.mem_cons, not_or] at hparts
        rw [List.foldl_cons, if_neg (Ne.symm hparts.1), ih _ hparts.2, List.append_assoc]
        rfl
  show p.parts.foldl _ [] = p.parts
  rw [hfold p.parts [] hplain, List.nil_append]

/-- **A resolved path** is the place of its longest existing beginning and the rest as it was. -/
theorem resolve_eq {d : Disk} {p : Path} (habs : p.absolute = true) (hplain : ".." ∉ p.parts) :
    ∃ above below place, p.parts = above ++ below ∧ LongestBeginning d above below place ∧
      resolve d p = pathOf (place ++ below) := by
  cases hreal : d.real? p with
  | some place =>
      refine ⟨p.parts, [], place, (List.append_nil _).symm,
        ⟨real?_of_directory habs hreal, by intro part rest h; cases h⟩, ?_⟩
      rw [resolve, hreal, List.append_nil]
  | none =>
      obtain ⟨above, below, place, hparts, hlong, heq⟩ :=
        followExisting_eq (d := d) (p := p.collapse) habs p.collapse.parts.reverse [] (by
          intro part rest h
          cases h)
      refine ⟨above, below, place, ?_, hlong, ?_⟩
      · rw [← hparts, List.reverse_reverse, List.append_nil, collapse_parts hplain]
      · rw [resolve, hreal]
        exact heq

/-! ## §3. What the guard asks. -/

/-- A guard lets through what is neither blank nor climbing and resolves below the root. -/
theorem Guard.check_eq_ok {g : Guard} {d : Disk} {text : String} {p root : Path}
    (hg : g.root = some root) :
    g.check d text = .ok p ↔
      Text.allBlank text.toList = false ∧ '\x00' ∉ text.toList ∧ climbs text = false ∧
        resolve d (root.join (Path.ofText text)) = p ∧ p.isBelow root = true := by
  constructor
  · intro h
    unfold check at h
    split at h
    · cases h
    split at h
    · cases h
    split at h
    · cases h
    rename_i hblank hnul hclimbs
    rw [hg] at h
    simp only at h
    split at h
    · rename_i hbelow
      cases h
      exact ⟨by simpa using hblank, by simpa using hnul, by simpa using hclimbs, rfl, hbelow⟩
    · cases h
  · rintro ⟨hblank, hnul, hclimbs, hresolve, hbelow⟩
    unfold check
    rw [if_neg (by simp [hblank]), if_neg (by simpa using hnul), if_neg (by simp [hclimbs]), hg]
    simp only [hresolve, hbelow, if_true]

theorem Guard.ofRoot_root {d : Disk} {root : String} {place : Place}
    (h : d.real? (Path.ofText root) = some place) :
    (Guard.ofRoot d (some root)).root = some (pathOf place) := by
  simp [Guard.ofRoot, h]

/-- A path below a root is absolute, and its parts are those of the root or of the text. -/
theorem join_ofText (place : Place) (text : String) :
    ((pathOf place).join (Path.ofText text)).absolute = true ∧
      ∀ part ∈ ((pathOf place).join (Path.ofText text)).parts,
        part ∈ place ∨ part ∈ (Path.ofText text).parts := by
  unfold Path.join
  split
  · rename_i habs
    exact ⟨habs, fun part hpart => .inr hpart⟩
  · exact ⟨rfl, fun part hpart => List.mem_append.1 hpart⟩

theorem isBelow_pathOf {parts place : List String} :
    (pathOf parts).isBelow (pathOf place) = true ↔ place <+: parts := by
  simp [Path.isBelow, pathOf]

/-! ## §4. Containment. -/

/-- The limit on links hides no part of an absolute path: what is missing behind a beginning of the
path is missing at the place to which that beginning leads. -/
def HidesNothing (d : Disk) (parts : List String) : Prop :=
  ∀ above part below place, parts = above ++ part :: below →
    d.real? (pathOf above) = some place → d.real? (pathOf (above ++ [part])) = none →
    d.real? (pathOf (place ++ [part])) = none

/-- The limit hides nothing where no beginning of the path needs more links than it allows. -/
theorem hidesNothing_of_enough_links {d : Disk} {parts : List String}
    (h : ∀ above below, parts = above ++ below → d.follow linkLimit [] above = none →
      ∀ links, d.follow links [] above = none) : HidesNothing d parts := by
  intro above part below place hparts hleads hmissing
  cases hreal : d.real? (pathOf (place ++ [part])) with
  | none => rfl
  | some found =>
      -- with the links of both stages the whole way can be gone
      obtain ⟨used, _, hstage⟩ := follow_append linkLimit [] above place hleads
      have hnone := h (above ++ [part]) below (by rw [hparts]; simp) hmissing (used + linkLimit)
      rw [hstage, ← follow_through (stands_of_real?_pathOf hleads)] at hnone
      rw [real?_pathOf, hnone] at hreal
      cases hreal

/-- A path that a guard may hand on: if it leads somewhere, it is its own real path; if not, its
longest beginning that leads somewhere is real and lies below the root; and the guard lets it
through unchanged when it is asked for by its text. -/
structure Contained (d : Disk) (g : Guard) (root : Place) (p : Path) : Prop where
  real : ∀ place, d.real? p = some place → p = pathOf place
  hanging : d.real? p = none → ∃ above below, p.parts = above ++ below ∧
    d.real? (pathOf above) = some above ∧ root <+: above ∧
    ∀ mid rest, below = mid ++ rest → mid ≠ [] → d.real? (pathOf (above ++ mid)) = none
  again : '\\' ∉ p.render.toList → g.check d p.render = .ok p

section Halves

variable {d : Disk} {above below : List String} {place : Place}

/-- Where the limit hides nothing, the rest of a resolved path is missing below its place too. -/
theorem LongestBeginning.of_place (h : LongestBeginning d above below place)
    (hnothing : HidesNothing d (above ++ below)) : LongestBeginning d place below place where
  leads := real?_of_stands (stands_of_real?_pathOf h.leads)
  missing := by
    intro part rest hbelow
    exact hnothing above part rest place (by rw [hbelow]) h.leads (h.missing part rest hbelow)

theorem LongestBeginning.real?_eq_none (h : LongestBeginning d above below place) {part : String}
    {rest : List String} (hbelow : below = part :: rest) :
    d.real? (pathOf (above ++ below)) = none := by
  rw [hbelow, ← List.singleton_append, ← List.append_assoc]
  exact real?_pathOf_append_eq_none rest (h.missing part rest hbelow)

/-- A place below which a standing root goes on holds the next part of that root. -/
theorem LongestBeginning.prefix_above (h : LongestBeginning d above below place) {root : Place}
    (hroot : d.Stands root) (hbegins : root <+: above ++ below) : root <+: above := by
  rcases List.prefix_or_prefix_of_prefix hbegins (List.prefix_append above below) with hp | hp
  · exact hp
  · obtain ⟨mid, hmid⟩ := hp
    cases mid with
    | nil => exact ⟨[], by rw [List.append_nil, ← hmid, List.append_nil]⟩
    | cons part mid =>
        obtain ⟨rest, hrest⟩ := hbegins
        rw [← hmid, List.append_assoc, List.append_cancel_left_eq] at hrest
        have hnone := h.missing part (mid ++ rest) hrest.symm
        have hreal := real?_of_stands hroot
        rw [← hmid, ← List.singleton_append, ← List.append_assoc,
          real?_pathOf_append_eq_none mid hnone] at hreal
        cases hreal

/-- A part that the path did not find cannot stand below the place of the beginning before it. -/
theorem LongestBeginning.not_stands (h : LongestBeginning d above below place) {part : String}
    {rest : List String} (hbelow : below = part :: rest) : ¬ d.Stands (place ++ [part]) := by
  intro hstands
  have hfound := real?_append_of_stands h.leads hstands
  rw [h.missing part rest hbelow] at hfound
  cases hfound

end Halves

/-- What a guard lets through: the place of a beginning and the rest of the path, all of it names
and below the root. -/
theorem Guard.check_split {d : Disk} {root text : String} {top : Place} {p : Path}
    (hd : d.WellFormed) (hroot : d.real? (Path.ofText root) = some top)
    (h : (Guard.ofRoot d (some root)).check d text = .ok p) :
    ∃ above below place, ((pathOf top).join (Path.ofText text)).parts = above ++ below ∧
      LongestBeginning d above below place ∧ p = pathOf (place ++ below) ∧
      top <+: place ++ below ∧
      ∀ part ∈ place ++ below, IsName part ∧ '\x00' ∉ part.toList ∧ part ≠ ".." := by
  obtain ⟨-, hnul, hclimbs, hresolve, hbelow⟩ := (check_eq_ok (ofRoot_root hroot)).1 h
  obtain ⟨habs, hmem⟩ := join_ofText top text
  -- a place that stands is made of names, and so is a text that does not climb
  have hstanding : ∀ {place : Place}, d.Stands place → ∀ part ∈ place,
      IsName part ∧ '\x00' ∉ part.toList ∧ part ≠ ".." := fun hplace part hpart =>
    ⟨(hplace.names hd part hpart).1, (hplace.names hd part hpart).2, (hplace.plain part hpart).2⟩
  have hasked : ∀ part ∈ ((pathOf top).join (Path.ofText text)).parts,
      IsName part ∧ '\x00' ∉ part.toList ∧ part ≠ ".." := by
    intro part hpart
    rcases hmem part hpart with hpart | hpart
    · exact hstanding (real?_stands hd hroot) part hpart
    · obtain ⟨hname, hchars⟩ := Path.of_mem_parts_ofText hpart
      refine ⟨hname, fun hc => hnul (hchars _ hc), ?_⟩
      rintro rfl
      simp [climbs, hpart] at hclimbs
  obtain ⟨above, below, place, hparts, hlong, heq⟩ :=
    resolve_eq (d := d) habs fun hdots => (hasked _ hdots).2.2 rfl
  rw [hresolve] at heq
  refine ⟨above, below, place, hparts, hlong, heq, ?_, ?_⟩
  · rwa [heq, isBelow_pathOf] at hbelow
  · intro part hpart
    rcases List.mem_append.1 hpart with hpart | hpart
    · exact hstanding (stands_of_real?_pathOf hlong.leads) part hpart
    · exact hasked part (by rw [hparts]; exact List.mem_append_right _ hpart)

/-- The text of a path whose longest beginning is real is let through as it is. -/
theorem Guard.check_render {d : Disk} {g : Guard} {top place below : List String}
    (hg : g.root = some (pathOf top)) (hlong : LongestBeginning d place below place)
    (hbelow : top <+: place ++ below)
    (hnames : ∀ part ∈ place ++ below, IsName part ∧ '\x00' ∉ part.toList ∧ part ≠ "..")
    (hback : '\\' ∉ (pathOf (place ++ below)).render.toList) :
    g.check d (pathOf (place ++ below)).render = .ok (pathOf (place ++ below)) := by
  have htext := Path.ofText_render_pathOf fun part hpart => (hnames part hpart).1
  have hplain : ".." ∉ place ++ below := fun hdots => (hnames _ hdots).2.2 rfl
  refine (check_eq_ok hg).2 ⟨?_, ?_, ?_, ?_, isBelow_pathOf.2 hbelow⟩
  · rw [Path.toList_render_pathOf]
    rfl
  · intro hnul
    rcases Path.of_mem_render_pathOf hnul with hslash | ⟨part, hpart, hc⟩
    · cases hslash
    · exact (hnames part hpart).2.1 hc
  · rw [Bool.eq_false_iff]
    intro hclimbs
    have hdots := mem_parts_of_climbs hclimbs hback
    rw [htext] at hdots
    exact hplain hdots
  · rw [htext]
    obtain ⟨above, rest, place', hparts, hlong', heq⟩ :=
      resolve_eq (d := d) (p := ⟨true, place ++ below, (place ++ below).isEmpty⟩) rfl hplain
    obtain ⟨-, rfl, rfl⟩ := hlong.unique hlong' hparts
    exact heq

/-! ## §5. The main result. -/

section Main

variable {d : Disk} {g : Guard} {top above below : List String} {place : Place}

/-- Where the limit hides nothing, what is let through is contained. -/
theorem contained_of_hidesNothing (hg : g.root = some (pathOf top)) (htop : d.Stands top)
    (hlong : LongestBeginning d above below place) (hbelow : top <+: place ++ below)
    (hnames : ∀ part ∈ place ++ below, IsName part ∧ '\x00' ∉ part.toList ∧ part ≠ "..")
    (hnothing : HidesNothing d (above ++ below)) :
    Contained d g top (pathOf (place ++ below)) := by
  have hplace := hlong.of_place hnothing
  refine ⟨?_, ?_, Guard.check_render hg hplace hbelow hnames⟩
  · intro found hfound
    cases below with
    | nil =>
        rw [List.append_nil, hplace.leads] at hfound
        rw [List.append_nil, Option.some.inj hfound]
    | cons part rest =>
        rw [hplace.real?_eq_none rfl] at hfound
        cases hfound
  · intro _
    refine ⟨place, below, rfl, hplace.leads, hplace.prefix_above htop hbelow, ?_⟩
    intro mid rest hmid hne
    obtain ⟨part, mid, rfl⟩ := List.exists_cons_of_ne_nil hne
    rw [← List.singleton_append, ← List.append_assoc]
    exact real?_pathOf_append_eq_none mid (hplace.missing part (mid ++ rest) hmid)

/-- What is contained shows that the limit hid nothing. -/
theorem hidesNothing_of_contained (hlong : LongestBeginning d above below place)
    (h : Contained d g top (pathOf (place ++ below))) : HidesNothing d (above ++ below) := by
  intro before part after found hparts hfound hmissing
  -- only the longest beginning has a next part that leads nowhere
  have hlong' : LongestBeginning d before (part :: after) found :=
    ⟨hfound, by rintro _ _ ⟨⟩; exact hmissing⟩
  obtain ⟨rfl, rfl, rfl⟩ := hlong.unique hlong' hparts
  cases hnext : d.real? (pathOf (place ++ [part])) with
  | none => rfl
  | some next =>
      refine absurd ?_ (hlong.not_stands rfl)
      cases hreal : d.real? (pathOf (place ++ part :: after)) with
      | some whole =>
          have hstands := stands_of_real?_pathOf hreal
          rw [← (Path.mk.inj (h.real whole hreal)).2.1, ← List.singleton_append,
            ← List.append_assoc] at hstands
          exact hstands.of_append
      | none =>
          obtain ⟨upper, lower, hsplit, hupper, -, hlower⟩ := h.hanging hreal
          have hstands := stands_of_real?_pathOf hupper
          -- the part that leads somewhere lies on the real beginning
          rcases List.append_eq_append_iff.1
            (show (place ++ [part]) ++ after = upper ++ lower by
              rw [← hsplit]; simp [pathOf]) with ⟨mid, hmid, -⟩ | ⟨mid, hmid, hrest⟩
          · rw [hmid] at hstands
            exact hstands.of_append
          · cases mid with
            | nil =>
                rw [hmid, List.append_nil]
                exact hstands
            | cons name mid =>
                rw [hmid, hlower (name :: mid) after hrest (by simp)] at hnext
                cases hnext

end Main

/-- **Containment.**  Whatever the disk and the text: what a guard with an existing root lets
through lies at or below the root and has no dots.  It is its own real path, or hangs below a real
place inside the root, and is let through unchanged a second time, exactly when the limit on links
hides no part of the path that was asked for; and without a limit nothing is hidden. -/
theorem check_contains {d : Disk} {root text : String} {top : Place} {p : Path}
    (hd : d.WellFormed) (hroot : d.real? (Path.ofText root) = some top)
    (h : (Guard.ofRoot d (some root)).check d text = .ok p) :
    p.isBelow (pathOf top) = true ∧ (∀ part ∈ p.parts, part ≠ "." ∧ part ≠ "..") ∧
      (HidesNothing d ((pathOf top).join (Path.ofText text)).parts ↔
        Contained d (Guard.ofRoot d (some root)) top p) ∧
      ((∀ above below, ((pathOf top).join (Path.ofText text)).parts = above ++ below →
          d.follow linkLimit [] above = none → ∀ links, d.follow links [] above = none) →
        HidesNothing d ((pathOf top).join (Path.ofText text)).parts) := by
  obtain ⟨above, below, place, hparts, hlong, rfl, hbelow, hnames⟩ := Guard.check_split hd hroot h
  refine ⟨isBelow_pathOf.2 hbelow, ?_, ?_, hidesNothing_of_enough_links⟩
  · intro part hpart
    exact ⟨(hnames part hpart).1.2.1, (hnames part hpart).2.2⟩
  · rw [hparts]
    exact ⟨contained_of_hidesNothing (Guard.ofRoot_root hroot) (real?_stands hd hroot) hlong
      hbelow hnames, hidesNothing_of_contained hlong⟩

/-- A disk with a project `/w/root`, a link in it to the directory itself and one that leads out. -/
def loopDisk : Disk :=
  { entries := [(["w"], .directory), (["w", "root"], .directory),
      (["w", "root", "a.py"], .file "y".toUTF8.toList), (["w", "root", "s"], .link "."),
      (["w", "root", "esc"], .link "/w/out/secret.py"), (["w", "out"], .directory),
      (["w", "out", "secret.py"], .file "z".toUTF8.toList)],
    current := ["w"] }

theorem loopDisk_wellFormed : loopDisk.WellFormed where
  names := by decide +kernel
  current := .down .top rfl (by decide) (by decide) (.inl rfl)

/-- A missing file behind the link to the directory itself is let through, and is contained. -/
theorem loopDisk_contains :
    (Guard.ofRoot loopDisk (some "/w/root")).check loopDisk "s/new.py"
        = .ok (pathOf ["w", "root", "new.py"]) ∧
      Contained loopDisk (Guard.ofRoot loopDisk (some "/w/root")) ["w", "root"]
        (pathOf ["w", "root", "new.py"]) := by
  have hcheck : (Guard.ofRoot loopDisk (some "/w/root")).check loopDisk "s/new.py"
      = .ok (pathOf ["w", "root", "new.py"]) := by decide +kernel
  have hparts : ((pathOf ["w", "root"]).join (Path.ofText "s/new.py")).parts
      = ["w", "root", "s", "new.py"] := by decide +kernel
  refine ⟨hcheck, (check_contains loopDisk_wellFormed (by decide +kernel) hcheck).2.2.1.1 ?_⟩
  rw [hparts]
  intro above part below place hsplit hleads hmissing
  simp only [List.cons_eq_append_iff, List.cons.injEq, List.nil_eq, List.append_eq_nil_iff,
    reduceCtorEq, and_false, exists_false, or_false] at hsplit
  rcases hsplit with ⟨rfl, rfl, -⟩ | ⟨_, rfl, ⟨rfl, rfl, -⟩ | ⟨_, rfl, ⟨rfl, rfl, -⟩ |
    ⟨_, rfl, ⟨rfl, rfl, -⟩⟩⟩⟩
  · exact absurd hmissing (by decide +kernel)
  · exact absurd hmissing (by decide +kernel)
  · exact absurd hmissing (by decide +kernel)
  · have hplace : loopDisk.real? (pathOf ["w", "root", "s"]) = some ["w", "root"] := by
      decide +kernel
    obtain rfl : ["w", "root"] = place := Option.some.inj (hplace.symm.trans hleads)
    decide +kernel

/-- **The limit on links lets a path out of the root.**  Forty times the link to the directory
itself uses up the limit, so that the link behind it is taken for a missing file; but the path that
is handed on has that link right below the root. -/
theorem check_escapes :
    (Guard.ofRoot loopDisk (some "/w/root")).check loopDisk
        ("/".intercalate (List.replicate 40 "s" ++ ["esc"])) = .ok (pathOf ["w", "root", "esc"]) ∧
      loopDisk.real? (pathOf ["w", "root", "esc"]) = some ["w", "out", "secret.py"] := by
  decide +kernel

end CodeSurvey.Files
