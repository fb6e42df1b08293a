/-
  Looking paths up on a disk.

  A place STANDS when it can be reached from the top through directories alone, so that no link and
  no dot is on the way.  Whatever a look-up finds stands (`follow_stands`), and a place that stands
  is looked up as itself (`real?_of_stands`): following links twice is following them once.

  A look-up of `above ++ below` is a look-up of `above` and then one of `below` from the place
  found, with whatever links the first one left over (`follow_append`).  This is where looking up
  from a place and looking up from a path that leads there may differ: the path has used up links
  that the place has not.
-/
import CodeSurvey.Files.Guard
import Mathlib.Data.List.Induction

namespace CodeSurvey.Files.Disk

/-! ## §1. Places that stand. -/

/-- A place reached from the top through directories, under names that are not dots; there is a
directory or a file. -/
inductive Stands (d : Disk) : Place → Prop where
  | top : Stands d []
  | down {here : Place} {part : String} :
      Stands d here → d.entry? here = some .directory → part ≠ "." → part ≠ ".." →
      (d.entry? (here ++ [part]) = some .directory ∨
        ∃ bytes, d.entry? (here ++ [part]) = some (.file bytes)) →
      Stands d (here ++ [part])

theorem Stands.of_append_singleton {d : Disk} {here : Place} {part : String}
    (h : d.Stands (here ++ [part])) : d.Stands here := by
  generalize hplace : here ++ [part] = place at h
  cases h with
  | top => simp at hplace
  | down hhere =>
      obtain ⟨rfl, -⟩ := List.append_inj' hplace rfl
      exact hhere

theorem Stands.dropLast {d : Disk} {place : Place} (h : d.Stands place) :
    d.Stands place.dropLast := by
  cases h with
  | top => exact .top
  | down hhere =>
      rw [List.dropLast_concat]
      exact hhere

/-- A beginning of a place that stands, stands. -/
theorem Stands.of_append {d : Disk} {above below : Place} (h : d.Stands (above ++ below)) :
    d.Stands above := by
  induction below using List.reverseRecOn with
  | nil => rwa [List.append_nil] at h
  | append_singleton below part ih =>
      rw [← List.append_assoc] at h
      exact ih h.of_append_singleton

theorem Stands.plain {d : Disk} {place : Place} (h : d.Stands place) :
    ∀ part ∈ place, part ≠ "." ∧ part ≠ ".." := by
  induction h with
  | top => intro part hpart; cases hpart
  | down _ _ hdot hdots _ ih =>
      intro part hpart
      rcases List.mem_append.1 hpart with hpart | hpart
      · exact ih part hpart
      · rw [List.mem_singleton.1 hpart]
        exact ⟨hdot, hdots⟩

/-! ## §2. One step of a look-up. -/

/-- What is found at a place below the top is one of the entries. -/
theorem mem_entries_of_lookup {d : Disk} {place : Place} {name : String} {entry : Entry}
    (h : d.entry? (place ++ [name]) = some entry) : (place ++ [name], entry) ∈ d.entries := by
  have hlookup : d.entries.lookup (place ++ [name]) = some entry := by
    unfold Disk.entry? at h
    simpa using h
  obtain ⟨before, after, hsplit, -⟩ := List.lookup_eq_some_iff.1 hlookup
  rw [hsplit]
  simp

section Step

variable {d : Disk} {onLink : Place → List String → Option Place} {here : Place} {part : String}
  {rest : List String}

theorem walk_nil : d.walk onLink here [] = some here := rfl

/-- Only a directory can be walked on from. -/
theorem walk_cons_of_not_directory (hhere : d.entry? here ≠ some .directory) :
    d.walk onLink here (part :: rest) = none := by
  rw [walk, if_pos (by simpa using hhere)]

theorem walk_cons (hhere : d.entry? here = some .directory) :
    d.walk onLink here (part :: rest) =
      if part = "." then d.walk onLink here rest
      else if part = ".." then d.walk onLink here.dropLast rest
      else
        match d.entry? (here ++ [part]) with
        | none => none
        | some .directory => d.walk onLink (here ++ [part]) rest
        | some (.file _) => if rest.isEmpty then some (here ++ [part]) else none
        | some (.link target) =>
          onLink (if (Path.ofText target).absolute then [] else here)
            ((Path.ofText target).steps ++ rest) := by
  rw [walk]
  exact if_neg (by simp [hhere])

/-- What lies behind a file is not there. -/
theorem walk_of_file {bytes : List UInt8} (hhere : d.entry? here = some (.file bytes)) :
    d.walk onLink here rest = if rest.isEmpty then some here else none := by
  cases rest with
  | nil => rfl
  | cons part rest => exact walk_cons_of_not_directory (by rw [hhere]; simp)

end Step

/-- What one part of a path can do: it is not there; it leads on to a place that stands as the one
before it does; or it is a link, and its steps are taken first. -/
theorem walk_cases (d : Disk) (here : Place) (part : String) :
    (∀ onLink rest, d.walk onLink here (part :: rest) = none) ∨
    (∃ next, (d.Stands here → d.Stands next) ∧
      ∀ onLink rest, d.walk onLink here (part :: rest) = d.walk onLink next rest) ∨
    (∃ base steps, (d.Stands here → d.Stands base) ∧
      ∀ onLink rest, d.walk onLink here (part :: rest) = onLink base (steps ++ rest)) := by
  by_cases hhere : d.entry? here = some .directory
  case neg => exact .inl fun _ _ => walk_cons_of_not_directory hhere
  by_cases hdot : part = "."
  · refine .inr (.inl ⟨here, id, fun onLink rest => ?_⟩)
    rw [walk_cons hhere, if_pos hdot]
  by_cases hdots : part = ".."
  · refine .inr (.inl ⟨here.dropLast, Stands.dropLast, fun onLink rest => ?_⟩)
    rw [walk_cons hhere, if_neg hdot, if_pos hdots]
  cases hentry : d.entry? (here ++ [part]) with
  | none =>
      refine .inl fun onLink rest => ?_
      rw [walk_cons hhere, if_neg hdot, if_neg hdots, hentry]
  | some entry =>
      cases entry with
      | directory =>
          refine .inr (.inl ⟨here ++ [part], fun h => .down h hhere hdot hdots (.inl hentry), ?_⟩)
          intro onLink rest
          rw [walk_cons hhere, if_neg hdot, if_neg hdots, hentry]
      | file bytes =>
          refine .inr (.inl ⟨here ++ [part],
            fun h => .down h hhere hdot hdots (.inr ⟨bytes, hentry⟩), ?_⟩)
          intro onLink rest
          rw [walk_cons hhere, if_neg hdot, if_neg hdots, hentry, walk_of_file hentry]
      | link target =>
          refine .inr (.inr ⟨if (Path.ofText target).absolute then [] else here,
            (Path.ofText target).steps, ?_, fun onLink rest => ?_⟩)
          · intro h
            split
            · exact .top
            · exact h
          · rw [walk_cons hhere, if_neg hdot, if_neg hdots, hentry]

/-- What a row of parts can do, whatever follows it: it leads nowhere; it leads to a place through
directories alone; or it comes to a link, and goes on from there with some other row of parts. -/
theorem walk_split (d : Disk) :
    ∀ (above : List String) (here : Place),
      (∀ onLink below, d.walk onLink here (above ++ below) = none) ∨
      (∃ next, (d.Stands here → d.Stands next) ∧
        ∀ onLink below, d.walk onLink here (above ++ below) = d.walk onLink next below) ∨
      (∃ base parts, (d.Stands here → d.Stands base) ∧
        ∀ onLink below, d.walk onLink here (above ++ below) = onLink base (parts ++ below)) := by
  intro above
  induction above with
  | nil =>
      intro here
      exact .inr (.inl ⟨here, id, fun _ _ => rfl⟩)
  | cons part rest ih =>
      intro here
      simp only [List.cons_append]
      rcases walk_cases d here part with hgone | ⟨next, hnext, hmove⟩ | ⟨base, steps, hbase, hjump⟩
      · exact .inl fun onLink below => hgone onLink (rest ++ below)
      · simp only [hmove]
        rcases ih next with hgone | ⟨last, hlast, hrest⟩ | ⟨base, parts, hbase, hrest⟩
        · exact .inl hgone
        · exact .inr (.inl ⟨last, fun h => hlast (hnext h), hrest⟩)
        · exact .inr (.inr ⟨base, parts, fun h => hbase (hnext h), hrest⟩)
      · refine .inr (.inr ⟨base, steps ++ rest, hbase, fun onLink below => ?_⟩)
        rw [hjump, List.append_assoc]

/-! ## §3. Whole look-ups. -/

/-- How a look-up that succeeds gets past a row of parts: through directories alone, or to a link
first.  Every other look-up of the row then does so too, if it has a link to spare. -/
theorem follow_cases {d : Disk} {links : Nat} {here place : Place} {above below : List String}
    (h : d.follow links here (above ++ below) = some place) :
    (∃ next, (d.Stands here → d.Stands next) ∧
      ∀ k rest, d.follow k here (above ++ rest) = d.follow k next rest) ∨
    (∃ n base parts, links = n + 1 ∧ (d.Stands here → d.Stands base) ∧
      ∀ k rest, d.follow (k + 1) here (above ++ rest) = d.follow k base (parts ++ rest)) := by
  rcases walk_split d above here with hgone | ⟨next, hnext, hrest⟩ | ⟨base, parts, hbase, hrest⟩
  · cases links <;> exact absurd (h.symm.trans (hgone _ below)) (by simp)
  · refine .inl ⟨next, hnext, fun k rest => ?_⟩
    cases k <;> exact hrest _ rest
  · cases links with
    | zero => exact absurd (h.symm.trans (hrest _ below)) (by simp)
    | succ n => exact .inr ⟨n, base, parts, rfl, hbase, fun k rest => hrest _ rest⟩

/-- **What a look-up finds stands.** -/
theorem follow_stands {d : Disk} (links : Nat) :
    ∀ (here : Place) (parts : List String) (place : Place),
      d.Stands here → d.follow links here parts = some place → d.Stands place := by
  induction links using Nat.strongRecOn with
  | ind links ih =>
      intro here parts place hhere h
      rw [← List.append_nil parts] at h
      rcases follow_cases h with ⟨next, hnext, hrest⟩ | ⟨n, base, row, rfl, hbase, hrest⟩
      · rw [hrest] at h
        have hplace : next = place := by cases links <;> exact Option.some.inj h
        exact hplace ▸ hnext hhere
      · rw [hrest] at h
        exact ih n (Nat.lt_succ_self n) base _ place (hbase hhere) h

/-- Parts that lead along a place that stands take no links. -/
theorem follow_through {d : Disk} {place : Place} (hplace : d.Stands place) (links : Nat) :
    ∀ rest, d.follow links [] (place ++ rest) = d.follow links place rest := by
  have hwalk : ∀ (onLink : Place → List String → Option Place) rest,
      d.walk onLink [] (place ++ rest) = d.walk onLink place rest := by
    intro onLink
    induction hplace with
    | top => intro rest; rfl
    | @down here part _ hhere hdot hdots hentry ih =>
        intro rest
        rw [List.append_assoc, ih, List.singleton_append, walk_cons hhere, if_neg hdot,
          if_neg hdots]
        rcases hentry with hentry | ⟨bytes, hentry⟩
        · rw [hentry]
        · rw [hentry, walk_of_file hentry]
  cases links <;> exact hwalk _

/-- **A look-up in two stages.**  The first stage uses up some links; the second one starts from the
place that the first one found, with the links that are left. -/
theorem follow_append {d : Disk} (links : Nat) :
    ∀ (here : Place) (above : List String) (place : Place),
      d.follow links here above = some place →
      ∃ used ≤ links, ∀ left below,
        d.follow (used + left) here (above ++ below) = d.follow left place below := by
  induction links using Nat.strongRecOn with
  | ind links ih =>
      intro here above place h
      rw [← List.append_nil above] at h
      rcases follow_cases h with ⟨next, _, hrest⟩ | ⟨n, base, row, rfl, _, hrest⟩
      · rw [hrest] at h
        have hplace : next = place := by cases links <;> exact Option.some.inj h
        refine ⟨0, Nat.zero_le _, fun left below => ?_⟩
        rw [Nat.zero_add, hrest, hplace]
      · rw [hrest, List.append_nil] at h
        obtain ⟨used, hused, hstage⟩ := ih n (Nat.lt_succ_self n) base row place h
        refine ⟨used + 1, by omega, fun left below => ?_⟩
        rw [Nat.add_right_comm, hrest, hstage]

/-- A path that leads somewhere has no beginning that leads nowhere. -/
theorem follow_of_append {d : Disk} (links : Nat) :
    ∀ (here : Place) (above below : List String) (place : Place),
      d.follow links here (above ++ below) = some place →
      ∃ between, d.follow links here above = some between := by
  induction links using Nat.strongRecOn with
  | ind links ih =>
      intro here above below place h
      rcases follow_cases h with ⟨next, _, hrest⟩ | ⟨n, base, row, rfl, _, hrest⟩
      · refine ⟨next, ?_⟩
        rw [← List.append_nil above, hrest]
        cases links <;> rfl
      · rw [hrest] at h
        obtain ⟨between, hbetween⟩ := ih n (Nat.lt_succ_self n) base row below place h
        refine ⟨between, ?_⟩
        rw [← List.append_nil above, hrest, List.append_nil, hbetween]

/-! ## §4. Absolute paths. -/

theorem real?_pathOf (d : Disk) (parts : List String) :
    d.real? (pathOf parts) = d.follow linkLimit [] parts := rfl

/-- **Following links is done once and for all.** -/
theorem real?_of_stands {d : Disk} {place : Place} (h : d.Stands place) :
    d.real? (pathOf place) = some place := by
  rw [real?_pathOf, ← List.append_nil place, follow_through h, List.append_nil]
  rfl

theorem stands_of_real?_pathOf {d : Disk} {parts : List String} {place : Place}
    (h : d.real? (pathOf parts) = some place) : d.Stands place :=
  follow_stands linkLimit [] parts place .top h

theorem real?_pathOf_of_append {d : Disk} {above below : List String} {place : Place}
    (h : d.real? (pathOf (above ++ below)) = some place) :
    ∃ between, d.real? (pathOf above) = some between :=
  follow_of_append linkLimit [] above below place h

theorem real?_pathOf_append_eq_none {d : Disk} {above : List String} (below : List String)
    (h : d.real? (pathOf above) = none) : d.real? (pathOf (above ++ below)) = none := by
  cases hreal : d.real? (pathOf (above ++ below)) with
  | none => rfl
  | some place =>
      obtain ⟨between, hbetween⟩ := real?_pathOf_of_append hreal
      rw [hbetween] at h
      cases h

/-- A part that stands below the place found is found. -/
theorem real?_append_of_stands {d : Disk} {above : List String} {place : Place} {part : String}
    (habove : d.real? (pathOf above) = some place) (h : d.Stands (place ++ [part])) :
    d.real? (pathOf (above ++ [part])) = some (place ++ [part]) := by
  obtain ⟨used, hused, hstage⟩ := follow_append linkLimit [] above place habove
  obtain ⟨left, hleft⟩ := Nat.exists_eq_add_of_le hused
  rw [real?_pathOf, hleft, hstage, ← follow_through h.of_append_singleton left [part],
    ← List.append_nil (place ++ [part]), follow_through h left [], List.append_nil]
  cases left <;> rfl

/-- A dot stays where it is. -/
theorem follow_dot {d : Disk} {links : Nat} {here place : Place}
    (h : d.follow links here ["."] = some place) : here = place := by
  by_cases hhere : d.entry? here = some .directory
  · cases links <;> simpa [follow, walk_cons hhere, walk_nil] using h
  · cases links <;> simp [follow, walk_cons_of_not_directory hhere] at h

/-- Where a path leads, its parts lead, whether it must be a directory or not. -/
theorem follow_parts_of_real? {d : Disk} {p : Path} {place : Place} (h : d.real? p = some place) :
    d.follow linkLimit (if p.absolute then [] else d.current) p.parts = some place := by
  unfold real? at h
  split at h
  · cases h
  · generalize (if p.absolute = true then [] else d.current) = start at h ⊢
    cases hdir : p.directory with
    | false =>
        rw [Path.steps, hdir] at h
        exact h
    | true =>
        rw [Path.steps, hdir, if_pos rfl] at h
        obtain ⟨between, hbetween⟩ := follow_of_append linkLimit start p.parts ["."] place h
        obtain ⟨used, hused, hstage⟩ := follow_append linkLimit start p.parts between hbetween
        obtain ⟨left, hleft⟩ := Nat.exists_eq_add_of_le hused
        rw [hleft, hstage] at h
        rw [hbetween, follow_dot h]

/-- A path that must lead to a directory leads where it leads without that. -/
theorem real?_of_directory {d : Disk} {p : Path} {place : Place} (habs : p.absolute = true)
    (h : d.real? p = some place) : d.real? (pathOf p.parts) = some place := by
  have hparts := follow_parts_of_real? h
  rw [habs] at hparts
  exact hparts

end CodeSurvey.Files.Disk
