/-
  Maps from names.

  Look-ups see an insertion and a removal as they should, whatever the order of the pairs
  (`find?_insert`, `find?_erase`).  A map whose names increase strictly keeps doing so, and then its
  pairs are as many as its names (`Sorted.insert`, `Sorted.erase`) and its look-ups tell it apart
  from others (`Sorted.ext`).  Of the pairs that a map is made of the last with a name counts
  (`find?_ofPairs`).
-/
import CodeSurvey.NameMap
import CodeSurvey.Proofs.Lists

namespace CodeSurvey

namespace NameMap

variable {α : Type} {name : String} {value : α}

/-! ## §1. Look-ups. -/

theorem find?_insert (name' : String) :
    ∀ m : NameMap α,
      (m.insert name value).find? name' = if name' = name then some value else m.find? name' := by
  intro m
  induction m with
  | nil => exact lookup_cons_ite name' name value []
  | cons head rest ih =>
      obtain ⟨k, v⟩ := head
      unfold find? at ih ⊢
      unfold insert
      split
      · exact lookup_cons_ite name' name value _
      · split
        · rename_i hk
          rw [lookup_cons_ite, lookup_cons_ite, ← hk]
          split
          · rfl
          · rfl
        · rename_i hk
          rw [lookup_cons_ite, lookup_cons_ite, ih]
          by_cases h : name' = name
          · rw [if_pos h, if_pos h, if_neg (h ▸ hk)]
          · rw [if_neg h, if_neg h]

theorem find?_erase (name' : String) :
    ∀ m : NameMap α, (m.erase name).find? name' = if name' = name then none else m.find? name' := by
  intro m
  induction m with
  | nil => simp [erase, find?]
  | cons head rest ih =>
      obtain ⟨k, v⟩ := head
      unfold find? erase at ih ⊢
      rw [List.filter_cons]
      by_cases hk : k = name
      · rw [if_neg (by simp [hk]), ih, lookup_cons_ite]
        split
        · rfl
        · rename_i hname
          rw [if_neg fun h => hname (h.trans hk)]
      · rw [if_pos (by simp [hk]), lookup_cons_ite, lookup_cons_ite, ih]
        by_cases hname : name' = k
        · rw [if_pos hname, if_neg fun h => hk (hname.symm.trans h), if_pos hname]
        · rw [if_neg hname, if_neg hname]

theorem insert_ne_nil (m : NameMap α) (name : String) (value : α) :
    m.insert name value ≠ [] := by
  unfold insert
  split
  · exact List.cons_ne_nil _ _
  · split
    · exact List.cons_ne_nil _ _
    · split
      · exact List.cons_ne_nil _ _
      · exact List.cons_ne_nil _ _

/-- A name of a map is one that has a value. -/
theorem mem_names_iff {m : NameMap α} : name ∈ m.names ↔ (m.find? name).isSome = true := by
  induction m with
  | nil => simp [names, find?]
  | cons head rest ih =>
      obtain ⟨k, v⟩ := head
      unfold names find? at ih ⊢
      rw [List.map_cons, List.mem_cons, ih, lookup_cons_ite]
      split
      · rename_i h
        simp [h]
      · rename_i h
        simp [h]

theorem mem_of_mem_insert {entry : String × α} :
    ∀ {m : NameMap α}, entry ∈ m.insert name value → entry = (name, value) ∨ entry ∈ m := by
  intro m
  induction m with
  | nil => intro h; exact .inl (List.mem_singleton.1 h)
  | cons head rest ih =>
      intro h
      unfold insert at h
      split at h
      · exact List.mem_cons.1 h
      split at h
      · rcases List.mem_cons.1 h with h | h
        · exact .inl h
        · exact .inr (List.mem_cons_of_mem _ h)
      · rcases List.mem_cons.1 h with h | h
        · exact .inr (List.mem_cons.2 (.inl h))
        · exact (ih h).imp_right (List.mem_cons_of_mem _)

theorem mem_of_mem_erase {entry : String × α} {m : NameMap α} (h : entry ∈ m.erase name) :
    entry ∈ m :=
  (List.mem_filter.1 h).1

theorem mem_names_insert {name' : String} {m : NameMap α} :
    name' ∈ (m.insert name value).names ↔ name' = name ∨ name' ∈ m.names := by
  rw [mem_names_iff, mem_names_iff, find?_insert]
  by_cases h : name' = name
  · simp [h]
  · simp [h]

theorem mem_names_erase {name' : String} {m : NameMap α} :
    name' ∈ (m.erase name).names ↔ name' ≠ name ∧ name' ∈ m.names := by
  rw [mem_names_iff, mem_names_iff, find?_erase]
  by_cases h : name' = name
  · simp [h]
  · simp [h]

theorem mem_names_foldl_insert {name' : String} :
    ∀ {pairs : List (String × α)} {m : NameMap α},
      name' ∈ (pairs.foldl (fun m p => insert m p.1 p.2) m).names ↔
        name' ∈ pairs.map Prod.fst ∨ name' ∈ m.names := by
  intro pairs
  induction pairs with
  | nil => simp
  | cons p pairs ih =>
      intro m
      rw [List.foldl_cons, ih, mem_names_insert, List.map_cons, List.mem_cons, or_left_comm,
        or_assoc]

/-- Sorting names neither loses nor adds any. -/
theorem mem_sortNames {names : List String} : name ∈ sortNames names ↔ name ∈ names := by
  unfold sortNames ofPairs
  rw [mem_names_foldl_insert, List.map_map]
  simp [NameMap.names]

/-! ## §2. The order of the names. -/

/-- The names increase strictly. -/
def Sorted (m : NameMap α) : Prop := m.names.Pairwise (· < ·)

theorem sorted_nil : Sorted ([] : NameMap α) := List.Pairwise.nil

theorem Sorted.nodup {m : NameMap α} (h : m.Sorted) : m.names.Nodup := by
  refine List.Pairwise.imp ?_ h
  rintro a b hlt rfl
  exact String.lt_irrefl a hlt

theorem Sorted.erase {m : NameMap α} (h : m.Sorted) (name : String) : (m.erase name).Sorted :=
  List.Pairwise.sublist (List.Sublist.map _ List.filter_sublist) h

theorem Sorted.insert (name : String) (value : α) :
    ∀ {m : NameMap α}, m.Sorted → (m.insert name value).Sorted := by
  intro m
  induction m with
  | nil => intro _; exact List.pairwise_singleton _ _
  | cons head rest ih =>
      obtain ⟨k, v⟩ := head
      intro h
      obtain ⟨hk, hrest⟩ := List.pairwise_cons.1 h
      unfold NameMap.insert
      split
      · -- the new name comes before the first, and so before all
        rename_i hlt
        refine List.pairwise_cons.2 ⟨fun name' hname' => ?_, h⟩
        rcases List.mem_cons.1 hname' with heq | hmem
        · exact heq ▸ hlt
        · exact String.lt_trans hlt (hk name' hmem)
      · split
        · rename_i heq
          exact List.pairwise_cons.2 ⟨fun name' hname' => heq ▸ hk name' hname', hrest⟩
        · rename_i hlt hne
          refine List.pairwise_cons.2 ⟨fun name' hname' => ?_, ih hrest⟩
          rcases mem_names_insert.1 hname' with heq | hmem
          · exact heq ▸ Std.lt_of_le_of_ne (String.not_lt.1 hlt) (Ne.symm hne)
          · exact hk name' hmem

theorem Sorted.find?_eq_some_iff :
    ∀ {m : NameMap α}, m.Sorted → (m.find? name = some value ↔ (name, value) ∈ m) := by
  intro m
  induction m with
  | nil => simp [find?]
  | cons head rest ih =>
      obtain ⟨k, v⟩ := head
      intro hsorted
      obtain ⟨hk, hrest⟩ := List.pairwise_cons.1 hsorted
      unfold find? at ih ⊢
      rw [lookup_cons_ite, List.mem_cons, Prod.mk.injEq]
      by_cases hname : name = k
      · -- the names behind the first are greater
        have hnot : (name, value) ∉ rest := fun hmem =>
          String.lt_irrefl k (hname ▸ hk _ (List.mem_map_of_mem (f := Prod.fst) hmem))
        rw [if_pos hname, Option.some.injEq, or_iff_left hnot, eq_comm]
        simp [hname]
      · rw [if_neg hname, ih hrest]
        simp [hname]

/-- Maps are told apart by their look-ups. -/
theorem Sorted.ext {m m' : NameMap α} (h : m.Sorted) (h' : m'.Sorted)
    (heq : ∀ name, m.find? name = m'.find? name) : m = m' := by
  have hnodup : ∀ {l : NameMap α}, l.Sorted → l.Nodup := fun hl =>
    List.Pairwise.of_map Prod.fst (fun _ _ hne heq => hne (congrArg _ heq)) hl.nodup
  have hperm : m.Perm m' := (List.perm_ext_iff_of_nodup (hnodup h) (hnodup h')).2 fun entry => by
    rw [← h.find?_eq_some_iff, ← h'.find?_eq_some_iff, heq]
  have hpairs : ∀ {l : NameMap α}, l.Sorted → l.Pairwise fun a b => a.1 < b.1 :=
    fun hl => List.pairwise_map.1 hl
  refine List.Perm.eq_of_pairwise (fun a b _ _ hab hba => ?_) (hpairs h) (hpairs h') hperm
  exact absurd (String.lt_trans hab hba) (String.lt_irrefl a.1)

/-! ## §3. Maps of pairs. -/

theorem sorted_foldl_insert : ∀ {pairs : List (String × α)} {m : NameMap α}, m.Sorted →
    (pairs.foldl (fun m p => insert m p.1 p.2) m).Sorted := by
  intro pairs
  induction pairs with
  | nil => exact fun h => h
  | cons p pairs ih => exact fun h => ih (h.insert p.1 p.2)

theorem sorted_ofPairs (pairs : List (String × α)) : (ofPairs pairs).Sorted :=
  sorted_foldl_insert sorted_nil

theorem find?_foldl_insert : ∀ (pairs : List (String × α)) (m : NameMap α),
    (pairs.foldl (fun m p => insert m p.1 p.2) m).find? name
      = (pairs.reverse.lookup name).or (m.find? name) := by
  intro pairs
  induction pairs with
  | nil => exact fun m => rfl
  | cons p pairs ih =>
      intro m
      rw [List.foldl_cons, ih, find?_insert, List.reverse_cons, List.lookup_append, Option.or_assoc,
        lookup_cons_ite]
      split
      · rfl
      · rfl

/-- Of two pairs with one name the later one counts. -/
theorem find?_ofPairs (pairs : List (String × α)) (name : String) :
    (ofPairs pairs).find? name = pairs.reverse.lookup name := by
  rw [ofPairs, find?_foldl_insert]
  exact Option.or_none

end NameMap

end CodeSurvey
