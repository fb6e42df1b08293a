/-
  What a store keeps, told from its history.

  A store has a map and a queue of keys.  They hold the same keys, each once (`Paired`), and giving
  up entries takes them from both (`evict_eq`).  Against the history of what was set since the last
  clearing, the queue is the different keys in the order of their latest setting, cut to the
  capacity from its old end (`Reflects`).  So a key is kept as long as fewer than `capacity` other
  keys have been set since, and `remembered` says this of the history alone.

  Main result, `run_refines`: after every run of look-ups, settings and clearings, the store has for
  every key what `remembered` gives, and its counts are those of the answers since the last
  clearing.
-/
import CodeSurvey.Proofs.NameMap
import CodeSurvey.Store

namespace CodeSurvey.Store

variable {α : Type}

/-! ## §1. The map and the queue. -/

/-- The queue holds the keys of the map, each of them once. -/
structure Paired (entries : NameMap α) (order : List String) : Prop where
  sorted : entries.Sorted
  nodup : order.Nodup
  same : ∀ key, key ∈ order ↔ key ∈ entries.names

section Paired

variable {entries : NameMap α} {order : List String} {key oldest : String} {value : α}

theorem paired_nil : Paired ([] : NameMap α) [] :=
  ⟨NameMap.sorted_nil, List.nodup_nil, fun _ => Iff.rfl⟩

theorem Paired.length_eq (h : Paired entries order) : entries.length = order.length := by
  have hperm : order.Perm entries.names :=
    (List.perm_ext_iff_of_nodup h.nodup h.sorted.nodup).2 h.same
  rw [hperm.length_eq, NameMap.names, List.length_map]

theorem Paired.find?_eq_none (h : Paired entries order) (hkey : key ∉ order) :
    entries.find? key = none := by
  rw [h.same, NameMap.mem_names_iff] at hkey
  simpa using hkey

theorem Paired.pop (h : Paired entries (oldest :: order)) :
    Paired (entries.erase oldest) order where
  sorted := h.sorted.erase oldest
  nodup := (List.nodup_cons.1 h.nodup).2
  same := by
    intro key
    rw [NameMap.mem_names_erase, ← h.same, List.mem_cons]
    constructor
    · intro hmem
      refine ⟨?_, .inr hmem⟩
      rintro rfl
      exact (List.nodup_cons.1 h.nodup).1 hmem
    · rintro ⟨hne, hmem⟩
      exact hmem.resolve_left hne

/-- A key that is set moves to the end of the queue. -/
theorem Paired.push (h : Paired entries order) (key : String) (value : α) :
    Paired (entries.insert key value) (order.filter (· != key) ++ [key]) where
  sorted := h.sorted.insert key value
  nodup := by
    rw [List.nodup_append]
    refine ⟨h.nodup.filter _, List.nodup_singleton key, ?_⟩
    intro a ha b hb
    rw [List.mem_singleton.1 hb]
    simpa using (List.mem_filter.1 ha).2
  same := by
    intro k
    rw [NameMap.mem_names_insert, List.mem_append, List.mem_filter, List.mem_singleton, h.same]
    by_cases hk : k = key
    · simp [hk]
    · simp [hk]

/-- **Giving up entries** leaves the last `capacity` keys of the queue with their values. -/
theorem evict_eq (capacity : Nat) :
    ∀ {order : List String} {entries : NameMap α}, Paired entries order →
      (evict capacity entries order).2 = order.rtake capacity ∧
        Paired (evict capacity entries order).1 (order.rtake capacity) ∧
        ∀ key ∈ order.rtake capacity,
          (evict capacity entries order).1.find? key = entries.find? key := by
  intro order
  induction order with
  | nil =>
      intro entries h
      rw [evict, List.rtake_nil]
      exact ⟨rfl, h, fun _ _ => rfl⟩
  | cons oldest order ih =>
      intro entries h
      have hlength := h.length_eq
      unfold evict
      split
      · rename_i hfull
        have hpop : (oldest :: order).rtake capacity = order.rtake capacity := by
          rw [← List.singleton_append]
          exact rtake_append_of_le (by rw [hlength, List.length_cons] at hfull; omega)
        obtain ⟨horder, hpaired, hvalues⟩ := ih h.pop
        rw [hpop]
        refine ⟨horder, hpaired, fun key hkey => ?_⟩
        -- the oldest key is not in the rest of the queue
        have hne : key ≠ oldest := by
          rintro rfl
          exact (List.nodup_cons.1 h.nodup).1 ((rtake_suffix _ _).subset hkey)
        rw [hvalues key hkey, NameMap.find?_erase, if_neg hne]
      · rename_i hroom
        have hall : (oldest :: order).rtake capacity = oldest :: order := by
          unfold List.rtake
          rw [Nat.sub_eq_zero_of_le (by omega), List.drop_zero]
        rw [hall]
        exact ⟨rfl, h, fun _ _ => rfl⟩

end Paired

/-- Setting a key in a store that is switched on. -/
theorem set_eq {s : Store α} (hon : s.enabled = true) (h : Paired s.entries s.order) (key : String)
    (value : α) :
    s.set key value =
      { s with
        entries := (evict s.capacity (s.entries.insert key value)
          (s.order.filter (· != key) ++ [key])).1
        order := (evict s.capacity (s.entries.insert key value)
          (s.order.filter (· != key) ++ [key])).2 } := by
  -- a key that is not in the map is not in the queue either, and then the filter keeps all
  have horder : (if (s.entries.find? key).isSome then s.order.filter (· != key) else s.order)
      = s.order.filter (· != key) := by
    split
    · rfl
    · rename_i hnew
      rw [← NameMap.mem_names_iff, ← h.same] at hnew
      refine (List.filter_eq_self.2 fun k hk => ?_).symm
      simp only [bne_iff_ne]
      rintro rfl
      exact hnew hk
  simp only [set, hon, if_true, horder]

/-! ## §2. Histories. -/

/-- What a store of some capacity has for a key after some settings, the latest first: the value
set last, as long as fewer than `capacity` different keys have been set since. -/
def remembered (capacity : Nat) (sets : List (String × α)) (key : String) : Option α :=
  if ((sets.takeWhile (·.1 != key)).map Prod.fst).dedup.length < capacity then sets.lookup key
  else none

/-- The store is what settings, the latest first, have made of an empty one. -/
structure Reflects (s : Store α) (sets : List (String × α)) : Prop where
  paired : Paired s.entries s.order
  order : s.order = (sets.map Prod.fst).reverse.dedup.rtake s.capacity
  values : ∀ key ∈ s.order, s.entries.find? key = sets.lookup key

section Reflects

variable {s : Store α} {sets : List (String × α)}

theorem reflects_nil (hentries : s.entries = []) (horder : s.order = []) : Reflects s [] where
  paired := by
    rw [hentries, horder]
    exact paired_nil
  order := by simp [horder]
  values := by simp [horder]

/-- **One setting** is one more in the history. -/
theorem Reflects.set (h : Reflects s sets) (hon : s.enabled = true) (hpos : 0 < s.capacity)
    (key : String) (value : α) : Reflects (s.set key value) ((key, value) :: sets) := by
  obtain ⟨hqueue, hpaired, hvalues⟩ := evict_eq s.capacity (h.paired.push key value)
  rw [set_eq hon h.paired]
  refine ⟨hqueue ▸ hpaired, ?_, ?_⟩
  · -- cutting before the key moves and after it has moved come to the same
    obtain ⟨n, hn⟩ : ∃ n, s.capacity = n + 1 := ⟨s.capacity - 1, by omega⟩
    show (evict s.capacity _ _).2 = ((key :: sets.map Prod.fst).reverse.dedup).rtake s.capacity
    rw [hqueue, List.reverse_cons, dedup_concat, h.order, hn, List.rtake_concat_succ,
      List.rtake_concat_succ, rtake_filter_rtake (List.nodup_dedup _)]
  · intro k hk
    show (evict s.capacity _ _).1.find? k = List.lookup k ((key, value) :: sets)
    rw [hqueue] at hk
    rw [hvalues k hk, NameMap.find?_insert, lookup_cons_ite]
    split
    · rfl
    · rename_i hne
      -- another key was in the queue before
      have hmem := (rtake_suffix _ _).subset hk
      rw [List.mem_append, List.mem_singleton, List.mem_filter] at hmem
      exact h.values k (hmem.resolve_right hne).1

/-- The history behind the latest setting of a key. -/
theorem takeWhile_split {key : String} (hkey : key ∈ sets.map Prod.fst) :
    ∃ before, (sets.map Prod.fst).reverse =
      before ++ key :: ((sets.takeWhile (·.1 != key)).map Prod.fst).reverse := by
  induction sets with
  | nil => cases hkey
  | cons entry sets ih =>
      by_cases hentry : entry.1 = key
      · refine ⟨(sets.map Prod.fst).reverse, ?_⟩
        rw [List.takeWhile_cons_of_neg (by simp [hentry])]
        simp [hentry]
      · have hrest : key ∈ sets.map Prod.fst := by
          rw [List.map_cons, List.mem_cons] at hkey
          exact hkey.resolve_left (Ne.symm hentry)
        obtain ⟨before, hbefore⟩ := ih hrest
        refine ⟨before, ?_⟩
        rw [List.takeWhile_cons_of_pos (by simp [hentry])]
        simp [hbefore]

theorem Reflects.mem_order_iff (h : Reflects s sets) (key : String) :
    key ∈ s.order ↔ key ∈ sets.map Prod.fst ∧
      ((sets.takeWhile (·.1 != key)).map Prod.fst).dedup.length < s.capacity := by
  have hlength : ((sets.takeWhile (·.1 != key)).map Prod.fst).reverse.dedup.length
      = ((sets.takeWhile (·.1 != key)).map Prod.fst).dedup.length :=
    (List.reverse_perm _).dedup.length_eq
  have hlater : key ∉ ((sets.takeWhile (·.1 != key)).map Prod.fst).reverse := by
    rw [List.mem_reverse, List.mem_map]
    rintro ⟨entry, hentry, heq⟩
    have hne := List.mem_takeWhile_imp hentry
    simp [heq] at hne
  rw [h.order, ← hlength]
  constructor
  · intro hmem
    have hkey : key ∈ sets.map Prod.fst :=
      List.mem_reverse.1 (List.mem_dedup.1 ((rtake_suffix _ _).subset hmem))
    obtain ⟨before, hbefore⟩ := takeWhile_split hkey
    rw [hbefore] at hmem
    exact ⟨hkey, (mem_rtake_dedup_iff hlater s.capacity).1 hmem⟩
  · rintro ⟨hkey, hshort⟩
    obtain ⟨before, hbefore⟩ := takeWhile_split hkey
    rw [hbefore]
    exact (mem_rtake_dedup_iff hlater s.capacity).2 hshort

/-- **Kept is what the history recalls.** -/
theorem Reflects.find?_entries (h : Reflects s sets) (key : String) :
    s.entries.find? key = remembered s.capacity sets key := by
  unfold remembered
  by_cases hkept : key ∈ s.order
  · rw [h.values key hkept, if_pos ((h.mem_order_iff key).1 hkept).2]
  · rw [h.paired.find?_eq_none hkept]
    split
    · rename_i hshort
      have hnever : key ∉ sets.map Prod.fst := fun hkey =>
        hkept ((h.mem_order_iff key).2 ⟨hkey, hshort⟩)
      -- a key that was never set has no value
      have hnone : ¬ (NameMap.find? sets key).isSome = true := fun hsome =>
        hnever (NameMap.mem_names_iff.2 hsome)
      rw [Bool.not_eq_true, Option.isSome_eq_false_iff, Option.isNone_iff_eq_none] at hnone
      exact hnone.symm
    · rfl

theorem Reflects.size_eq (h : Reflects s sets) :
    s.size = min s.capacity (sets.map Prod.fst).dedup.length := by
  rw [size, h.paired.length_eq, h.order, length_rtake, (List.reverse_perm _).dedup.length_eq]

end Reflects

/-! ## §3. Runs. -/

/-- What can be done with a store. -/
inductive Act (α : Type) where
  | get (key : String)
  | set (key : String) (value : α)
  | clear

/-- An act together with what was found; only look-ups find anything. -/
abbrev Event (α : Type) := Act α × Option α

/-- Performs an act. -/
def perform (s : Store α) : Act α → Option α × Store α
  | .get key => s.get key
  | .set key value => (none, s.set key value)
  | .clear => (none, s.clear)

/-- The store after a run. -/
def after (s : Store α) : List (Act α) → Store α
  | [] => s
  | act :: acts => after (s.perform act).2 acts

/-- The events of a run. -/
def events (s : Store α) : List (Act α) → List (Event α)
  | [] => []
  | act :: acts => (act, (s.perform act).1) :: events (s.perform act).2 acts

namespace Event

/-- Is the store cleared? -/
def isClear : Event α → Bool
  | (.clear, _) => true
  | _ => false

/-- Is something looked up and found? -/
def isHit : Event α → Bool
  | (.get _, some _) => true
  | _ => false

/-- Is something looked up and not found? -/
def isMiss : Event α → Bool
  | (.get _, none) => true
  | _ => false

/-- The key and the value that are set. -/
def set? : Event α → Option (String × α)
  | (.set key value, _) => some (key, value)
  | _ => none

end Event

/-- What happened since the store was cleared last, the latest first. -/
def sinceClear (events : List (Event α)) : List (Event α) :=
  events.reverse.takeWhile fun e => !e.isClear

/-- The settings since the store was cleared last, the latest first. -/
def setsSinceClear (events : List (Event α)) : List (String × α) :=
  (sinceClear events).filterMap Event.set?

theorem sinceClear_concat (past : List (Event α)) (e : Event α) :
    sinceClear (past ++ [e]) = if e.isClear then [] else e :: sinceClear past := by
  unfold sinceClear
  rw [List.reverse_append, List.reverse_singleton, List.singleton_append, List.takeWhile_cons]
  cases e.isClear with
  | true => rfl
  | false => rfl

/-- A store with a history: what has happened so far accounts for what it keeps and counts. -/
structure Accounted (s : Store α) (past : List (Event α)) : Prop where
  positive : 0 < s.capacity
  on : s.enabled = true → Reflects s (setsSinceClear past)
  off : s.enabled = false → s.entries = [] ∧ s.order = []
  hits : s.hits = (sinceClear past).countP Event.isHit
  misses : s.misses = (sinceClear past).countP Event.isMiss

section Run

variable {s : Store α} {past : List (Event α)}

/-- A look-up counts, and changes nothing else. -/
theorem get_eq (s : Store α) (key : String) :
    s.get key = (s.find? key,
      { s with
        hits := s.hits + if (s.find? key).isSome then 1 else 0
        misses := s.misses + if (s.find? key).isSome then 0 else 1 }) := by
  unfold get
  cases s.find? key with
  | none => rfl
  | some value => rfl

/-- The setup of a store never changes. -/
theorem perform_setup (s : Store α) (act : Act α) :
    (s.perform act).2.capacity = s.capacity ∧ (s.perform act).2.enabled = s.enabled := by
  cases act with
  | get key =>
      rw [perform, get_eq]
      exact ⟨rfl, rfl⟩
  | set key value =>
      show (s.set key value).capacity = s.capacity ∧ (s.set key value).enabled = s.enabled
      unfold set
      split
      · exact ⟨rfl, rfl⟩
      · exact ⟨rfl, rfl⟩
  | clear => exact ⟨rfl, rfl⟩

theorem after_setup : ∀ (acts : List (Act α)) (s : Store α),
    (s.after acts).capacity = s.capacity ∧ (s.after acts).enabled = s.enabled := by
  intro acts
  induction acts with
  | nil => exact fun s => ⟨rfl, rfl⟩
  | cons act acts ih =>
      intro s
      obtain ⟨hcapacity, henabled⟩ := perform_setup s act
      obtain ⟨hcapacity', henabled'⟩ := ih (s.perform act).2
      exact ⟨hcapacity'.trans hcapacity, henabled'.trans henabled⟩

theorem set_counts (s : Store α) (key : String) (value : α) :
    (s.set key value).hits = s.hits ∧ (s.set key value).misses = s.misses := by
  unfold set
  split
  · exact ⟨rfl, rfl⟩
  · exact ⟨rfl, rfl⟩

theorem Accounted.get (h : Accounted s past) (key : String) :
    Accounted (s.get key).2 (past ++ [(.get key, s.find? key)]) := by
  have hpast : sinceClear (past ++ [(.get key, s.find? key)])
      = (.get key, s.find? key) :: sinceClear past := sinceClear_concat past _
  have hsets : setsSinceClear (past ++ [(.get key, s.find? key)]) = setsSinceClear past := by
    rw [setsSinceClear, hpast]
    rfl
  rw [get_eq]
  refine ⟨h.positive, fun hon => ?_, h.off, ?_, ?_⟩
  · rw [hsets]
    exact ⟨(h.on hon).paired, (h.on hon).order, (h.on hon).values⟩
  · rw [hpast, List.countP_cons, ← h.hits]
    cases s.find? key with
    | none => rfl
    | some value => rfl
  · rw [hpast, List.countP_cons, ← h.misses]
    cases s.find? key with
    | none => rfl
    | some value => rfl

theorem Accounted.set (h : Accounted s past) (key : String) (value : α) :
    Accounted (s.set key value) (past ++ [(.set key value, none)]) := by
  have hpast : sinceClear (past ++ [(.set key value, none)])
      = (.set key value, none) :: sinceClear past := sinceClear_concat past _
  have hsets : setsSinceClear (past ++ [(.set key value, none)])
      = (key, value) :: setsSinceClear past := by
    rw [setsSinceClear, hpast]
    rfl
  obtain ⟨hcapacity, henabled⟩ := perform_setup s (.set key value)
  obtain ⟨hhits, hmisses⟩ := set_counts s key value
  refine ⟨hcapacity ▸ h.positive, fun hon => ?_, fun hoff => ?_, ?_, ?_⟩
  · have hon' : s.enabled = true := henabled.symm.trans hon
    rw [hsets]
    exact (h.on hon').set hon' h.positive key value
  · have hoff' : s.enabled = false := henabled.symm.trans hoff
    unfold Store.set
    rw [if_neg (by simp [hoff'])]
    exact h.off hoff'
  · rw [hpast, hhits]
    exact h.hits
  · rw [hpast, hmisses]
    exact h.misses

theorem Accounted.clear (h : Accounted s past) : Accounted s.clear (past ++ [(.clear, none)]) := by
  have hpast : sinceClear (past ++ [(.clear, none)]) = [] := sinceClear_concat past _
  have hsets : setsSinceClear (past ++ [(.clear, none)]) = [] := by
    rw [setsSinceClear, hpast]
    rfl
  refine ⟨h.positive, fun _ => ?_, fun _ => ⟨rfl, rfl⟩, ?_, ?_⟩
  · rw [hsets]
    exact reflects_nil rfl rfl
  · rw [hpast]
    rfl
  · rw [hpast]
    rfl

/-- **One act** is accounted for by its event. -/
theorem Accounted.perform (h : Accounted s past) (act : Act α) :
    Accounted (s.perform act).2 (past ++ [(act, (s.perform act).1)]) := by
  cases act with
  | get key =>
      have hfound : (s.perform (.get key)).1 = s.find? key := by
        rw [Store.perform, get_eq]
      rw [hfound]
      exact h.get key
  | set key value => exact h.set key value
  | clear => exact h.clear

/-- **A run** is accounted for by its events. -/
theorem Accounted.after :
    ∀ {acts : List (Act α)} {s : Store α} {past : List (Event α)}, Accounted s past →
      Accounted (s.after acts) (past ++ s.events acts) := by
  intro acts
  induction acts with
  | nil =>
      intro s past h
      rw [events, List.append_nil]
      exact h
  | cons act acts ih =>
      intro s past h
      have hrest := ih (h.perform act)
      rw [List.append_assoc, List.singleton_append] at hrest
      exact hrest

theorem accounted_new (capacity : Nat) (enabled : Bool) :
    Accounted (ofCapacity capacity enabled : Store α) [] where
  positive := Nat.lt_of_lt_of_le Nat.zero_lt_one (Nat.le_max_right capacity 1)
  on := fun _ => reflects_nil rfl rfl
  off := fun _ => ⟨rfl, rfl⟩
  hits := rfl
  misses := rfl

end Run

/-- **A store and its history.**  After every run of a new store: a store that is switched on has
for each key what the settings since the last clearing recall, and one that is switched off has
nothing; a look-up gives what is kept and leaves it as it is; map and queue hold the same keys, the
queue each of them once, and as many as fit; and the counts are the look-ups since the last clearing
that found something and those that did not. -/
theorem run_refines (capacity : Nat) (enabled : Bool) (acts : List (Act α)) :
    let s := (ofCapacity capacity enabled : Store α).after acts
    let past := (ofCapacity capacity enabled : Store α).events acts
    (∀ key, s.entries.find? key =
        if enabled then remembered (max capacity 1) (setsSinceClear past) key else none) ∧
      (∀ key, (s.get key).1 = s.entries.find? key ∧ (s.get key).2.entries = s.entries ∧
        (s.get key).2.order = s.order) ∧
      s.order.Nodup ∧ (∀ key, key ∈ s.order ↔ key ∈ s.entries.names) ∧
      s.size = (if enabled then
        min (max capacity 1) ((setsSinceClear past).map Prod.fst).dedup.length else 0) ∧
      s.hits = (sinceClear past).countP Event.isHit ∧
      s.misses = (sinceClear past).countP Event.isMiss := by
  intro s past
  have h : Accounted s past := (accounted_new capacity enabled).after
  obtain ⟨hcapacity, henabled⟩ : s.capacity = max capacity 1 ∧ s.enabled = enabled :=
    after_setup acts (ofCapacity capacity enabled)
  cases enabled with
  | true =>
      have hkept := h.on henabled
      rw [← hcapacity]
      refine ⟨hkept.find?_entries, fun key => ?_, hkept.paired.nodup, hkept.paired.same,
        hkept.size_eq, h.hits, h.misses⟩
      rw [get_eq]
      exact ⟨by rw [find?, henabled, if_pos rfl], rfl, rfl⟩
  | false =>
      obtain ⟨hentries, horder⟩ := h.off henabled
      refine ⟨fun key => ?_, fun key => ?_, ?_, fun key => ?_, ?_, h.hits, h.misses⟩
      · rw [hentries]
        rfl
      · rw [get_eq, find?, henabled, hentries]
        exact ⟨rfl, rfl, rfl⟩
      · rw [horder]
        exact List.nodup_nil
      · rw [horder, hentries]
        exact Iff.rfl
      · rw [size, hentries]
        rfl

end CodeSurvey.Store
