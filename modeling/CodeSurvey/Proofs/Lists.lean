/-
  Lists.

  What the proofs need of lists beyond the library, none of it about any data of the program:

    * the first member that passes a test (`forall_or_exists_first`, `exists_first_filter_iff`) or
      fails it (`cut_iff`), and lists in which one member at most counts (`split_of_countP_le_one`,
      `flatMap_of_single`);
    * members counted by tests that exclude each other (`countP_or`, `length_flatMap_filter`);
    * lists gone through in `Except`: all goes well (`mapM_eq_ok_iff`), or the first member at fault
      decides (`mapM_eq_error_iff`);
    * the last different members of a list (`mem_rtake_dedup_iff`).
-/
import Mathlib.Data.List.Dedup
import Mathlib.Data.List.DropRight
import Mathlib.Data.List.Forall2
import Mathlib.Data.List.Nodup
import Mathlib.Data.List.TakeWhile

namespace CodeSurvey

variable {α β : Type}

/-! ## §1. First members. -/

/-- No member passes a test, or the list is cut in two at the first that does. -/
theorem forall_or_exists_first (p : α → Bool) : ∀ l : List α, (∀ x ∈ l, p x = false) ∨
    ∃ before x after, l = before ++ x :: after ∧ p x = true ∧ ∀ y ∈ before, p y = false := by
  intro l
  induction l with
  | nil => exact .inl (by simp)
  | cons x l ih =>
      by_cases hx : p x = true
      · exact .inr ⟨[], x, l, rfl, hx, by simp⟩
      · rw [Bool.not_eq_true] at hx
        rcases ih with hnone | ⟨before, y, after, hl, hy, hbefore⟩
        · exact .inl (by simpa [hx] using hnone)
        · exact .inr ⟨x :: before, y, after, by rw [hl]; rfl, hy, by simpa [hx] using hbefore⟩

/-- The first of the members that pass a test, among all members. -/
theorem exists_first_filter_iff {p : α → Bool} {P Q : α → Prop} {l : List α} :
    (∃ before x after, l.filter p = before ++ x :: after ∧ P x ∧ ∀ y ∈ before, Q y) ↔
      ∃ before x after, l = before ++ x :: after ∧ p x = true ∧ P x ∧
        ∀ y ∈ before, p y = true → Q y := by
  constructor
  · rintro ⟨_, x, _, hfilter, hx, hbefore⟩
    obtain ⟨before, rest, rfl, rfl, hrest⟩ := List.filter_eq_append_iff.1 hfilter
    obtain ⟨between, after, rfl, hno, hpx, -⟩ := List.filter_eq_cons_iff.1 hrest
    refine ⟨before ++ between, x, after, by rw [List.append_assoc], hpx, hx, fun y hy hpy => ?_⟩
    rcases List.mem_append.1 hy with hy | hy
    · exact hbefore y (List.mem_filter.2 ⟨hy, hpy⟩)
    · exact absurd hpy (hno y hy)
  · rintro ⟨before, x, after, rfl, hpx, hx, hbefore⟩
    refine ⟨before.filter p, x, after.filter p, ?_, hx, fun y hy => ?_⟩
    · rw [List.filter_append, List.filter_cons_of_pos hpx]
    · exact hbefore y (List.mem_of_mem_filter hy) (List.mem_filter.1 hy).2

/-- What stands up to the last member of a part that occurs. -/
theorem append_dropLast_isPrefix (before part after : List α) :
    before ++ part.dropLast <+: before ++ part ++ after := by
  rw [List.append_assoc]
  refine (List.prefix_append_right_inj before).2 (.trans ?_ (List.prefix_append part after))
  exact List.dropLast_prefix part

/-- A list is cut where it first fails a test. -/
theorem cut_iff {keep : α → Bool} {cs before after : List α} :
    (cs.takeWhile keep = before ∧ cs.dropWhile keep = after) ↔
      cs = before ++ after ∧ (∀ c ∈ before, keep c = true) ∧ ∀ c ∈ after.head?, keep c = false := by
  constructor
  · rintro ⟨rfl, rfl⟩
    refine ⟨List.takeWhile_append_dropWhile.symm, fun c hc => List.mem_takeWhile_imp hc,
      fun c hc => ?_⟩
    have hhead := List.head?_dropWhile_not keep cs
    rw [Option.mem_def.1 hc] at hhead
    simpa using hhead
  · rintro ⟨rfl, hbefore, hafter⟩
    rw [List.takeWhile_append_of_pos hbefore, List.dropWhile_append_of_pos hbefore]
    cases after with
    | nil => exact ⟨List.append_nil before, rfl⟩
    | cons c after =>
        have hc : ¬ keep c = true := by rw [hafter c rfl]; exact Bool.false_ne_true
        rw [List.takeWhile_cons_of_neg hc, List.dropWhile_cons_of_neg hc]
        exact ⟨List.append_nil before, rfl⟩

/-! ## §2. One member at most. -/

/-- Of a list in which one member at most passes a test, none does or the list is split there. -/
theorem split_of_countP_le_one {p : α → Bool} {l : List α} (h : l.countP p ≤ 1) :
    (∀ x ∈ l, p x = false) ∨ ∃ before x after, l = before ++ x :: after ∧ p x = true ∧
      (∀ y ∈ before, p y = false) ∧ ∀ y ∈ after, p y = false := by
  rcases forall_or_exists_first p l with hnone | ⟨before, x, after, rfl, hx, hbefore⟩
  · exact .inl hnone
  · refine .inr ⟨before, x, after, rfl, hx, hbefore, fun y hy => ?_⟩
    rw [List.countP_append, List.countP_cons_of_pos hx] at h
    have hafter : after.countP p = 0 := by omega
    exact Bool.eq_false_iff.2 (List.countP_eq_zero.1 hafter y hy)

theorem filter_of_countP_le_one {p : α → Bool} {l : List α} (h : l.countP p ≤ 1) :
    l.filter p = [] ∨ ∃ x, l.filter p = [x] := by
  rw [List.countP_eq_length_filter] at h
  match l.filter p, h with
  | [], _ => exact .inl rfl
  | [x], _ => exact .inr ⟨x, rfl⟩

theorem eq_of_countP_le_one {p : α → Bool} {l : List α} (h : l.countP p ≤ 1) {a b : α}
    (ha : a ∈ l) (hb : b ∈ l) (hpa : p a = true) (hpb : p b = true) : a = b := by
  have ha' := List.mem_filter.2 ⟨ha, hpa⟩
  have hb' := List.mem_filter.2 ⟨hb, hpb⟩
  rcases filter_of_countP_le_one h with hnone | ⟨x, hx⟩
  · rw [hnone] at ha'
    cases ha'
  · rw [hx] at ha' hb'
    exact (List.mem_singleton.1 ha').trans (List.mem_singleton.1 hb').symm

/-- Something comes of one member of a list only. -/
theorem flatMap_of_single {f : α → List β} {a : α} {l : List α} (hnodup : l.Nodup) (ha : a ∈ l)
    (hnone : ∀ x ∈ l, x ≠ a → f x = []) : l.flatMap f = f a := by
  obtain ⟨before, after, rfl⟩ := List.append_of_mem ha
  have hne : ∀ x ∈ before ++ after, x ≠ a := by
    rintro x hx rfl
    exact (List.nodup_middle.1 hnodup).notMem hx
  have hbefore : before.flatMap f = [] := List.flatMap_eq_nil_iff.2 fun x hx =>
    hnone x (by simp [hx]) (hne x (by simp [hx]))
  have hafter : after.flatMap f = [] := List.flatMap_eq_nil_iff.2 fun x hx =>
    hnone x (by simp [hx]) (hne x (by simp [hx]))
  rw [List.flatMap_append, List.flatMap_cons, hbefore, hafter, List.nil_append, List.append_nil]

theorem filterMap_of_single {g : α → Option β} {a : α} {l : List α} (hnodup : l.Nodup)
    (ha : a ∈ l) (hnone : ∀ x ∈ l, x ≠ a → g x = none) : l.filterMap g = (g a).toList := by
  rw [List.filterMap_eq_flatMap_toList]
  refine flatMap_of_single hnodup ha fun x hx hne => ?_
  rw [hnone x hx hne]
  rfl

/-! ## §3. Members that pass a test. -/

theorem flatMap_filter_ite (keep : α → Bool) (f : α → List β) (l : List α) :
    (l.filter keep).flatMap f = l.flatMap fun a => if keep a then f a else [] := by
  induction l with
  | nil => rfl
  | cons a l ih =>
      rw [List.filter_cons, List.flatMap_cons, ← ih]
      split
      · rw [List.flatMap_cons]
      · rfl

theorem countP_or {p q : α → Bool} {l : List α} (h : ∀ x ∈ l, ¬(p x = true ∧ q x = true)) :
    (l.countP fun x => p x || q x) = l.countP p + l.countP q := by
  induction l with
  | nil => rfl
  | cons x l ih =>
      have hhere := h x List.mem_cons_self
      rw [List.countP_cons, List.countP_cons, List.countP_cons,
        ih fun y hy => h y (List.mem_cons_of_mem x hy)]
      cases hp : p x with
      | false =>
          rw [Bool.false_or]
          simp
          omega
      | true =>
          have hq : q x = false := Bool.eq_false_iff.2 fun hq => hhere ⟨hp, hq⟩
          simp [hq]
          omega

/-- What exclude each other are counted one by one. -/
theorem length_flatMap_filter (holds : β → α → Bool) (l : List α) {bs : List β}
    (h : ∀ x ∈ l, bs.Pairwise fun a b => ¬(holds a x = true ∧ holds b x = true)) :
    (bs.flatMap fun b => l.filter (holds b)).length = l.countP fun x => bs.any (holds · x) := by
  induction bs with
  | nil => simp
  | cons b bs ih =>
      have hrest := ih fun x hx => (List.pairwise_cons.1 (h x hx)).2
      simp only [List.any_cons]
      rw [List.flatMap_cons, List.length_append, hrest, ← List.countP_eq_length_filter, countP_or]
      rintro x hx ⟨hb, hany⟩
      obtain ⟨b', hb', hholds⟩ := List.any_eq_true.1 hany
      exact (List.pairwise_cons.1 (h x hx)).1 b' hb' ⟨hb, hholds⟩

theorem lookup_cons_ite [BEq α] [LawfulBEq α] [DecidableEq α] (a k : α) (v : β)
    (l : List (α × β)) :
    List.lookup a ((k, v) :: l) = if a = k then some v else l.lookup a := by
  rw [List.lookup_cons]
  by_cases h : a = k
  · simp [h]
  · rw [if_neg h, beq_false_of_ne h]

/-! ## §4. Lists member by member. -/

theorem exists_of_forall₂ {R : α → β → Prop} {as : List α} {bs : List β}
    (h : List.Forall₂ R as bs) : ∀ b ∈ bs, ∃ a ∈ as, R a b := by
  induction h with
  | nil => exact fun _ hb => absurd hb List.not_mem_nil
  | cons hab _ ih =>
      intro b hb
      rcases List.mem_cons.1 hb with rfl | hb
      · exact ⟨_, List.mem_cons_self, hab⟩
      · obtain ⟨a, ha, hr⟩ := ih b hb
        exact ⟨a, List.mem_cons_of_mem _ ha, hr⟩

section Except

variable {ε : Type} {f : α → Except ε β}

/-- All goes well exactly if each member does. -/
theorem mapM_eq_ok_iff {as : List α} {bs : List β} :
    as.mapM f = .ok bs ↔ List.Forall₂ (fun a b => f a = .ok b) as bs := by
  induction as generalizing bs with
  | nil =>
      rw [List.forall₂_nil_left_iff, List.mapM_nil]
      exact ⟨fun h => (Except.ok.inj h).symm, fun h => h ▸ rfl⟩
  | cons a as ih =>
      rw [List.mapM_cons, List.forall₂_cons_left_iff]
      cases f a with
      | error e =>
          refine iff_of_false (fun h => nomatch h) ?_
          rintro ⟨b, bs', h, -, -⟩
          cases h
      | ok b =>
          show (as.mapM f >>= fun bs' => pure (b :: bs')) = .ok bs ↔ _
          constructor
          · intro h
            cases hrest : as.mapM f with
            | error e =>
                rw [hrest] at h
                cases h
            | ok bs' =>
                rw [hrest] at h
                cases h
                exact ⟨b, bs', rfl, ih.1 hrest, rfl⟩
          · rintro ⟨_, bs', ⟨⟩, hrest, rfl⟩
            rw [ih.2 hrest]
            rfl

/-- Otherwise the first member at fault decides. -/
theorem mapM_eq_error_iff {e : ε} {as : List α} :
    as.mapM f = .error e ↔ ∃ before a after, as = before ++ a :: after ∧ f a = .error e ∧
      ∀ x ∈ before, ∃ b, f x = .ok b := by
  induction as with
  | nil =>
      rw [List.mapM_nil]
      refine iff_of_false (fun h => nomatch h) ?_
      rintro ⟨before, a, after, heq, -⟩
      simp at heq
  | cons a as ih =>
      rw [List.mapM_cons]
      cases ha : f a with
      | error e' =>
          constructor
          · intro h
            cases h
            exact ⟨[], a, as, rfl, ha, by simp⟩
          · rintro ⟨before, x, after, heq, hx, hbefore⟩
            cases before with
            | nil =>
                obtain ⟨rfl, rfl⟩ := List.cons.inj heq
                rw [ha] at hx
                rw [Except.error.inj hx]
                rfl
            | cons first before =>
                -- the first member does not go well
                obtain ⟨rfl, rfl⟩ := List.cons.inj heq
                obtain ⟨b, hb⟩ := hbefore a List.mem_cons_self
                rw [ha] at hb
                cases hb
      | ok b =>
          have hrest : (Except.ok b >>= fun b => as.mapM f >>= fun bs => pure (b :: bs)) = .error e ↔
              as.mapM f = .error e := by
            cases as.mapM f with
            | error e' => rfl
            | ok bs => exact iff_of_false (fun h => nomatch h) (fun h => nomatch h)
          rw [hrest, ih]
          constructor
          · rintro ⟨before, x, after, rfl, hx, hbefore⟩
            exact ⟨a :: before, x, after, rfl, hx, List.forall_mem_cons.2 ⟨⟨b, ha⟩, hbefore⟩⟩
          · rintro ⟨before, x, after, heq, hx, hbefore⟩
            cases before with
            | nil =>
                obtain ⟨rfl, rfl⟩ := List.cons.inj heq
                rw [ha] at hx
                cases hx
            | cons first before =>
                obtain ⟨rfl, rfl⟩ := List.cons.inj heq
                exact ⟨before, x, after, rfl, hx, (List.forall_mem_cons.1 hbefore).2⟩

end Except

/-! ## §5. The ends of lists. -/

theorem rtake_append_of_le {n : Nat} {l l' : List α} (h : n ≤ l'.length) :
    (l ++ l').rtake n = l'.rtake n := by
  unfold List.rtake
  rw [List.length_append, Nat.add_sub_assoc h, List.drop_length_add_append]

theorem rtake_suffix (n : Nat) (l : List α) : l.rtake n <:+ l := List.drop_suffix _ l

theorem length_rtake (n : Nat) (l : List α) : (l.rtake n).length = min n l.length := by
  unfold List.rtake
  rw [List.length_drop]
  omega

variable [DecidableEq α]

/-- Of a list without duplicates, one element more than needed is enough when one is left out. -/
theorem rtake_filter_rtake {l : List α} (hl : l.Nodup) (n : Nat) (x : α) :
    ((l.rtake (n + 1)).filter (· != x)).rtake n = (l.filter (· != x)).rtake n := by
  by_cases hshort : l.length ≤ n + 1
  · have hall : l.rtake (n + 1) = l := by
      unfold List.rtake
      rw [Nat.sub_eq_zero_of_le hshort, List.drop_zero]
    rw [hall]
  · obtain ⟨before, hbefore⟩ := rtake_suffix (n + 1) l
    have hnodup : (l.rtake (n + 1)).Nodup := hl.sublist (rtake_suffix (n + 1) l).sublist
    -- at most one of the `n + 1` elements is `x`
    have hmany : n ≤ ((l.rtake (n + 1)).filter (· != x)).length := by
      rw [← hnodup.erase_eq_filter, List.length_erase, length_rtake]
      split <;> omega
    conv_rhs => rw [← hbefore, List.filter_append]
    rw [rtake_append_of_le hmany]

/-- With one more element at its end, a list loses the earlier occurrence of that element. -/
theorem dedup_concat (x : α) : ∀ l : List α, (l ++ [x]).dedup = l.dedup.filter (· != x) ++ [x] := by
  intro l
  induction l with
  | nil => simp
  | cons a l ih =>
      by_cases hmem : a ∈ l
      · rw [List.cons_append, List.dedup_cons_of_mem (List.mem_append_left _ hmem),
          List.dedup_cons_of_mem hmem, ih]
      · rw [List.dedup_cons_of_notMem hmem]
        by_cases hx : a = x
        · rw [List.cons_append, List.dedup_cons_of_mem (by simp [hx]), ih,
            List.filter_cons_of_neg (by simp [hx])]
        · rw [List.cons_append, List.dedup_cons_of_notMem (by simp [hmem, hx]), ih,
            List.filter_cons_of_pos (by simp [hx]), List.cons_append]

/-- Behind the last occurrence of an element stand the different elements that follow it. -/
theorem dedup_append_cons {x : α} {after : List α} (hx : x ∉ after) :
    ∀ before : List α, ∃ others, (before ++ x :: after).dedup = others ++ x :: after.dedup := by
  intro before
  induction before with
  | nil => exact ⟨[], List.dedup_cons_of_notMem hx⟩
  | cons a before ih =>
      obtain ⟨others, hothers⟩ := ih
      rw [List.cons_append]
      by_cases hmem : a ∈ before ++ x :: after
      · exact ⟨others, by rw [List.dedup_cons_of_mem hmem, hothers]⟩
      · exact ⟨a :: others, by rw [List.dedup_cons_of_notMem hmem, hothers, List.cons_append]⟩

/-- An element is among the last `n` different ones if fewer than `n` different ones follow it. -/
theorem mem_rtake_dedup_iff {x : α} {before after : List α} (hx : x ∉ after) (n : Nat) :
    x ∈ (before ++ x :: after).dedup.rtake n ↔ after.dedup.length < n := by
  obtain ⟨others, hothers⟩ := dedup_append_cons hx before
  have hnodup := List.nodup_dedup (before ++ x :: after)
  rw [hothers] at hnodup ⊢
  constructor
  · intro hmem
    by_contra hlong
    -- the last `n` all come from what follows
    have hend : (others ++ x :: after.dedup).rtake n = after.dedup.rtake n := by
      rw [← List.singleton_append, ← List.append_assoc]
      exact rtake_append_of_le (by omega)
    rw [hend] at hmem
    exact hx (List.mem_dedup.1 ((rtake_suffix n _).subset hmem))
  · intro hshort
    have hend : x :: after.dedup <:+ (others ++ x :: after.dedup).rtake n := by
      refine List.suffix_of_suffix_length_le ⟨others, rfl⟩ (rtake_suffix n _) ?_
      rw [length_rtake, List.length_append, List.length_cons]
      omega
    exact hend.subset List.mem_cons_self

end CodeSurvey
