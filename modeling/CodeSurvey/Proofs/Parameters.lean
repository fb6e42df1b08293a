/-
  The entries of a parameter list.

  A list is read character by character with a counter for the parentheses that are open; a comma
  separates where no other parenthesis is open, and the list ends where its own is closed.  What is
  read can be told from the depth at which each character stands (`atDepths`):

      an entry is passed over as a whole                    (`entriesFrom_append`)
      entries that are joined are found again               (`entriesFrom_intercalate`)
      a list that is never closed is cut at its commas      (`entriesFrom_of_open`)
      the counter stays above zero while it is read         (`Reader.Steady.run`)

  Main result, `parameters_counted`: the entries that are not blank are counted.
-/
import CodeSurvey.Filter.Declared
import CodeSurvey.Proofs.Pieces
import Mathlib.Data.List.TakeWhile

namespace CodeSurvey.Filter

/-! ## §1. Depths. -/

/-- What a character does to the number of open parentheses. -/
def turn (c : Char) : Int := if c = '(' then 1 else if c = ')' then -1 else 0

/-- How many more parentheses a text opens than it closes. -/
def height : List Char → Int
  | [] => 0
  | c :: cs => turn c + height cs

/-- The characters of a text, each with the depth at which it stands. -/
def atDepths (depth : Int) : List Char → List (Char × Int)
  | [] => []
  | c :: cs => (c, depth) :: atDepths (depth + turn c) cs

/-- No parenthesis is closed that the text has not opened. -/
def StaysOpen (cs : List Char) : Prop := ∀ x ∈ atDepths 0 cs, x.1 = ')' → 0 < x.2

/-- The parentheses of a text are balanced. -/
def Balanced (cs : List Char) : Prop := StaysOpen cs ∧ height cs = 0

/-- An entry of a list: balanced, with no comma outside of its parentheses. -/
def IsEntry (cs : List Char) : Prop := Balanced cs ∧ ∀ x ∈ atDepths 0 cs, x.1 = ',' → 0 < x.2

instance (cs : List Char) : Decidable (StaysOpen cs) :=
  inferInstanceAs (Decidable (∀ x ∈ atDepths 0 cs, x.1 = ')' → 0 < x.2))

instance (cs : List Char) : Decidable (Balanced cs) :=
  inferInstanceAs (Decidable (StaysOpen cs ∧ height cs = 0))

instance (cs : List Char) : Decidable (IsEntry cs) :=
  inferInstanceAs (Decidable (Balanced cs ∧ ∀ x ∈ atDepths 0 cs, x.1 = ',' → 0 < x.2))

/-- What stands between the commas of a text that are in no parentheses. -/
def outerPieces (cs : List Char) : List (List Char) :=
  (Text.splitAll (fun x => x.1 == ',' && x.2 == 0) (atDepths 0 cs)).map (·.map Prod.fst)

theorem turn_open : turn '(' = 1 := rfl

theorem turn_close : turn ')' = -1 := rfl

theorem turn_of_ne {c : Char} (hopen : c ≠ '(') (hclose : c ≠ ')') : turn c = 0 := by
  rw [turn, if_neg hopen, if_neg hclose]

/-! ## §2. Reading along a text. -/

section Reading

variable {c : Char} {depth : Nat} {entry cs : List Char}

theorem entriesFrom_open : entriesFrom depth entry ('(' :: cs)
    = entriesFrom (depth + 1) ('(' :: entry) cs := rfl

theorem entriesFrom_close : entriesFrom (depth + 1) entry (')' :: cs)
    = entriesFrom depth (')' :: entry) cs := rfl

theorem entriesFrom_closed : entriesFrom 0 entry (')' :: cs) = [entry.reverse] := rfl

theorem entriesFrom_comma : entriesFrom 0 entry (',' :: cs) = entry.reverse :: entriesFrom 0 [] cs :=
  rfl

/-- Any other character, or a comma inside of parentheses, belongs to the entry. -/
theorem entriesFrom_other (hopen : c ≠ '(') (hclose : c ≠ ')') (hcomma : c = ',' → depth ≠ 0) :
    entriesFrom depth entry (c :: cs) = entriesFrom depth (c :: entry) cs := by
  cases depth with
  | zero =>
      have hne : c ≠ ',' := fun hc => hcomma hc rfl
      simp [entriesFrom, hopen, hclose, hne]
  | succ depth => simp [entriesFrom, hopen, hclose]

/-- **A text is passed over as a whole** if in it no parenthesis is closed that is not open and each
comma is inside of one. -/
theorem entriesFrom_append (rest : List Char) : ∀ (cs : List Char) (depth depth' : Nat)
    (entry : List Char), (∀ x ∈ atDepths depth cs, x.1 = ')' ∨ x.1 = ',' → 0 < x.2) →
    (depth' : Int) = depth + height cs →
    entriesFrom depth entry (cs ++ rest) = entriesFrom depth' (cs.reverse ++ entry) rest := by
  intro cs
  induction cs with
  | nil =>
      intro depth depth' entry _ hdepth
      rw [height] at hdepth
      obtain rfl : depth' = depth := by omega
      rfl
  | cons c cs ih =>
      intro depth depth' entry hinside hdepth
      rw [atDepths, List.forall_mem_cons] at hinside
      obtain ⟨hhere, hinside⟩ := hinside
      rw [height] at hdepth
      rw [List.cons_append, List.reverse_cons, List.append_assoc, List.singleton_append]
      by_cases hopen : c = '('
      · subst hopen
        rw [turn_open] at hinside hdepth
        rw [entriesFrom_open]
        exact ih _ _ ('(' :: entry) (by exact_mod_cast hinside) (by omega)
      by_cases hclose : c = ')'
      · subst hclose
        obtain ⟨depth, rfl⟩ : ∃ n, depth = n + 1 := ⟨depth - 1, by have := hhere (.inl rfl); omega⟩
        rw [turn_close] at hinside hdepth
        rw [entriesFrom_close]
        refine ih _ _ (')' :: entry) ?_ (by omega)
        rwa [show ((depth + 1 : Nat) : Int) + -1 = depth by omega] at hinside
      · rw [turn_of_ne hopen hclose] at hinside hdepth
        rw [entriesFrom_other hopen hclose fun hcomma => by have := hhere (.inr hcomma); omega]
        refine ih _ _ (c :: entry) ?_ (by omega)
        rwa [Int.add_zero] at hinside

theorem IsEntry.entriesFrom {cs : List Char} (h : IsEntry cs) (rest : List Char) :
    entriesFrom 0 [] (cs ++ rest) = Filter.entriesFrom 0 cs.reverse rest := by
  obtain ⟨⟨hopen, hheight⟩, hcomma⟩ := h
  have hpass := entriesFrom_append rest cs 0 0 []
    (fun x hx hor => hor.elim (hopen x hx) (hcomma x hx)) (by rw [hheight]; rfl)
  rwa [List.append_nil] at hpass

/-- **Entries that are joined** are found again, up to where the list is closed. -/
theorem entriesFrom_intercalate (after : List Char) : ∀ (es : List (List Char)), es ≠ [] →
    (∀ e ∈ es, IsEntry e) → entriesFrom 0 [] ([','].intercalate es ++ ')' :: after) = es
  | [], hne, _ => absurd rfl hne
  | [e], _, hes => by
      rw [List.intercalate_singleton, (hes e List.mem_cons_self).entriesFrom, entriesFrom_closed,
        List.reverse_reverse]
  | e :: next :: es, _, hes => by
      rw [List.intercalate_cons_cons, List.append_assoc, List.append_assoc,
        (hes e List.mem_cons_self).entriesFrom, List.singleton_append, entriesFrom_comma,
        List.reverse_reverse, entriesFrom_intercalate after (next :: es) (by simp)
          fun x hx => hes x (List.mem_cons_of_mem _ hx)]

/-- **A list that is never closed** is cut at the commas that are in no further parentheses. -/
theorem entriesFrom_of_open : ∀ (cs : List Char) (depth : Nat) (entry : List Char),
    (∀ x ∈ atDepths depth cs, x.1 = ')' → 0 < x.2) →
    ∃ piece pieces, Text.splitAll (fun x => x.1 == ',' && x.2 == 0) (atDepths depth cs)
        = piece :: pieces ∧
      entriesFrom depth entry cs
        = (entry.reverse ++ piece.map Prod.fst) :: pieces.map (·.map Prod.fst) := by
  intro cs
  induction cs with
  | nil =>
      intro depth entry _
      refine ⟨[], [], rfl, ?_⟩
      rw [entriesFrom, List.map_nil, List.append_nil]
      rfl
  | cons c cs ih =>
      intro depth entry hopened
      rw [atDepths, List.forall_mem_cons] at hopened
      obtain ⟨hhere, hopened⟩ := hopened
      rw [atDepths]
      -- a character of the entry, behind which the depth is another
      have hgoes : ∀ depth' : Nat, (depth' : Int) = depth + turn c →
          (c == ',' && (depth : Int) == 0) = false →
          entriesFrom depth entry (c :: cs) = entriesFrom depth' (c :: entry) cs →
          ∃ piece pieces, Text.splitAll (fun x : Char × Int => x.1 == ',' && x.2 == 0)
              ((c, (depth : Int)) :: atDepths (depth + turn c) cs) = piece :: pieces ∧
            entriesFrom depth entry (c :: cs)
              = (entry.reverse ++ piece.map Prod.fst) :: pieces.map (·.map Prod.fst) := by
        intro depth' hdepth hcut hstep
        rw [← hdepth] at hopened ⊢
        obtain ⟨piece, pieces, hpieces, hentries⟩ := ih _ (c :: entry) hopened
        obtain ⟨piece', pieces', hpieces', hcons⟩ := Text.splitAll_cons_of_not
          (p := fun x : Char × Int => x.1 == ',' && x.2 == 0) (c := (c, (depth : Int))) hcut
          (atDepths depth' cs)
        cases hpieces.symm.trans hpieces'
        refine ⟨_, _, hcons, ?_⟩
        rw [hstep, hentries, List.reverse_cons, List.append_assoc, List.map_cons]
        rfl
      by_cases hopen : c = '('
      · subst hopen
        exact hgoes (depth + 1) (by rw [turn_open]; rfl) rfl entriesFrom_open
      by_cases hclose : c = ')'
      · subst hclose
        obtain ⟨depth, rfl⟩ : ∃ n, depth = n + 1 := ⟨depth - 1, by have := hhere rfl; omega⟩
        exact hgoes depth (by rw [turn_close]; omega) rfl entriesFrom_close
      have hturn := turn_of_ne hopen hclose
      by_cases hcomma : c = ',' ∧ depth = 0
      · -- the entry ends here
        obtain ⟨rfl, rfl⟩ := hcomma
        rw [hturn, Int.add_zero] at hopened ⊢
        obtain ⟨piece, pieces, hpieces, hentries⟩ := ih 0 [] hopened
        refine ⟨[], piece :: pieces, ?_, ?_⟩
        · rw [Text.splitAll, hpieces]
          rfl
        · rw [entriesFrom_comma, hentries, List.map_nil, List.append_nil]
          rfl
      · refine hgoes depth (by rw [hturn, Int.add_zero]) ?_
          (entriesFrom_other hopen hclose fun hc h0 => hcomma ⟨hc, h0⟩)
        rw [Bool.eq_false_iff]
        intro hcut
        rw [Bool.and_eq_true, beq_iff_eq, beq_iff_eq] at hcut
        exact hcomma ⟨hcut.1, by omega⟩

end Reading

theorem entries_of_open {before : List Char} (hbefore : '(' ∉ before) (rest : List Char) :
    entries (before ++ '(' :: rest) = entriesFrom 0 [] rest := by
  have hdrop : (before ++ '(' :: rest).dropWhile (· != '(') = '(' :: rest := by
    rw [List.dropWhile_append_of_pos fun c hc => bne_iff_ne.2 (ne_of_mem_of_not_mem hc hbefore)]
    rfl
  rw [entries, hdrop]

theorem dropWhile_of_notMem {text : List Char} (h : '(' ∉ text) :
    text.dropWhile (· != '(') = [] :=
  List.dropWhile_eq_nil_iff.2 fun _ hc => bne_iff_ne.2 (ne_of_mem_of_not_mem hc h)

/-! ## §3. The counter. -/

/-- Reading a list with a counter that nothing keeps from going below zero: the number of open
parentheses, the entry being read, the entries before it, and whether the list has been closed. -/
structure Reader where
  depth : Int := 0
  entry : List Char := []
  earlier : List (List Char) := []
  closed : Bool := false

namespace Reader

/-- Reads one more character, if the list has not been closed. -/
def step (r : Reader) (c : Char) : Reader :=
  if r.closed then r
  else if c = '(' then
    { r with depth := r.depth + 1, entry := if 1 < r.depth + 1 then r.entry ++ [c] else r.entry }
  else if c = ')' then
    if r.depth - 1 = 0 then { r with depth := r.depth - 1, closed := true }
    else { r with depth := r.depth - 1, entry := r.entry ++ [c] }
  else if c = ',' ∧ r.depth = 1 then { r with entry := [], earlier := r.earlier ++ [r.entry] }
  else { r with entry := r.entry ++ [c] }

/-- Reads a text. -/
def run (cs : List Char) : Reader := cs.foldl step {}

/-- The entries that have been read. -/
def found (r : Reader) : List (List Char) := r.earlier ++ [r.entry]

/-- While the list is read some parenthesis is open, and none is when it has been closed. -/
structure Steady (r : Reader) : Prop where
  reading : r.closed = false → 0 < r.depth
  closed : r.closed = true → r.depth = 0

variable {r : Reader}

theorem Steady.nonneg (h : r.Steady) : 0 ≤ r.depth := by
  cases hclosed : r.closed with
  | true => exact Int.le_of_eq (h.closed hclosed).symm
  | false => exact Int.le_of_lt (h.reading hclosed)

/-- **One character** keeps the counter steady. -/
theorem Steady.step (h : r.Steady) (c : Char) : (r.step c).Steady := by
  cases hclosed : r.closed with
  | true => rwa [Reader.step, hclosed, if_pos rfl]
  | false =>
      have hdepth := h.reading hclosed
      have hnot : r.closed ≠ true := by rw [hclosed]; exact Bool.false_ne_true
      rw [Reader.step, if_neg hnot]
      split
      · exact ⟨fun _ => Int.lt_add_one_of_le (Int.le_of_lt hdepth), fun hc => absurd hc hnot⟩
      · split
        · -- the parenthesis that is closed is the last one, or another one is open
          split
          · rename_i hlast
            exact ⟨fun hc => absurd hc Bool.noConfusion, fun _ => hlast⟩
          · rename_i hlast
            refine ⟨fun _ => ?_, fun hc => absurd hc hnot⟩
            show 0 < r.depth - 1
            omega
        · split
          · exact ⟨fun _ => hdepth, fun hc => absurd hc hnot⟩
          · exact ⟨fun _ => hdepth, fun hc => absurd hc hnot⟩

/-- **A whole text** keeps the counter steady. -/
theorem Steady.run (h : r.Steady) (cs : List Char) : (cs.foldl Reader.step r).Steady := by
  induction cs generalizing r with
  | nil => exact h
  | cons c cs ih => exact ih (h.step c)

theorem run_of_closed (h : r.closed = true) (cs : List Char) : cs.foldl Reader.step r = r := by
  induction cs with
  | nil => rfl
  | cons c cs ih => rw [List.foldl_cons, Reader.step, if_pos h, ih]

/-- **What is found** with the counter are the entries. -/
theorem found_foldl : ∀ (cs : List Char) (depth : Nat) (entry : List Char)
    (earlier : List (List Char)),
    (cs.foldl Reader.step ⟨depth + 1, entry, earlier, false⟩).found
      = earlier ++ entriesFrom depth entry.reverse cs := by
  intro cs
  induction cs with
  | nil =>
      intro depth entry earlier
      rw [entriesFrom, List.reverse_reverse]
      rfl
  | cons c cs ih =>
      intro depth entry earlier
      have hgoes : ∀ depth' : Nat, Reader.step ⟨depth + 1, entry, earlier, false⟩ c
            = ⟨depth' + 1, entry ++ [c], earlier, false⟩ →
          entriesFrom depth entry.reverse (c :: cs) = entriesFrom depth' (c :: entry.reverse) cs →
          ((c :: cs).foldl Reader.step ⟨depth + 1, entry, earlier, false⟩).found
            = earlier ++ entriesFrom depth entry.reverse (c :: cs) := by
        intro depth' hstep hentries
        rw [List.foldl_cons, hstep, ih, hentries, List.reverse_append, List.reverse_singleton,
          List.singleton_append]
      by_cases hopen : c = '('
      · subst hopen
        refine hgoes (depth + 1) ?_ entriesFrom_open
        have hdeep : (1 : Int) < depth + 1 + 1 := by omega
        simp [Reader.step, hdeep]
      by_cases hclose : c = ')'
      · subst hclose
        cases depth with
        | zero =>
            -- the list is closed, and the rest is not looked at
            have hstep : Reader.step ⟨((0 : Nat) : Int) + 1, entry, earlier, false⟩ ')'
                = ⟨0, entry, earlier, true⟩ := rfl
            rw [List.foldl_cons, hstep, run_of_closed rfl, entriesFrom_closed, List.reverse_reverse]
            rfl
        | succ depth =>
            refine hgoes depth ?_ entriesFrom_close
            have hinner : ¬ (((depth + 1 : Nat) : Int) + 1 - 1 = 0) := by omega
            have hless : ((depth + 1 : Nat) : Int) + 1 - 1 = depth + 1 := by omega
            rw [Reader.step, if_neg Bool.false_ne_true, if_neg (by decide), if_pos rfl, if_neg hinner,
              hless]
      by_cases hcomma : c = ',' ∧ depth = 0
      · obtain ⟨rfl, rfl⟩ := hcomma
        have hstep : Reader.step ⟨((0 : Nat) : Int) + 1, entry, earlier, false⟩ ','
            = ⟨((0 : Nat) : Int) + 1, [], earlier ++ [entry], false⟩ := rfl
        rw [List.foldl_cons, hstep, ih, entriesFrom_comma, List.reverse_reverse, List.append_assoc]
        rfl
      · refine hgoes depth ?_
          (entriesFrom_other hopen hclose fun hc h0 => hcomma ⟨hc, h0⟩)
        have hnot : ¬ (c = ',' ∧ (depth : Int) + 1 = 1) := fun h => hcomma ⟨h.1, by omega⟩
        rw [Reader.step, if_neg Bool.false_ne_true, if_neg hopen, if_neg hclose, if_neg hnot]

/-- From where a text opens its first parenthesis. -/
theorem dropWhile_eq_cons {text : List Char} (h : '(' ∈ text) :
    ∃ rest, text.dropWhile (· != '(') = '(' :: rest := by
  cases hdrop : text.dropWhile (· != '(') with
  | nil => exact absurd (List.dropWhile_eq_nil_iff.1 hdrop '(' h) (by decide)
  | cons c rest =>
      have hhead := List.head?_dropWhile_not (· != '(') text
      rw [hdrop] at hhead
      obtain rfl : c = '(' := by simpa using hhead
      exact ⟨rest, rfl⟩

end Reader

/-! ## §4. Counting. -/

/-- **Parameters are counted.**  If the first parenthesis of a text is closed again, and what stands
between is a list of entries joined by commas, then the entries that are not blank are counted.
Without a parenthesis there are none, and if the first one is never closed, all that follows it is cut
at the commas that are in no further parentheses, and what is not blank is counted.  Whatever the text,
the entries are those that are read with a counter for open parentheses that nothing keeps from going
below zero, and it never does. -/
theorem parameters_counted :
    (∀ before es after, '(' ∉ before → (∀ e ∈ es, IsEntry e) →
      countParameters (before ++ '(' :: ([','].intercalate es ++ ')' :: after))
        = (es.filter fun e => !Text.allBlank e).length) ∧
    (∀ text, '(' ∉ text → countParameters text = 0) ∧
    (∀ before rest, '(' ∉ before → StaysOpen rest →
      countParameters (before ++ '(' :: rest)
        = ((outerPieces rest).filter fun e => !Text.allBlank e).length) ∧
    ∀ text, ('(' ∈ text → entries text = (Reader.run (text.dropWhile (· != '('))).found) ∧
      ∀ read, read <+: text.dropWhile (· != '(') → 0 ≤ (Reader.run read).depth := by
  refine ⟨fun before es after hbefore hes => ?_, fun text htext => ?_,
    fun before rest hbefore hopen => ?_, fun text => ⟨fun htext => ?_, fun read hread => ?_⟩⟩
  · rw [countParameters, entries_of_open hbefore]
    cases es with
    | nil => rfl
    | cons e es => rw [entriesFrom_intercalate after (e :: es) (by simp) hes]
  · rw [countParameters, entries, dropWhile_of_notMem htext]
    rfl
  · obtain ⟨piece, pieces, hpieces, hentries⟩ := entriesFrom_of_open rest 0 [] hopen
    rw [countParameters, entries_of_open hbefore, hentries, outerPieces]
    exact congrArg (fun ps => ((List.map (·.map Prod.fst) ps).filter _).length) hpieces.symm
  · obtain ⟨rest, hdrop⟩ := Reader.dropWhile_eq_cons htext
    rw [entries, hdrop]
    exact (Reader.found_foldl rest 0 [] []).symm
  · by_cases htext : '(' ∈ text
    · obtain ⟨rest, hdrop⟩ := Reader.dropWhile_eq_cons htext
      rw [hdrop] at hread
      rcases List.prefix_cons_iff.1 hread with rfl | ⟨read, rfl, -⟩
      · exact Int.le_refl 0
      · -- the first parenthesis is open
        have hfirst : (Reader.step {} '(').Steady := ⟨fun _ => Int.one_pos, Bool.noConfusion⟩
        exact (hfirst.run read).nonneg
    · rw [dropWhile_of_notMem htext, List.prefix_nil] at hread
      subst hread
      exact Int.le_refl 0

/-- Of `f(a,g(b,c), ));` two parameters are counted, as of `f(a,g(b,c`, where no parenthesis is closed;
the counter is back at zero when the list has been read. -/
theorem nested_parameters_counted :
    (∀ e ∈ [['a'], ['g', '(', 'b', ',', 'c', ')'], [' ']], IsEntry e) ∧
    StaysOpen ['a', ',', 'g', '(', 'b', ',', 'c'] ∧
    countParameters ['f', '(', 'a', ',', 'g', '(', 'b', ',', 'c', ')', ',', ' ', ')', ')', ';'] = 2 ∧
    countParameters ['f'] = 0 ∧
    countParameters ['f', '(', 'a', ',', 'g', '(', 'b', ',', 'c'] = 2 ∧
    0 ≤ (Reader.run ['(', 'a', ',', ' ', ')', ')']).depth := by
  obtain ⟨hlist, hnone, hunclosed, hcounter⟩ := parameters_counted
  have hentries : ∀ e ∈ [['a'], ['g', '(', 'b', ',', 'c', ')'], [' ']], IsEntry e := by decide
  have hopen : StaysOpen ['a', ',', 'g', '(', 'b', ',', 'c'] := by decide
  exact ⟨hentries, hopen, hlist ['f'] _ [')', ';'] (by decide) hentries, hnone ['f'] (by decide),
    hunclosed ['f'] _ (by decide) hopen,
    (hcounter ['f', '(', 'a', ',', ' ', ')', ')']).2 _ (List.prefix_refl _)⟩

end CodeSurvey.Filter
