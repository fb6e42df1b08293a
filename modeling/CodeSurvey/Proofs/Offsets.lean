/-
  Offsets, rows and columns of a text.

  An offset counts octets, so it may fall inside a character.  Where it does not, the text can be cut
  in two there, and everything that is told of the offset is told by the part in front of it:

      its row      the line feeds of that part                            (`rowAt_append`)
      its column   the octets of that part behind the last line feed      (`columnAt_append`)

  Main results: a span has a text exactly if it lies between two such offsets
  (`slice?_eq_none_iff`), the text of a span has its octets (`octets_of_slice?`), and an offset is its
  column behind the begin of its line (`exists_beginsLine`).
-/
import CodeSurvey.Text.Basic

namespace CodeSurvey.Text

/-! ## §1. Lengths. -/

theorem foldl_utf8Size (n : Nat) (cs : List Char) :
    cs.foldl (fun n c => n + c.utf8Size) n = n + byteLength cs := by
  unfold byteLength
  induction cs generalizing n with
  | nil => rfl
  | cons c cs ih => rw [List.foldl_cons, List.foldl_cons, ih, ih (0 + c.utf8Size)]; omega

@[simp]
theorem byteLength_nil : byteLength [] = 0 := rfl

@[simp]
theorem byteLength_cons (c : Char) (cs : List Char) :
    byteLength (c :: cs) = c.utf8Size + byteLength cs := by
  rw [byteLength, List.foldl_cons, foldl_utf8Size, Nat.zero_add]

@[simp]
theorem byteLength_append (cs cs' : List Char) :
    byteLength (cs ++ cs') = byteLength cs + byteLength cs' := by
  induction cs with
  | nil => simp
  | cons c cs ih => simp [ih, Nat.add_assoc]

theorem byteLength_eq_zero_iff {cs : List Char} : byteLength cs = 0 ↔ cs = [] := by
  cases cs with
  | nil => simp
  | cons c cs =>
      have hpos := c.utf8Size_pos
      simp
      omega

theorem length_octets (cs : List Char) : (octets cs).length = byteLength cs := by
  induction cs with
  | nil => rfl
  | cons c cs ih =>
      rw [octets, List.flatMap_cons, List.length_append, String.length_utf8EncodeChar,
        byteLength_cons, ← ih, octets]

theorem octets_append (cs cs' : List Char) : octets (cs ++ cs') = octets cs ++ octets cs' :=
  List.flatMap_append

/-! ## §2. Cuts. -/

/-- Octet `n` of a text begins a character or ends the text, so that the text can be cut there. -/
def Between (cs : List Char) (n : Nat) : Prop :=
  ∃ before after, cs = before ++ after ∧ (octets before).length = n

/-- The octets from `start` up to `stop` are those of some of the characters. -/
def Addressable (cs : List Char) (start stop : Nat) : Prop :=
  start ≤ stop ∧ Between cs start ∧ Between cs stop

theorem dropBytes?_eq_some_iff {rest : List Char} : ∀ {n : Nat} {cs : List Char},
    dropBytes? n cs = some rest ↔ ∃ before, cs = before ++ rest ∧ byteLength before = n := by
  intro n cs
  fun_induction dropBytes? n cs with
  | case1 cs =>
      simp only [Option.some.injEq, byteLength_eq_zero_iff]
      constructor
      · rintro rfl
        exact ⟨[], rfl, rfl⟩
      · rintro ⟨before, rfl, rfl⟩
        rfl
  | case2 n =>
      refine ⟨fun h => (nomatch h), fun ⟨before, hcut, hlength⟩ => ?_⟩
      rw [(List.append_eq_nil_iff.1 hcut.symm).1] at hlength
      cases hlength
  | case3 n c cs hfits ih =>
      rw [ih]
      constructor
      · rintro ⟨before, rfl, hlength⟩
        exact ⟨c :: before, rfl, by rw [byteLength_cons, hlength, Nat.add_sub_cancel' hfits]⟩
      · rintro ⟨before, hcut, hlength⟩
        cases before with
        | nil => cases hlength
        | cons c' before =>
            obtain ⟨rfl, rfl⟩ := List.cons.inj hcut
            rw [byteLength_cons] at hlength
            exact ⟨before, rfl, by omega⟩
  | case4 n c cs hfits =>
      -- the offset falls inside the first character
      refine ⟨fun h => (nomatch h), fun ⟨before, hcut, hlength⟩ => ?_⟩
      cases before with
      | nil => cases hlength
      | cons c' before =>
          obtain ⟨rfl, -⟩ := List.cons.inj hcut
          rw [byteLength_cons] at hlength
          omega

theorem takeBytes?_eq_some_iff {text : List Char} : ∀ {n : Nat} {cs : List Char},
    takeBytes? n cs = some text ↔ ∃ after, cs = text ++ after ∧ byteLength text = n := by
  intro n cs
  fun_induction takeBytes? n cs generalizing text with
  | case1 cs =>
      simp only [Option.some.injEq, byteLength_eq_zero_iff]
      constructor
      · rintro rfl
        exact ⟨cs, rfl, rfl⟩
      · rintro ⟨after, -, rfl⟩
        rfl
  | case2 n =>
      refine ⟨fun h => (nomatch h), fun ⟨after, hcut, hlength⟩ => ?_⟩
      rw [(List.append_eq_nil_iff.1 hcut.symm).1] at hlength
      cases hlength
  | case3 n c cs hfits ih =>
      rw [Option.map_eq_some_iff]
      constructor
      · rintro ⟨text, htext, rfl⟩
        obtain ⟨after, rfl, hlength⟩ := ih.1 htext
        exact ⟨after, rfl, by rw [byteLength_cons, hlength, Nat.add_sub_cancel' hfits]⟩
      · rintro ⟨after, hcut, hlength⟩
        cases text with
        | nil => cases hlength
        | cons c' text =>
            obtain ⟨rfl, rfl⟩ := List.cons.inj hcut
            rw [byteLength_cons] at hlength
            exact ⟨text, ih.2 ⟨after, rfl, by omega⟩, rfl⟩
  | case4 n c cs hfits =>
      refine ⟨fun h => (nomatch h), fun ⟨after, hcut, hlength⟩ => ?_⟩
      cases text with
      | nil => cases hlength
      | cons c' text =>
          obtain ⟨rfl, -⟩ := List.cons.inj hcut
          rw [byteLength_cons] at hlength
          omega

/-- **The text of a span**, with what stands before and behind it. -/
theorem slice?_eq_some_iff {cs text : List Char} {start stop : Nat} :
    slice? cs start stop = some text ↔ ∃ before after, cs = before ++ (text ++ after) ∧
      byteLength before = start ∧ byteLength (before ++ text) = stop := by
  unfold slice?
  split
  · rename_i hle
    simp only [Option.bind_eq_some_iff, dropBytes?_eq_some_iff, takeBytes?_eq_some_iff]
    constructor
    · rintro ⟨rest, ⟨before, rfl, hstart⟩, after, rfl, hlength⟩
      exact ⟨before, after, rfl, hstart, by rw [byteLength_append]; omega⟩
    · rintro ⟨before, after, rfl, hstart, hstop⟩
      rw [byteLength_append] at hstop
      exact ⟨text ++ after, ⟨before, rfl, hstart⟩, after, rfl, by omega⟩
  · rename_i hlt
    refine ⟨fun h => (nomatch h), fun ⟨before, after, _, hstart, hstop⟩ => ?_⟩
    rw [byteLength_append] at hstop
    omega

/-- Of two cuts, the first one lies in front of the second. -/
theorem exists_of_cuts {before after before' after' : List Char}
    (hcuts : before ++ after = before' ++ after') (hle : byteLength before ≤ byteLength before') :
    ∃ text, before' = before ++ text ∧ after = text ++ after' := by
  rcases List.append_eq_append_iff.1 hcuts with ⟨text, hbefore, hafter⟩ | ⟨text, hbefore, hafter⟩
  · exact ⟨text, hbefore, hafter⟩
  · -- nothing lies between them
    have hnothing : text = [] := by
      rw [hbefore, byteLength_append] at hle
      exact byteLength_eq_zero_iff.1 (by omega)
    subst hnothing
    exact ⟨[], by simp [hbefore], by simp [hafter]⟩

theorem addressable_iff_exists_slice {cs : List Char} {start stop : Nat} :
    Addressable cs start stop ↔ ∃ text, slice? cs start stop = some text := by
  simp only [slice?_eq_some_iff, Addressable, Between, length_octets]
  constructor
  · rintro ⟨hle, ⟨before, after, rfl, rfl⟩, before', after', hcuts, rfl⟩
    obtain ⟨text, rfl, rfl⟩ := exists_of_cuts hcuts hle
    exact ⟨text, before, after', rfl, rfl, rfl⟩
  · rintro ⟨text, before, after, rfl, rfl, rfl⟩
    refine ⟨by simp, ⟨before, text ++ after, rfl, rfl⟩, before ++ text, after, ?_, rfl⟩
    rw [List.append_assoc]

/-- **A span has no text** exactly if it does not begin and end between characters. -/
theorem slice?_eq_none_iff {cs : List Char} {start stop : Nat} :
    slice? cs start stop = none ↔ ¬ Addressable cs start stop := by
  rw [addressable_iff_exists_slice, ← Option.isSome_iff_exists, Option.not_isSome_iff_eq_none]

instance (cs : List Char) (start stop : Nat) : Decidable (Addressable cs start stop) :=
  decidable_of_iff ((slice? cs start stop).isSome = true)
    (Option.isSome_iff_exists.trans addressable_iff_exists_slice.symm)

/-- The octets of the text of a span are the octets of the span. -/
theorem octets_of_slice? {cs text : List Char} {start stop : Nat}
    (h : slice? cs start stop = some text) :
    octets text = ((octets cs).drop start).take (stop - start) := by
  obtain ⟨before, after, rfl, rfl, rfl⟩ := slice?_eq_some_iff.1 h
  have hlength : byteLength (before ++ text) - byteLength before = byteLength text := by simp
  rw [hlength, octets_append, octets_append, ← length_octets before, List.drop_left,
    ← length_octets text, List.take_left]

/-! ## §3. Rows. -/

theorem rowAt_append (before after : List Char) :
    rowAt (before ++ after) (byteLength before) = before.count '\n' := by
  induction before with
  | nil => cases after <;> rfl
  | cons c before ih =>
      have hpos := c.utf8Size_pos
      rw [List.cons_append, rowAt, byteLength_cons, if_neg (by omega), Nat.add_sub_cancel_left, ih,
        List.count_cons]
      simp only [beq_iff_eq, Nat.add_comm]

/-- The rows of a span are told apart by the line feeds of its text. -/
theorem rowAt_of_slice? {cs text : List Char} {start stop : Nat}
    (h : slice? cs start stop = some text) :
    rowAt cs stop = rowAt cs start + text.count '\n' := by
  obtain ⟨before, after, rfl, rfl, rfl⟩ := slice?_eq_some_iff.1 h
  rw [rowAt_append, ← List.append_assoc, rowAt_append, List.count_append]

/-! ## §4. Columns. -/

/-- Line `k`, the lines being counted from one, begins at octet `n`. -/
def BeginsLine (cs : List Char) (k n : Nat) : Prop :=
  ∃ before after, cs = before ++ after ∧ (octets before).length = n ∧
    before.count '\n' + 1 = k ∧ (before = [] ∨ before.getLast? = some '\n')

/-- The last line of a text and what stands in front of it. -/
theorem exists_lastLine : ∀ cs : List Char, ∃ front line, cs = front ++ line ∧ '\n' ∉ line ∧
    (front = [] ∨ front.getLast? = some '\n') := by
  intro cs
  induction cs with
  | nil => exact ⟨[], [], rfl, List.not_mem_nil, .inl rfl⟩
  | cons c cs ih =>
      obtain ⟨front, line, rfl, hline, hfront⟩ := ih
      rcases hfront with rfl | hfront
      · by_cases hc : c = '\n'
        · exact ⟨[c], line, rfl, hline, .inr (by simp [hc])⟩
        · exact ⟨[], c :: line, rfl, by simp [hline, Ne.symm hc], .inl rfl⟩
      · exact ⟨c :: front, line, rfl, hline, .inr (by simp [List.getLast?_cons, hfront])⟩

/-- A line feed sets the column back. -/
theorem columnFrom_front (n : Nat) (rest : List Char) : ∀ (column : Nat) (front : List Char),
    front.getLast? = some '\n' →
      columnFrom column (front ++ rest) (byteLength front + n) = columnFrom 0 rest n := by
  intro column front
  induction front generalizing column with
  | nil => exact fun h => (nomatch h)
  | cons c front ih =>
      intro hlast
      rw [List.cons_append, columnFrom, byteLength_cons, if_neg (by omega)]
      cases front with
      | nil =>
          -- the line feed itself
          have hc : c = '\n' := by simpa using hlast
          subst hc
          rw [if_pos rfl, byteLength_nil, Nat.add_zero]
          exact congrArg (columnFrom 0 rest) (Nat.add_sub_cancel_left 1 n)
      | cons c' front =>
          have hlater : (c' :: front).getLast? = some '\n' := by
            rwa [List.getLast?_cons_cons] at hlast
          split
          · rename_i hc
            subst hc
            rw [← ih 0 hlater]
            refine congrArg (columnFrom 0 _) ?_
            have hone : ('\n' : Char).utf8Size = 1 := rfl
            omega
          · rw [← ih (column + c.utf8Size) hlater]
            exact congrArg (columnFrom _ _) (by omega)

/-- Without line feeds the column grows with the text. -/
theorem columnFrom_line (after : List Char) : ∀ (column : Nat) (line : List Char),
    '\n' ∉ line → columnFrom column (line ++ after) (byteLength line) = column + byteLength line := by
  intro column line
  induction line generalizing column with
  | nil =>
      intro _
      cases after with
      | nil => rfl
      | cons c after => rw [List.nil_append, columnFrom, byteLength_nil, if_pos c.utf8Size_pos]
  | cons c line ih =>
      intro hline
      rw [List.mem_cons, not_or] at hline
      rw [List.cons_append, columnFrom, byteLength_cons, if_neg (by omega),
        if_neg (Ne.symm hline.1), Nat.add_sub_cancel_left, ih _ hline.2, Nat.add_assoc]

theorem columnAt_append {front line : List Char} (hline : '\n' ∉ line)
    (hfront : front = [] ∨ front.getLast? = some '\n') (after : List Char) :
    columnAt (front ++ line ++ after) (byteLength (front ++ line)) = byteLength line := by
  unfold columnAt
  rw [List.append_assoc, byteLength_append]
  rcases hfront with rfl | hfront
  · rw [List.nil_append, byteLength_nil, Nat.zero_add, columnFrom_line after 0 line hline,
      Nat.zero_add]
  · rw [columnFrom_front _ _ 0 front hfront, columnFrom_line after 0 line hline, Nat.zero_add]

/-- **An offset is its column behind the begin of its line.** -/
theorem exists_beginsLine {cs : List Char} {n : Nat} (h : Between cs n) :
    ∃ offset, BeginsLine cs (rowAt cs n + 1) offset ∧ n = offset + columnAt cs n := by
  obtain ⟨before, after, rfl, rfl⟩ := h
  obtain ⟨front, line, rfl, hline, hfront⟩ := exists_lastLine before
  have hcount : (front ++ line).count '\n' = front.count '\n' := by
    rw [List.count_append, List.count_eq_zero_of_not_mem hline, Nat.add_zero]
  rw [length_octets, rowAt_append, columnAt_append hline hfront, hcount]
  refine ⟨byteLength front, ⟨front, line ++ after, ?_, length_octets front, rfl, hfront⟩, ?_⟩
  · rw [List.append_assoc]
  · rw [byteLength_append]

end CodeSurvey.Text
