/-
  What a search with a regular expression finds.

  `Regex.runs` lists ways through a text, and every way only ever goes on: a relation between places
  that is reflexive and transitive holds between the two ends of a way if it holds across the single
  characters and the marked parts (`Keeps`).  A repetition is a chain of rounds, so its ways are
  covered by what one round keeps (`repeatRuns_keeps`).

      the text that is left is an end of the text that was there      (`keeps_onward`)
      a run of characters of a class takes some, and no others        (`takes_many1_one`)
      a marked part is part of the text and as its expression says    (`Marking.keeps`)

  Main results, `Marking.find` and `Marking.findAll`: what is found is a part of the text that was
  searched, and of the form that every marked part of the expression has.
-/
import CodeSurvey.Regex.Basic
import Mathlib.Data.List.Infix

namespace CodeSurvey.Regex

/-! ## §1. The ways of each expression. -/

/-- The text between two places. -/
def Cursor.taken (c d : Cursor) : List Char := c.rest.take (c.rest.length - d.rest.length)

theorem Cursor.taken_eq {c d : Cursor} {text : List Char} (h : c.rest = text ++ d.rest) :
    c.taken d = text := by
  rw [taken, h, List.length_append, Nat.add_sub_cancel, List.take_left]

section Ways

variable {a b : Regex} {c d e : Cursor}

theorem mem_runs_empty : d ∈ empty.runs c ↔ d = c := List.mem_singleton

theorem exists_of_mem_runs_one {accepts : Char → Bool} (h : d ∈ (one accepts).runs c) :
    ∃ x rest, c.rest = x :: rest ∧ accepts x = true ∧
      d = { c with before := some x, rest := rest } := by
  obtain ⟨before, text, marked⟩ := c
  cases text with
  | nil => cases h
  | cons x rest =>
      obtain ⟨hx, hd⟩ := List.mem_ite_nil_right.1 h
      exact ⟨x, rest, rfl, hx, List.mem_singleton.1 hd⟩

theorem mem_runs_look {fits : Option Char → Option Char → Bool} :
    d ∈ (look fits).runs c ↔ fits c.before c.rest.head? = true ∧ d = c :=
  List.mem_ite_nil_right.trans (and_congr_right' List.mem_singleton)

theorem mem_runs_cat : e ∈ (cat a b).runs c ↔ ∃ d ∈ a.runs c, e ∈ b.runs d := List.mem_flatMap

theorem mem_runs_alt : d ∈ (alt a b).runs c ↔ d ∈ a.runs c ∨ d ∈ b.runs c := List.mem_append

theorem mem_runs_mark :
    e ∈ (mark a).runs c ↔ ∃ d ∈ a.runs c, { d with marked := some (c.taken d) } = e :=
  List.mem_map

end Ways

/-! ## §2. What every way keeps. -/

/-- Every way through the expression leads from a place to a related one. -/
def Keeps (R : Cursor → Cursor → Prop) (r : Regex) : Prop := ∀ c, ∀ d ∈ r.runs c, R c d

section Keeps

variable {R : Cursor → Cursor → Prop}

/-- **A repetition keeps what its rounds keep.** -/
theorem repeatRuns_keeps (hrefl : ∀ c, R c c) (htrans : ∀ {a b c}, R a b → R b c → R a c)
    (greedy : Bool) {step : Cursor → List Cursor} (hstep : ∀ c, ∀ d ∈ step c, R c d) :
    ∀ (rounds : Nat) (tried : List Nat) (c : Cursor),
      ∀ d ∈ (repeatRuns greedy step rounds tried c).1, R c d := by
  intro rounds
  induction rounds with
  | zero =>
      intro tried c d hd
      rw [List.mem_singleton.1 hd]
      exact hrefl c
  | succ rounds ih =>
      intro tried c
      rw [repeatRuns]
      dsimp only
      split
      · exact fun d hd => absurd hd List.not_mem_nil
      · -- what has been gathered from some of the first rounds is related to the start
        have hfurther := List.foldlRecOn (motive := fun acc => ∀ d ∈ acc.1, R c d) (step c)
          (fun (acc : List Cursor × List Nat) d =>
            if d.rest.length < c.rest.length then
              (acc.1 ++ (repeatRuns greedy step rounds acc.2 d).1,
                (repeatRuns greedy step rounds acc.2 d).2)
            else acc)
          (b := ([], c.rest.length :: tried)) (fun d hd => absurd hd List.not_mem_nil)
          (by
            intro acc hacc first hfirst
            split
            · intro d hd
              rcases List.mem_append.1 hd with hd | hd
              · exact hacc d hd
              · exact htrans (hstep c first hfirst) (ih acc.2 first d hd)
            · exact hacc)
        intro d hd
        split at hd
        · rcases List.mem_append.1 hd with hd | hd
          · exact hfurther d hd
          · rw [List.mem_singleton.1 hd]
            exact hrefl c
        · rcases List.mem_cons.1 hd with rfl | hd
          · exact hrefl d
          · exact hfurther d hd

theorem Keeps.one {accepts : Char → Bool}
    (h : ∀ c x rest, c.rest = x :: rest → accepts x = true →
      R c { c with before := some x, rest := rest }) : Keeps R (.one accepts) := by
  intro c d hd
  obtain ⟨x, rest, hrest, hx, rfl⟩ := exists_of_mem_runs_one hd
  exact h c x rest hrest hx

theorem Keeps.look (hrefl : ∀ c, R c c) (fits : Option Char → Option Char → Bool) :
    Keeps R (.look fits) := by
  intro c d hd
  rw [(mem_runs_look.1 hd).2]
  exact hrefl c

theorem Keeps.cat (htrans : ∀ {a b c}, R a b → R b c → R a c) {a b : Regex} (ha : Keeps R a)
    (hb : Keeps R b) : Keeps R (.cat a b) := by
  intro c e he
  obtain ⟨d, hd, he⟩ := mem_runs_cat.1 he
  exact htrans (ha c d hd) (hb d e he)

theorem Keeps.alt {a b : Regex} (ha : Keeps R a) (hb : Keeps R b) : Keeps R (.alt a b) := by
  intro c d hd
  rcases mem_runs_alt.1 hd with hd | hd
  · exact ha c d hd
  · exact hb c d hd

theorem Keeps.star (hrefl : ∀ c, R c c) (htrans : ∀ {a b c}, R a b → R b c → R a c)
    (greedy : Bool) {a : Regex} (ha : Keeps R a) : Keeps R (.star greedy a) :=
  fun c => repeatRuns_keeps hrefl htrans greedy ha _ _ c

end Keeps

/-! ## §3. The text that is left, and the text that was taken. -/

/-- The text that is left at the second place is an end of that at the first. -/
def Cursor.Onward (c d : Cursor) : Prop := d.rest <:+ c.rest

theorem Cursor.Onward.refl (c : Cursor) : c.Onward c := List.suffix_refl _

theorem Cursor.Onward.trans {a b c : Cursor} (hab : a.Onward b) (hbc : b.Onward c) : a.Onward c :=
  List.IsSuffix.trans hbc hab

/-- **Ways only go on.** -/
theorem keeps_onward (r : Regex) : Keeps Cursor.Onward r := by
  induction r with
  | empty =>
      intro c d hd
      rw [mem_runs_empty.1 hd]
      exact .refl c
  | one accepts => exact .one fun c x rest hrest _ => ⟨[x], hrest.symm⟩
  | look fits => exact .look .refl fits
  | cat a b iha ihb => exact .cat .trans iha ihb
  | alt a b iha ihb => exact .alt iha ihb
  | star greedy a ih => exact .star .refl .trans greedy ih
  | mark a ih =>
      intro c e he
      obtain ⟨d, hd, rfl⟩ := mem_runs_mark.1 he
      exact ih c d hd

/-- Whatever the expression takes has the property. -/
def Takes (Q : List Char → Prop) (r : Regex) : Prop := ∀ c, ∀ d ∈ r.runs c, Q (c.taken d)

/-- Between the two places there are only characters of a class. -/
def Cursor.Through (accepts : Char → Bool) (c d : Cursor) : Prop :=
  ∃ text, c.rest = text ++ d.rest ∧ ∀ x ∈ text, accepts x = true

theorem Cursor.Through.refl {accepts : Char → Bool} (c : Cursor) : c.Through accepts c :=
  ⟨[], rfl, by simp⟩

theorem Cursor.Through.trans {accepts : Char → Bool} {a b c : Cursor} (hab : a.Through accepts b)
    (hbc : b.Through accepts c) : a.Through accepts c := by
  obtain ⟨text, htext, hall⟩ := hab
  obtain ⟨text', htext', hall'⟩ := hbc
  refine ⟨text ++ text', by rw [htext, htext', List.append_assoc], fun x hx => ?_⟩
  rcases List.mem_append.1 hx with hx | hx
  · exact hall x hx
  · exact hall' x hx

theorem keeps_through_one (accepts : Char → Bool) : Keeps (Cursor.Through accepts) (.one accepts) :=
  .one fun c x rest hrest hx => ⟨[x], hrest, fun y hy => by rwa [List.mem_singleton.1 hy]⟩

/-- **A run of characters** takes at least one, and only those of its class. -/
theorem takes_many1_one (accepts : Char → Bool) :
    Takes (fun text => text ≠ [] ∧ ∀ x ∈ text, accepts x = true) (many1 (.one accepts)) := by
  intro c e he
  obtain ⟨d, hd, he⟩ := mem_runs_cat.1 he
  obtain ⟨more, hmore, hall⟩ :=
    Keeps.star .refl .trans true (keeps_through_one accepts) d e he
  -- the first character is taken for certain
  have hfirst : ∃ x, c.rest = x :: d.rest ∧ accepts x = true := by
    refine Keeps.one (R := fun c d => ∃ x, c.rest = x :: d.rest ∧ accepts x = true) ?_ c d hd
    exact fun c x rest hrest hx => ⟨x, hrest, hx⟩
  obtain ⟨x, hx, haccepts⟩ := hfirst
  have htaken : c.taken e = x :: more := Cursor.taken_eq (by rw [hx, hmore]; rfl)
  rw [htaken]
  refine ⟨List.cons_ne_nil _ _, fun y hy => ?_⟩
  rcases List.mem_cons.1 hy with rfl | hy
  · exact haccepts
  · exact hall y hy

/-! ## §4. Marked parts. -/

/-- Whatever a marked part of the expression takes has the property. -/
def Marking (Q : List Char → Prop) : Regex → Prop
  | .empty => True
  | .one _ => True
  | .look _ => True
  | .cat a b => a.Marking Q ∧ b.Marking Q
  | .alt a b => a.Marking Q ∧ b.Marking Q
  | .star _ a => a.Marking Q
  | .mark a => a.Takes Q

/-- The second place is further on, and what is marked there was marked before or lies in the text
after the first place and has the property. -/
structure Cursor.Passes (Q : List Char → Prop) (c d : Cursor) : Prop where
  onward : c.Onward d
  marked : d.marked = c.marked ∨ ∃ part, d.marked = some part ∧ Q part ∧ part <:+: c.rest

section Marks

variable {Q : List Char → Prop}

theorem Cursor.Passes.refl (c : Cursor) : c.Passes Q c := ⟨.refl c, .inl rfl⟩

theorem Cursor.Passes.trans {a b c : Cursor} (hab : a.Passes Q b) (hbc : b.Passes Q c) :
    a.Passes Q c where
  onward := hab.onward.trans hbc.onward
  marked := by
    rcases hbc.marked with hsame | ⟨part, hpart, hQ, hin⟩
    · rw [hsame]
      exact hab.marked
    · exact .inr ⟨part, hpart, hQ, hin.trans hab.onward.isInfix⟩

/-- **Marked parts are parts of the text**, and each is as its expression says. -/
theorem Marking.keeps {r : Regex} (h : r.Marking Q) : Keeps (Cursor.Passes Q) r := by
  induction r with
  | empty =>
      intro c d hd
      rw [mem_runs_empty.1 hd]
      exact .refl c
  | one accepts => exact .one fun c x rest hrest _ => ⟨⟨[x], hrest.symm⟩, .inl rfl⟩
  | look fits => exact .look .refl fits
  | cat a b iha ihb => exact .cat .trans (iha h.1) (ihb h.2)
  | alt a b iha ihb => exact .alt (iha h.1) (ihb h.2)
  | star greedy a ih => exact .star .refl .trans greedy (ih h)
  | mark a _ =>
      intro c e he
      obtain ⟨d, hd, rfl⟩ := mem_runs_mark.1 he
      exact ⟨keeps_onward a c d hd,
        .inr ⟨c.taken d, rfl, h c d hd, (List.take_prefix _ _).isInfix⟩⟩

/-! ## §5. Searching. -/

/-- What a search finds is a way through the expression that starts in the text, with nothing marked
yet. -/
theorem exists_start_of_search {r : Regex} :
    ∀ {text : List Char} {before : Option Char} {d : Cursor}, r.search before text = some d →
      ∃ c, c.rest <:+ text ∧ c.marked = none ∧ d ∈ r.runs c := by
  intro text
  induction text with
  | nil =>
      intro before d h
      exact ⟨⟨before, [], none⟩, List.suffix_refl _, rfl, List.mem_of_mem_head? h⟩
  | cons x text ih =>
      intro before d h
      rw [search] at h
      split at h
      · rename_i found hfound
        cases h
        exact ⟨⟨before, x :: text, none⟩, List.suffix_refl _, rfl, List.mem_of_mem_head? hfound⟩
      · obtain ⟨c, hc, hmarked, hd⟩ := ih h
        exact ⟨c, hc.trans (List.suffix_cons x text), hmarked, hd⟩

theorem Marking.search {r : Regex} (h : r.Marking Q) {text : List Char} {before : Option Char}
    {d : Cursor} (hd : r.search before text = some d) :
    d.rest <:+ text ∧ ∀ part, d.marked = some part → Q part ∧ part <:+: text := by
  obtain ⟨c, hc, hmarked, hd⟩ := exists_start_of_search hd
  have hpasses := h.keeps c d hd
  refine ⟨List.IsSuffix.trans hpasses.onward hc, fun part hpart => ?_⟩
  rcases hpasses.marked with hsame | ⟨part', hpart', hQ, hin⟩
  · rw [hpart, hmarked] at hsame
    cases hsame
  · obtain rfl : part = part' := by simpa [hpart] using hpart'
    exact ⟨hQ, hin.trans hc.isInfix⟩

/-- **The part that is found** is part of the text, and as the marked parts are. -/
theorem Marking.find {r : Regex} (h : r.Marking Q) {text part : List Char}
    (hfind : r.find text = some part) : Q part ∧ part <:+: text := by
  obtain ⟨d, hd, hpart⟩ := Option.bind_eq_some_iff.1 hfind
  exact (h.search hd).2 part hpart

/-- **All parts that are found**, one match after the other, are such parts. -/
theorem Marking.findAll {r : Regex} (h : r.Marking Q) {text part : List Char}
    (hpart : part ∈ r.findAll text) : Q part ∧ part <:+: text := by
  have hafter : ∀ (before : Option Char) (text : List Char), part ∈ r.findAllAfter before text →
      Q part ∧ part <:+: text := by
    intro before text
    fun_induction findAllAfter r before text with
    | case1 before text hnone => exact fun hpart => absurd hpart List.not_mem_nil
    | case2 before text d hd hshorter ih =>
        intro hpart
        obtain ⟨hrest, hmarked⟩ := h.search hd
        rcases List.mem_append.1 hpart with hpart | hpart
        · exact hmarked part (Option.mem_toList.1 hpart)
        · exact ⟨(ih hpart).1, (ih hpart).2.trans hrest.isInfix⟩
    | case3 before text d hd hshorter =>
        exact fun hpart => (h.search hd).2 part (Option.mem_toList.1 hpart)
  exact hafter none text hpart

end Marks

/-! ## §6. The marked parts of expressions that are built. -/

section Building

variable {Q : List Char → Prop}

@[simp] theorem marking_seq {rs : List Regex} : (seq rs).Marking Q ↔ ∀ r ∈ rs, r.Marking Q := by
  induction rs with
  | nil => simp [seq, Marking]
  | cons r rs ih =>
      rw [List.forall_mem_cons, ← ih]
      rfl

@[simp] theorem marking_one (accepts : Char → Bool) : (one accepts).Marking Q := trivial

@[simp] theorem marking_char (c : Char) : (char c).Marking Q := trivial

@[simp] theorem marking_text (s : String) : (text s).Marking Q := by
  simp [text]

theorem marking_oneOf : ∀ {rs : List Regex}, (∀ r ∈ rs, r.Marking Q) → (oneOf rs).Marking Q
  | [], _ => trivial
  | [r], h => h r List.mem_cons_self
  | r :: _ :: _, h =>
      ⟨h r List.mem_cons_self, marking_oneOf fun s hs => h s (List.mem_cons_of_mem _ hs)⟩

@[simp] theorem marking_texts (ss : List String) : (texts ss).Marking Q :=
  marking_oneOf fun r hr => by
    obtain ⟨s, -, rfl⟩ := List.mem_map.1 hr
    exact marking_text s

@[simp] theorem marking_opt {r : Regex} : (opt r).Marking Q ↔ r.Marking Q := and_iff_left trivial

@[simp] theorem marking_many {r : Regex} : (many r).Marking Q ↔ r.Marking Q := Iff.rfl

@[simp] theorem marking_many1 {r : Regex} : (many1 r).Marking Q ↔ r.Marking Q := and_self_iff

@[simp] theorem marking_blanks : blanks.Marking Q := trivial

@[simp] theorem marking_blanks1 : blanks1.Marking Q := ⟨trivial, trivial⟩

@[simp] theorem marking_boundary : boundary.Marking Q := trivial

@[simp] theorem marking_start : start.Marking Q := trivial

@[simp] theorem marking_lineStart : lineStart.Marking Q := trivial

end Building

end CodeSurvey.Regex
