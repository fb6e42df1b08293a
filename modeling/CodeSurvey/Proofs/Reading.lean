/-
  What a query says, whatever grammar it is checked against.

  A grammar decides whether a query is accepted: the kinds, tokens and fields it names must be
  there.  It has no say in what an accepted query means.  Two readings of one text that both come to
  an end come to the same one; in the words used here, they `Agree`.

  Main result, `rules_eq_of_compile`: the rules of a compiled query are told by its text alone.
  That a grammar accepts a text is found out by reading it (`accepted_of_compileText`).
-/
import CodeSurvey.Proofs.Spelling
import CodeSurvey.Query.Compiled

namespace CodeSurvey.Query

open Syntax

/-! ## §1. Readings that agree. -/

/-- If both come to an end, they come to the same one. -/
def Agree {ε α : Type} (x y : Except ε α) : Prop := ∀ a b, x = .ok a → y = .ok b → a = b

section Agree

variable {ε α β : Type} {x y : Except ε α}

theorem Agree.refl (x : Except ε α) : Agree x x := by
  intro a b ha hb
  exact Except.ok.inj (ha.symm.trans hb)

theorem agree_error_left (e : ε) : Agree (.error e) y := by
  rintro a b ⟨⟩

theorem agree_error_right (e : ε) : Agree x (.error e) := by
  rintro a b _ ⟨⟩

/-- **Two readings that agree** may be gone on with, if what is read behind them agrees. -/
theorem Agree.bind {f g : α → Except ε β} (h : Agree x y) (hnext : ∀ a, Agree (f a) (g a)) :
    Agree (x.bind f) (y.bind g) := by
  cases x with
  | error e => exact agree_error_left e
  | ok a =>
      cases y with
      | error e => exact agree_error_right e
      | ok b =>
          obtain rfl := h a b rfl rfl
          exact hnext a

theorem Agree.map (f : α → β) (h : Agree x y) : Agree (x.map f) (y.map f) := by
  have hbind : ∀ z : Except ε α, z.map f = z.bind fun a => .ok (f a) := by
    rintro (e | a) <;> rfl
  rw [hbind, hbind]
  exact h.bind fun _ => .refl _

/-- What a grammar must know is read if both know it. -/
theorem agree_ite {p q : Prop} [Decidable p] [Decidable q] {e e' : ε} (h : Agree x y) :
    Agree (if p then x else .error e) (if q then y else .error e') := by
  split
  · split
    · exact h
    · exact agree_error_right e'
  · exact agree_error_left e

end Agree

theorem kindTest?_agree {g g' : Grammar} {name : String} {test test' : Test}
    (h : kindTest? g name = some test) (h' : kindTest? g' name = some test') : test = test' := by
  unfold kindTest? at h h'
  split at h
  · rename_i hblank
    rw [if_pos hblank] at h'
    exact Option.some.inj (h.symm.trans h')
  · rename_i hblank
    rw [if_neg hblank] at h'
    split at h
    · rename_i herror
      rw [if_pos herror] at h'
      exact Option.some.inj (h.symm.trans h')
    · rename_i herror
      rw [if_neg herror] at h'
      split at h
      · split at h'
        · exact Option.some.inj (h.symm.trans h')
        · cases h'
      · cases h

/-! ## §2. Patterns. -/

section Patterns

variable (g g' : Grammar)

/-- All that is read with some fuel is read alike. -/
structure AgreeAt (fuel : Nat) : Prop where
  pattern : ∀ notes cs, Agree (readPattern g fuel notes cs) (readPattern g' fuel notes cs)
  branches : ∀ notes acc cs,
    Agree (readBranches g fuel notes acc cs) (readBranches g' fuel notes acc cs)
  items : ∀ notes acc cs, Agree (readItems g fuel notes acc cs) (readItems g' fuel notes acc cs)
  children : ∀ notes acc absent cs,
    Agree (readChildren g fuel notes acc absent cs) (readChildren g' fuel notes acc absent cs)

variable {g g'}

theorem readBranches_agree {fuel : Nat} (h : AgreeAt g g' fuel) (notes : Notes)
    (acc : List Pattern) (cs : List Char) :
    Agree (readBranches g (fuel + 1) notes acc cs) (readBranches g' (fuel + 1) notes acc cs) := by
  unfold readBranches
  refine (h.pattern notes cs).bind fun found => ?_
  obtain ⟨_ | _ | p, notes, rest⟩ := found
  · exact .refl _
  · exact h.branches notes acc rest
  · exact h.branches notes (p :: acc) rest

theorem readItems_agree {fuel : Nat} (h : AgreeAt g g' fuel) (notes : Notes)
    (acc : List (Bool × Pattern)) (cs : List Char) :
    Agree (readItems g (fuel + 1) notes acc cs) (readItems g' (fuel + 1) notes acc cs) := by
  unfold readItems
  -- behind the anchor, if there is one
  split
  rename_i anchored cs _
  refine (h.pattern notes cs).bind fun found => ?_
  obtain ⟨_ | _ | p, notes, rest⟩ := found
  · exact .refl _
  · exact h.items notes acc rest
  · exact h.items notes ((anchored, p) :: acc) rest

theorem readChildren_agree {fuel : Nat} (h : AgreeAt g g' fuel) (notes : Notes)
    (acc : List (Bool × Pattern)) (absent : List String) (cs : List Char) :
    Agree (readChildren g (fuel + 1) notes acc absent cs)
      (readChildren g' (fuel + 1) notes acc absent cs) := by
  unfold readChildren
  split
  · -- a field that must be absent
    dsimp only
    split
    · exact .refl _
    · exact agree_ite (h.children _ _ _ _)
  · split
    rename_i anchored cs _
    refine (h.pattern notes cs).bind fun found => ?_
    obtain ⟨_ | _ | p, notes, rest⟩ := found
    · exact .refl _
    · exact h.children notes acc absent rest
    · exact h.children notes ((anchored, p) :: acc) absent rest

theorem readPattern_agree {fuel : Nat} (h : AgreeAt g g' fuel) (notes : Notes) (cs : List Char) :
    Agree (readPattern g (fuel + 1) notes cs) (readPattern g' (fuel + 1) notes cs) := by
  unfold readPattern
  dsimp only
  split
  · exact .refl _
  · exact .refl _
  · exact .refl _
  · -- a choice
    rename_i rest
    exact (h.branches notes [] (skipBlanks false rest)).bind fun _ => .refl _
  · rename_i rest
    have hgroup := h.items notes [] (skipBlanks false rest)
    split
    · exact hgroup.bind fun _ => .refl _
    · exact hgroup.bind fun _ => .refl _
    · exact hgroup.bind fun _ => .refl _
    · exact .refl _
    · exact .refl _
    · -- a node
      split
      · exact .refl _
      · rename_i name after _
        split
        · exact .refl _
        · cases htest : kindTest? g name with
          | none => exact agree_error_left _
          | some test =>
              cases htest' : kindTest? g' name with
              | none => exact agree_error_right _
              | some test' =>
                  obtain rfl := kindTest?_agree htest htest'
                  exact (h.children notes [] [] (skipBlanks false after)).bind fun _ => .refl _
  · exact .refl _
  · -- a token
    split
    · exact .refl _
    · exact agree_ite (.refl _)
  · -- a field
    split
    · exact .refl _
    · rename_i name _ _
      split
      · rename_i rest _
        refine (h.pattern notes (skipBlanks false rest)).bind fun found => ?_
        obtain ⟨_ | _ | p, notes, rest⟩ := found
        · exact .refl _
        · exact agree_ite (.refl _)
        · exact agree_ite (.refl _)
      · exact .refl _

theorem agreeAt (g g' : Grammar) (fuel : Nat) : AgreeAt g g' fuel := by
  induction fuel with
  | zero =>
      -- without fuel nothing is read
      refine ⟨fun notes cs => ?_, fun notes acc cs => ?_, fun notes acc cs => ?_,
        fun notes acc absent cs => ?_⟩
      · unfold readPattern
        exact .refl _
      · unfold readBranches
        exact .refl _
      · unfold readItems
        exact .refl _
      · unfold readChildren
        exact .refl _
  | succ fuel ih =>
      exact ⟨readPattern_agree ih, readBranches_agree ih, readItems_agree ih,
        readChildren_agree ih⟩

end Patterns

/-! ## §3. Queries. -/

theorem readPatterns_agree (g g' : Grammar) (fuel : Nat) : ∀ count captures cs,
    Agree (readPatterns g count fuel captures cs) (readPatterns g' count fuel captures cs) := by
  intro count
  induction count with
  | zero =>
      intro captures cs
      unfold readPatterns
      exact .refl _
  | succ count ih =>
      intro captures cs
      unfold readPatterns
      split
      · exact .refl _
      · refine ((agreeAt g g' fuel).pattern { captures := captures } cs).bind fun found => ?_
        obtain ⟨_ | _ | p, notes, rest⟩ := found
        · exact .refl _
        · exact (ih notes.captures rest).map _
        · exact (ih notes.captures rest).map _

/-- **The text alone tells what a query means.** -/
theorem rules_eq_of_compile {g g' : Grammar} {source : String} {c c' : Compiled}
    (h : compile g source = .ok c) (h' : compile g' source = .ok c') : c.rules = c'.rules := by
  have hread := readPatterns_agree g g' (2 * source.toList.length + 8)
    (2 * source.toList.length + 8) [] (skipBlanks false source.toList)
  unfold compile at h h'
  dsimp only at h h'
  split at h
  · cases h
  · rename_i patterns hpatterns
    split at h'
    · cases h'
    · rename_i patterns' hpatterns'
      obtain rfl := hread patterns patterns' hpatterns hpatterns'
      cases hrules : resolvePatterns source.toList patterns with
      | error fault =>
          rw [hrules] at h
          cases h
      | ok rules =>
          rw [hrules] at h h'
          cases h
          cases h'
          rfl

/-- Reads and checks a query that is given by its characters. -/
def compileText (grammar : Grammar) (text : List Char) : Except Fault Compiled :=
  let fuel := 2 * text.length + 8
  match readPatterns grammar fuel fuel [] (skipBlanks false text) with
  | .error halt => .error (.spot halt.cause (Text.byteLength text - Text.byteLength halt.rest))
  | .ok patterns => (resolvePatterns text patterns).map (Compiled.mk grammar)

theorem compile_ofList (g : Grammar) (text : List Char) :
    compile g (String.ofList text) = compileText g text := by
  have hcompile : ∀ source, compile g source = compileText g source.toList := fun _ => rfl
  rw [hcompile, String.toList_ofList]

/-! ## §4. Queries that a grammar accepts. -/

/-- A query compiles, with a grammar, to rules that pass a check. -/
def Accepted (g : Grammar) (check : List Rule → Bool) (query : String) : Prop :=
  ∃ c, compile g query = .ok c ∧ check c.rules = true

/-- What one grammar accepts passes the check whatever grammar it is compiled for. -/
theorem Accepted.rules {g g' : Grammar} {check : List Rule → Bool} {query : String} {c : Compiled}
    (h : Accepted g check query) (hc : compile g' query = .ok c) : check c.rules = true := by
  obtain ⟨read, hread, hcheck⟩ := h
  rw [rules_eq_of_compile hc hread]
  exact hcheck

theorem Accepted.weaken {g : Grammar} {check : List Rule → Bool} {query : String}
    (h : Accepted g check query) : Accepted g (fun _ => true) query := by
  obtain ⟨read, hread, -⟩ := h
  exact ⟨read, hread, rfl⟩

/-- All rules of the query pass a check, whatever grammar it is compiled for. -/
def Ensures (check : Rule → Bool) (query : String) : Prop :=
  ∀ g c, compile g query = .ok c → ∀ r ∈ c.rules, check r = true

/-- **One reading is enough** to know what the rules of a query pass. -/
theorem Accepted.ensures {g : Grammar} {check : Rule → Bool} {query : String}
    (h : Accepted g (·.all check) query) : Ensures check query :=
  fun _ _ hc => List.all_eq_true.1 (h.rules hc)

theorem accepted_of_compileText {g : Grammar} {check : List Rule → Bool} {query : String}
    {text : List Char} (hquery : query = String.ofList text)
    (h : (compileText g text).toOption.any (fun c => check c.rules) = true) :
    Accepted g check query := by
  subst hquery
  cases hread : compileText g text with
  | error fault =>
      rw [hread] at h
      cases h
  | ok c =>
      rw [hread] at h
      exact ⟨c, (compile_ofList g text).trans hread, h⟩

/-- The octets of a string, each taken as a character. -/
def octetChars (s : String) : List Char :=
  s.toByteArray.data.toList.map fun b => Char.ofNat b.toNat

theorem utf8EncodeChar_ofNat {b : UInt8} (hb : b.toNat < 128) :
    String.utf8EncodeChar (Char.ofNat b.toNat) = [b] := by
  have hval : (Char.ofNat b.toNat).val.toNat = b.toNat := by
    rw [Char.ofNat, dif_pos (Or.inl (by omega))]
    rfl
  unfold String.utf8EncodeChar
  dsimp only
  rw [hval, if_pos (by omega), UInt8.ofNat_toNat]

/-- A string of octets below 128 is spelled by them. -/
theorem eq_ofList_octetChars {s : String}
    (h : (s.toByteArray.data.toList.all fun b => b.toNat < 128) = true) :
    s = String.ofList (octetChars s) := by
  have hoctets : ∀ l : List UInt8, (l.all fun b => b.toNat < 128) = true →
      (l.map fun b => Char.ofNat b.toNat).flatMap String.utf8EncodeChar = l := by
    intro l
    induction l with
    | nil => exact fun _ => rfl
    | cons b l ih =>
        intro hl
        rw [List.all_cons, Bool.and_eq_true, decide_eq_true_eq] at hl
        rw [List.map_cons, List.flatMap_cons, utf8EncodeChar_ofNat hl.1, ih hl.2]
        rfl
  rw [← String.toByteArray_inj, String.toByteArray_ofList, List.utf8Encode, octetChars,
    hoctets _ h]
  refine ByteArray.ext ?_
  rw [List.data_toByteArray, Array.toArray_toList]

/-- Does a query compile, with a grammar, to rules that pass a check?  The octets of a text are
quicker to go through than its characters. -/
def accepts (g : Grammar) (check : List Rule → Bool) (query : String) : Bool :=
  (query.toByteArray.data.toList.all fun b => b.toNat < 128)
    && (compileText g (octetChars query)).toOption.any fun c => check c.rules

theorem accepted_of_accepts {g : Grammar} {check : List Rule → Bool} {query : String}
    (h : accepts g check query = true) : Accepted g check query := by
  unfold accepts at h
  rw [Bool.and_eq_true] at h
  exact accepted_of_compileText (eq_ofList_octetChars h.1) h.2

end CodeSurvey.Query
