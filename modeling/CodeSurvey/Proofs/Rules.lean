/-
  What the rules make of their sightings.

  A plugin's rule looks at the role and the name of a sighting.  It makes a function, an element of
  another kind, or nothing, and whatever it makes is an element of the sighted node (`Makes`).  A table
  says which kind of element a role is for, and in which roles something is made exactly if there is
  a name.

      each rule makes what the table of its language says          (`makes_rule`, five times)
      what is made in a role is of the kind that the role is for   (`Makes.gives`)
      so nothing of a kind comes of sightings in other roles       (`Makes.unobserved`)
      nothing at all comes of a sighting that lacks its name       (`Makes.unnamed`)
      what is observed of a kind is seen at the places of forms    (`observes_of_makes`)
-/
import CodeSurvey.Proofs.Declarations

namespace CodeSurvey.Extract

open Syntax Query

/-! ## §1. Roles and elements. -/

/-- What the roles of a language's sightings are for. -/
structure RoleTable where
  /-- The roles, each with the word for the kind of the elements that are made in it. -/
  words : List (String × String)
  /-- The roles in which something is made exactly of the sightings that have a name. -/
  named : List String
  nodup : (words.map Prod.fst).Nodup := by decide

namespace RoleTable

variable {r : RoleTable} {role word word' : String}

/-- The roles for a kind of elements. -/
def rolesFor (r : RoleTable) (word : String) : List String :=
  (r.words.filter fun entry => entry.2 == word).map Prod.fst

theorem mem_rolesFor : role ∈ r.rolesFor word ↔ (role, word) ∈ r.words := by
  simp only [rolesFor, List.mem_map, List.mem_filter, beq_iff_eq]
  constructor
  · rintro ⟨⟨_, _⟩, ⟨hentry, rfl⟩, rfl⟩
    exact hentry
  · exact fun h => ⟨(role, word), ⟨h, rfl⟩, rfl⟩

/-- A role is for one kind only. -/
theorem word_eq (h : role ∈ r.rolesFor word) (h' : role ∈ r.rolesFor word') : word = word' := by
  rw [mem_rolesFor] at h h'
  exact congrArg Prod.snd (List.inj_on_of_nodup_map r.nodup h h' rfl)

end RoleTable

/-- Is a role for elements of this kind, which is not that of functions? -/
def RoleTable.allows (r : RoleTable) (role : String) (kind : ElementKind) : Bool :=
  (r.rolesFor kind.word).contains role && kind.word != "function"

/-- What a rule makes of a sighting: a function, an element of another kind, or nothing. -/
inductive Makes (p : Parsed) (decisions : String) (r : RoleTable) (s : Sighting) :
    Extraction (Option Element) → Prop where
  | function (name : String) (facts : FunctionFacts) (hrole : s.role ∈ r.rolesFor "function")
      (hname : s.name = some name) :
      Makes p decisions r s (some <$> functionOf p s.spot.tree name facts decisions)
  | element (name : String) (kind : ElementKind) (hkind : r.allows s.role kind = true)
      (hname : s.role ∈ r.named → s.name = some name) :
      Makes p decisions r s (pure (some (elementOf p s.spot.tree name kind)))
  | nothing (hname : s.role ∈ r.named → s.name = none) : Makes p decisions r s (pure none)

namespace Makes

variable {p : Parsed} {decisions : String} {r : RoleTable} {s : Sighting}
  {x : Extraction (Option Element)}

/-- A class-like element of a sighting that has a name. -/
theorem classLike {e : Element} {name : String} (hrole : s.role ∈ r.rolesFor "class")
    (hname : s.name = some name)
    (he : ∃ facts, e = elementOf p s.spot.tree name (.classLike facts)) :
    Makes p decisions r s (pure (some e)) := by
  obtain ⟨facts, rfl⟩ := he
  refine .element name _ ?_ fun _ => hname
  rw [RoleTable.allows, Bool.and_eq_true]
  exact ⟨List.contains_iff_mem.2 hrole, rfl⟩

/-- An element that need not be there, in a role that does not go by names. -/
theorem optional {e : Option Element} (hnamed : s.role ∉ r.named)
    (h : ∀ y, e = some y → ∃ name kind, y = elementOf p s.spot.tree name kind ∧
      r.allows s.role kind = true) : Makes p decisions r s (pure e) := by
  cases e with
  | none => exact .nothing fun hmem => absurd hmem hnamed
  | some y =>
      obtain ⟨name, kind, rfl, hkind⟩ := h y rfl
      exact .element name kind hkind fun hmem => absurd hmem hnamed

/-- The work succeeds, and what it makes is of the kind that the role is for. -/
theorem gives (h : Makes p decisions r s x)
    (haccepted : Accepted p.dialect.grammar (fun _ => true) decisions) :
    Gives (fun e => ∀ y, e = some y → s.role ∈ r.rolesFor y.kind.word) x := by
  cases h with
  | function name facts hrole hname =>
      refine (gives_functionOf haccepted s.spot.tree name facts).map ?_
      rintro _ ⟨facts', rfl⟩ y ⟨⟩
      exact hrole
  | element name kind hkind hname =>
      refine .pure ?_
      rintro y ⟨⟩
      exact List.contains_iff_mem.1 (Bool.and_eq_true_iff.1 hkind).1
  | nothing hname =>
      refine .pure ?_
      rintro y ⟨⟩

/-- Elements of a kind come of the roles for it only. -/
theorem unobserved {β : Type} {obs : Element → Option β} {word : String}
    (h : Makes p decisions r s x)
    (haccepted : Accepted p.dialect.grammar (fun _ => true) decisions)
    (hword : ∀ e, (obs e).isSome = (e.kind.word == word)) (hother : s.role ∉ r.rolesFor word) :
    Gives (fun e => e.bind obs = none) x :=
  (h.gives haccepted).imp fun _ he => bind_eq_none hword fun y hy heq => hother (heq ▸ he y hy)

/-- Where a name is needed, nothing comes of a sighting without one. -/
theorem unnamed (h : Makes p decisions r s x) (hnamed : s.role ∈ r.named) (hnone : s.name = none) :
    x = pure none := by
  cases h with
  | function name facts hrole hname =>
      rw [hnone] at hname
      cases hname
  | element name kind hkind hname =>
      have hname := hname hnamed
      rw [hnone] at hname
      cases hname
  | nothing hname => rfl

/-- Where a name is needed and functions are made, one comes of each sighting with a name. -/
theorem named_function (h : Makes p decisions r s x) (hrole : s.role ∈ r.rolesFor "function")
    (hnamed : s.role ∈ r.named) (hsome : s.name.isSome = true) :
    ∃ name facts, x = some <$> functionOf p s.spot.tree name facts decisions := by
  cases h with
  | function name facts hrole hname => exact ⟨name, facts, rfl⟩
  | element name kind hkind hname =>
      obtain ⟨hmem, hother⟩ := Bool.and_eq_true_iff.1 hkind
      exact absurd (RoleTable.word_eq (List.contains_iff_mem.1 hmem) hrole) (bne_iff_ne.1 hother)
  | nothing hname =>
      rw [hname hnamed] at hsome
      cases hsome

end Makes

/-- **What is observed of a rule's elements** is seen at the places of some forms, if these have the
roles for a kind and the rule does its part there. -/
theorem observes_of_makes {p : Parsed} {decisions : String} {r : RoleTable}
    {rule : Sighting → Extraction (Option Element)} {β : Type} {obs : Element → Option β}
    {k : Spot → β} {forms : List Form} {word : String}
    (hmakes : ∀ s, Makes p decisions r s (rule s))
    (haccepted : Accepted p.dialect.grammar (fun _ => true) decisions)
    (hword : ∀ e, (obs e).isSome = (e.kind.word == word))
    (hroles : forms.map Form.role = r.rolesFor word)
    (hmade : ∀ s : Sighting, s.role ∈ r.rolesFor word → s.name.isSome = true →
      Gives (fun e => e.bind obs = some (k s.spot)) (rule s)) : Observes forms obs k rule := by
  intro s hname
  rw [hroles] at hname ⊢
  by_cases hrole : s.role ∈ r.rolesFor word
  · refine (hmade s hrole (hname (List.contains_iff_mem.2 hrole))).imp fun e he => ?_
    rw [he, Sighting.observed_of_mem hrole]
  · refine ((hmakes s).unobserved haccepted hword hrole).imp fun e he => ?_
    rw [he, Sighting.observed_of_notMem hrole]

/-! ## §2. The rules. -/

section Rules

variable (p : Parsed) (s : Sighting)

namespace Python

/-- What the roles of Python are for. -/
def roleTable : RoleTable where
  words := [("function", "function"), ("class", "class"), ("variable", "variable"),
    ("import", "import"), ("import_from", "import")]
  named := ["function", "class", "variable"]

theorem classElement_eq (t : Tree) (name : String) :
    ∃ facts, classElement p t name = elementOf p t name (.classLike facts) := by
  unfold classElement
  split
  · exact ⟨_, rfl⟩
  · exact ⟨_, rfl⟩

theorem importElement_eq {t : Tree} {e : Element} (he : importElement p t = some e) :
    ∃ path short, e = importOf p t path short := by
  unfold importElement at he
  cases hfirst : t.childByField "name" with
  | none =>
      rw [hfirst] at he
      cases he
  | some first =>
      simp only [hfirst, Option.bind_eq_bind, Option.bind_some] at he
      split at he
      · obtain ⟨path, -, he⟩ := Option.bind_eq_some_iff.1 he
        cases he
        exact ⟨_, _, rfl⟩
      · cases he
        exact ⟨_, _, rfl⟩

/-- The rule for Python. -/
theorem makes_rule : Makes p decisions roleTable s (rule p s) := by
  unfold rule
  split
  · rename_i name hrole hname
    exact .function name _ (by rw [hrole]; decide) hname
  · rename_i name hrole hname
    exact .classLike (by rw [hrole]; decide) hname (classElement_eq p _ name)
  · rename_i name hrole hname
    exact .element name _ (by rw [hrole]; rfl) fun _ => hname
  · rename_i hrole
    refine .optional (by rw [hrole]; decide) fun e he => ?_
    obtain ⟨path, short, rfl⟩ := importElement_eq p he
    exact ⟨path, _, rfl, by rw [hrole]; rfl⟩
  · rename_i hrole
    refine .optional (by rw [hrole]; decide) fun e he => ?_
    obtain ⟨path, -, rfl⟩ := Option.map_eq_some_iff.1 he
    exact ⟨path, _, rfl, by rw [hrole]; rfl⟩
  · rename_i hfunction hclass hvariable
    refine .nothing fun hmem => Option.eq_none_iff_forall_ne_some.2 fun name hname => ?_
    simp only [roleTable, List.mem_cons, List.not_mem_nil, or_false] at hmem
    rcases hmem with hrole | hrole | hrole
    · exact hfunction name hrole hname
    · exact hclass name hrole hname
    · exact hvariable name hrole hname

end Python

namespace Java

/-- What the roles of Java are for. -/
def roleTable : RoleTable where
  words := [("package", "package"), ("import", "import"), ("method", "function"),
    ("constructor", "function"), ("field", "variable"), ("class", "class"), ("interface", "class"),
    ("enum", "class"), ("record", "class")]
  named := ["method", "constructor", "field", "class", "interface", "enum", "record"]

theorem typeElement_eq (t : Tree) (classKind name : String) :
    ∃ facts, typeElement p t classKind name = elementOf p t name (.classLike facts) := by
  unfold typeElement
  split
  · exact ⟨_, rfl⟩
  · dsimp only
    split
    · exact ⟨_, rfl⟩
    · exact ⟨_, rfl⟩

/-- The rule for Java. -/
theorem makes_rule : Makes p decisions roleTable s (rule p s) := by
  unfold rule
  split
  · rename_i hrole
    refine .optional (by rw [hrole]; decide) fun e he => ?_
    obtain ⟨name, -, rfl⟩ := Option.map_eq_some_iff.1 he
    exact ⟨name, _, rfl, by rw [hrole]; rfl⟩
  · rename_i hrole
    refine .optional (by rw [hrole]; decide) fun e he => ?_
    obtain ⟨path, -, rfl⟩ := Option.map_eq_some_iff.1 he
    exact ⟨_, _, rfl, by rw [hrole]; rfl⟩
  · rename_i name hrole hname
    exact .function name _ (by rw [hrole]; decide) hname
  · rename_i name hrole hname
    exact .function name _ (by rw [hrole]; decide) hname
  · rename_i name hrole hname
    exact .element name _ (by rw [hrole]; rfl) fun _ => hname
  · rename_i name hname hpackage himport hmethod hconstructor hfield
    split
    · rename_i hrole
      exact .classLike (List.contains_iff_mem.1 hrole) hname (typeElement_eq p _ _ name)
    · rename_i hother
      refine .nothing fun hmem => ?_
      simp only [roleTable, List.mem_cons, List.not_mem_nil, or_false] at hmem
      rcases hmem with hrole | hrole | hrole | hrole
      · exact (hmethod hrole).elim
      · exact (hconstructor hrole).elim
      · exact (hfield hrole).elim
      · exact absurd (by simpa using hrole) hother
  · rename_i hname _ _
    exact .nothing fun _ => hname

end Java

namespace Script

/-- What the roles of scripts are for.  A variable may lack the function that is its value. -/
def roleTable : RoleTable where
  words := [("function", "function"), ("method", "function"), ("function_variable", "function"),
    ("variable", "variable"), ("import", "import"), ("class", "class"), ("interface", "class"),
    ("type", "class"), ("enum", "class")]
  named := ["function", "method", "class", "interface", "type", "enum"]

theorem typeElement_eq (t : Tree) (classKind name : String) :
    ∃ facts, typeElement p t classKind name = elementOf p t name (.classLike facts) := by
  unfold typeElement
  split
  · exact ⟨_, rfl⟩
  · exact ⟨_, rfl⟩
  · exact ⟨_, rfl⟩
  · exact ⟨_, rfl⟩

theorem variableElement_eq {t : Tree} {name : String} {e : Element}
    (he : variableElement p t name = some e) :
    ∃ declaredType, e = elementOf p t name (.variable declaredType) := by
  unfold variableElement at he
  split at he
  · cases he
  · cases he
    exact ⟨_, rfl⟩

/-- The rule for scripts. -/
theorem makes_rule : Makes p decisions roleTable s (rule p s) := by
  unfold rule
  split
  · rename_i name hrole hname
    exact .function name _ (by rw [hrole]; decide) hname
  · rename_i name hrole hname
    exact .function name _ (by rw [hrole]; decide) hname
  · -- the function is the value, and its node is the one that declares it
    rename_i name hrole hname
    dsimp only
    split
    · exact .function name _ (by rw [hrole]; decide) hname
    · exact .nothing fun hmem => absurd (hrole ▸ hmem) (by decide)
  · rename_i name hrole hname
    refine .optional (by rw [hrole]; decide) fun e he => ?_
    obtain ⟨declaredType, rfl⟩ := variableElement_eq p he
    exact ⟨name, _, rfl, by rw [hrole]; rfl⟩
  · rename_i hrole
    refine .optional (by rw [hrole]; decide) fun e he => ?_
    obtain ⟨path, -, rfl⟩ := Option.map_eq_some_iff.1 he
    exact ⟨_, _, rfl, by rw [hrole]; rfl⟩
  · rename_i name hname hfunction hmethod _ _ _
    split
    · rename_i hrole
      refine .classLike ?_ hname (typeElement_eq p _ _ name)
      exact List.contains_iff_mem.1 hrole
    · rename_i hother
      refine .nothing fun hmem => ?_
      simp only [roleTable, List.mem_cons, List.not_mem_nil, or_false] at hmem
      rcases hmem with hrole | hrole | hrole
      · exact (hfunction hrole).elim
      · exact (hmethod hrole).elim
      · exact absurd (by simpa using hrole) hother
  · rename_i hname _
    exact .nothing fun _ => hname

end Script

namespace Go

/-- What the roles of Go are for.  A variable may be local. -/
def roleTable : RoleTable where
  words := [("package", "package"), ("import", "import"), ("function", "function"),
    ("method", "function"), ("type", "class"), ("variable", "variable")]
  named := ["package", "function", "method", "type"]

theorem typeElement_eq (t : Tree) (name : String) :
    ∃ facts, typeElement p t name = elementOf p t name (.classLike facts) := by
  unfold typeElement
  split
  · exact ⟨_, rfl⟩
  · split
    · exact ⟨_, rfl⟩
    · exact ⟨_, rfl⟩
    · exact ⟨_, rfl⟩

/-- The rule for Go. -/
theorem makes_rule : Makes p decisions roleTable s (rule p s) := by
  unfold rule
  split
  · rename_i name hrole hname
    exact .element name _ (by rw [hrole]; rfl) fun _ => hname
  · rename_i hrole
    refine .optional (by rw [hrole]; decide) fun e he => ?_
    obtain ⟨path, -, rfl⟩ := Option.map_eq_some_iff.1 he
    exact ⟨_, _, rfl, by rw [hrole]; rfl⟩
  · rename_i name hrole hname
    exact .function name _ (by rw [hrole]; decide) hname
  · rename_i name hrole hname
    exact .function name _ (by rw [hrole]; decide) hname
  · rename_i name hrole hname
    exact .classLike (by rw [hrole]; decide) hname (typeElement_eq p _ name)
  · rename_i name hrole hname
    split
    · exact .nothing fun hmem => absurd (hrole ▸ hmem) (by decide)
    · exact .element name _ (by rw [hrole]; rfl) fun _ => hname
  · rename_i hpackage hfunction hmethod htype _
    refine .nothing fun hmem => Option.eq_none_iff_forall_ne_some.2 fun name hname => ?_
    simp only [roleTable, List.mem_cons, List.not_mem_nil, or_false] at hmem
    rcases hmem with hrole | hrole | hrole | hrole
    · exact hpackage name hrole hname
    · exact hfunction name hrole hname
    · exact hmethod name hrole hname
    · exact htype name hrole hname

end Go

namespace Rust

/-- What the roles of Rust are for. -/
def roleTable : RoleTable where
  words := [("function", "function"), ("module", "package"), ("variable", "variable"),
    ("import", "import"), ("struct", "class"), ("enum", "class"), ("union", "class"),
    ("trait", "class"), ("type", "class")]
  named := ["function", "module", "variable", "struct", "enum", "union", "trait", "type"]

theorem typeElement_eq (t : Tree) (classKind name : String) :
    ∃ facts, typeElement p t classKind name = elementOf p t name (.classLike facts) := by
  unfold typeElement
  repeat' split
  all_goals exact ⟨_, rfl⟩

theorem importElement_eq (t argument : Tree) :
    ∃ path short, importElement p t argument = importOf p t path short := by
  unfold importElement
  split
  · exact ⟨_, _, rfl⟩
  · exact ⟨_, _, rfl⟩

/-- The rule for Rust. -/
theorem makes_rule : Makes p decisions roleTable s (rule p s) := by
  unfold rule
  split
  · rename_i name hrole hname
    exact .function name _ (by rw [hrole]; decide) hname
  · rename_i name hrole hname
    exact .element name _ (by rw [hrole]; rfl) fun _ => hname
  · rename_i name hrole hname
    exact .element name _ (by rw [hrole]; rfl) fun _ => hname
  · rename_i hrole
    refine .optional (by rw [hrole]; decide) fun e he => ?_
    obtain ⟨argument, -, rfl⟩ := Option.map_eq_some_iff.1 he
    obtain ⟨path, short, himport⟩ := importElement_eq p s.spot.tree argument.tree
    exact ⟨path, _, himport, by rw [hrole]; rfl⟩
  · rename_i name hname hfunction hmodule hvariable _
    split
    · rename_i hrole
      refine .classLike ?_ hname (typeElement_eq p _ _ name)
      exact List.contains_iff_mem.1 hrole
    · rename_i hother
      refine .nothing fun hmem => ?_
      simp only [roleTable, List.mem_cons, List.not_mem_nil, or_false] at hmem
      rcases hmem with hrole | hrole | hrole | hrole
      · exact (hfunction hrole).elim
      · exact (hmodule hrole).elim
      · exact (hvariable hrole).elim
      · exact absurd (by simpa using hrole) hother
  · rename_i hname _
    exact .nothing fun _ => hname

end Rust

end Rules

end CodeSurvey.Extract
