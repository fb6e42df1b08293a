/-
  Extraction and comments.

  The queries of the plugins overlook comments (§1), and so does nearly all that their rules read
  off a node (§2 to §6).  What does not is read by its place, or counted without a look at it:

      Python      is a statement of a class body an assignment?     its first named child
      scripts     the name given to a whole module                  its first named child
      Go          the receiver of a method                          the first in its list
      Rust        the fields of a struct without names              named children of most kinds

  `Undisturbed` says for each that no comment is in the way.  Main result, `comments_ignored`: then
  each plugin makes the same of a file with and without the comments in it, elements, errors and
  memory alike, if comments have no fields and no field leads to one (`CommentsApart`).

  A comment that is in the way is taken for something else (`remark_before_name_taken`).
-/
import CodeSurvey.Proofs.Sightings
import CodeSurvey.Syntax.Grammar

namespace CodeSurvey

open Syntax Query Extract

/-! ## §1. The queries at hand. -/

namespace Extract

section Queries

-- the kernel walks through the whole text of a query
set_option maxRecDepth 10000

/-- The two queries of a language, with a grammar that accepts them; both overlook comments. -/
structure QueryPair where
  grammar : Grammar
  declarations : String
  decisions : String
  declared : Accepted grammar (·.all Rule.overlooks) declarations
  decided : Accepted grammar (·.all Rule.overlooks) decisions

/-- The queries of Python. -/
def Python.queries : QueryPair where
  grammar := .python
  declarations := declarations
  decisions := decisions
  declared := accepted_of_compileText rfl (by decide +kernel)
  decided := accepted_of_compileText rfl (by decide +kernel)

theorem Python.declarations_overlook : Ensures Rule.overlooks declarations :=
  queries.declared.ensures

theorem Python.decisions_accepted : Accepted .python (·.all Rule.overlooks) decisions :=
  queries.decided

/-- The queries of Java. -/
def Java.queries : QueryPair where
  grammar := .java
  declarations := declarations
  decisions := decisions
  declared := accepted_of_compileText rfl (by decide +kernel)
  decided := accepted_of_compileText rfl (by decide +kernel)

theorem Java.declarations_overlook : Ensures Rule.overlooks declarations := queries.declared.ensures

theorem Java.decisions_accepted : Accepted .java (·.all Rule.overlooks) decisions := queries.decided

/-- The text of both lists of declarations, one after the other. -/
theorem ofList_append_append (s t u : List Char) :
    String.ofList s ++ String.ofList t ++ String.ofList u = String.ofList (s ++ t ++ u) := by
  rw [String.ofList_append, String.ofList_append]

/-- The queries of scripts, without and with types. -/
def Script.queries : Bool → QueryPair
  | false =>
    { grammar := .javascript
      declarations := declarations false
      decisions := decisions
      declared := accepted_of_compileText rfl (by decide +kernel)
      decided := accepted_of_compileText rfl (by decide +kernel) }
  | true =>
    { grammar := .typescript
      declarations := declarations true
      decisions := decisions
      declared := accepted_of_compileText (ofList_append_append _ _ _) (by decide +kernel)
      decided := accepted_of_compileText rfl (by decide +kernel) }

theorem Script.declarations_overlook (typed : Bool) :
    Ensures Rule.overlooks (declarations typed) := by
  cases typed with
  | false => exact (queries false).declared.ensures
  | true => exact (queries true).declared.ensures

theorem Script.decisions_accepted : Accepted .javascript (·.all Rule.overlooks) decisions :=
  (queries false).decided

/-- The queries of Go. -/
def Go.queries : QueryPair where
  grammar := .go
  declarations := declarations
  decisions := decisions
  declared := accepted_of_compileText rfl (by decide +kernel)
  decided := accepted_of_compileText rfl (by decide +kernel)

theorem Go.declarations_overlook : Ensures Rule.overlooks declarations := queries.declared.ensures

theorem Go.decisions_accepted : Accepted .go (·.all Rule.overlooks) decisions := queries.decided

theorem Go.declarations_reserve :
    Ensures (Rule.reserves "method" "method_declaration") declarations :=
  (accepted_of_compileText rfl (by decide +kernel) : Accepted .go _ _).ensures

/-- The queries of Rust. -/
def Rust.queries : QueryPair where
  grammar := .rust
  declarations := declarations
  decisions := decisions
  declared := accepted_of_compileText rfl (by decide +kernel)
  decided := accepted_of_compileText rfl (by decide +kernel)

theorem Rust.declarations_overlook : Ensures Rule.overlooks declarations := queries.declared.ensures

theorem Rust.decisions_accepted : Accepted .rust (·.all Rule.overlooks) decisions := queries.decided

theorem Rust.declarations_reserve : Ensures (Rule.reserves "struct" "struct_item") declarations :=
  (accepted_of_compileText rfl (by decide +kernel) : Accepted .rust _ _).ensures

end Queries

variable {drop : Tree → Bool} {p : Parsed} {t : Tree} {s : Sighting}

/-! ## §2. Java: nothing depends on the place of a child. -/

namespace Java

theorem modifiers_without (hd : Droppable drop) (t : Tree) :
    modifiers (p.without drop) (t.without drop) = modifiers p t := by
  unfold modifiers
  rw [childOfKind_without hd "modifiers" rfl]
  cases t.childOfKind "modifiers" with
  | none => rfl
  | some m => simp only [Option.map_some, text_without]

theorem qualifiedName_without (hd : Droppable drop) (t : Tree) :
    qualifiedName (p.without drop) (t.without drop) = qualifiedName p t := by
  unfold qualifiedName
  rw [find?_named_without hd fun kind => kind == "scoped_identifier" || kind == "identifier",
    Option.map_map]
  · exact congrArg (Option.map · _) (funext text_without)
  · intro kind hkind
    rcases Bool.or_eq_true_iff.1 hkind with hkind | hkind
    · exact not_commentKind_of_beq rfl kind hkind
    · exact not_commentKind_of_beq rfl kind hkind

theorem related_method (hs : Spares drop p.tree.root) (ht : t ∈ p.tree.root.nodes)
    (name : String) :
    Related Eq (method p t name) (method (p.without drop) (t.without drop) name) := by
  refine related_functionOf hs.droppable decisions_accepted.ensures t name ?_
  rw [fieldTexts_without hs ht, fieldText_without hs ht, modifiers_without hs.droppable]

theorem typeElement_without (hs : Spares drop p.tree.root) (ht : t ∈ p.tree.root.nodes)
    (classKind name : String) :
    typeElement (p.without drop) (t.without drop) classKind name
      = typeElement p t classKind name := by
  have hd := hs.droppable
  have hmethods := countChildren_without hd methodKinds rfl
  unfold typeElement
  rw [childByField_spared hs ht]
  cases t.childByField "body" with
  | none => exact classOf_without t _ _ _ _
  | some body =>
      simp only [Option.map_some, classOf_without, hmethods,
        find?_named_without hd (· == "enum_body_declarations") (not_commentKind_of_beq rfl),
        countChildren_without hd ["enum_constant"] rfl,
        countChildren_without hd ["field_declaration", "constant_declaration"] rfl,
        Option.map_map, Function.comp_def]

theorem importElement_without (hd : Droppable drop) (t : Tree) :
    importElement (p.without drop) (t.without drop) = importElement p t := by
  have hstar : (t.without drop).namedChildren.any (·.kind == "asterisk")
      = t.namedChildren.any (·.kind == "asterisk") := by
    rw [Bool.eq_iff_iff, List.any_eq_true, List.any_eq_true, ← List.find?_isSome,
      ← List.find?_isSome,
      find?_named_without hd (· == "asterisk") (not_commentKind_of_beq rfl), Option.isSome_map]
  unfold importElement
  simp only [qualifiedName_without hd, hstar, importOf_without]

theorem related_rule (hs : Spares drop p.tree.root) (hseen : Seen p declarations s) :
    Related Eq (rule p s) (rule (p.without drop) (s.without drop)) := by
  have ht := hseen.inside
  have hd := hs.droppable
  unfold rule
  simp only [Sighting.role_without, Sighting.name_without, Sighting.spot_without,
    Spot.tree_without]
  split
  · simp only [qualifiedName_without hd, elementOf_without]
    exact .pure rfl
  · rw [importElement_without hd]
    exact .pure rfl
  · exact (related_method hs ht _).map fun _ _ h => congrArg some h
  · exact (related_method hs ht _).map fun _ _ h => congrArg some h
  · rw [elementOf_without, fieldText_without hs ht]
    exact .pure rfl
  · rw [typeElement_without hs ht]
    exact .pure rfl
  · exact .pure rfl

theorem related_extract (hs : Spares drop p.tree.root) :
    Related Eq (extract p) (extract (p.without drop)) :=
  related_arranged hs.droppable declarations_overlook _ fun _ hseen => related_rule hs hseen

end Java

/-! ## §3. Python: an assignment is the first thing in its statement. -/

namespace Python

/-- No statement begins with a node that is to be dropped. -/
def Undisturbed (drop : Tree → Bool) (root : Tree) : Prop :=
  ∀ n ∈ root.nodes, n.kind = "expression_statement" →
    ∀ c, n.namedChildren.head? = some c → drop c = false

theorem hasDecorator_without (hd : Droppable drop) (s : Spot) (decorator : String) :
    hasDecorator (p.without drop) (s.without drop) decorator = hasDecorator p s decorator := by
  unfold hasDecorator
  rw [parent_without]
  cases s.parent with
  | none => rfl
  | some up =>
      have hdecorators : (up.tree.without drop).namedChildren.filter (·.kind == "decorator")
          = (up.tree.namedChildren.filter (·.kind == "decorator")).map (Tree.without drop) := by
        rw [Tree.namedChildren_without]
        refine filter_kept (fun c _ => by rw [Tree.kind_without]) fun c _ hc => ?_
        exact kept_of_kind hd (not_commentKind_of_beq rfl c.kind hc)
      simp only [Option.map_some, Spot.tree_without, Tree.kind_without, hdecorators, List.any_map,
        Function.comp_def, text_without]

theorem related_function (hs : Spares drop p.tree.root) {s : Spot}
    (ht : s.tree ∈ p.tree.root.nodes) (name : String) :
    Related Eq (function p s name) (function (p.without drop) (s.without drop) name) := by
  refine related_functionOf hs.droppable decisions_accepted.ensures s.tree name ?_
  rw [Spot.tree_without, fieldTexts_without hs ht, fieldText_without hs ht,
    hasDecorator_without hs.droppable, hasChild_without hs.droppable "async" rfl]

theorem isField_without (hundisturbed : Undisturbed drop p.tree.root)
    (ht : t ∈ p.tree.root.nodes) : isField (t.without drop) = isField t := by
  unfold isField
  rw [Tree.kind_without]
  cases hkind : t.kind == "expression_statement" with
  | false => rfl
  | true =>
      -- the one thing that is taken by its place
      rw [head?_named_without (hundisturbed t ht (eq_of_beq hkind)), Option.map_map]
      exact congrArg (true && · == some "assignment")
        (congrArg (Option.map · _) (funext Tree.kind_without))

theorem isDecoratedFunction_without (hs : Spares drop p.tree.root)
    (ht : t ∈ p.tree.root.nodes) :
    isDecoratedFunction (t.without drop) = isDecoratedFunction t := by
  unfold isDecoratedFunction
  rw [Tree.kind_without, childByField_spared hs ht, Option.map_map]
  simp only [Function.comp_def, Tree.kind_without]

theorem classElement_without (hs : Spares drop p.tree.root)
    (hundisturbed : Undisturbed drop p.tree.root) (ht : t ∈ p.tree.root.nodes) (name : String) :
    classElement (p.without drop) (t.without drop) name = classElement p t name := by
  have hd := hs.droppable
  unfold classElement
  rw [childByField_spared hs ht]
  cases hbody : t.childByField "body" with
  | none => exact classOf_without t _ _ _ _
  | some body =>
      have hinside : ∀ c ∈ body.namedChildren, c ∈ p.tree.root.nodes :=
        fun c hc => Tree.mem_nodes_of_named hc (Tree.mem_nodes_of_field hbody ht)
      -- a comment is neither of the two, so it does not count before it is dropped
      have hfields : (body.without drop).namedChildren.countP isField
          = body.namedChildren.countP isField := by
        rw [Tree.namedChildren_without]
        refine countP_kept (fun c hc => isField_without hundisturbed (hinside c hc)) ?_
        intro c _ hc
        rw [isField, Bool.and_eq_true] at hc
        exact kept_of_kind hd (not_commentKind_of_beq rfl c.kind hc.1)
      have hdecorated : (body.without drop).namedChildren.countP isDecoratedFunction
          = body.namedChildren.countP isDecoratedFunction := by
        rw [Tree.namedChildren_without]
        refine countP_kept (fun c hc => isDecoratedFunction_without hs (hinside c hc)) ?_
        intro c _ hc
        rw [isDecoratedFunction, Bool.and_eq_true] at hc
        exact kept_of_kind hd (not_commentKind_of_beq rfl c.kind hc.1)
      simp only [Option.map_some, classOf_without, methodCount, hfields, hdecorated,
        countChildren_without hd ["function_definition"] rfl]

theorem importElement_without (hs : Spares drop p.tree.root) (ht : t ∈ p.tree.root.nodes) :
    importElement (p.without drop) (t.without drop) = importElement p t := by
  unfold importElement
  rw [childByField_spared hs ht]
  cases hfirst : t.childByField "name" with
  | none => rfl
  | some first =>
      have hinside := Tree.mem_nodes_of_field hfirst ht
      simp only [Option.map_some, Option.bind_eq_bind, Option.bind_some, Tree.kind_without,
        fieldText_without hs hinside, importOf_without, text_without]

theorem related_rule (hs : Spares drop p.tree.root)
    (hundisturbed : Undisturbed drop p.tree.root) (hseen : Seen p declarations s) :
    Related Eq (rule p s) (rule (p.without drop) (s.without drop)) := by
  have ht := hseen.inside
  unfold rule
  simp only [Sighting.role_without, Sighting.name_without, Sighting.spot_without,
    Spot.tree_without]
  split
  · exact (related_function hs ht _).map fun _ _ h => congrArg some h
  · rw [classElement_without hs hundisturbed ht]
    exact .pure rfl
  · rw [elementOf_without, fieldText_without hs ht]
    exact .pure rfl
  · rw [importElement_without hs ht]
    exact .pure rfl
  · simp only [importFromElement, fieldText_without hs ht, importOf_without]
    exact .pure rfl
  · exact .pure rfl

theorem related_extract (hs : Spares drop p.tree.root)
    (hundisturbed : Undisturbed drop p.tree.root) :
    Related Eq (extract p) (extract (p.without drop)) :=
  related_arranged hs.droppable declarations_overlook _ fun _ hseen =>
    related_rule hs hundisturbed hseen

end Python

/-! ## §4. Scripts: the name of a whole module is the first thing in its import. -/

namespace Script

/-- No import of a whole module begins with a node that is to be dropped. -/
def Undisturbed (drop : Tree → Bool) (root : Tree) : Prop :=
  ∀ n ∈ root.nodes, n.kind = "namespace_import" →
    ∀ c, n.namedChildren.head? = some c → drop c = false

theorem parameters_without (hs : Spares drop p.tree.root) (ht : t ∈ p.tree.root.nodes) :
    parameters (p.without drop) (t.without drop) = parameters p t := by
  unfold parameters
  rw [childByField_spared hs ht, fieldText_without hs ht]
  cases t.childByField "parameters" with
  | none => rfl
  | some q => exact childTexts_without hs.droppable q []

theorem visibility_without (hd : Droppable drop) (t : Tree) (name : String) :
    visibility (p.without drop) (t.without drop) name = visibility p t name := by
  unfold visibility
  rw [childOfKind_without hd "accessibility_modifier" rfl]
  cases t.childOfKind "accessibility_modifier" with
  | none => rfl
  | some m => exact text_without m

theorem related_function (hs : Spares drop p.tree.root) {f : Tree}
    (hf : f ∈ p.tree.root.nodes) (t : Tree) (name : String) :
    Related Eq (function p t f name)
      (function (p.without drop) (t.without drop) (f.without drop) name) := by
  have hd := hs.droppable
  refine related_functionOf hd decisions_accepted.ensures t name ?_
  rw [parameters_without hs hf, fieldText_without hs hf, visibility_without hd,
    hasChild_without hd "static" rfl,
    hasChild_without hd "async" rfl]

theorem typeElement_without (hs : Spares drop p.tree.root) (ht : t ∈ p.tree.root.nodes)
    (classKind name : String) :
    typeElement (p.without drop) (t.without drop) classKind name
      = typeElement p t classKind name := by
  have hd := hs.droppable
  unfold typeElement
  rw [childByField_spared hs ht]
  cases t.childByField "body" with
  | none => simp only [Option.map_none, classOf_without]
  | some body =>
      rw [Option.map_some]
      split
      · rename_i heq
        cases heq
        simp only [classOf_without, countChildren_without hd ["method_definition",
            "method_signature", "abstract_method_signature"] rfl,
          countChildren_without hd ["field_definition", "public_field_definition"] rfl]
      · rename_i heq
        cases heq
        simp only [classOf_without, countChildren_without hd ["method_signature"] rfl,
          countChildren_without hd ["property_signature"] rfl]
      · rename_i heq
        cases heq
        simp only [classOf_without,
          countChildren_without hd ["property_identifier", "enum_assignment"] rfl]
      · rename_i hclass hinterface henum
        rw [classOf_without]
        split
        · exact absurd rfl (hclass _ rfl)
        · exact absurd rfl (hinterface _ rfl)
        · exact absurd rfl (henum _ rfl)
        · rfl

theorem namespaceAlias_without (hd : Droppable drop) (hundisturbed : Undisturbed drop p.tree.root)
    (ht : t ∈ p.tree.root.nodes) :
    namespaceAlias (p.without drop) (t.without drop) = namespaceAlias p t := by
  unfold namespaceAlias
  rw [find?_named_without hd (· == "import_clause") (not_commentKind_of_beq rfl)]
  cases hclause : t.namedChildren.find? (·.kind == "import_clause") with
  | none => rfl
  | some clause =>
      simp only [Option.map_some, Option.bind_eq_bind, Option.bind_some]
      rw [find?_named_without hd (· == "namespace_import") (not_commentKind_of_beq rfl)]
      cases hwhole : clause.namedChildren.find? (·.kind == "namespace_import") with
      | none => rfl
      | some whole =>
          have hkind : (whole.kind == "namespace_import") = true :=
            List.find?_some (p := fun c : Tree => c.kind == "namespace_import") hwhole
          have hinside : whole ∈ p.tree.root.nodes :=
            Tree.mem_nodes_of_named (List.mem_of_find?_eq_some hwhole)
              (Tree.mem_nodes_of_named (List.mem_of_find?_eq_some hclause) ht)
          -- clause and import are found by their kinds, the name in them by its place
          simp only [Option.map_some, Option.bind_some]
          rw [head?_named_without (hundisturbed whole hinside (eq_of_beq hkind))]
          cases whole.namedChildren.head? with
          | none => rfl
          | some c => exact congrArg some (text_without c)

theorem related_rule (hs : Spares drop p.tree.root)
    (hundisturbed : Undisturbed drop p.tree.root) {typed : Bool}
    (hseen : Seen p (declarations typed) s) :
    Related Eq (rule p s) (rule (p.without drop) (s.without drop)) := by
  have ht := hseen.inside
  unfold rule
  simp only [Sighting.role_without, Sighting.name_without, Sighting.spot_without,
    Spot.tree_without]
  split
  · exact (related_function hs ht _ _).map fun _ _ h => congrArg some h
  · exact (related_function hs ht _ _).map fun _ _ h => congrArg some h
  · rw [childByField_spared hs ht]
    cases hvalue : s.spot.tree.childByField "value" with
    | none => exact .pure rfl
    | some value =>
        have hinside := Tree.mem_nodes_of_field hvalue ht
        exact (related_function hs hinside _ _).map fun _ _ h => congrArg some h
  · simp only [variableElement, childByField_spared hs ht, Option.any_map,
      Tree.kind_without, elementOf_without, fieldText_without hs ht]
    exact .pure rfl
  · simp only [importElement, fieldText_without hs ht, importOf_without,
      namespaceAlias_without hs.droppable hundisturbed ht]
    exact .pure rfl
  · rw [typeElement_without hs ht]
    exact .pure rfl
  · exact .pure rfl

theorem related_extract (hs : Spares drop p.tree.root)
    (hundisturbed : Undisturbed drop p.tree.root) (typed : Bool) :
    Related Eq (extract typed p) (extract typed (p.without drop)) :=
  related_arranged hs.droppable (declarations_overlook typed) _ fun _ hseen =>
    related_rule hs hundisturbed hseen

end Script

/-! ## §5. Go: a receiver is the first thing in its list. -/

namespace Go

/-- No list with the receiver of a method begins with a node that is to be dropped. -/
def Undisturbed (drop : Tree → Bool) (root : Tree) : Prop :=
  ∀ n ∈ root.nodes, n.kind = "method_declaration" →
    ∀ receiver, n.childByField "receiver" = some receiver →
      ∀ c, receiver.namedChildren.head? = some c → drop c = false

theorem related_function (hs : Spares drop p.tree.root) (ht : t ∈ p.tree.root.nodes)
    (name : String) :
    Related Eq (function p t name) (function (p.without drop) (t.without drop) name) := by
  refine related_functionOf hs.droppable decisions_accepted.ensures t name ?_
  rw [fieldTexts_without hs ht, fieldText_without hs ht]

theorem fieldCount_without (hd : Droppable drop) (t : Tree) :
    fieldCount (t.without drop) = fieldCount t := by
  unfold fieldCount
  rw [find?_named_without hd (· == "field_declaration_list") (not_commentKind_of_beq rfl),
    Option.map_map]
  simp only [Function.comp_def, countChildren_without hd ["field_declaration"] rfl]

theorem typeElement_without (hs : Spares drop p.tree.root) (ht : t ∈ p.tree.root.nodes)
    (name : String) :
    typeElement (p.without drop) (t.without drop) name = typeElement p t name := by
  have hd := hs.droppable
  unfold typeElement
  rw [childByField_spared hs ht]
  cases t.childByField "type" with
  | none => exact classOf_without t _ _ _ _
  | some body =>
      simp only [Option.map_some, Tree.kind_without, classOf_without, fieldCount_without hd,
        countChildren_without hd ["method_elem", "method_spec"] rfl]

theorem receiver?_without (hs : Spares drop p.tree.root)
    (hundisturbed : Undisturbed drop p.tree.root) (ht : t ∈ p.tree.root.nodes)
    (hkind : t.kind = "method_declaration") :
    receiver? (p.without drop) (t.without drop) = receiver? p t := by
  unfold receiver?
  rw [childByField_spared hs ht]
  cases hreceiver : t.childByField "receiver" with
  | none => rfl
  | some receiver =>
      -- the list is a field of the method, what it starts with is taken by its place
      have hfirst := head?_named_without (hundisturbed t ht hkind receiver hreceiver)
      simp only [Option.map_some, Option.bind_eq_bind, Option.bind_some, hfirst]
      cases hparameter : receiver.namedChildren.head? with
      | none => rfl
      | some parameter =>
          have hinside : parameter ∈ p.tree.root.nodes :=
            Tree.mem_nodes_of_named (List.mem_of_head? hparameter)
              (Tree.mem_nodes_of_field hreceiver ht)
          simp only [Option.map_some, Option.bind_some, childByField_spared hs hinside]
          cases parameter.childByField "type" with
          | none => rfl
          | some type => simp only [Option.map_some, Option.bind_some, text_without]

theorem isLocal_without (s : Spot) : isLocal (s.without drop) = isLocal s := by
  unfold isLocal Spot.without
  simp only [List.any_map, Function.comp_def, Tree.kind_without]

theorem importElement_without (hs : Spares drop p.tree.root)
    (ht : s.spot.tree ∈ p.tree.root.nodes) :
    importElement (p.without drop) (s.without drop) = importElement p s := by
  unfold importElement
  rw [Sighting.spot_without, Spot.tree_without, Sighting.bindings_without, captured?_without,
    fieldText_without hs ht, Option.map_map]
  simp only [Function.comp_def, Spot.tree_without, text_without, importOf_without]

theorem related_rule (hs : Spares drop p.tree.root) (hseen : Seen p declarations s) :
    Related Eq (rule p s) (rule (p.without drop) (s.without drop)) := by
  have ht := hseen.inside
  have himport := importElement_without hs ht
  unfold rule
  simp only [Sighting.role_without, Sighting.name_without, Sighting.spot_without,
    Spot.tree_without]
  split
  · rw [elementOf_without]
    exact .pure rfl
  · rw [himport]
    exact .pure rfl
  · exact (related_function hs ht _).map fun _ _ h => congrArg some h
  · exact (related_function hs ht _).map fun _ _ h => congrArg some h
  · rw [typeElement_without hs ht]
    exact .pure rfl
  · simp only [isLocal_without, elementOf_without, fieldText_without hs ht]
    exact .pure rfl
  · exact .pure rfl

theorem owner?_without (hs : Spares drop p.tree.root)
    (hundisturbed : Undisturbed drop p.tree.root) (hseen : Seen p declarations s) :
    owner? (p.without drop) (s.without drop) = owner? p s := by
  unfold owner?
  rw [Sighting.role_without, Sighting.name_without, Sighting.spot_without, Spot.tree_without]
  split
  · rename_i hmethod
    rw [Bool.and_eq_true, beq_iff_eq] at hmethod
    have hkind : s.spot.tree.kind = "method_declaration" :=
      hseen.kind_of_reserves (hmethod.1 ▸ declarations_reserve)
    rw [receiver?_without hs hundisturbed hseen.inside hkind]
  · rfl

theorem related_extract (hs : Spares drop p.tree.root)
    (hundisturbed : Undisturbed drop p.tree.root) :
    Related Eq (extract p) (extract (p.without drop)) :=
  related_credited hs.droppable declarations_overlook _ (fun _ hseen => related_rule hs hseen)
    (fun _ hseen => owner?_without hs hundisturbed hseen) _

end Go

/-! ## §6. Rust: all that stands in a struct without field names is counted. -/

namespace Rust

/-- Nothing that is to be dropped is counted as a field without a name. -/
def Undisturbed (drop : Tree → Bool) (root : Tree) : Prop :=
  ∀ n ∈ root.nodes, n.kind = "struct_item" → ∀ body, n.childByField "body" = some body →
    body.kind ≠ "field_declaration_list" → ∀ c ∈ body.namedChildren, drop c = false

theorem visibility_without (hd : Droppable drop) (t : Tree) :
    visibility (p.without drop) (t.without drop) = visibility p t := by
  unfold visibility
  rw [childOfKind_without hd "visibility_modifier" rfl, Option.map_map]
  simp only [Function.comp_def, text_without]

theorem isMember_without (s : Spot) : isMember (s.without drop) = isMember s := by
  have hparents : (s.without drop).parent.bind Spot.parent
      = (s.parent.bind Spot.parent).map (Spot.without drop) := by
    rw [parent_without]
    cases s.parent with
    | none => rfl
    | some up => exact parent_without up
  unfold isMember
  rw [hparents, Option.map_map]
  simp only [Function.comp_def, Spot.without, Tree.kind_without]

theorem related_function (hs : Spares drop p.tree.root) {s : Spot}
    (ht : s.tree ∈ p.tree.root.nodes) (name : String) :
    Related Eq (function p s name) (function (p.without drop) (s.without drop) name) := by
  have hd := hs.droppable
  have hself : (((s.tree.without drop).childByField "parameters").any
        fun q => 0 < countChildren q ["self_parameter"])
      = ((s.tree.childByField "parameters").any
          fun q => 0 < countChildren q ["self_parameter"]) := by
    rw [childByField_spared hs ht, Option.any_map]
    simp only [countChildren_without hd ["self_parameter"] rfl]
  have hmodifiers : (((s.tree.without drop).childOfKind "function_modifiers").map
        (p.without drop).tree.text).getD ""
      = ((s.tree.childOfKind "function_modifiers").map p.tree.text).getD "" := by
    rw [childOfKind_without hd "function_modifiers" rfl, Option.map_map]
    simp only [Function.comp_def, text_without]
  refine related_functionOf hd decisions_accepted.ensures s.tree name ?_
  rw [Spot.tree_without, fieldTexts_without hs ht, fieldText_without hs ht,
    visibility_without hd, isMember_without, hself, hmodifiers]

theorem tupleFieldCount_without {body : Tree} (h : ∀ c ∈ body.namedChildren, drop c = false) :
    tupleFieldCount (body.without drop) = tupleFieldCount body := by
  unfold tupleFieldCount
  rw [Tree.namedChildren_without]
  exact countP_kept (fun c _ => by rw [Tree.kind_without]) fun c hc _ => h c hc

theorem typeElement_without (hs : Spares drop p.tree.root)
    (hundisturbed : Undisturbed drop p.tree.root) (ht : t ∈ p.tree.root.nodes)
    {classKind : String} (hkind : classKind = "struct" → t.kind = "struct_item") (name : String) :
    typeElement (p.without drop) (t.without drop) classKind name
      = typeElement p t classKind name := by
  have hd := hs.droppable
  unfold typeElement
  rw [childByField_spared hs ht]
  cases hbody : t.childByField "body" with
  | none => exact classOf_without t _ _ _ _
  | some body =>
      simp only [Option.map_some, Tree.kind_without, classOf_without,
        countChildren_without hd ["field_declaration"] rfl,
        countChildren_without hd ["enum_variant"] rfl,
        countChildren_without hd ["function_item", "function_signature_item"] rfl]
      split
      · rfl
      · rename_i hnamed
        split
        · -- the only count that asks for no kinds
          rename_i hstruct
          have hlist : body.kind ≠ "field_declaration_list" := by
            rintro hlist
            exact hnamed (by simp [hstruct, hlist])
          rw [tupleFieldCount_without
            (hundisturbed t ht (hkind (eq_of_beq hstruct)) body hbody hlist)]
        · rfl

theorem importElement_without (hs : Spares drop p.tree.root) {argument : Tree}
    (hargument : argument ∈ p.tree.root.nodes) (t : Tree) :
    importElement (p.without drop) (t.without drop) (argument.without drop)
      = importElement p t argument := by
  unfold importElement
  simp only [Tree.kind_without, fieldText_without hs hargument, text_without, importOf_without]

theorem related_rule (hs : Spares drop p.tree.root)
    (hundisturbed : Undisturbed drop p.tree.root) (hseen : Seen p declarations s) :
    Related Eq (rule p s) (rule (p.without drop) (s.without drop)) := by
  have ht := hseen.inside
  unfold rule
  simp only [Sighting.role_without, Sighting.name_without, Sighting.spot_without,
    Spot.tree_without, Sighting.bindings_without]
  split
  · exact (related_function hs ht _).map fun _ _ h => congrArg some h
  · rw [elementOf_without]
    exact .pure rfl
  · rw [elementOf_without, fieldText_without hs ht]
    exact .pure rfl
  · rw [captured?_without]
    cases hargument : captured? s.bindings "argument" with
    | none => exact .pure rfl
    | some argument =>
        have hinside := hseen.inside_of_captured hargument
        exact .pure (congrArg some (importElement_without hs hinside s.spot.tree).symm)
  · rw [typeElement_without hs hundisturbed ht]
    · exact .pure rfl
    · -- only struct items are captured under this role
      intro hstruct
      exact hseen.kind_of_reserves (hstruct ▸ declarations_reserve)
  · exact .pure rfl

theorem owner?_without (hd : Droppable drop) (s : Sighting) :
    owner? (p.without drop) (s.without drop) = owner? p s := by
  unfold owner?
  rw [Sighting.role_without, Sighting.bindings_without, captured?_without, captured?_without]
  split
  · cases captured? s.bindings "impl_type" with
    | none => simp only [Option.map_none, Option.bind_eq_bind, Option.bind_none]
    | some type =>
        cases captured? s.bindings "impl_body" with
        | none => simp only [Option.map_none, Option.bind_eq_bind, Option.bind_none,
            Option.map_some, Option.bind_some]
        | some body =>
            simp only [Option.map_some, Option.bind_eq_bind, Option.bind_some, Spot.without,
              text_without, countChildren_without hd ["function_item"] rfl]
  · rfl

theorem related_extract (hs : Spares drop p.tree.root)
    (hundisturbed : Undisturbed drop p.tree.root) :
    Related Eq (extract p) (extract (p.without drop)) :=
  related_credited hs.droppable declarations_overlook _
    (fun _ hseen => related_rule hs hundisturbed hseen)
    (fun s _ => owner?_without hs.droppable s) _

end Rust

end Extract

/-! ## §7. Files without their comments. -/

namespace Syntax

/-- A comment by itself: childless, and allowed anywhere. -/
def Tree.isLooseComment (t : Tree) : Bool :=
  t.label.extra && t.children.isEmpty && isComment t

/-- The parsed file without the comments in it. -/
def Parsed.withoutComments (p : Parsed) : Parsed := p.without Tree.isLooseComment

/-- Comments stand beside what the fields of a tree are about. -/
structure Tree.CommentsApart (root : Tree) : Prop where
  /-- No comment has a field. -/
  unfielded : ∀ n ∈ root.nodes, ∀ c ∈ n.children, c.isLooseComment = true → c.field = none
  /-- No field leads to a comment. -/
  unreached : ∀ n ∈ root.nodes, ∀ field c, n.childByField field = some c →
    c.isLooseComment = false

/-- A comment by itself that has no field. -/
def Tree.isStray (t : Tree) : Bool := t.isLooseComment && t.field.isNone

theorem droppable_isStray : Droppable Tree.isStray where
  childless t ht := by
    simp only [Tree.isStray, Tree.isLooseComment, Bool.and_eq_true, List.isEmpty_iff] at ht
    exact ht.1.1.2
  unfielded t ht := by
    simp only [Tree.isStray, Bool.and_eq_true, Option.isNone_iff_eq_none] at ht
    exact ht.2
  comment t ht := by
    simp only [Tree.isStray, Tree.isLooseComment, Bool.and_eq_true] at ht
    exact ht.1.2

theorem Tree.isStray_eq_false {t : Tree} (h : t.isLooseComment = false) : t.isStray = false := by
  rw [isStray, h, Bool.false_and]

theorem Tree.CommentsApart.spares {root : Tree} (h : root.CommentsApart) :
    Spares Tree.isStray root :=
  ⟨droppable_isStray, fun n hn field c hc => Tree.isStray_eq_false (h.unreached n hn field c hc)⟩

/-- Where comments have no fields, all of them are stray. -/
theorem withoutComments_eq {p : Parsed} (h : p.tree.root.CommentsApart) :
    p.withoutComments = p.without Tree.isStray := by
  have hroot : p.tree.root.without Tree.isLooseComment = p.tree.root.without Tree.isStray := by
    refine without_congr fun n hn c hc => ?_
    cases hloose : c.isLooseComment with
    | false => exact (Tree.isStray_eq_false hloose).symm
    | true => rw [Tree.isStray, hloose, h.unfielded n hn c hc hloose]; rfl
  unfold Parsed.withoutComments Parsed.without
  rw [hroot]

/-- In a tree without links it is enough that no comment has a field. -/
theorem commentsApart_of_unlinked {root : Tree}
    (h : ∀ n ∈ root.nodes, n.label.links = [] ∧
      ∀ c ∈ n.children, c.isLooseComment = true → c.field = none) : root.CommentsApart where
  unfielded n hn := (h n hn).2
  unreached n hn field c hc := by
    obtain ⟨hlinks, hfields⟩ := h n hn
    unfold Tree.childByField at hc
    rw [hlinks] at hc
    replace hc : n.children.find? (·.field == some field) = some c := hc
    have hfield : (c.field == some field) = true :=
      List.find?_some (p := fun c : Tree => c.field == some field) hc
    cases hloose : c.isLooseComment with
    | false => rfl
    | true =>
        rw [hfields c (List.mem_of_find?_eq_some hc) hloose] at hfield
        cases hfield

end Syntax

namespace Extract

/-- The plugin makes the same of a file with and without the comments in it. -/
def Plugin.IgnoresComments (plugin : Plugin) (p : Parsed) : Prop :=
  ∀ m : Memo, m.Genuine → (plugin.extract p.withoutComments).run m = (plugin.extract p).run m

theorem Plugin.ignoresComments_of_related {plugin : Plugin} {p : Parsed}
    (hp : p.tree.root.CommentsApart)
    (h : Related Eq (plugin.extract p) (plugin.extract (p.without Tree.isStray))) :
    plugin.IgnoresComments p := by
  intro m hm
  rw [withoutComments_eq hp]
  exact (h.run_eq hm).symm

/-- **Comments are ignored** where no comment stands in the first place of what is read by its
place, and none among what is counted without a look at it. -/
theorem comments_ignored {p : Parsed} (hp : p.tree.root.CommentsApart) :
    (Python.Undisturbed Tree.isLooseComment p.tree.root → Plugin.python.IgnoresComments p) ∧
    Plugin.java.IgnoresComments p ∧
    (Script.Undisturbed Tree.isLooseComment p.tree.root →
      ∀ plugin ∈ [Plugin.javascript, Plugin.typescript, Plugin.tsx], plugin.IgnoresComments p) ∧
    (Go.Undisturbed Tree.isLooseComment p.tree.root → Plugin.go.IgnoresComments p) ∧
    (Rust.Undisturbed Tree.isLooseComment p.tree.root → Plugin.rust.IgnoresComments p) := by
  have hs := hp.spares
  refine ⟨fun hpython => ?_, ?_, fun hscript plugin hplugin => ?_, fun hgo => ?_, fun hrust => ?_⟩
  · refine Plugin.ignoresComments_of_related hp (Python.related_extract hs ?_)
    exact fun n hn hkind c hc => Tree.isStray_eq_false (hpython n hn hkind c hc)
  · exact Plugin.ignoresComments_of_related hp (Java.related_extract hs)
  · have hstray : Script.Undisturbed Tree.isStray p.tree.root :=
      fun n hn hkind c hc => Tree.isStray_eq_false (hscript n hn hkind c hc)
    have hextract := Script.related_extract hs hstray
    simp only [List.mem_cons, List.not_mem_nil, or_false] at hplugin
    rcases hplugin with rfl | rfl | rfl
    · exact Plugin.ignoresComments_of_related hp (hextract false)
    · exact Plugin.ignoresComments_of_related hp (hextract true)
    · exact Plugin.ignoresComments_of_related hp (hextract true)
  · refine Plugin.ignoresComments_of_related hp (Go.related_extract hs ?_)
    exact fun n hn hkind receiver hreceiver c hc =>
      Tree.isStray_eq_false (hgo n hn hkind receiver hreceiver c hc)
  · refine Plugin.ignoresComments_of_related hp (Rust.related_extract hs ?_)
    exact fun n hn hkind body hbody hlist c hc =>
      Tree.isStray_eq_false (hrust n hn hkind body hbody hlist c hc)

/-! ## §8. An import of a whole module, with a comment in it. -/

/-- A word or a mark. -/
def token (id : Nat) (kind : String) (start stop : Nat) : Tree :=
  .node { id := id, kind := kind, named := false, start := start, stop := stop } []

/-- A node of the grammar, in a field or in none. -/
def phrase (id : Nat) (kind : String) (field : Option String) (start stop : Nat)
    (children : List Tree) : Tree :=
  .node { id := id, kind := kind, named := true, field := field, start := start, stop := stop }
    children

/-- A comment of seven octets. -/
def remark (id start : Nat) : Tree :=
  .node { id := id, kind := "comment", named := true, extra := true, start := start,
          stop := start + 7 } []

/-- An import from `m` of all that `whole` names, with other nodes before it. -/
def wholeImport (source : String) (before : List Tree) (whole : Tree) : Parsed :=
  { tree :=
      { source := source.toList,
        root := phrase 0 "program" none 0 33
          [phrase 1 "import_statement" none 0 32
            ([token 2 "import" 0 6] ++ before ++
              [phrase (whole.id - 1) "import_clause" none whole.start 22 [whole],
                token 9 "from" 23 27,
                phrase 10 "string" (some "source") 28 31
                  [token 11 "\"" 28 29, phrase 12 "string_fragment" none 29 30 [],
                    token 13 "\"" 30 31],
                token 14 ";" 31 32])] },
    dialect := ⟨"javascript", Grammar.javascript⟩,
    path := "a.js" }

/-- The comment stands before the star. -/
def remarkBeforeStar : Parsed :=
  wholeImport "import /* c */ * as ns from \"m\";\n" [remark 3 7]
    (phrase 5 "namespace_import" none 15 22
      [token 6 "*" 15 16, token 7 "as" 17 19, phrase 8 "identifier" none 20 22 []])

/-- The comment stands before the name. -/
def remarkBeforeName : Parsed :=
  wholeImport "import * as /* c */ ns from \"m\";\n" []
    (phrase 4 "namespace_import" none 7 22
      [token 5 "*" 7 8, token 6 "as" 9 11, remark 7 12, phrase 8 "identifier" none 20 22 []])

/-- A comment before the star changes nothing. -/
theorem remark_before_star_ignored :
    remarkBeforeStar.tree.root.CommentsApart ∧
      Script.Undisturbed Tree.isLooseComment remarkBeforeStar.tree.root ∧
      remarkBeforeStar.tree.root.size = 15 ∧ remarkBeforeStar.withoutComments.tree.root.size = 14 ∧
      Plugin.javascript.IgnoresComments remarkBeforeStar := by
  have hapart : remarkBeforeStar.tree.root.CommentsApart :=
    commentsApart_of_unlinked (by decide +kernel)
  have hundisturbed : Script.Undisturbed Tree.isLooseComment remarkBeforeStar.tree.root := by
    have hall : ∀ n ∈ remarkBeforeStar.tree.root.nodes, n.kind = "namespace_import" →
        n.namedChildren.head?.any Tree.isLooseComment = false := by decide +kernel
    intro n hn hkind c hc
    have hfirst := hall n hn hkind
    rwa [hc] at hfirst
  exact ⟨hapart, hundisturbed, by decide +kernel, by decide +kernel,
    (comments_ignored hapart).2.2.1 hundisturbed _ (by simp)⟩

/-- The kinds of the elements that came of some work. -/
def kindsOf (outcome : Except String (List Element) × Memo) : Option (List ElementKind) :=
  outcome.1.toOption.map (List.map Element.kind)

namespace Script

/-- What comes of a file, its query having just been compiled. -/
def outcomeBy (typed : Bool) (p : Parsed) (q : Compiled) : Except String (List Element) × Memo :=
  (arrange <$> candidates (rule p) (sighted p ["function", "function_variable", "class", "method",
    "variable", "import", "interface", "type", "enum"] q)).run
      [((p.dialect.language, declarations typed), q)]

theorem run_extract_nil {typed : Bool} {p : Parsed} {q : Compiled}
    (hq : compile p.dialect.grammar (declarations typed) = .ok q) :
    (extract typed p).run [] = outcomeBy typed p q := by
  rw [extract, run_bind, run_sightings_nil hq, outcomeBy]

/-- One reading of the query is enough here too. -/
theorem kindsOf_of_compileText {p : Parsed} {text : List Char} {kinds : List ElementKind}
    (htext : declarations false = String.ofList text)
    (h : (compileText p.dialect.grammar text).toOption.any
      (fun q => kindsOf (outcomeBy false p q) == some kinds) = true) :
    kindsOf ((Plugin.javascript.extract p).run []) = some kinds := by
  cases hread : compileText p.dialect.grammar text with
  | error fault =>
      rw [hread] at h
      cases h
  | ok q =>
      rw [hread] at h
      have hq : compile p.dialect.grammar (declarations false) = .ok q := by
        rw [← hread, ← compile_ofList, ← htext]
      have hplugin : Plugin.javascript.extract = extract false := rfl
      rw [hplugin, run_extract_nil hq]
      exact eq_of_beq h

end Script

set_option maxRecDepth 10000 in
/-- A comment before the name of a whole module is taken for the name. -/
theorem remark_before_name_taken :
    remarkBeforeName.tree.root.CommentsApart ∧
      kindsOf ((Plugin.javascript.extract remarkBeforeName).run [])
        = some [.importing "m" (some "/* c */")] ∧
      kindsOf ((Plugin.javascript.extract remarkBeforeName.withoutComments).run [])
        = some [.importing "m" (some "ns")] ∧
      ¬ Plugin.javascript.IgnoresComments remarkBeforeName := by
  have hwith : kindsOf ((Plugin.javascript.extract remarkBeforeName).run [])
      = some [.importing "m" (some "/* c */")] :=
    Script.kindsOf_of_compileText rfl (by decide +kernel)
  have hwithout : kindsOf ((Plugin.javascript.extract remarkBeforeName.withoutComments).run [])
      = some [.importing "m" (some "ns")] :=
    Script.kindsOf_of_compileText rfl (by decide +kernel)
  refine ⟨commentsApart_of_unlinked (by decide +kernel), hwith, hwithout, fun hignores => ?_⟩
  -- were it ignored, the two outcomes would have to be one
  have hsame : kindsOf ((Plugin.javascript.extract remarkBeforeName.withoutComments).run [])
      = kindsOf ((Plugin.javascript.extract remarkBeforeName).run []) := by
    rw [hignores [] Memo.genuine_nil]
  rw [hwith, hwithout] at hsame
  simp at hsame

end Extract

end CodeSurvey
