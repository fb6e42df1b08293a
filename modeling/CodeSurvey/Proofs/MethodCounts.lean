/-
  Methods of Python classes, counted and found.

  A class counts the functions among the statements of its body, those with decorators included.  The
  query for methods asks for functions that are statements of the body themselves, and a function
  with decorators is not: it stands one node deeper.  So the two differ by just these functions.

      what one class counts    what the query finds in it, and the decorated     (`methodsIn_eq`)
      all classes together     all that the query finds, and all decorated       (`ClearClasses.counted`)

  Main result, `method_counts_exceed_by_decorated`; that the two can differ is shown at the end.
-/
import CodeSurvey.Proofs.FunctionViews
import Mathlib.Algebra.BigOperators.Group.List.Basic
import Mathlib.Algebra.Ring.Nat

namespace CodeSurvey.Extract

open Syntax Query

/-! ## §1. One class. -/

namespace Python

/-- How classes are declared. -/
def classForm : Form := ⟨"class_definition", "identifier", "class"⟩

/-- The shape of a method as the query for methods asks for it. -/
def methodShape : Shape := .within "function_definition" "block" "body" "class_definition"

/-- The number of methods that a class counts. -/
def methodsIn (t : Tree) : Nat := ((t.childByField "body").map methodCount).getD 0

/-- The decorated functions among the statements of a class. -/
def decoratedIn (t : Tree) : List Tree :=
  (t.childByField "body").toList.flatMap fun body => body.namedChildren.filter isDecoratedFunction

/-- A Python tree whose classes have exactly one name and start apart, with a block for a body. -/
structure ClearClasses (p : Parsed) : Prop where
  dialect : p.dialect = ⟨"python", .python⟩
  numbered : p.tree.root.Numbered
  named : classForm.Named p.tree.root
  starts : ((p.tree.root.nodes.filter fun n => n.isA "class_definition").map Tree.start).Nodup
  /-- The body of a class is the one child that has the field, and a block. -/
  bodies : ∀ n ∈ p.tree.root.nodes, n.isA "class_definition" = true →
    n.label.links.lookup "body" = none ∧ (n.childrenByField "body").length ≤ 1 ∧
      ∀ b ∈ n.childrenByField "body", b.isA "block" = true
  /-- What stands for text that the grammar could not take is of no other kind. -/
  errors : ∀ n ∈ p.tree.root.nodes, n.label.isError = true → n.kind = "ERROR"

variable {p : Parsed}

theorem countChildren_function {body : Tree}
    (herrors : ∀ c ∈ body.children, c.label.isError = true → c.kind = "ERROR") :
    countChildren body ["function_definition"]
      = (body.children.filter fun c => c.isA "function_definition").length := by
  unfold countChildren Tree.namedChildren
  rw [List.countP_filter, ← List.countP_eq_length_filter]
  refine List.countP_congr fun c hc => ?_
  have hkind : ["function_definition"].contains c.kind = (c.kind == "function_definition") :=
    Bool.or_false _
  unfold Tree.isA
  rw [hkind]
  cases herror : c.label.isError with
  | false => simp [and_comm]
  | true => simp [herrors c hc herror]

/-- **One class** counts what the query finds in it, and the decorated functions. -/
theorem methodsIn_eq (hp : ClearClasses p) {s : Spot} (hs : s ∈ p.tree.root.spots)
    (hclass : s.tree.isA "class_definition" = true) :
    methodsIn s.tree = (methodShape.captured s).length + (decoratedIn s.tree).length := by
  have hnode := mem_nodes_of_mem_spots hs
  obtain ⟨hlinks, hone, hblocks⟩ := hp.bodies s.tree hnode hclass
  have hfield : s.tree.childByField "body" = (s.tree.childrenByField "body").head? := by
    unfold Tree.childByField Tree.childrenByField
    rw [hlinks, List.head?_filter]
  have hcaptured : (methodShape.captured s).length = ((s.tree.childrenByField "body").flatMap
      fun b => b.children.filter fun c => c.isA "function_definition").length := by
    have hplaces : methodShape.captured s = (s.children.filter fun b =>
        b.tree.isA "block" && b.tree.field == some "body").flatMap fun b =>
          b.children.filter fun c => c.tree.isA "function_definition" := if_pos hclass
    have hbodies : s.tree.children.filter (fun b => b.isA "block" && b.field == some "body")
        = s.tree.childrenByField "body" := by
      refine List.filter_congr fun b hb => ?_
      cases hbody : b.field == some "body" with
      | false => rw [Bool.and_false]
      | true => rw [hblocks b (List.mem_filter.2 ⟨hb, hbody⟩), Bool.true_and]
    rw [← List.length_map Spot.tree, hplaces, List.map_flatMap, ← hbodies,
      ← map_tree_filter_children s, List.flatMap_map]
    simp only [map_tree_filter_children _ (fun c => c.isA "function_definition")]
  rw [hcaptured, methodsIn, decoratedIn, hfield]
  have hinside : ∀ b ∈ s.tree.childrenByField "body", b ∈ p.tree.root.nodes := fun b hb =>
    Tree.mem_nodes_trans (Tree.mem_nodes_of_mem_children (List.mem_of_mem_filter hb)) hnode
  rcases hlist : s.tree.childrenByField "body" with _ | ⟨body, _ | ⟨other, rest⟩⟩
  · rfl
  · have herrors : ∀ c ∈ body.children, c.label.isError = true → c.kind = "ERROR" := by
      intro c hc
      have hbody := hinside body (by rw [hlist]; exact List.mem_cons_self)
      exact hp.errors c (Tree.mem_nodes_trans (Tree.mem_nodes_of_mem_children hc) hbody)
    show countChildren body ["function_definition"] + body.namedChildren.countP isDecoratedFunction
      = _
    rw [countChildren_function herrors, List.countP_eq_length_filter]
    simp
  · rw [hlist] at hone
    simp at hone

/-! ## §2. What the classes count together. -/

/-- The number of methods of a class. -/
def methodCountOf (e : Element) : Option Nat :=
  match e.kind with
  | .classLike facts => some facts.methodCount
  | _ => none

theorem isSome_methodCountOf (e : Element) :
    (methodCountOf e).isSome = (e.kind.word == "class") := by
  unfold methodCountOf
  cases e.kind with
  | _ => rfl

theorem methodCountOf_classElement (p : Parsed) (t : Tree) (name : String) :
    methodCountOf (classElement p t name) = some (methodsIn t) := by
  unfold classElement methodsIn
  cases t.childByField "body" with
  | none => rfl
  | some body => rfl

set_option maxRecDepth 10000

theorem declarations_declare_classes : Accepted .python (declares [classForm]) declarations :=
  accepted_of_compileText rfl (by decide +kernel)

/-- The classes together count what each of them does. -/
theorem ClearClasses.gives_total (hp : ClearClasses p) :
    Gives (fun elements => (elements.filterMap methodCountOf).sum
        = ((placesOf "class_definition" p.tree.root).map fun s => methodsIn s.tree).sum)
      (Plugin.python.extract p) := by
  have hstarts : (([classForm].flatMap fun f => placesOf f.kind p.tree.root).map
      fun s => s.tree.start).Nodup := by
    refine nodup_starts (by decide) ?_
    have hkind : (fun n : Tree => [classForm].any fun f => n.isA f.kind)
        = fun n => n.isA "class_definition" := funext fun n => Bool.or_false _
    rw [hkind]
    exact hp.starts
  have hdeclares : Declares p declarations ["function", "class", "import", "import_from", "variable"]
      [classForm] :=
    { accepted := by rw [hp.dialect]; exact declarations_declare_classes
      overlooks := declarations_overlook
      formed := rfl
      numbered := hp.numbered
      named := fun f hf => by rw [List.mem_singleton.1 hf]; exact hp.named
      starts := hstarts }
  have hdecided : Accepted p.dialect.grammar (fun _ => true) decisions := by
    rw [hp.dialect]
    exact decisions_accepted.weaken
  have hobserves : Observes [classForm] methodCountOf (fun s => methodsIn s.tree) (rule p) := by
    refine observes_of_makes (makes_rule p) hdecided isSome_methodCountOf rfl fun s hrole hname => ?_
    obtain ⟨name, hname⟩ := Option.isSome_iff_exists.1 hname
    have hrole : s.role = "class" := List.mem_singleton.1 hrole
    have hclass : rule p s = pure (some (classElement p s.spot.tree name)) := by
      simp only [rule, hrole, hname]
    rw [hclass]
    exact .pure (methodCountOf_classElement p s.spot.tree name)
  refine (gives_arranged hdeclares isSome_methodCountOf hobserves).imp ?_
  rintro elements ⟨sorted, hperm, -, heq⟩
  rw [heq, (hperm.map Prod.snd).sum_eq, List.map_map]
  show ((placesOf "class_definition" p.tree.root ++ []).map fun n : Spot => methodsIn n.tree).sum
    = _
  rw [List.append_nil]

/-! ## §3. What the query finds. -/

section Query

variable {s : Session}

/-- The query for methods finds in all classes together what it finds in each. -/
theorem ClearClasses.captured (hp : ClearClasses p) (hcatalog : s.catalog = Catalog.builtin)
    (hmemo : s.memo.Genuine) :
    (s.outcomeOf p "methods").success = true ∧
      (s.outcomeOf p "methods").captures.length
        = ((placesOf "class_definition" p.tree.root).map fun n =>
            (methodShape.captured n).length).sum := by
  have hquery : (⟨"methods", "Functions defined directly in a class body",
      "(class_definition body: (block (function_definition) @method))"⟩ : Definition)
      ∈ pythonQueries := by simp [pythonQueries]
  obtain ⟨c, hrules, hresult⟩ := runNamed_builtin p.tree p.tree.source
    (List.mem_of_getElem? (i := 5) rfl) hquery rfl hcatalog hmemo
  have hwants : wantsOf "python" "methods" = [⟨"method", [methodShape]⟩] := rfl
  rw [← hp.dialect] at hresult
  rw [hwants] at hrules
  have hsound : ∀ w ∈ [(⟨"method", [methodShape]⟩ : Want)], w.sound = true := by decide
  have hperm := captures_perm hrules hsound hp.numbered (Text.octets p.tree.source)
  have hplaces : ((p.tree.root.spots.filter fun n => 0 < n.tree.stop).flatMap
      (Want.capturesAt ⟨"method", [methodShape]⟩)).length
      = ((placesOf "class_definition" p.tree.root).flatMap methodShape.captured).length := by
    -- in other places nothing is found
    have hclasses : ∀ n : Spot, (if n.tree.isA "class_definition" then methodShape.captured n else [])
        = methodShape.captured n := by
      intro n
      split
      · rfl
      · rename_i hother
        exact (Shape.captured_of_not (Bool.not_eq_true _ ▸ hother)).symm
    have hwant : ∀ n, Want.capturesAt ⟨"method", [methodShape]⟩ n
        = (methodShape.captured n).map fun f => ("method", f) := by
      intro n
      rw [Want.capturesAt, List.flatMap_cons, List.flatMap_nil, List.append_nil]
    rw [List.flatMap_congr fun n _ => hwant n, ← List.map_flatMap, List.length_map, placesOf,
      flatMap_filter_ite (fun n : Spot => n.tree.isA "class_definition")]
    simp only [hclasses]
  rw [Outcome.captures, Outcome.success, Session.outcomeOf, hresult, ← List.length_flatMap, ← hplaces]
  refine ⟨rfl, ?_⟩
  show (List.map _ _).length = _
  rw [List.length_map, hperm.length_eq, List.flatMap_singleton]

/-- The decorated functions among the statements of all classes. -/
def decoratedMethods (root : Tree) : List Tree :=
  (placesOf "class_definition" root).flatMap fun s => decoratedIn s.tree

/-- **All classes together** count what the query finds, and the decorated functions. -/
theorem ClearClasses.counted (hp : ClearClasses p) {m : Memo} (hm : m.Genuine)
    (hcatalog : s.catalog = Catalog.builtin) (hmemo : s.memo.Genuine) :
    ∃ elements m', (Plugin.python.extract p).run m = (.ok elements, m') ∧
      (s.outcomeOf p "methods").success = true ∧
      (elements.filterMap methodCountOf).sum
        = (s.outcomeOf p "methods").captures.length
          + (decoratedMethods p.tree.root).length := by
  obtain ⟨elements, m', hrun, -, htotal⟩ := hp.gives_total m hm
  obtain ⟨hsuccess, hlength⟩ := hp.captured hcatalog hmemo
  refine ⟨elements, m', hrun, hsuccess, ?_⟩
  rw [htotal, hlength, decoratedMethods, List.length_flatMap, ← List.sum_map_add]
  refine congrArg List.sum (List.map_congr_left fun n hn => ?_)
  obtain ⟨hspot, hclass⟩ := List.mem_filter.1 hn
  exact methodsIn_eq hp (List.mem_of_mem_filter hspot) hclass

/-- **Method counts and the query for methods**: in every Python tree whose classes are clear, both
succeed, and the methods that the classes count are more than those the query captures by the
decorated functions in class bodies.  So the two agree just where there are none of these. -/
theorem method_counts_exceed_by_decorated (hp : ClearClasses p) {m : Memo} (hm : m.Genuine)
    (hcatalog : s.catalog = Catalog.builtin) (hmemo : s.memo.Genuine) :
    ∃ elements m', (Plugin.python.extract p).run m = (.ok elements, m') ∧
      (s.outcomeOf p "methods").success = true ∧
      (elements.filterMap methodCountOf).sum
        = (s.outcomeOf p "methods").captures.length + (decoratedMethods p.tree.root).length ∧
      ((elements.filterMap methodCountOf).sum = (s.outcomeOf p "methods").captures.length ↔
        decoratedMethods p.tree.root = []) := by
  obtain ⟨elements, m', hrun, hsuccess, htotal⟩ := hp.counted hm hcatalog hmemo
  refine ⟨elements, m', hrun, hsuccess, htotal, ?_⟩
  rw [htotal, ← List.length_eq_zero_iff]
  omega

end Query

/-- A Python file with one class, whose body has the statements given. -/
def oneClass (source : String) (stop : Nat) (statements : List Tree) : Parsed :=
  { tree :=
      { source := source.toList,
        root := phrase 0 "module" none 0 (stop + 1)
          [phrase 1 "class_definition" none 0 stop
            [token 2 "class" 0 5, phrase 3 "identifier" (some "name") 6 7 [], token 4 ":" 7 8,
             phrase 5 "block" (some "body") 13 stop statements]] },
    dialect := ⟨"python", .python⟩,
    path := "a.py" }

/-- A function that does nothing, in a field or in none. -/
def idleFunction (id : Nat) (field : Option String) (start : Nat) : Tree :=
  phrase id "function_definition" field start (start + 17)
    [token (id + 1) "def" start (start + 3),
     phrase (id + 2) "identifier" (some "name") (start + 4) (start + 5) [],
     phrase (id + 3) "parameters" (some "parameters") (start + 5) (start + 11)
      [token (id + 4) "(" (start + 5) (start + 6),
       phrase (id + 5) "identifier" none (start + 6) (start + 10) [],
       token (id + 6) ")" (start + 10) (start + 11)],
     token (id + 7) ":" (start + 11) (start + 12),
     phrase (id + 8) "block" (some "body") (start + 13) (start + 17)
      [phrase (id + 9) "pass_statement" none (start + 13) (start + 17)
        [token (id + 10) "pass" (start + 13) (start + 17)]]]

/-- The method has no decorator. -/
def plainMethod : Parsed :=
  oneClass "class C:\n    def f(self): pass\n" 30 [idleFunction 6 none 13]

/-- The method has a decorator. -/
def decoratedMethod : Parsed :=
  oneClass "class C:\n    @p\n    def f(self): pass\n" 37
    [phrase 6 "decorated_definition" none 13 37
      [phrase 7 "decorator" none 13 15
        [token 8 "@" 13 14, phrase 9 "identifier" none 14 15 []],
       idleFunction 10 (some "definition") 20]]

theorem plainMethod_clear : ClearClasses plainMethod where
  dialect := rfl
  numbered := by decide
  named := by
    unfold Form.Named
    decide
  starts := by decide
  bodies := by decide
  errors := by decide

theorem decoratedMethod_clear : ClearClasses decoratedMethod where
  dialect := rfl
  numbered := by decide
  named := by
    unfold Form.Named
    decide
  starts := by decide
  bodies := by decide
  errors := by decide

/-- Without a decorator, as many methods are counted as found. -/
theorem plainMethod_agrees : ∃ elements m',
    (Plugin.python.extract plainMethod).run [] = (.ok elements, m') ∧
    (elements.filterMap methodCountOf).sum
      = (Session.outcomeOf { catalog := Catalog.builtin } plainMethod "methods").captures.length := by
  obtain ⟨elements, m', hrun, -, -, hagree⟩ := method_counts_exceed_by_decorated
    (s := { catalog := Catalog.builtin }) plainMethod_clear Memo.genuine_nil rfl Memo.genuine_nil
  exact ⟨elements, m', hrun, hagree.2 rfl⟩

/-- A method with a decorator is counted and not found, though all names are there and no two classes
start together. -/
theorem decoratedMethod_differs :
    (∀ f ∈ classForm :: functionForms, f.Named decoratedMethod.tree.root) ∧
    ((decoratedMethod.tree.root.nodes.filter fun n => n.isA "class_definition").map
      Tree.start).Nodup ∧
    ∃ elements m', (Plugin.python.extract decoratedMethod).run [] = (.ok elements, m') ∧
      (elements.filterMap methodCountOf).sum
        ≠ (Session.outcomeOf { catalog := Catalog.builtin } decoratedMethod
            "methods").captures.length := by
  obtain ⟨elements, m', hrun, -, htotal⟩ := decoratedMethod_clear.counted
    (s := { catalog := Catalog.builtin }) Memo.genuine_nil rfl Memo.genuine_nil
  refine ⟨?_, decoratedMethod_clear.starts, elements, m', hrun, ?_⟩
  · unfold Form.Named
    decide
  · have hdecorated : (decoratedMethods decoratedMethod.tree.root).length = 1 := rfl
    omega

end Python

end CodeSurvey.Extract
