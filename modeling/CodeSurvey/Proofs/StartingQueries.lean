/-
  What the queries to begin with find.

  For every language and every query it has to begin with, a table says in terms of shapes which
  nodes the query is for.  That the texts of the queries say the same is checked by reading them
  (`startingQueries_conform`); the rest follows from what is known of shapes.

  Main result, `starting_query_captures_described`: such a query succeeds and captures the nodes that
  its shapes describe, each once, in the order of their starts.  A node where a match starts must not
  end where the text begins, as the matcher passes such a node over; what a parser finds of these kinds
  has at least a keyword or a sign of its own, and ends later.
-/
import CodeSurvey.Proofs.Comments
import CodeSurvey.Proofs.QueryPaths
import CodeSurvey.Proofs.Shapes
import CodeSurvey.Proofs.Sightings

namespace CodeSurvey.Query

open Syntax Extract

/-! ## §1. The table. -/

/-- Nodes of each of several kinds, under one name. -/
def each (name : String) (kinds : List String) : List Want :=
  kinds.map fun kind => ⟨name, [.plain kind]⟩

/-- What the queries for Python are for. -/
def pythonWants : List (String × List Want) :=
  [("functions", each "function" ["function_definition"]),
   ("classes", each "class" ["class_definition"]),
   ("methods", [⟨"method", [.within "function_definition" "block" "body" "class_definition"]⟩]),
   ("imports", each "import" ["import_statement", "import_from_statement"]),
   ("variables", [⟨"variable", [.holding "assignment" "left" ["identifier"]]⟩]),
   ("decorators", each "decorator" ["decorator"]),
   ("comments", each "comment" ["comment"])]

/-- What the queries for Java are for. -/
def javaWants : List (String × List Want) :=
  [("methods", each "method" ["method_declaration"]
      ++ each "constructor" ["constructor_declaration"]),
   ("functions", each "method" ["method_declaration"]),
   ("classes", each "class" ["class_declaration"] ++ each "interface" ["interface_declaration"]
      ++ each "enum" ["enum_declaration"] ++ each "record" ["record_declaration"]),
   ("fields", each "field" ["field_declaration"]),
   ("variables", each "field" ["field_declaration"]
      ++ each "variable" ["local_variable_declaration"]),
   ("imports", each "import" ["import_declaration"]),
   ("package", each "package" ["package_declaration"]),
   ("annotations", each "annotation" ["annotation", "marker_annotation"]),
   ("comments", each "comment" ["line_comment", "block_comment"])]

/-- Functions of scripts: declarations, and variables whose value is a function. -/
def scriptFunctions : List Want :=
  each "function" ["function_declaration", "generator_function_declaration"]
    ++ [⟨"function",
      [.holding "variable_declarator" "value" ["arrow_function", "function_expression"]]⟩]

/-- What the queries for JavaScript are for. -/
def javascriptWants : List (String × List Want) :=
  [("functions", scriptFunctions),
   ("classes", each "class" ["class_declaration"]),
   ("methods", each "method" ["method_definition"]),
   ("imports", each "import" ["import_statement"]),
   ("exports", each "export" ["export_statement"]),
   ("variables", each "variable" ["lexical_declaration", "variable_declaration"]),
   ("comments", each "comment" ["comment"])]

/-- What the queries for TypeScript are for. -/
def typescriptWants : List (String × List Want) :=
  [("functions", scriptFunctions),
   ("classes", each "class" ["class_declaration", "abstract_class_declaration"]),
   ("methods", each "method" ["method_definition"]),
   ("interfaces", each "interface" ["interface_declaration"]),
   ("types", each "type_alias" ["type_alias_declaration"] ++ each "enum" ["enum_declaration"]),
   ("imports", each "import" ["import_statement"]),
   ("exports", each "export" ["export_statement"]),
   ("variables", each "variable" ["lexical_declaration", "variable_declaration"]),
   ("comments", each "comment" ["comment"])]

/-- What the queries for Go are for. -/
def goWants : List (String × List Want) :=
  [("functions", each "function" ["function_declaration"]),
   ("methods", each "method" ["method_declaration"]),
   ("types", each "type" ["type_declaration"]),
   ("structs", [⟨"struct", [.holding "type_spec" "type" ["struct_type"]]⟩]),
   ("interfaces", [⟨"interface", [.holding "type_spec" "type" ["interface_type"]]⟩]),
   ("imports", each "import" ["import_declaration"]),
   ("variables", each "variable" ["var_declaration"] ++ each "constant" ["const_declaration"]),
   ("package", each "package" ["package_clause"]),
   ("comments", each "comment" ["comment"])]

/-- What the queries for Rust are for. -/
def rustWants : List (String × List Want) :=
  [("functions", each "function" ["function_item"]),
   ("classes", [⟨"class", [.plain "struct_item", .plain "enum_item", .plain "trait_item"]⟩]),
   ("structs", each "struct" ["struct_item"]),
   ("enums", each "enum" ["enum_item"]),
   ("traits", each "trait" ["trait_item"]),
   ("impls", each "impl" ["impl_item"]),
   ("imports", each "import" ["use_declaration"]),
   ("variables", each "variable" ["let_declaration"] ++ each "constant" ["const_item"]
      ++ each "static" ["static_item"]),
   ("macros", each "macro" ["macro_definition"]),
   ("comments", each "comment" ["line_comment", "block_comment"])]

/-- What the queries for C are for. -/
def cWants : List (String × List Want) :=
  [("functions", each "function" ["function_definition"]),
   ("structs", each "struct" ["struct_specifier"]),
   ("imports", each "include" ["preproc_include"]),
   ("variables", each "variable" ["declaration"]),
   ("comments", each "comment" ["comment"])]

/-- What the queries for C++ are for. -/
def cppWants : List (String × List Want) :=
  [("functions", each "function" ["function_definition"]),
   ("classes", each "class" ["class_specifier"] ++ each "struct" ["struct_specifier"]),
   ("namespaces", each "namespace" ["namespace_definition"]),
   ("imports", each "include" ["preproc_include"]),
   ("comments", each "comment" ["comment"])]

/-- The table, by language and query. -/
def startingWants : List (String × List (String × List Want)) :=
  [("c", cWants), ("cpp", cppWants), ("go", goWants), ("java", javaWants),
   ("javascript", javascriptWants), ("python", pythonWants), ("rust", rustWants),
   ("tsx", typescriptWants), ("typescript", typescriptWants)]

/-- What a query of a language is for. -/
def wantsOf (language name : String) : List Want :=
  (((startingWants.lookup language).getD []).lookup name).getD []

/-! ## §2. The texts conform to the table. -/

/-- Do rules ask for just what is wanted? -/
def askFor (wants : List Want) (rules : List Rule) : Bool :=
  decide (rules.map Rule.plain? = (wants.map Want.pattern).map some)

/-- Are the queries of a language accepted by its grammar, and do they ask for what the table says? -/
def conform (g : Grammar) (language : String) (queries : List Definition) : Bool :=
  queries.all fun d =>
    separate (wantsOf language d.name) && accepts g (askFor (wantsOf language d.name)) d.source

/-- The queries of a language, which conform to its grammar. -/
structure Stock where
  grammar : Grammar
  language : String
  queries : List Definition
  known : Grammar.ofName? language = some grammar
  conforms : conform grammar language queries = true

-- each of these reads all queries of a language
set_option maxRecDepth 10000 in
/-- The queries to begin with. -/
def stocks : List Stock :=
  [⟨.c, "c", cQueries, rfl, by decide +kernel⟩,
   ⟨.cpp, "cpp", cppQueries, rfl, by decide +kernel⟩,
   ⟨.go, "go", goQueries, rfl, by decide +kernel⟩,
   ⟨.java, "java", javaQueries, rfl, by decide +kernel⟩,
   ⟨.javascript, "javascript", javascriptQueries, rfl, by decide +kernel⟩,
   ⟨.python, "python", pythonQueries, rfl, by decide +kernel⟩,
   ⟨.rust, "rust", rustQueries, rfl, by decide +kernel⟩,
   ⟨.tsx, "tsx", typescriptQueries, rfl, by decide +kernel⟩,
   ⟨.typescript, "typescript", typescriptQueries, rfl, by decide +kernel⟩]

section Table

variable {language : String} {queries : List Definition} {g : Grammar}

theorem map_stocks : stocks.map (fun st => (st.language, st.queries)) = startingQueries := rfl

theorem startingQueries_conform (h : (language, queries) ∈ startingQueries)
    (hg : Grammar.ofName? language = some g) : conform g language queries = true := by
  rw [← map_stocks] at h
  obtain ⟨st, -, heq⟩ := List.mem_map.1 h
  obtain ⟨rfl, rfl⟩ := Prod.mk.inj heq
  rw [st.known] at hg
  exact Option.some.inj hg ▸ st.conforms

theorem source?_builtin {d : Definition} (h : (language, queries) ∈ startingQueries)
    (hd : d ∈ queries) : Catalog.builtin.source? language d.name = some d.source := by
  -- no name stands twice in the table, so each finds its own text
  have hall : (startingQueries.all fun entry => entry.2.all fun d =>
      decide (Catalog.builtin.source? entry.1 d.name = some d.source)) = true := by decide +kernel
  exact of_decide_eq_true (List.all_eq_true.1 (List.all_eq_true.1 hall _ h) d hd)

end Table

/-! ## §3. Running the queries. -/

/-- What comes of a query of the catalog on a parsed file. -/
def Session.outcomeOf (s : Session) (p : Parsed) (name : String) : Outcome :=
  (s.runNamed ⟨some p.tree, some p.dialect, p.tree.source⟩ name).1

section Running

variable {language : String} {queries : List Definition} {g : Grammar} {d : Definition}
  {s : Session} (tree : SyntaxTree) (source : List Char)

/-- A query that the grammar accepts runs, whatever the session remembers. -/
theorem runOn_accepted {check : List Rule → Bool} {query : String} (dialect : Dialect)
    (hmemo : s.memo.Genuine) (haccepted : Accepted dialect.grammar check query)
    (name : String) : ∃ c : Compiled, check c.rules = true ∧
      (s.runOn ⟨some tree, some dialect, source⟩ name (.ok query)).1.result
        = .ok ((c.captures (Text.octets source) tree.root).map fun x =>
            Capture.ofNode tree source x.1 x.2.tree) := by
  obtain ⟨c, m, hcompile, hcheck, -⟩ := hmemo.compile_accepted haccepted
  refine ⟨c, hcheck, ?_⟩
  unfold Session.runOn
  dsimp only
  rw [Session.run_eq, hcompile]
  rfl

/-- The queries to begin with run, and their rules ask for what the table says. -/
theorem runNamed_builtin (h : (language, queries) ∈ startingQueries) (hd : d ∈ queries)
    (hg : Grammar.ofName? language = some g) (hcatalog : s.catalog = Catalog.builtin)
    (hmemo : s.memo.Genuine) : ∃ c : Compiled,
      c.rules.map Rule.plain? = ((wantsOf language d.name).map Want.pattern).map some ∧
      (s.runNamed ⟨some tree, some ⟨language, g⟩, source⟩ d.name).1.result
        = .ok ((c.captures (Text.octets source) tree.root).map fun x =>
            Capture.ofNode tree source x.1 x.2.tree) := by
  have hconform := List.all_eq_true.1 (startingQueries_conform h hg) d hd
  rw [Bool.and_eq_true] at hconform
  obtain ⟨c, hrules, hresult⟩ :=
    runOn_accepted tree source ⟨language, g⟩ hmemo (accepted_of_accepts hconform.2) d.name
  refine ⟨c, of_decide_eq_true hrules, hresult ▸ ?_⟩
  have hfound : s.lookUp (Text.normalized language) d.name = .ok d.source := by
    unfold Session.lookUp
    rw [hcatalog, Catalog.source?_normalized, source?_builtin h hd]
  unfold Session.runNamed Session.runNamedAs
  dsimp only [Option.map_some, Option.getD_some]
  rw [hfound]

/-- **A query to begin with** succeeds on every numbered tree, captures different nodes, in the order
of their starts, and captures just the places that the shapes of its wants describe. -/
theorem starting_query_captures_described (h : (language, queries) ∈ startingQueries)
    (hd : d ∈ queries) (hg : Grammar.ofName? language = some g)
    (hcatalog : s.catalog = Catalog.builtin) (hmemo : s.memo.Genuine)
    (hroot : tree.root.Numbered)
    (hstop : ∀ n ∈ tree.root.nodes, ∀ w ∈ wantsOf language d.name, ∀ sh ∈ w.shapes,
      n.isA sh.outer = true → 0 < n.stop) :
    ∃ found : Bindings,
      (s.runNamed ⟨some tree, some ⟨language, g⟩, source⟩ d.name).1.result
        = .ok (found.map fun x => Capture.ofNode tree source x.1 x.2.tree) ∧
      (found.map fun x => x.2.tree.id).Nodup ∧
      found.Pairwise (fun a b => a.2.tree.start ≤ b.2.tree.start) ∧
      ∀ name place, (name, place) ∈ found ↔
        place ∈ tree.root.spots ∧ ∃ w ∈ wantsOf language d.name, w.name = name ∧
          ∃ sh ∈ w.shapes, sh.describes place = true := by
  obtain ⟨c, hrules, hresult⟩ := runNamed_builtin tree source h hd hg hcatalog hmemo
  have hseparate : separate (wantsOf language d.name) = true :=
    (Bool.and_eq_true_iff.1 (List.all_eq_true.1 (startingQueries_conform h hg) d hd)).1
  have hperm := captures_perm_describedBy hrules hseparate hroot hstop (Text.octets source)
  refine ⟨_, hresult, ?_, captures_sorted c _ _, fun name place => ?_⟩
  · exact (hperm.map _).nodup_iff.2 (nodup_describedBy hseparate hroot)
  · rw [hperm.mem_iff, mem_describedBy]

end Running

/-- The tree of a class with one method. -/
def classWithMethod : SyntaxTree :=
  { source := "class C:\n    def f(self): pass\n".toList,
    root := phrase 0 "module" none 0 31
      [phrase 1 "class_definition" none 0 30
        [token 2 "class" 0 5, phrase 3 "identifier" (some "name") 6 7 [], token 4 ":" 7 8,
         phrase 5 "block" (some "body") 13 30
          [phrase 6 "function_definition" none 13 30
            [token 7 "def" 13 16, phrase 8 "identifier" (some "name") 17 18 [],
             phrase 9 "parameters" (some "parameters") 18 24 [],
             token 10 ":" 24 25, phrase 11 "block" (some "body") 26 30 []]]]] }

/-- The method is found by the query for methods. -/
theorem classWithMethod_captured : ∃ found : Bindings,
    (Session.runNamed { catalog := Catalog.builtin }
      ⟨some classWithMethod, some ⟨"python", .python⟩, classWithMethod.source⟩ "methods").1.result
      = .ok (found.map fun x =>
          Capture.ofNode classWithMethod classWithMethod.source x.1 x.2.tree) ∧
    ∃ place, ("method", place) ∈ found ∧ place.tree.id = 6 := by
  have hquery : (⟨"methods", "Functions defined directly in a class body",
      "(class_definition body: (block (function_definition) @method))"⟩ : Definition)
      ∈ pythonQueries := by simp [pythonQueries]
  obtain ⟨found, hresult, -, -, hplaces⟩ := starting_query_captures_described
    (s := { catalog := Catalog.builtin }) classWithMethod classWithMethod.source
    (List.mem_of_getElem? (i := 5) rfl) hquery rfl rfl Memo.genuine_nil (by decide) (by decide)
  refine ⟨found, hresult, _, (hplaces _ _).2 ⟨List.mem_of_getElem? (i := 6) rfl, ?_⟩, rfl⟩
  decide

end CodeSurvey.Query
