/-
  The language of a filter.

  A query command parses a file in the language of the path that the guard has let through, with its
  links followed.  Its filter goes by the language of the path as it was typed.  What a filter keeps
  depends on the language by the way in which names are found (`Naming`), and of these ways no two
  filter alike (`filterCaptures_eq_iff`).

      no link is called like the last part of a path   →   the guard keeps that part
                                                                     (`Guard.name?_of_check`)

  Main result, `filter_language_iff`: the captures are filtered in the language of the file, for
  every filter, exactly if both languages find names in one way; which is so if the command names a
  language or no link is called like the file.
-/
import CodeSurvey.Command.Run
import CodeSurvey.Proofs.Conjunction
import CodeSurvey.Proofs.Containment
import CodeSurvey.Proofs.QueryPaths

namespace CodeSurvey

open Analysis Extract Syntax Query

/-! ## §1. Ways to find a name. -/

namespace Filter

/-- The ways to find the name that a text declares. -/
inductive Naming where
  | python
  | script
  | go
  | rust
  | braced
deriving DecidableEq

/-- How names are found in a language. -/
def namingOf : String → Naming
  | "python" => .python
  | "javascript" | "typescript" | "tsx" => .script
  | "go" => .go
  | "rust" => .rust
  | _ => .braced

/-- The name that is found in a text that is no name itself. -/
def Naming.find (text : List Char) : Naming → Option (List Char)
  | .python => pythonName.find text
  | .script => firstFound scriptNames (header text)
  | .go => firstFound goNames (header text)
  | .rust => firstFound rustNames (header text)
  | .braced =>
    match typeName.find (header text) with
    | some name => some name
    | none =>
      (callableName.findAll (header text)).find? fun name =>
        !keywords.contains (String.ofList name)

/-- A language matters by the way in which its names are found. -/
theorem nameOf_eq (language : String) (text : List Char) :
    nameOf language text = if isIdentifier (Text.trim text) then some (Text.trim text)
      else (namingOf language).find (Text.trim text) := by
  unfold nameOf
  dsimp only
  split
  · rfl
  · split
    case h_7 hpython hjavascript htypescript htsx hgo hrust =>
      have hbraced : namingOf language = .braced := by
        unfold namingOf
        split
        · exact absurd rfl hpython
        · exact absurd rfl hjavascript
        · exact absurd rfl htypescript
        · exact absurd rfl htsx
        · exact absurd rfl hgo
        · exact absurd rfl hrust
        · rfl
      rw [hbraced]
      rfl
    all_goals rfl

theorem declaredName_congr {a b : String} (hab : namingOf a = namingOf b) (text : String) :
    declaredName text a = declaredName text b := by
  unfold declaredName
  rw [nameOf_eq, nameOf_eq, hab]

theorem accepts_snippet_congr {a b : String} (hab : namingOf a = namingOf b) (clause : Clause)
    (text : String) : clause.accepts a (.snippet text) = clause.accepts b (.snippet text) := by
  have hname : Subject.name? a (.snippet text) = Subject.name? b (.snippet text) :=
    declaredName_congr hab text
  cases clause with
  | nameIs name => simp only [Clause.accepts, hname]
  | nameLike source glob => simp only [Clause.accepts, hname]
  | parameters count => rfl
  | modifier keyword present => rfl
  | ignored key value => rfl

/-- A text in which each way finds another name. -/
def probe : String := "def p\nfunction j func g fn r class c"

/-- The name that is found in that text. -/
def Naming.probeName : Naming → String
  | .python => "p"
  | .script => "j"
  | .go => "tion"
  | .rust => "r"
  | .braced => "c"

theorem probeName_injective : Function.Injective Naming.probeName := by
  intro way way'
  cases way <;> cases way' <;> decide

theorem declaredName_probe (language : String) :
    declaredName probe language = some (namingOf language).probeName := by
  unfold declaredName
  rw [nameOf_eq, if_neg (by decide +kernel)]
  cases namingOf language <;> decide +kernel

theorem parse_probeName (way : Naming) :
    Expr.parse ("name=" ++ way.probeName) = .ok [.nameIs way.probeName] := by
  cases way <;> rfl

end Filter

namespace Engine

/-- Captures have texts, so a filter that can be read answers. -/
theorem filterCaptures_of_parse {expr : String} {clauses : Filter.Expr}
    (hparse : Filter.Expr.parse expr = .ok clauses) (captures : List Capture) (language : String) :
    filterCaptures captures language expr = .ok (captures.filter fun c =>
      clauses.accepts (Text.normalized language) (.snippet c.text)) :=
  Filter.keep_eq_ok_iff.2 ⟨clauses, hparse, fun _ _ _ => rfl, rfl⟩

/-- A capture of the probe. -/
def probeCapture : Capture := { Capture.placeholder "probe" Filter.probe with nodeKind := "probe" }

/-- The name that one way finds in the probe tells it from the others. -/
theorem filterCaptures_probe (language : String) (way : Filter.Naming) :
    filterCaptures [probeCapture] language ("name=" ++ way.probeName)
      = .ok (if Filter.namingOf (Text.normalized language) = way then [probeCapture] else []) := by
  have hname : Filter.Subject.name? (Text.normalized language) (.snippet probeCapture.text)
      = some (Filter.namingOf (Text.normalized language)).probeName :=
    Filter.declaredName_probe _
  rw [filterCaptures_of_parse (Filter.parse_probeName way)]
  simp only [List.filter_cons, List.filter_nil, Filter.Expr.accepts, List.all_cons, List.all_nil,
    Bool.and_true, Filter.Clause.accepts, hname, beq_iff_eq, Option.some.injEq,
    Filter.probeName_injective.eq_iff]

/-- **Languages filter captures alike** exactly if they find names in one way. -/
theorem filterCaptures_eq_iff (a b : String) :
    (∀ captures expr, filterCaptures captures a expr = filterCaptures captures b expr) ↔
      Filter.namingOf (Text.normalized a) = Filter.namingOf (Text.normalized b) := by
  constructor
  · -- a filter for the name that is found in the probe for `b` keeps it for `a` only if `a` finds
    -- the same one
    intro h
    have hprobe := h [probeCapture] ("name=" ++ (Filter.namingOf (Text.normalized b)).probeName)
    rw [filterCaptures_probe, filterCaptures_probe, if_pos rfl] at hprobe
    by_contra hne
    rw [if_neg hne] at hprobe
    cases hprobe
  · intro h captures expr
    cases hparse : Filter.Expr.parse expr with
    | error e =>
        unfold filterCaptures Filter.keep
        rw [hparse]
    | ok clauses =>
        rw [filterCaptures_of_parse hparse, filterCaptures_of_parse hparse]
        unfold Filter.Expr.accepts
        simp only [Filter.accepts_snippet_congr h]

end Engine

/-! ## §2. Paths whose last part is no link. -/

namespace Files

/-- No link on the disk is called so. -/
def Disk.NoLinkCalled (d : Disk) (name : String) : Prop :=
  ∀ place target, d.entry? (place ++ [name]) ≠ some (.link target)

section Last

variable {d : Disk} {name : String}

theorem Disk.noLinkCalled_of_entries
    (h : ∀ entry ∈ d.entries, entry.1.getLast? = some name → ∀ target, entry.2 ≠ .link target) :
    d.NoLinkCalled name := by
  intro place target hentry
  exact h _ (mem_entries_of_lookup hentry) (List.getLast?_concat) target rfl

/-- A step to something that is no link ends where it says. -/
theorem Disk.follow_singleton (hdot : name ≠ ".") (hdots : name ≠ "..")
    (hlink : d.NoLinkCalled name) {links : Nat} {here place : Place}
    (h : d.follow links here [name] = some place) : place = here ++ [name] := by
  obtain ⟨onLink, hwalk⟩ : ∃ onLink, d.walk onLink here [name] = some place := by
    cases links with
    | zero => exact ⟨_, h⟩
    | succ links => exact ⟨_, h⟩
  by_cases hhere : d.entry? here = some .directory
  · rw [walk_cons hhere, if_neg hdot, if_neg hdots] at hwalk
    cases hentry : d.entry? (here ++ [name]) with
    | none =>
        rw [hentry] at hwalk
        cases hwalk
    | some entry =>
        cases entry with
        | directory =>
            rw [hentry] at hwalk
            exact (Option.some.inj hwalk).symm
        | file bytes =>
            rw [hentry] at hwalk
            exact (Option.some.inj hwalk).symm
        | link target => exact absurd hentry (hlink here target)
  · rw [walk_cons_of_not_directory hhere] at hwalk
    cases hwalk

/-- What leads somewhere ends with a step there. -/
theorem Disk.follow_last {links : Nat} {here place : Place} {above : List String}
    (h : d.follow links here (above ++ [name]) = some place) :
    ∃ left between, d.follow left between [name] = some place := by
  obtain ⟨between, hbetween⟩ := follow_of_append links here above [name] place h
  obtain ⟨used, hused, hstage⟩ := follow_append links here above between hbetween
  obtain ⟨left, rfl⟩ := Nat.exists_eq_add_of_le hused
  rw [hstage] at h
  exact ⟨left, between, h⟩

/-- **A path leads to a place of its name** if no link is called like its last part. -/
theorem Disk.getLast?_of_real? (hdot : name ≠ ".") (hdots : name ≠ "..")
    (hlink : d.NoLinkCalled name) {p : Path} {place : Place} (hlast : p.parts.getLast? = some name)
    (h : d.real? p = some place) : place.getLast? = some name := by
  obtain ⟨above, hparts⟩ := List.getLast?_eq_some_iff.1 hlast
  have hfollow := follow_parts_of_real? h
  rw [hparts] at hfollow
  obtain ⟨links, here, hstep⟩ := follow_last hfollow
  rw [follow_singleton hdot hdots hlink hstep, List.getLast?_concat]

theorem getLast?_collapse (hdots : name ≠ "..") {p : Path} (hlast : p.parts.getLast? = some name) :
    p.collapse.parts.getLast? = some name := by
  obtain ⟨above, hparts⟩ := List.getLast?_eq_some_iff.1 hlast
  unfold Path.collapse
  rw [hparts, List.foldl_concat, if_neg hdots, List.getLast?_concat]

/-- Climbing up from the end keeps the last part. -/
theorem getLast?_followExisting (hdot : name ≠ ".") (hdots : name ≠ "..")
    (hlink : d.NoLinkCalled name) {p : Path} (hp : p.parts.getLast? = some name) :
    ∀ up tail : List String, (up.reverse ++ tail).getLast? = some name →
      (followExisting d p up tail).parts.getLast? = some name := by
  -- a part that is given up moves to the tail, so both together end with the name all along
  intro up
  induction up with
  | nil =>
      intro tail htail
      unfold followExisting
      split
      · exact htail
      · exact hp
  | cons last up ih =>
      intro tail hlast
      unfold followExisting
      split
      · rename_i place hplace
        cases tail with
        | nil =>
            rw [List.append_nil] at hlast ⊢
            exact Disk.getLast?_of_real? hdot hdots hlink hlast hplace
        | cons part rest =>
            rw [List.getLast?_append_cons] at hlast
            rw [List.getLast?_append_cons]
            exact hlast
      · refine ih (last :: tail) ?_
        rw [← hlast, List.reverse_cons, List.append_assoc, List.singleton_append]

theorem getLast?_resolve (hdot : name ≠ ".") (hdots : name ≠ "..") (hlink : d.NoLinkCalled name)
    {p : Path} (hlast : p.parts.getLast? = some name) :
    (resolve d p).parts.getLast? = some name := by
  unfold resolve
  split
  · rename_i place hplace
    exact Disk.getLast?_of_real? hdot hdots hlink hlast hplace
  · have hplain := getLast?_collapse hdots hlast
    refine getLast?_followExisting hdot hdots hlink hplain _ [] ?_
    rw [List.append_nil, List.reverse_reverse]
    exact hplain

/-- **What the guard lets through** has the name that was asked for, if no link is called so. -/
theorem Guard.name?_of_check {g : Guard} {text : String} {p : Path}
    (hlast : (Path.ofText text).parts.getLast? = some name) (hlink : d.NoLinkCalled name)
    (h : g.check d text = .ok p) : p.name? = (Path.ofText text).name? := by
  have hmem : name ∈ (Path.ofText text).parts := List.mem_of_getLast? hlast
  have hdot : name ≠ "." := (Path.of_mem_parts_ofText hmem).1.2.1
  unfold check at h
  -- a text that is refused lets nothing through
  split at h
  · cases h
  split at h
  · cases h
  split at h
  · cases h
  rename_i hclimbs
  have hdots : name ≠ ".." := by
    rintro rfl
    simp [climbs, hmem] at hclimbs
  have hkept : p.parts.getLast? = some name := by
    cases hroot : g.root with
    | none =>
        rw [hroot] at h
        obtain rfl := Except.ok.inj h
        exact getLast?_collapse hdots hlast
    | some root =>
        rw [hroot] at h
        dsimp only at h
        split at h
        · obtain rfl := Except.ok.inj h
          refine getLast?_resolve hdot hdots hlink ?_
          unfold Path.join
          split
          · exact hlast
          · -- a relative path is looked up below the root and keeps its last part there
            show (root.parts ++ (Path.ofText text).parts).getLast? = some name
            rw [List.getLast?_append, hlast]
            rfl
        · cases h
  unfold Path.name?
  rw [hkept, hlast]

end Last

end Files

/-! ## §3. A query command. -/

namespace Command

namespace QueryOptions

/-- The request of a query command. -/
def request (o : QueryOptions) : Request := { path := o.path, language := o.language }

/-- What comes of the query. -/
def outcome (h : Host) (e : Engine) (o : QueryOptions) : Except Failure Outcome × Engine :=
  match o.choice with
  | .raw text => Engine.runText h e o.request text
  | .named name => Engine.runNamed h e o.request name

/-- What a session finds for the command in a parsed file. -/
def inSession (o : QueryOptions) (s : Session) (p : Parsed) : Outcome :=
  match o.choice with
  | .raw text => (s.runText (Engine.target p) text).1
  | .named name => (s.runNamed (Engine.target p) name).1

/-- The language that the filter goes by. -/
def filterLanguage (e : Engine) (o : QueryOptions) : String :=
  (o.request.explicitLanguage.or (e.detectLanguage (Files.Path.ofText o.path))).getD ""

/-- What is printed when a filter has been asked what to keep. -/
def narrowed (o : QueryOptions) (outcome : Outcome) :
    Except Filter.Error (List Capture) → Output
  | .error err => { ending := .error err.message }
  | .ok kept =>
    printed (queryReport { outcome with result := outcome.result.map fun _ => kept }) o.compact
      outcome.success

end QueryOptions

section Narrowing

variable {h : Host} {e : Engine} {o : QueryOptions} {outcome : Outcome} {expr : String}

theorem outcome_setup (h : Host) (e : Engine) (o : QueryOptions) :
    Engine.SameSetup e (o.outcome h e).2 := by
  unfold QueryOptions.outcome
  split
  · exact Engine.runText_setup h e _ _
  · rw [Engine.runNamed_eq]
    exact Engine.analyze_setup h e _

/-- A filter is asked in its own language. -/
theorem runQuery_of_filter (hfilter : o.filter = some expr)
    (hok : (o.outcome h e).1 = .ok outcome) : runQuery h e o = o.narrowed outcome
      (Engine.filterCaptures outcome.captures (o.filterLanguage e) expr) := by
  have hsetup := outcome_setup h e o
  obtain ⟨later, houtcome⟩ : ∃ later, o.outcome h e = (.ok outcome, later) := ⟨_, Prod.ext hok rfl⟩
  rw [houtcome] at hsetup
  have hlanguage : o.filterLanguage e = o.filterLanguage later := by
    unfold QueryOptions.filterLanguage Engine.detectLanguage Settings.languageOfExtension
    rw [hsetup.settings, hsetup.plugins]
  unfold QueryOptions.outcome QueryOptions.request at houtcome
  unfold runQuery
  cases hchoice : o.choice with
  | raw text =>
      rw [hchoice] at houtcome
      dsimp only at houtcome ⊢
      rw [houtcome, hfilter, hlanguage]
      rfl
  | named name =>
      rw [hchoice] at houtcome
      dsimp only at houtcome ⊢
      rw [houtcome, hfilter, hlanguage]
      rfl

/-- **A query that succeeds** was run in the session, on the file as it was parsed. -/
theorem exists_parsed_of_outcome
    (hnamed : ∀ name, o.choice = .named name → ∃ known, Engine.KeptQueries h.parser known e ∧
      Engine.KeysApart known ∧
      ∀ q, Engine.ask h e (Engine.queryRequest o.request name) = .ok q → q ∈ known)
    (hok : (o.outcome h e).1 = .ok outcome) (hsuccess : outcome.success = true) :
    ∃ q p, Engine.ask h e o.request = .ok q ∧
      e.grammars.parse h.parser q.source q.language q.path = .ok p ∧
      outcome = o.inSession e.session p := by
  unfold QueryOptions.outcome at hok
  unfold QueryOptions.inSession
  cases hchoice : o.choice with
  | named name =>
      rw [hchoice] at hok
      obtain ⟨known, hkept, hkeys, hknown⟩ := hnamed name hchoice
      rcases Engine.paths_cases hkept hkeys hknown with
        ⟨f, hrefused, -⟩ | ⟨message, -, hfailed, -⟩ | ⟨q, p, hask, hparse, hran, -⟩
      · rw [hrefused] at hok
        cases hok
      · rw [hfailed] at hok
        cases hok
        cases hsuccess
      · rw [hran] at hok
        exact ⟨q, p, hask, hparse, (Except.ok.inj hok).symm⟩
  | raw text =>
      rw [hchoice] at hok
      rcases hask : Engine.ask h e o.request with (f | known) | q
      · rw [Engine.runText_of_refused hask] at hok
        cases hok
      · rw [Engine.runText_of_unread hask] at hok
        cases hok
        cases hsuccess
      · cases hparse : e.grammars.parse h.parser q.source q.language q.path with
        | error f =>
            rw [Engine.runText_of_unparsed hask hparse] at hok
            cases hok
            cases hsuccess
        | ok p =>
            rw [Engine.runText_of_parsed hask hparse] at hok
            exact ⟨q, p, rfl, hparse, (Except.ok.inj hok).symm⟩

/-- **Both languages are found in one way** if the command names one, or if no link is called like
the file. -/
theorem namingOf_filterLanguage {q : Engine.Asking} (hask : Engine.ask h e o.request = .ok q)
    (hplain : o.request.explicitLanguage.isSome = true ∨
      ∃ name, (Files.Path.ofText o.path).parts.getLast? = some name ∧ h.disk.NoLinkCalled name) :
    Filter.namingOf (Text.normalized (o.filterLanguage e))
      = Filter.namingOf (Text.normalized q.language) := by
  obtain ⟨path, source, language, hpath, -, hlanguage, rfl⟩ := Engine.ask_eq_ok_iff.1 hask
  obtain ⟨-, rfl⟩ := Engine.resolveLanguage_eq_ok_iff.1 hlanguage
  unfold QueryOptions.filterLanguage Engine.languageOf
  rcases hplain with hnamed | ⟨name, hlast, hlink⟩
  · obtain ⟨language, hnamed⟩ := Option.isSome_iff_exists.1 hnamed
    rw [hnamed]
    rfl
  · have hname : path.name? = (Files.Path.ofText o.path).name? :=
      Files.Guard.name?_of_check hlast hlink hpath
    have hdetect : e.detectLanguage path = e.detectLanguage (Files.Path.ofText o.path) := by
      unfold Engine.detectLanguage Files.Path.extension?
      rw [hname]
    rw [hdetect]
    cases o.request.explicitLanguage.or (e.detectLanguage (Files.Path.ofText o.path)) with
    | none =>
        -- names are found in the same way in no language and in an unknown one
        have hunknown : Filter.namingOf (Text.normalized "")
            = Filter.namingOf (Text.normalized Engine.unknownLanguage) := by decide +kernel
        exact hunknown
    | some language => rfl

end Narrowing

/-! ## §4. The main result. -/

/-- **The language of a filter.**  Whatever was done with an engine before and whatever is on the
disk: a query command with a filter whose query succeeds has parsed the file in the language of the
path that the guard let through.  It prints what the filter keeps in the language of the path as it
was typed.  Every filter keeps the same in the language of the file exactly if both find names in
one way; and this is so whenever the command names a language, or no link is called like the
file. -/
theorem filter_language_iff (parser : Parser) (root : Option String) (settings : Settings)
    (steps : Engine.Steps) (disk : Files.Disk) (o : QueryOptions) {expr : String}
    (hfilter : o.filter = some expr)
    (hkeys : ∀ name, o.choice = .named name → Engine.KeysApart (Engine.askings parser
      (Engine.new root settings) (steps ++ [(disk, .runNamed o.request name)])))
    {outcome : Outcome}
    (hok : (o.outcome ⟨disk, parser⟩ (Engine.after parser (Engine.new root settings) steps)).1
      = .ok outcome)
    (hsuccess : outcome.success = true) :
    let h : Host := ⟨disk, parser⟩
    let e := Engine.after parser (Engine.new root settings) steps
    ∃ q p, Engine.ask h e o.request = .ok q ∧
      e.grammars.parse parser q.source q.language q.path = .ok p ∧
      outcome = o.inSession e.session p ∧
      runQuery h e o = o.narrowed outcome
        (Engine.filterCaptures outcome.captures (o.filterLanguage e) expr) ∧
      ((∀ captures filter, Engine.filterCaptures captures (o.filterLanguage e) filter
          = Engine.filterCaptures captures q.language filter) ↔
        Filter.namingOf (Text.normalized (o.filterLanguage e))
          = Filter.namingOf (Text.normalized q.language)) ∧
      (o.request.explicitLanguage.isSome = true ∨
          (∃ name, (Files.Path.ofText o.path).parts.getLast? = some name ∧
            disk.NoLinkCalled name) →
        runQuery h e o = o.narrowed outcome
          (Engine.filterCaptures outcome.captures q.language expr)) := by
  intro h e
  have hnamed : ∀ name, o.choice = .named name → ∃ known, Engine.KeptQueries parser known e ∧
      Engine.KeysApart known ∧
      ∀ q, Engine.ask h e (Engine.queryRequest o.request name) = .ok q → q ∈ known := by
    intro name hname
    obtain ⟨hkept, hknown⟩ := Engine.kept_and_known parser root settings steps disk
      (.runNamed o.request name) rfl
    exact ⟨_, hkept, hkeys name hname, hknown⟩
  obtain ⟨q, p, hask, hparse, houtcome⟩ := exists_parsed_of_outcome hnamed hok hsuccess
  have hrun := runQuery_of_filter (h := h) (e := e) hfilter hok
  have halike := Engine.filterCaptures_eq_iff (o.filterLanguage e) q.language
  refine ⟨q, p, hask, hparse, houtcome, hrun, halike, fun hplain => ?_⟩
  rw [hrun, halike.2 (namingOf_filterLanguage hask hplain)]

/-- A parser that finds a file without declarations in every text, and all of the text in it. -/
def wholeUnit : Parser := fun _ source =>
  let kind := "translation_unit"
  some
    { source := source.toList,
      root := .node { id := 0, kind := kind, named := true, start := 0,
                      stop := Text.byteLength source.toList } [] }

/-- A file in C, and a link to it that is called like a file in Python. -/
def linkedFile : Files.Disk :=
  { entries := [(["w"], .directory),
      (["w", "b.c"], .file (Text.octets "int m() \x7b \x7d".toList)), (["w", "a.py"], .link "b.c")],
    current := ["w"] }

/-- The command that looks for a file with the name `m` in it. -/
def findsM (path : String) : QueryOptions :=
  { path := path, choice := .raw "(translation_unit) @f", filter := some "name=m", compact := true }

/-- What the query finds there, without the filter. -/
def foundM : Outcome :=
  ⟨customName, .ok [⟨"f", "translation_unit", 1, 1, 0, 11, 0, 11, "int m() \x7b \x7d"⟩]⟩

theorem outcome_of_pair {x : Except Failure Outcome} {outcome : Outcome}
    (h : x.toOption.map (fun o => (o.name, o.result)) = some (outcome.name, outcome.result)) :
    x = .ok outcome := by
  cases x with
  | error f => cases h
  | ok o =>
      obtain ⟨name, result⟩ := o
      cases Option.some.inj h
      rfl

/-- Asked for by its own name, the file is filtered as what it is. -/
theorem plain_file_filtered :
    let h : Host := ⟨linkedFile, wholeUnit⟩
    let e := Engine.after wholeUnit (Engine.new (some "/w") {}) []
    ∃ q, Engine.ask h e (findsM "b.c").request = .ok q ∧ q.language = "c" ∧
      runQuery h e (findsM "b.c") = (findsM "b.c").narrowed foundM
        (Engine.filterCaptures foundM.captures q.language "name=m") := by
  intro h e
  have hok : ((findsM "b.c").outcome h e).1 = .ok foundM := outcome_of_pair (by decide +kernel)
  have hlink : linkedFile.NoLinkCalled "b.c" := by
    refine Files.Disk.noLinkCalled_of_entries ?_
    simp [linkedFile]
  obtain ⟨q, -, hask, -, -, -, -, hplain⟩ := filter_language_iff wholeUnit (some "/w") {} []
    linkedFile (findsM "b.c") rfl (fun name hname => nomatch hname) hok rfl
  refine ⟨q, hask, ?_, hplain (.inr ⟨"b.c", by decide +kernel, hlink⟩)⟩
  have hlanguage : (Engine.ask h e (findsM "b.c").request).toOption.map Engine.Asking.language
      = some "c" := by decide +kernel
  rw [hask] at hlanguage
  exact Option.some.inj hlanguage

/-- **A file behind a link**: the query runs in the language of the file, in which the filter keeps
the capture, but the filter goes by the name of the link, and nothing is printed. -/
theorem linked_file_misread :
    let h : Host := ⟨linkedFile, wholeUnit⟩
    let e := Engine.new (some "/w") {}
    ((findsM "a.py").outcome h e).1 = .ok foundM ∧ foundM.success = true ∧
      (∃ q, Engine.ask h e (findsM "a.py").request = .ok q ∧ q.language = "c") ∧
      Engine.filterCaptures foundM.captures "c" "name=m" = .ok foundM.captures ∧
      foundM.captures.length = 1 ∧
      runQuery h e (findsM "a.py") = (findsM "a.py").narrowed foundM (.ok []) ∧
      runQuery h e (findsM "a.py") ≠ (findsM "a.py").narrowed foundM
        (Engine.filterCaptures foundM.captures "c" "name=m") := by
  intro h e
  have hok : ((findsM "a.py").outcome h e).1 = .ok foundM := outcome_of_pair (by decide +kernel)
  have hask : (Engine.ask h e (findsM "a.py").request).toOption.map Engine.Asking.language
      = some "c" := by decide +kernel
  have hkept : Engine.filterCaptures foundM.captures "c" "name=m" = .ok foundM.captures := by
    decide +kernel
  have hrun : runQuery h e (findsM "a.py") = (findsM "a.py").narrowed foundM (.ok []) := by
    have hnone : Engine.filterCaptures foundM.captures ((findsM "a.py").filterLanguage e) "name=m"
        = .ok [] := by decide +kernel
    rw [← hnone]
    exact runQuery_of_filter rfl hok
  refine ⟨hok, rfl, ?_, hkept, rfl, hrun, fun heq => ?_⟩
  · cases hasked : Engine.ask h e (findsM "a.py").request with
    | error known =>
        rw [hasked] at hask
        cases hask
    | ok q =>
        rw [hasked] at hask
        exact ⟨q, rfl, Option.some.inj hask⟩
  · rw [hrun, hkept] at heq
    exact absurd (congrArg Output.stdout heq) (by decide +kernel)

end Command

end CodeSurvey
