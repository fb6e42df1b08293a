/-
  Records of captured nodes.

  A record is made of one captured node alone: its number of records and each record are what they
  are whatever becomes of the others.  A node whose octets are not those of some of the characters
  has a stand-in for a record, and no other node has one.

  Main result, `captures_faithful`: this holds of all that a query reports, a record has the octets of
  its node, and in the text that the tree was made of it is found again by its lines and columns.
-/
import CodeSurvey.Proofs.Offsets
import CodeSurvey.Proofs.Overlooking
import CodeSurvey.Proofs.Session

namespace CodeSurvey.Query

open Syntax

/-! ## §1. One record. -/

namespace Capture

/-- The record is a stand-in for a node whose text cannot be read. -/
def IsPlaceholder (c : Capture) : Prop := ∃ name message, c = placeholder name message

/-- The record of a node that is captured under a name, the text being `source`. -/
structure Records (source : List Char) (name : String) (t : Tree) (c : Capture) : Prop where
  name : c.name = name
  placeholder : c.IsPlaceholder ↔ ¬ Text.Addressable source t.start t.stop
  kind : Text.Addressable source t.start t.stop → c.nodeKind = t.kind
  bytes : Text.Addressable source t.start t.stop → c.startByte = t.start ∧ c.endByte = t.stop
  text : Text.Addressable source t.start t.stop →
    Text.octets c.text.toList = ((Text.octets source).drop c.startByte).take (c.endByte - c.startByte)

/-- The lines and columns of a record fit its text and its octets. -/
structure Placed (source : List Char) (c : Capture) : Prop where
  lines : c.endLine = c.startLine + c.text.toList.count '\n'
  start : ∃ offset, Text.BeginsLine source c.startLine offset ∧ c.startByte = offset + c.startColumn
  stop : ∃ offset, Text.BeginsLine source c.endLine offset ∧ c.endByte = offset + c.endColumn

variable {tree : SyntaxTree} {source : List Char} {name : String} {t : Tree}

/-- A stand-in is on no line. -/
theorem IsPlaceholder.startLine {c : Capture} (h : c.IsPlaceholder) : c.startLine = 0 := by
  obtain ⟨name, message, rfl⟩ := h
  rfl

theorem records_ofNode (tree : SyntaxTree) (source : List Char) (name : String) (t : Tree) :
    Records source name t (ofNode tree source name t) := by
  unfold ofNode
  split
  · rename_i hnone
    have hnot := Text.slice?_eq_none_iff.1 hnone
    exact ⟨rfl, ⟨fun _ => hnot, fun _ => ⟨_, _, rfl⟩⟩, (absurd · hnot), (absurd · hnot),
      (absurd · hnot)⟩
  · rename_i text hsome
    have hspan : Text.Addressable source t.start t.stop :=
      Text.addressable_iff_exists_slice.2 ⟨text, hsome⟩
    refine ⟨rfl, ⟨fun hstand => ?_, fun hnot => absurd hspan hnot⟩, fun _ => rfl,
      fun _ => ⟨rfl, rfl⟩, fun _ => ?_⟩
    · exact absurd hstand.startLine (Nat.succ_ne_zero _)
    · rw [String.toList_ofList]
      exact Text.octets_of_slice? hsome

theorem placed_ofNode (hspan : Text.Addressable tree.source t.start t.stop) :
    Placed tree.source (ofNode tree tree.source name t) := by
  obtain ⟨text, htext⟩ := Text.addressable_iff_exists_slice.1 hspan
  have hrow := Text.rowAt_of_slice? htext
  unfold ofNode
  rw [htext]
  refine ⟨?_, Text.exists_beginsLine hspan.2.1, Text.exists_beginsLine hspan.2.2⟩
  dsimp only
  rw [String.toList_ofList]
  omega

end Capture

/-! ## §2. All records of a query. -/

/-- What a query captures are nodes of the tree. -/
theorem mem_nodes_of_mem_captures {q : Compiled} {source : List UInt8} {root : Tree}
    {x : String × Spot} (hx : x ∈ q.captures source root) : x.2.tree ∈ root.nodes := by
  unfold Compiled.captures Compiled.matchesIn at hx
  obtain ⟨m, hm, hx⟩ := List.mem_flatMap.1 (List.mem_mergeSort.1 hx)
  obtain ⟨⟨r, i⟩, -, hm⟩ := List.mem_flatMap.1 hm
  obtain ⟨b, hb, rfl⟩ := List.mem_map.1 hm
  unfold Rule.matchesIn at hb
  split at hb
  · cases hb
  · exact (matchesIn_binds (List.mem_filter.1 hb).1 x hx).inside

namespace Session

variable {s : Session} {target : Target} {name : String} {query : Except String String}
  {captures : List Capture}

/-- A query that succeeds has run, and each of its records is made of one capture. -/
theorem exists_of_runOn_ok (h : (s.runOn target name query).1.result = .ok captures) :
    ∃ tree dialect text q, target.tree = some tree ∧ target.dialect = some dialect ∧
      query = .ok text ∧ (s.memo.compile dialect text).1 = .ok q ∧
      captures = (q.captures (Text.octets target.source) tree.root).map fun x =>
        Capture.ofNode tree target.source x.1 x.2.tree := by
  unfold runOn at h
  cases htree : target.tree with
  | none => simp [htree, finish] at h
  | some tree =>
      cases hdialect : target.dialect with
      | none => simp [htree, hdialect, finish] at h
      | some dialect =>
          cases query with
          | error message => simp [htree, hdialect, finish] at h
          | ok text =>
              rw [htree, hdialect] at h
              dsimp only at h
              rw [run_eq] at h
              cases hq : (s.memo.compile dialect text).1 with
              | error fault => simp [hq, capturesOf, finish] at h
              | ok q =>
                  rw [hq] at h
                  exact ⟨tree, dialect, text, q, rfl, rfl, rfl, hq, (Except.ok.inj h).symm⟩

/-- **Records are faithful to the text.**  Of a query that succeeds, whatever was run before: there is
one record for each capture, made of that capture alone, and it is a stand-in exactly if the octets
of the node are not those of some of the characters; else it has the octets of the node.  If the text
is the one the tree was made of, the record of a node that can be read is found by its lines and
columns, and where all nodes can be read there are no stand-ins. -/
theorem captures_faithful (h : (s.runOn target name query).1.result = .ok captures) :
    ∃ tree dialect text q found, target.tree = some tree ∧ target.dialect = some dialect ∧
      query = .ok text ∧ (s.memo.compile dialect text).1 = .ok q ∧
      found = q.captures (Text.octets target.source) tree.root ∧
      captures = found.map (fun x => Capture.ofNode tree target.source x.1 x.2.tree) ∧
      (∀ x ∈ found, x.2.tree ∈ tree.root.nodes ∧
        Capture.Records target.source x.1 x.2.tree
          (Capture.ofNode tree target.source x.1 x.2.tree)) ∧
      (target.source = tree.source →
        (∀ c ∈ captures, ¬ c.IsPlaceholder → c.Placed target.source) ∧
        ((∀ n ∈ tree.root.nodes, Text.Addressable target.source n.start n.stop) →
          ∀ c ∈ captures, ¬ c.IsPlaceholder)) := by
  obtain ⟨tree, dialect, text, q, htree, hdialect, hquery, hq, rfl⟩ := exists_of_runOn_ok h
  refine ⟨tree, dialect, text, q, _, htree, hdialect, hquery, hq, rfl, rfl, fun x hx => ?_,
    fun hsource => ⟨fun c hc hreal => ?_, fun hall c hc => ?_⟩⟩
  · exact ⟨mem_nodes_of_mem_captures hx, Capture.records_ofNode tree target.source x.1 x.2.tree⟩
  · obtain ⟨x, -, rfl⟩ := List.mem_map.1 hc
    rw [(Capture.records_ofNode ..).placeholder, not_not] at hreal
    rw [hsource] at hreal ⊢
    exact Capture.placed_ofNode hreal
  · obtain ⟨x, hx, rfl⟩ := List.mem_map.1 hc
    rw [(Capture.records_ofNode ..).placeholder, not_not]
    exact hall x.2.tree (mem_nodes_of_mem_captures hx)

/-- A remark of two lines with accents in it and in front of it, and the text that is looked at. -/
def remark (source : String) : Target :=
  { tree := some
      { source := "é/*ü\n*/".toList,
        root := .node { id := 0, kind := "translation_unit", named := true, start := 0, stop := 9 }
          [.node { id := 1, kind := "comment", named := true, extra := true, start := 2, stop := 9 }
            []] },
    dialect := some ⟨"c", Grammar.c⟩,
    source := source.toList }

/-- An accent counts as two octets, and the remark ends in the line behind the one it begins in.
Of the text without its end there is a stand-in. -/
theorem remark_told :
    ∃ c c' : Capture,
      (({ catalog := [] } : Session).runText (remark "é/*ü\n*/") "(comment) @c").1.result = .ok [c] ∧
      ¬ c.IsPlaceholder ∧ c.Placed "é/*ü\n*/".toList ∧
      (c.startLine, c.startColumn, c.endLine, c.endColumn, c.text) = (1, 2, 2, 2, "/*ü\n*/") ∧
      (({ catalog := [] } : Session).runText (remark "é/*ü") "(comment) @c").1.result = .ok [c'] ∧
      c'.IsPlaceholder := by
  have hwhole : (({ catalog := [] } : Session).runText (remark "é/*ü\n*/") "(comment) @c").1.result
      = .ok [⟨"c", "comment", 1, 2, 2, 2, 2, 9, "/*ü\n*/"⟩] := by decide +kernel
  have hcut : (({ catalog := [] } : Session).runText (remark "é/*ü") "(comment) @c").1.result
      = .ok [.placeholder "c" "byte range 2..9 is not addressable in a 6-byte source"] := by
    decide +kernel
  obtain ⟨tree, -, -, -, -, htree, -, -, -, -, -, -, hplaces⟩ := captures_faithful hwhole
  obtain rfl := Option.some.inj htree
  obtain ⟨hplaced, hreal⟩ := hplaces rfl
  have hnot := hreal (by decide +kernel) _ List.mem_cons_self
  exact ⟨_, _, hwhole, hnot, hplaced _ List.mem_cons_self hnot, rfl, hcut, _, _, rfl⟩

end Session

end CodeSurvey.Query
