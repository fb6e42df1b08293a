/-
  Fingerprints are written without ambiguity.

  The written form is a row of fields: a tag, a length in eight octets, and as many octets as the
  length says.  Reading from the left, the length tells where a field ends, so two equal rows have
  equal first fields and equal remainders (`field_append_inj`).  The queries are the only part
  whose number of fields varies; that number is itself the first of them, and "no list" is told
  from a list by the length of that first field (`queryFields_append_inj`).

  Main results:
    * `encode_inj` — equal written forms come from equal fingerprints, as long as all lengths fit
      into eight octets;
    * `key_eq_iff_same_request` — keys agree exactly when everything that can change a result
      agrees, unless the digest collides on the very octets at hand.
-/
import CodeSurvey.Analysis.Request
import Mathlib.Algebra.Group.Nat.Defs

namespace CodeSurvey

/-! ## §1. Octets of a text and digits of a digest. -/

/-- Texts with the same octets are the same. -/
theorem Text.octets_toList_inj {s t : String}
    (h : Text.octets s.toList = Text.octets t.toList) : s = t := by
  have hbytes : s.toList.utf8Encode = t.toList.utf8Encode := by
    show (s.toList.flatMap String.utf8EncodeChar).toByteArray
      = (t.toList.flatMap String.utf8EncodeChar).toByteArray
    exact congrArg List.toByteArray h
  rw [← String.ofList_toList (s := s), ← String.ofList_toList (s := t),
    ← String.toByteArray_inj, String.toByteArray_ofList, String.toByteArray_ofList]
  exact hbytes

namespace Digest

/-- The digest tells the given inputs apart. -/
def Separates (inputs : List (List UInt8)) : Prop :=
  ∀ x ∈ inputs, ∀ y ∈ inputs, blake3 x = blake3 y → x = y

theorem separates_pair {x y : List UInt8} (h : blake3 x = blake3 y → x = y) :
    Separates [x, y] := by
  intro a ha b hb hab
  simp only [List.mem_cons, List.not_mem_nil, or_false] at ha hb
  rcases ha with rfl | rfl <;> rcases hb with rfl | rfl
  · rfl
  · exact h hab
  · exact (h hab.symm).symm
  · rfl

theorem digitChar_inj : ∀ m < 16, ∀ n < 16, Nat.digitChar m = Nat.digitChar n → m = n := by
  decide

theorem hexOctet_inj {a b : UInt8} (h : hexOctet a = hexOctet b) : a = b := by
  simp only [hexOctet, List.cons.injEq, and_true] at h
  have ha := a.toNat_lt
  have hb := b.toNat_lt
  have hhigh := digitChar_inj (a.toNat / 16) (by omega) (b.toNat / 16) (by omega) h.1
  have hlow := digitChar_inj (a.toNat % 16) (by omega) (b.toNat % 16) (by omega) h.2
  exact UInt8.toNat_inj.1 (by omega)

theorem hexOctets_inj : ∀ a b : List UInt8, a.flatMap hexOctet = b.flatMap hexOctet → a = b
  | [], [], _ => rfl
  | [], y :: ys, h => by simp [hexOctet] at h
  | x :: xs, [], h => by simp [hexOctet] at h
  | x :: xs, y :: ys, h => by
      rw [List.flatMap_cons, List.flatMap_cons] at h
      obtain ⟨hhead, htail⟩ := List.append_inj h rfl
      rw [hexOctet_inj hhead, hexOctets_inj xs ys htail]

/-- Digests that are shown alike are alike. -/
theorem hex_inj {a b : List UInt8} (h : hex a = hex b) : a = b :=
  hexOctets_inj a b (String.ofList_inj.1 h)

theorem wordOctets_length (ws : List UInt32) :
    (ws.flatMap wordOctets).length = 4 * ws.length := by
  induction ws with
  | nil => rfl
  | cons w ws ih =>
      rw [List.flatMap_cons, List.length_append, ih, List.length_cons]
      show 4 + 4 * ws.length = _
      omega

theorem blake3_length (bytes : List UInt8) : (blake3 bytes).length = 32 := by
  rw [blake3, wordOctets_length, Vector.length_toList]

end Digest

namespace Analysis.Fingerprint

/-! ## §2. One field. -/

@[simp] theorem word64_length (n : Nat) : (word64 n).length = 8 := by
  simp [word64]

/-- A number below `256 ^ k` is told by its first `k` digits to the base 256. -/
theorem eq_of_digits_eq :
    ∀ (k m n : Nat), m < 256 ^ k → n < 256 ^ k →
      (∀ i < k, m / 256 ^ i % 256 = n / 256 ^ i % 256) → m = n
  | 0, m, n, hm, hn, _ => by
      rw [Nat.pow_zero] at hm hn
      omega
  | k + 1, m, n, hm, hn, hdigits => by
      have hlow : m % 256 = n % 256 := by simpa using hdigits 0 (Nat.succ_pos k)
      rw [Nat.pow_succ] at hm hn
      have hhigh : m / 256 = n / 256 := by
        apply eq_of_digits_eq k (m / 256) (n / 256) (by omega) (by omega)
        intro i hi
        have hdigit := hdigits (i + 1) (by omega)
        rw [Nat.pow_succ, Nat.mul_comm] at hdigit
        rwa [← Nat.div_div_eq_div_mul, ← Nat.div_div_eq_div_mul] at hdigit
      omega

/-- Eight octets hold every number below `2 ^ 64`. -/
theorem word64_inj {m n : Nat} (hm : m < 2 ^ 64) (hn : n < 2 ^ 64)
    (h : word64 m = word64 n) : m = n := by
  apply eq_of_digits_eq 8 m n hm hn
  intro i hi
  have hoctet := congrArg (fun w => w[i]?) h
  simp only [word64, List.getElem?_map, List.getElem?_range hi, Option.map_some,
    Option.some.injEq] at hoctet
  have hnat := congrArg UInt8.toNat hoctet
  have hshift : ∀ k : Nat, k >>> (8 * i) = k / 256 ^ i := fun k =>
    (Nat.shiftRight_eq_div_pow k (8 * i)).trans (congrArg (k / ·) (Nat.pow_mul 2 8 i))
  rw [hshift, hshift] at hnat
  simpa [UInt8.toNat_ofNat'] using hnat

/-- Where two rows of fields agree, their first fields agree and so do the rests. -/
theorem field_append_inj {tag : String} {a b u v : List UInt8}
    (ha : a.length < 2 ^ 64) (hb : b.length < 2 ^ 64)
    (h : field tag a ++ u = field tag b ++ v) : a = b ∧ u = v := by
  simp only [field, List.append_assoc] at h
  have hrow := List.append_cancel_left h
  obtain ⟨hword, hbody⟩ := List.append_inj hrow (by rw [word64_length, word64_length])
  exact List.append_inj hbody (word64_inj ha hb hword)

theorem textField_append_inj {tag s t : String} {u v : List UInt8}
    (hs : (Text.octets s.toList).length < 2 ^ 64) (ht : (Text.octets t.toList).length < 2 ^ 64)
    (h : textField tag s ++ u = textField tag t ++ v) : s = t ∧ u = v := by
  obtain ⟨htext, hrest⟩ := field_append_inj hs ht h
  exact ⟨Text.octets_toList_inj htext, hrest⟩

theorem flagField_append_inj {tag : String} {a b : Bool} {u v : List UInt8}
    (h : flagField tag a ++ u = flagField tag b ++ v) : a = b ∧ u = v := by
  obtain ⟨hflag, hrest⟩ := field_append_inj (by simp) (by simp) h
  refine ⟨?_, hrest⟩
  cases a <;> cases b <;> simp at hflag ⊢

/-! ## §3. The queries. -/

/-- As many queries, written one after the other: the row tells each of them. -/
theorem queryRow_append_inj :
    ∀ (qs rs : List String) (u v : List UInt8),
      qs.length = rs.length →
      (∀ q ∈ qs, (Text.octets q.toList).length < 2 ^ 64) →
      (∀ r ∈ rs, (Text.octets r.toList).length < 2 ^ 64) →
      qs.flatMap (textField "query") ++ u = rs.flatMap (textField "query") ++ v →
      qs = rs ∧ u = v
  | [], [], u, v, _, _, _, h => ⟨rfl, by simpa using h⟩
  | q :: qs, r :: rs, u, v, hlen, hqs, hrs, h => by
      simp only [List.flatMap_cons, List.append_assoc] at h
      obtain ⟨hhead, hrow⟩ := textField_append_inj (hqs q List.mem_cons_self)
        (hrs r List.mem_cons_self) h
      obtain ⟨htail, hrest⟩ := queryRow_append_inj qs rs u v (by simpa using hlen)
        (fun s hs => hqs s (List.mem_cons_of_mem _ hs))
        (fun s hs => hrs s (List.mem_cons_of_mem _ hs)) hrow
      exact ⟨by rw [hhead, htail], hrest⟩

/-- A list of queries whose number and whose texts have lengths of eight octets. -/
def QueriesFit (queries : Option (List String)) : Prop :=
  ∀ qs ∈ queries, qs.length < 2 ^ 64 ∧ ∀ q ∈ qs, (Text.octets q.toList).length < 2 ^ 64

theorem queryFields_append_inj {a b : Option (List String)} {u v : List UInt8}
    (ha : QueriesFit a) (hb : QueriesFit b)
    (h : queryFields a ++ u = queryFields b ++ v) : a = b ∧ u = v := by
  have hword : (Text.octets "default".toList).length = 7 := by decide
  cases a with
  | none =>
      cases b with
      | none => exact ⟨rfl, List.append_cancel_left h⟩
      | some rs =>
          -- the word for "default" has seven octets, a number has eight
          simp only [queryFields, textField, List.append_assoc] at h
          have hfirst := (field_append_inj (by rw [hword]; decide) (by simp) h).1
          rw [hfirst, word64_length] at hword
          exact absurd hword (by decide)
  | some qs =>
      obtain ⟨hcount, hqs⟩ := ha qs rfl
      cases b with
      | none =>
          simp only [queryFields, textField, List.append_assoc] at h
          have hfirst := (field_append_inj (by simp) (by rw [hword]; decide) h).1
          rw [← hfirst, word64_length] at hword
          exact absurd hword (by decide)
      | some rs =>
          obtain ⟨hcount', hrs⟩ := hb rs rfl
          simp only [queryFields, List.append_assoc] at h
          obtain ⟨hnumber, hrow⟩ := field_append_inj (by simp) (by simp) h
          obtain ⟨hlist, hrest⟩ := queryRow_append_inj qs rs u v
            (word64_inj hcount hcount' hnumber) hqs hrs hrow
          exact ⟨by rw [hlist], hrest⟩

/-! ## §4. The whole row. -/

/-- Every length that is written down fits into eight octets. -/
structure Fits (f : Fingerprint) : Prop where
  path : (Text.octets f.path.toList).length < 2 ^ 64
  content : f.content.length < 2 ^ 64
  language : (Text.octets f.language.toList).length < 2 ^ 64
  queries : QueriesFit f.queries
  format : (Text.octets f.format.toList).length < 2 ^ 64

/-- The digest of a content has 32 octets, whatever the content. -/
theorem ofRequest_fits {path language : String} {r : Request} (content : List UInt8)
    (hpath : (Text.octets path.toList).length < 2 ^ 64)
    (hlanguage : (Text.octets language.toList).length < 2 ^ 64)
    (hqueries : QueriesFit r.queries)
    (hformat : (Text.octets r.format.toList).length < 2 ^ 64) :
    (ofRequest path content language r).Fits where
  path := hpath
  content := by
    show (Digest.blake3 content).length < 2 ^ 64
    rw [Digest.blake3_length]
    decide
  language := hlanguage
  queries := hqueries
  format := hformat

/-- **Fingerprints with the same written form are the same.** -/
theorem encode_inj {f g : Fingerprint} (hf : f.Fits) (hg : g.Fits)
    (h : f.encode = g.encode) : f = g := by
  -- the row is read from the left, one part after the other
  simp only [encode, List.append_assoc] at h
  obtain ⟨hpath, h⟩ := textField_append_inj hf.path hg.path h
  obtain ⟨hcontent, h⟩ := field_append_inj hf.content hg.content h
  obtain ⟨hlanguage, h⟩ := textField_append_inj hf.language hg.language h
  obtain ⟨hqueries, h⟩ := queryFields_append_inj hf.queries hg.queries h
  obtain ⟨helements, h⟩ := flagField_append_inj h
  obtain ⟨hrun, h⟩ := flagField_append_inj h
  obtain ⟨hcomplexity, h⟩ := flagField_append_inj h
  obtain ⟨hdetails, h⟩ := flagField_append_inj h
  rw [← List.append_nil (textField "format" f.format),
    ← List.append_nil (textField "format" g.format)] at h
  obtain ⟨hformat, _⟩ := textField_append_inj hf.format hg.format h
  cases f
  cases g
  simp_all

/-- Fingerprints with the same key are the same, unless the digest collides on them. -/
theorem key_inj {f g : Fingerprint} (hf : f.Fits) (hg : g.Fits)
    (hsep : Digest.Separates [f.encode, g.encode]) (h : f.key = g.key) : f = g :=
  encode_inj hf hg (hsep f.encode (by simp) g.encode (by simp) (Digest.hex_inj h))

/-- A request has the same fingerprint for the same content only. -/
theorem ofRequest_inj {path path' language language' : String} {content content' : List UInt8}
    {r r' : Request} (hsep : Digest.Separates [content, content'])
    (h : ofRequest path content language r = ofRequest path' content' language' r') :
    path = path' ∧ content = content' ∧ language = language' ∧ r.queries = r'.queries
      ∧ r.elements = r'.elements ∧ r.runQueries = r'.runQueries
      ∧ r.complexity = r'.complexity ∧ r.details = r'.details ∧ r.format = r'.format := by
  simp only [ofRequest, Fingerprint.mk.injEq] at h
  obtain ⟨hpath, hcontent, hrest⟩ := h
  exact ⟨hpath, hsep content (by simp) content' (by simp) hcontent, hrest⟩

/-- **Keys agree exactly when all that they are made of agrees.**  The written form is free of
ambiguity for any two fingerprints whose lengths fit, whatever their texts hold; and where the
digest tells the two contents apart and the two written forms apart, equal keys mean equal path,
content, language, queries, switches and format. -/
theorem key_eq_iff_same_request :
    (∀ f g : Fingerprint, f.Fits → g.Fits → (f.encode = g.encode ↔ f = g)) ∧
    ∀ (path path' : String) (content content' : List UInt8) (language language' : String)
      (r r' : Request),
      let f := ofRequest path content language r
      let g := ofRequest path' content' language' r'
      f.Fits → g.Fits →
      Digest.Separates [content, content'] → Digest.Separates [f.encode, g.encode] →
      (f.key = g.key ↔
        path = path' ∧ content = content' ∧ language = language' ∧ r.queries = r'.queries
          ∧ r.elements = r'.elements ∧ r.runQueries = r'.runQueries
          ∧ r.complexity = r'.complexity ∧ r.details = r'.details ∧ r.format = r'.format) := by
  constructor
  · intro f g hf hg
    exact ⟨encode_inj hf hg, fun h => by rw [h]⟩
  · intro path path' content content' language language' r r' f g hf hg hcontents hrows
    constructor
    · intro hkey
      exact ofRequest_inj hcontents (key_inj hf hg hrows hkey)
    · rintro ⟨hpath, hcontent, hlanguage, hqueries, helements, hrun, hcomplexity, hdetails, hformat⟩
      show (ofRequest path content language r).key = (ofRequest path' content' language' r').key
      simp only [ofRequest, hpath, hcontent, hlanguage, hqueries, helements, hrun, hcomplexity,
        hdetails, hformat]

/-- The characters of one query are not those of two, although they are written in one row. -/
theorem keys_differ_for_split_queries :
    let f := ofRequest "a.py" [120] "python" { path := "a.py", queries := some ["a", "b"] }
    let g := ofRequest "a.py" [120] "python" { path := "a.py", queries := some ["ab"] }
    f.Fits ∧ g.Fits ∧ Digest.Separates [f.encode, g.encode] ∧ f.key ≠ g.key := by
  intro f g
  have hf : f.Fits :=
    ofRequest_fits [120] (by decide) (by decide) (by rintro _ ⟨⟩; decide) (by decide)
  have hg : g.Fits :=
    ofRequest_fits [120] (by decide) (by decide) (by rintro _ ⟨⟩; decide) (by decide)
  have hrows : Digest.Separates [f.encode, g.encode] := Digest.separates_pair (by decide +kernel)
  refine ⟨hf, hg, hrows, fun hkey => ?_⟩
  have hsame := (key_eq_iff_same_request.2 _ _ _ _ _ _ _ _ hf hg
    (Digest.separates_pair fun _ => rfl) hrows).1 hkey
  exact absurd hsame.2.2.2.1 (by decide)

end Analysis.Fingerprint

end CodeSurvey
