/-
  The BLAKE3 hash of a run of octets.  The input is cut into chunks of 1024 octets and each chunk
  into blocks of 64; the chunks' values are the leaves of a binary tree whose left side holds the
  largest power of two of chunks that leaves something for the right side.  The last compression,
  at the root, carries a flag of its own.
-/

namespace CodeSurvey.Digest

/-! ## §1. Compression -/

/-- Eight words. -/
abbrev Chain := Vector UInt32 8

/-- Sixteen words. -/
abbrev Block := Vector UInt32 16

/-- The chain that every leaf and every parent starts from. -/
def initialChain : Chain := #v[
  0x6a09e667, 0xbb67ae85, 0x3c6ef372, 0xa54ff53a, 0x510e527f, 0x9b05688c, 0x1f83d9ab, 0x5be0cd19]

/-- The word of the message that comes next into each place. -/
def messageOrder : Vector (Fin 16) 16 := #v[
  2, 6, 3, 10, 7, 0, 4, 13, 1, 11, 12, 5, 9, 14, 15, 8]

/-- The message of the next round. -/
def permute (m : Block) : Block :=
  Vector.ofFn fun i => m[messageOrder[i]]

/-- Rotation to the right. -/
def rotateRight (x : UInt32) (n : UInt32) : UInt32 :=
  (x >>> n) ||| (x <<< (32 - n))

/-- Mixes two message words into four words of the state. -/
def quarter (v : Block) (a b c d : Fin 16) (x y : UInt32) : Block :=
  let va := v[a] + v[b] + x
  let vd := rotateRight (v[d] ^^^ va) 16
  let vc := v[c] + vd
  let vb := rotateRight (v[b] ^^^ vc) 12
  let va := va + vb + y
  let vd := rotateRight (vd ^^^ va) 8
  let vc := vc + vd
  let vb := rotateRight (vb ^^^ vc) 7
  (((v.set a va).set b vb).set c vc).set d vd

/-- One round: the columns, then the diagonals. -/
def mixRound (v m : Block) : Block :=
  let v := quarter v 0 4 8 12 m[0] m[1]
  let v := quarter v 1 5 9 13 m[2] m[3]
  let v := quarter v 2 6 10 14 m[4] m[5]
  let v := quarter v 3 7 11 15 m[6] m[7]
  let v := quarter v 0 5 10 15 m[8] m[9]
  let v := quarter v 1 6 11 12 m[10] m[11]
  let v := quarter v 2 7 8 13 m[12] m[13]
  quarter v 3 4 9 14 m[14] m[15]

/-- `n` rounds. -/
def mixRounds : Nat → Block → Block → Block
  | 0, v, _ => v
  | n + 1, v, m => mixRounds n (mixRound v m) (permute m)

/-- What a compression takes: the chain before it, a block, the number of the chunk, the octets in
the block and the flags. -/
structure Compression where
  chain : Chain
  block : Block
  counter : Nat
  length : Nat
  flags : UInt32

/-- The flag of a chunk's first block. -/
def chunkStart : UInt32 := 1

/-- The flag of a chunk's last block. -/
def chunkEnd : UInt32 := 2

/-- The flag of a parent. -/
def parentFlag : UInt32 := 4

/-- The flag of the root. -/
def rootFlag : UInt32 := 8

/-- The chain after a compression. -/
def Compression.run (p : Compression) : Chain :=
  let chain := p.chain
  let i := initialChain
  let start : Block := #v[
      chain[0], chain[1], chain[2], chain[3], chain[4], chain[5], chain[6], chain[7],
      i[0], i[1], i[2], i[3],
      UInt32.ofNat p.counter, UInt32.ofNat (p.counter >>> 32), UInt32.ofNat p.length, p.flags]
  let v := mixRounds 7 start p.block
  Vector.ofFn fun (k : Fin 8) => v[k.val] ^^^ v[k.val + 8]

/-! ## §2. Chunks -/

/-- Four octets as a word, least significant first. -/
def wordAt (bytes : List UInt8) (i : Nat) : UInt32 :=
  let octet (k : Nat) : UInt32 := (bytes.getD (4 * i + k) 0).toUInt32
  octet 0 ||| (octet 1 <<< 8) ||| (octet 2 <<< 16) ||| (octet 3 <<< 24)

/-- A block of at most 64 octets, filled up with zeros. -/
def blockOf (bytes : List UInt8) : Block :=
  Vector.ofFn fun (i : Fin 16) => wordAt bytes i.val

/-- The pieces of a given size, the last one being what is left; an empty input has one piece. -/
def piecesOf (size : Nat) (bytes : List UInt8) : List (List UInt8) :=
  if _h : size = 0 ∨ bytes.length ≤ size then [bytes]
  else bytes.take size :: piecesOf size (bytes.drop size)
termination_by bytes.length
decreasing_by simp only [List.length_drop]; omega

/-- The last compression of a chunk, `chain` being the chain before the blocks given. -/
def chunkFrom (counter : Nat) (chain : Chain) (flags : UInt32) : List (List UInt8) → Compression
  | [] => ⟨chain, blockOf [], counter, 0, flags ||| chunkEnd⟩
  | [b] => ⟨chain, blockOf b, counter, b.length, flags ||| chunkEnd⟩
  | b :: bs => chunkFrom counter (Compression.run ⟨chain, blockOf b, counter, 64, flags⟩) 0 bs

/-- The last compression of the chunk with a given number. -/
def chunkOutput (counter : Nat) (bytes : List UInt8) : Compression :=
  chunkFrom counter initialChain chunkStart (piecesOf 64 bytes)

/-! ## §3. The tree -/

/-- How many of `n` chunks stand on the left. -/
def leftCount (n : Nat) : Nat := 1 <<< (n - 1).log2

/-- The compression of a parent. -/
def parentOutput (left right : Chain) : Compression :=
  ⟨initialChain, (left ++ right), 0, 64, parentFlag⟩

/-- The last compression of a run of chunks, the first of which has number `counter`. -/
def treeOutput (counter : Nat) (chunks : List (List UInt8)) : Compression :=
  match chunks with
  | [] => chunkOutput counter []
  | [c] => chunkOutput counter c
  | c :: d :: rest =>
    let all := c :: d :: rest
    let left := treeOutput counter (all.take (leftCount all.length))
    let right := treeOutput (counter + leftCount all.length) (all.drop (leftCount all.length))
    parentOutput left.run right.run
termination_by chunks.length
decreasing_by
  · have h : 1 <<< (rest.length + 1).log2 ≤ rest.length + 1 := by
      rw [Nat.one_shiftLeft]
      exact Nat.log2_self_le (by omega)
    simp only [leftCount, List.length_take, List.length_cons, Nat.add_sub_cancel]
    omega
  · have h : 0 < 1 <<< (rest.length + 1).log2 := by
      rw [Nat.one_shiftLeft]
      exact Nat.two_pow_pos _
    simp only [leftCount, List.length_drop, List.length_cons, Nat.add_sub_cancel]
    omega

/-- The octets of a word, least significant first. -/
def wordOctets (w : UInt32) : List UInt8 :=
  [w.toUInt8, (w >>> 8).toUInt8, (w >>> 16).toUInt8, (w >>> 24).toUInt8]

/-- The 32 octets of the hash. -/
def blake3 (bytes : List UInt8) : List UInt8 :=
  let root := treeOutput 0 (piecesOf 1024 bytes)
  ({ root with flags := root.flags ||| rootFlag } : Compression).run.toList.flatMap wordOctets

/-- Two lower-case hexadecimal digits. -/
def hexOctet (b : UInt8) : List Char :=
  [Nat.digitChar (b.toNat / 16), Nat.digitChar (b.toNat % 16)]

/-- Octets in hexadecimal. -/
def hex (bytes : List UInt8) : String :=
  String.ofList (bytes.flatMap hexOctet)

end CodeSurvey.Digest
