/-!
# The BLAKE3 hash

The input is cut into chunks of 1024 bytes, each chunk into blocks of 64 bytes.
Every chunk and every inner node of the tree over the chunks is a `Node`: the
arguments of one last call of the compression function.  A node inside the tree
contributes its first eight words; the root is compressed again with a flag of its
own, and its first eight words are the digest.
-/

namespace Decipher

namespace Blake3

abbrev Words := Array UInt32

/-- The initial chaining value. -/
def iv : Words :=
  #[0x6A09E667, 0xBB67AE85, 0x3C6EF372, 0xA54FF53A,
    0x510E527F, 0x9B05688C, 0x1F83D9AB, 0x5BE0CD19]

/-- Where the words of a block go from one round to the next. -/
def permutation : Array Nat := #[2, 6, 3, 10, 7, 0, 4, 13, 1, 11, 12, 5, 9, 14, 15, 8]

def chunkStart : UInt32 := 1

def chunkEnd : UInt32 := 2

def parentFlag : UInt32 := 4

def rootFlag : UInt32 := 8

def chunkLength : Nat := 1024

def blockLength : Nat := 64

def rotateRight (x n : UInt32) : UInt32 := (x >>> n) ||| (x <<< (32 - n))

def word (v : Words) (i : Nat) : UInt32 := v.getD i 0

/-- Mixes two words of the block into four words of the state. -/
def mix (v : Words) (a b c d : Nat) (x y : UInt32) : Words :=
  let va := word v a + word v b + x
  let vd := rotateRight (word v d ^^^ va) 16
  let vc := word v c + vd
  let vb := rotateRight (word v b ^^^ vc) 12
  let va := va + vb + y
  let vd := rotateRight (vd ^^^ va) 8
  let vc := vc + vd
  let vb := rotateRight (vb ^^^ vc) 7
  (((v.setIfInBounds a va).setIfInBounds b vb).setIfInBounds c vc).setIfInBounds d vd

/-- Mixes the columns and then the diagonals of the state. -/
def round (v m : Words) : Words :=
  let v := mix v 0 4 8 12 (word m 0) (word m 1)
  let v := mix v 1 5 9 13 (word m 2) (word m 3)
  let v := mix v 2 6 10 14 (word m 4) (word m 5)
  let v := mix v 3 7 11 15 (word m 6) (word m 7)
  let v := mix v 0 5 10 15 (word m 8) (word m 9)
  let v := mix v 1 6 11 12 (word m 10) (word m 11)
  let v := mix v 2 7 8 13 (word m 12) (word m 13)
  mix v 3 4 9 14 (word m 14) (word m 15)

def permute (m : Words) : Words := permutation.map (word m)

/-- Seven rounds, the block permuted between them. -/
def rounds : Nat → Words → Words → Words
  | 0, v, _ => v
  | n + 1, v, m => rounds n (round v m) (permute m)

/-- One call of the compression function. -/
structure Node where
  chaining : Words
  block : Words
  counter : Nat
  length : Nat
  flags : UInt32

namespace Node

/-- The first eight words of the result, under further flags. -/
def compress (node : Node) (flags : UInt32) : Words :=
  let v := node.chaining ++ iv.take 4 ++
    #[UInt32.ofNat node.counter, UInt32.ofNat (node.counter / Nat.pow 2 32),
      UInt32.ofNat node.length, node.flags ||| flags]
  let v := rounds 7 v node.block
  (Array.range 8).map fun i => word v i ^^^ word v (i + 8)

/-- What a node hands up to its parent. -/
def output (node : Node) : Words := node.compress 0

/-- The node above two nodes. -/
def parent (left right : Node) : Node :=
  ⟨iv, left.output ++ right.output, 0, blockLength, parentFlag⟩

end Node

/-- A byte of a block, zero behind its end. -/
def byteAt (bytes : ByteArray) (i : Nat) : UInt32 :=
  if h : i < bytes.size then (bytes[i]).toUInt32 else 0

/-- The word of four bytes, the least significant first. -/
def littleEndian (bytes : ByteArray) (start : Nat) : UInt32 :=
  byteAt bytes start ||| (byteAt bytes (start + 1) <<< 8) |||
    (byteAt bytes (start + 2) <<< 16) ||| (byteAt bytes (start + 3) <<< 24)

/-- The words of a block, filled up with zeros. -/
def blockWords (block : ByteArray) : Words :=
  (Array.range 16).map fun i => littleEndian block (4 * i)

/-- The last node of a chunk from its remaining bytes.  The fuel bounds the number
of blocks. -/
def chunkNode : Nat → Words → UInt32 → Nat → ByteArray → Node
  | 0, chaining, flags, index, bytes =>
    ⟨chaining, blockWords bytes, index, bytes.size, flags ||| chunkEnd⟩
  | fuel + 1, chaining, flags, index, bytes =>
    if bytes.size ≤ blockLength then
      ⟨chaining, blockWords bytes, index, bytes.size, flags ||| chunkEnd⟩
    else
      let node : Node :=
        ⟨chaining, blockWords (bytes.extract 0 blockLength), index, blockLength, flags⟩
      chunkNode fuel node.output 0 index (bytes.extract blockLength bytes.size)

/-- The last nodes of the chunks of an input; an empty input has one empty
chunk. -/
def chunks (bytes : ByteArray) : List Node :=
  let count := max 1 ((bytes.size + chunkLength - 1) / chunkLength)
  (List.range count).map fun i =>
    chunkNode 16 iv chunkStart i (bytes.extract (i * chunkLength) ((i + 1) * chunkLength))

/-- Puts a parent above each two neighbours; an odd last node stays as it is. -/
def pairUp : List Node → List Node
  | left :: right :: rest => left.parent right :: pairUp rest
  | nodes => nodes

/-- The root of the tree over a list of nodes.  The fuel bounds its height. -/
def rootNode : Nat → List Node → Option Node
  | _, [] => none
  | _, [node] => some node
  | 0, node :: _ => some node
  | fuel + 1, nodes => rootNode fuel (pairUp nodes)

/-- The digest as eight words. -/
def digestWords (bytes : ByteArray) : Words :=
  let nodes := chunks bytes
  match rootNode nodes.length nodes with
  | some root => { root with counter := 0 }.compress rootFlag
  | none => #[]

/-- A digit of lower case hexadecimal. -/
def hexDigit (n : Nat) : Char := if n < 10 then Char.ofNat (48 + n) else Char.ofNat (87 + n)

/-- Two digits of lower case hexadecimal. -/
def hexByte (n : Nat) : List Char := [hexDigit (n / 16), hexDigit (n % 16)]

/-- A word, the least significant byte first. -/
def hexWord (w : UInt32) : List Char :=
  let n := w.toNat
  hexByte (n % 256) ++ hexByte (n / Nat.pow 2 8 % 256) ++ hexByte (n / Nat.pow 2 16 % 256) ++
    hexByte (n / Nat.pow 2 24)

/-- The digest of an input, in hexadecimal. -/
def hexDigest (bytes : ByteArray) : String :=
  String.ofList ((digestWords bytes).toList.flatMap hexWord)

end Blake3

end Decipher
