/-!
# Blake3 — the BLAKE3 hash of a byte string

The bytes are cut into chunks of 1024 and the chunks hashed on their own; the chunk values are then
merged pairwise in a binary tree whose left part is always a full power of two. The digest is the
value at the root.

* `compress` — the keyed permutation of sixteen words that everything is built from;
* `Node`, `Node.chaining`, `Node.rootBytes` — a place of the tree before its last compression;
* `ofChunk`, `ofParts` — the nodes of one chunk and of a list of chunks;
* `digest`, `hexDigest` — the thirty-two bytes of the digest, and their spelling in base sixteen.
-/

namespace BuildTrace
namespace Blake3

/-- The sixteen words a compression works on. -/
abbrev Block := Vector UInt32 16

/-- The eight words handed on by a compression. -/
abbrev Chain := Vector UInt32 8

/-- The first words of the fractional parts of the square roots of the first eight primes. -/
def initial : Chain :=
  #v[0x6A09E667, 0xBB67AE85, 0x3C6EF372, 0xA54FF53A,
     0x510E527F, 0x9B05688C, 0x1F83D9AB, 0x5BE0CD19]

/-- The order in which a round takes the message words left by the round before. -/
def permute (m : Block) : Block :=
  #v[m[2], m[6], m[3], m[10], m[7], m[0], m[4], m[13],
     m[1], m[11], m[12], m[5], m[9], m[14], m[15], m[8]]

/-- Rotation of a word to the right. -/
def rotateRight (w : UInt32) (n : UInt32) : UInt32 :=
  (w >>> n) ||| (w <<< (32 - n))

/-- Mixes two message words into four words of the state. -/
def mix (s : Block) (a b c d : Fin 16) (x y : UInt32) : Block :=
  let wa := s[a] + s[b] + x
  let wd := rotateRight (s[d] ^^^ wa) 16
  let wc := s[c] + wd
  let wb := rotateRight (s[b] ^^^ wc) 12
  let wa := wa + wb + y
  let wd := rotateRight (wd ^^^ wa) 8
  let wc := wc + wd
  let wb := rotateRight (wb ^^^ wc) 7
  (((s.set a wa).set b wb).set c wc).set d wd

/-- One round: the columns, then the diagonals. -/
def round (s m : Block) : Block :=
  let s := mix s 0 4 8 12 m[0] m[1]
  let s := mix s 1 5 9 13 m[2] m[3]
  let s := mix s 2 6 10 14 m[4] m[5]
  let s := mix s 3 7 11 15 m[6] m[7]
  let s := mix s 0 5 10 15 m[8] m[9]
  let s := mix s 1 6 11 12 m[10] m[11]
  let s := mix s 2 7 8 13 m[12] m[13]
  mix s 3 4 9 14 m[14] m[15]

/-- The given number of rounds, with the message words permuted in between. -/
def rounds : Nat → Block → Block → Block
  | 0, s, _ => s
  | n + 1, s, m => rounds n (round s m) (permute m)

/-- The compression of a block under a chain value, a counter, a length and flags. -/
def compress (chain : Chain) (block : Block) (counter : UInt64) (length flags : UInt32) : Block :=
  let start : Block :=
    #v[chain[0], chain[1], chain[2], chain[3], chain[4], chain[5], chain[6], chain[7],
       initial[0], initial[1], initial[2], initial[3],
       counter.toUInt32, (counter >>> 32).toUInt32, length, flags]
  let s := rounds 7 start block
  #v[s[0] ^^^ s[8], s[1] ^^^ s[9], s[2] ^^^ s[10], s[3] ^^^ s[11],
     s[4] ^^^ s[12], s[5] ^^^ s[13], s[6] ^^^ s[14], s[7] ^^^ s[15],
     s[8] ^^^ chain[0], s[9] ^^^ chain[1], s[10] ^^^ chain[2], s[11] ^^^ chain[3],
     s[12] ^^^ chain[4], s[13] ^^^ chain[5], s[14] ^^^ chain[6], s[15] ^^^ chain[7]]

/-! ## Flags -/

/-- The first block of a chunk. -/
def chunkStart : UInt32 := 1

/-- The last block of a chunk. -/
def chunkEnd : UInt32 := 2

/-- The block above two parts of the tree. -/
def parentFlag : UInt32 := 4

/-- The last compression of all. -/
def rootFlag : UInt32 := 8

/-! ## Bytes and words -/

/-- The word of four bytes, the lowest first; missing bytes are zero. -/
def wordOf (a b c d : UInt8) : UInt32 :=
  a.toUInt32 ||| (b.toUInt32 <<< 8) ||| (c.toUInt32 <<< 16) ||| (d.toUInt32 <<< 24)

/-- The words of a byte string; a last part of fewer than four bytes is filled with zeros. -/
def wordsOf : List UInt8 → List UInt32
  | [] => []
  | [a] => [wordOf a 0 0 0]
  | [a, b] => [wordOf a b 0 0]
  | [a, b, c] => [wordOf a b c 0]
  | a :: b :: c :: d :: rest => wordOf a b c d :: wordsOf rest

/-- The block of at most sixty-four bytes, filled with zeros. -/
def blockOf (bs : List UInt8) : Block :=
  let words := (wordsOf bs).toArray
  Vector.ofFn fun i => words[i.val]?.getD 0

/-- The bytes of a word, the lowest first. -/
def bytesOf (w : UInt32) : List UInt8 :=
  [w.toUInt8, (w >>> 8).toUInt8, (w >>> 16).toUInt8, (w >>> 24).toUInt8]

/-! ## The tree -/

/-- A place of the tree, just before its last compression. -/
structure Node where
  chain : Chain
  block : Block
  counter : UInt64
  length : UInt32
  flags : UInt32

namespace Node

/-- The value handed up the tree. -/
def chaining (n : Node) : Chain :=
  let s := compress n.chain n.block n.counter n.length n.flags
  #v[s[0], s[1], s[2], s[3], s[4], s[5], s[6], s[7]]

/-- The digest, if the node is the root. -/
def rootBytes (n : Node) : List UInt8 :=
  let s := compress n.chain n.block 0 n.length (n.flags ||| rootFlag)
  [s[0], s[1], s[2], s[3], s[4], s[5], s[6], s[7]].flatMap bytesOf

end Node

/-- The list in pieces of `n`, which is at least one; the last piece may be shorter. -/
def pieces (n : Nat) : List UInt8 → List (List UInt8)
  | [] => []
  | b :: bs => (b :: bs.take (n - 1)) :: pieces n (bs.drop (n - 1))
termination_by bs => bs.length
decreasing_by
  simp only [List.length_drop, List.length_cons]
  omega

/-- The last node of a chunk: every block but the last is compressed on the way. -/
def chunkNode (counter : UInt64) : UInt32 → Chain → List (List UInt8) → Node
  | flags, chain, [] => ⟨chain, blockOf [], counter, 0, flags ||| chunkEnd⟩
  | flags, chain, [last] =>
    ⟨chain, blockOf last, counter, last.length.toUInt32, flags ||| chunkEnd⟩
  | flags, chain, block :: rest =>
    chunkNode counter 0 (Node.chaining ⟨chain, blockOf block, counter, 64, flags⟩) rest

/-- The node of the chunk with the given number. -/
def ofChunk (counter : Nat) (chunk : List UInt8) : Node :=
  chunkNode counter.toUInt64 chunkStart initial (pieces 64 chunk)

/-- The node above two parts. -/
def above (left right : Node) : Node :=
  ⟨initial, left.chaining ++ right.chaining, 0, 64, parentFlag⟩

/-- How many of `n` chunks go to the left: the largest power of two below `n`. -/
def leftCount (n : Nat) : Nat :=
  1 <<< (n - 1).log2

/-- The node of a list of chunks numbered from `counter`. The first argument is at least the height
of the tree. -/
def ofParts : Nat → Nat → List (List UInt8) → Node
  | _, counter, [] => ofChunk counter []
  | _, counter, [chunk] => ofChunk counter chunk
  | 0, counter, chunk :: _ => ofChunk counter chunk
  | height + 1, counter, chunks =>
    let left := leftCount chunks.length
    above (ofParts height counter (chunks.take left))
      (ofParts height (counter + left) (chunks.drop left))

/-- The thirty-two bytes of the digest. -/
def digest (bs : List UInt8) : List UInt8 :=
  let chunks := pieces 1024 bs
  (ofParts chunks.length 0 chunks).rootBytes

/-- One digit of base sixteen. -/
def hexDigit (n : Nat) : Char :=
  if n < 10 then Char.ofNat (48 + n) else Char.ofNat (87 + n)

/-- Bytes in base sixteen, two digits each, lower case. -/
def hex (bs : List UInt8) : String :=
  String.ofList (bs.flatMap fun b => [hexDigit (b.toNat / 16), hexDigit (b.toNat % 16)])

/-- The digest in base sixteen. -/
def hexDigest (bs : List UInt8) : String :=
  hex (digest bs)

end Blake3
end BuildTrace
