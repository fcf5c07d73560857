import Rulebook.Bytes

-- The BLAKE3 digest of a list of bytes, in its default mode.

namespace Rulebook.Digest

structure Row where
  w0 : UInt32
  w1 : UInt32
  w2 : UInt32
  w3 : UInt32
  deriving DecidableEq

namespace Row

def xor (r s : Row) : Row :=
  ⟨r.w0 ^^^ s.w0, r.w1 ^^^ s.w1, r.w2 ^^^ s.w2, r.w3 ^^^ s.w3⟩

def rotate (r : Row) : Row :=
  ⟨r.w1, r.w2, r.w3, r.w0⟩

def words (r : Row) : List UInt32 :=
  [r.w0, r.w1, r.w2, r.w3]

end Row

-- The sixteen words that a compression works on, row by row.
structure Grid where
  a : Row
  b : Row
  c : Row
  d : Row

-- The eight words that stand for all input so far.
structure Chain where
  low : Row
  high : Row
  deriving DecidableEq

def Chain.words (h : Chain) : List UInt32 :=
  h.low.words ++ h.high.words

def initial : Chain :=
  ⟨⟨0x6a09e667, 0xbb67ae85, 0x3c6ef372, 0xa54ff53a⟩,
   ⟨0x510e527f, 0x9b05688c, 0x1f83d9ab, 0x5be0cd19⟩⟩

def rotateRight (w n : UInt32) : UInt32 :=
  (w >>> n) ||| (w <<< (32 - n))

-- Work two message words into one column.
def mix (a b c d x y : UInt32) : UInt32 × UInt32 × UInt32 × UInt32 :=
  let a := a + b + x
  let d := rotateRight (d ^^^ a) 16
  let c := c + d
  let b := rotateRight (b ^^^ c) 12
  let a := a + b + y
  let d := rotateRight (d ^^^ a) 8
  let c := c + d
  let b := rotateRight (b ^^^ c) 7
  (a, b, c, d)

def mixColumns (g : Grid) (m : List UInt32) : Grid :=
  let word := fun i => m.getD i 0
  let (a0, b0, c0, d0) := mix g.a.w0 g.b.w0 g.c.w0 g.d.w0 (word 0) (word 1)
  let (a1, b1, c1, d1) := mix g.a.w1 g.b.w1 g.c.w1 g.d.w1 (word 2) (word 3)
  let (a2, b2, c2, d2) := mix g.a.w2 g.b.w2 g.c.w2 g.d.w2 (word 4) (word 5)
  let (a3, b3, c3, d3) := mix g.a.w3 g.b.w3 g.c.w3 g.d.w3 (word 6) (word 7)
  ⟨⟨a0, a1, a2, a3⟩, ⟨b0, b1, b2, b3⟩, ⟨c0, c1, c2, c3⟩, ⟨d0, d1, d2, d3⟩⟩

-- Turning the rows against each other makes columns of the diagonals.
def slant (g : Grid) : Grid :=
  ⟨g.a, g.b.rotate, g.c.rotate.rotate, g.d.rotate.rotate.rotate⟩

def unslant (g : Grid) : Grid :=
  ⟨g.a, g.b.rotate.rotate.rotate, g.c.rotate.rotate, g.d.rotate⟩

def round (g : Grid) (m : List UInt32) : Grid :=
  unslant (mixColumns (slant (mixColumns g m)) (m.drop 8))

def permutation : List Nat :=
  [2, 6, 3, 10, 7, 0, 4, 13, 1, 11, 12, 5, 9, 14, 15, 8]

def permute (m : List UInt32) : List UInt32 :=
  permutation.map fun i => m.getD i 0

def rounds : Nat → Grid → List UInt32 → Grid
  | 0, g, _ => g
  | n + 1, g, m => rounds n (round g m) (permute m)

-- One block with what is to be known of it.
structure Block where
  chain : Chain
  words : List UInt32
  counter : Nat
  length : Nat
  flags : UInt32

def Block.compress (b : Block) : Chain :=
  let counter := ⟨UInt32.ofNat b.counter, UInt32.ofNat (b.counter / 0x100000000),
    UInt32.ofNat b.length, b.flags⟩
  let g := rounds 7 ⟨b.chain.low, b.chain.high, initial.low, counter⟩ b.words
  ⟨g.a.xor g.c, g.b.xor g.d⟩

def chunkStart : UInt32 := 1
def chunkEnd : UInt32 := 2
def parent : UInt32 := 4
def root : UInt32 := 8

-- Sixteen words of up to sixty-four bytes, with zeros where bytes are missing.
def wordsOf (bytes : List UInt8) : List UInt32 :=
  (List.range 16).map fun i =>
    (bytes.getD (4 * i) 0).toUInt32 ||| (bytes.getD (4 * i + 1) 0).toUInt32 <<< 8 |||
      (bytes.getD (4 * i + 2) 0).toUInt32 <<< 16 ||| (bytes.getD (4 * i + 3) 0).toUInt32 <<< 24

-- Cut a list into pieces of a length; only the last may be shorter. The empty list is one piece.
def pieces {α : Type} (length : Nat) : (fuel : Nat) → List α → List (List α)
  | 0, l => [l]
  | fuel + 1, l =>
    if l.length ≤ length then [l] else l.take length :: pieces length fuel (l.drop length)

-- The last block of a chunk, after all blocks before it.
def chunkBlock (counter : Nat) (chain : Chain) (flags : UInt32) : List (List UInt8) → Block
  | [] => ⟨chain, wordsOf [], counter, 0, flags ||| chunkEnd⟩
  | [last] => ⟨chain, wordsOf last, counter, last.length, flags ||| chunkEnd⟩
  | bytes :: rest =>
    chunkBlock counter (Block.compress ⟨chain, wordsOf bytes, counter, bytes.length, flags⟩) 0 rest

def chunk (counter : Nat) (bytes : List UInt8) : Block :=
  chunkBlock counter initial chunkStart (pieces 64 bytes.length bytes)

def parentBlock (left right : Chain) : Block :=
  ⟨initial, left.words ++ right.words, 0, 64, parent⟩

-- Finished subtrees wait on a stack with their heights. Two of one height become the next one.
def push (height : Nat) (chain : Chain) : List (Nat × Chain) → List (Nat × Chain)
  | [] => [(height, chain)]
  | (h, left) :: rest =>
    if h = height then push (height + 1) (parentBlock left chain).compress rest
    else (height, chain) :: (h, left) :: rest

-- The block at the root of the tree of all chunks.
def rootBlock (counter : Nat) (stack : List (Nat × Chain)) : List (List UInt8) → Block
  | [] => stack.foldl (fun b s => parentBlock s.2 b.compress) (chunk counter [])
  | [last] => stack.foldl (fun b s => parentBlock s.2 b.compress) (chunk counter last)
  | bytes :: rest => rootBlock (counter + 1) (push 0 (chunk counter bytes).compress stack) rest

-- The thirty-two bytes of the digest.
def digest (bytes : List UInt8) : List UInt8 :=
  let b := rootBlock 0 [] (pieces 1024 bytes.length bytes)
  (Block.compress { b with flags := b.flags ||| root }).words.flatMap fun w =>
    Bytes.littleEndian 4 w.toNat

theorem length_digest {bytes : List UInt8} : (digest bytes).length = 32 := by
  simp [digest, Chain.words, Row.words, Bytes.length_littleEndian]

end Rulebook.Digest
