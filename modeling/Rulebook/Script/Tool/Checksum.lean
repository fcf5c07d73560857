import Rulebook.Script.Tool.Option

namespace Rulebook.Script

-- Programs that tell a number for all bytes of their input.

namespace Checksum

-- The text of a number with all of its digits to base 16.
def hexadecimal (width n : Nat) : String :=
  let ds := digits 16 n
  String.ofList (List.replicate (width - ds.length) '0') ++ ds

def bytes (s : String) : List Nat :=
  s.toList.map Char.toNat

-- The remainder of a division of polynomials, bit by bit from the highest one.
def cyclicStep (crc : UInt32) (byte : Nat) : UInt32 :=
  (List.range 8).foldl
    (fun c _ => if c ≥ 0x80000000 then (c <<< 1) ^^^ 0x04c11db7 else c <<< 1)
    (crc ^^^ (byte.toUInt32 <<< 24))

-- The bytes of a length, the lowest first and no more than there are.
def lengthBytes : (fuel : Nat) → Nat → List Nat
  | 0, _ => []
  | fuel + 1, n => if n = 0 then [] else n % 256 :: lengthBytes fuel (n / 256)

def cyclic (s : String) : Nat :=
  let all := bytes s ++ lengthBytes 16 s.length
  (all.foldl cyclicStep 0 ^^^ 0xffffffff).toNat

-- Digests

def rotate (x : UInt32) (n : UInt32) : UInt32 :=
  (x <<< n) ||| (x >>> (32 - n))

-- The input drawn out to whole blocks, with its length in bits at the end.
def padded (highestFirst : Bool) (s : String) : List Nat :=
  let length := s.length
  let zeros := (119 - length % 64) % 64
  let size := (List.range 8).map fun i => 8 * length / Nat.pow 256 i % 256
  bytes s ++ 128 :: List.replicate zeros 0 ++ if highestFirst then size.reverse else size

def word (highestFirst : Bool) (bytes : List Nat) : UInt32 :=
  let bytes := if highestFirst then bytes else bytes.reverse
  (bytes.foldl (fun n b => n * 256 + b) 0).toUInt32

def groups {α : Type} (size : Nat) : (fuel : Nat) → List α → List (List α)
  | 0, _ => []
  | _ + 1, [] => []
  | fuel + 1, l => l.take size :: groups size fuel (l.drop size)

-- The input as blocks of sixteen words.
def blocks (highestFirst : Bool) (s : String) : List (Array UInt32) :=
  let all := padded highestFirst s
  let words := (groups 4 all.length all).map (word highestFirst)
  (groups 16 words.length words).map List.toArray

-- What is known between the blocks.
abbrev Chain := List UInt32

def Chain.add (a b : Chain) : Chain :=
  a.zipWith (· + ·) b

def startChain : Chain :=
  [0x67452301, 0xefcdab89, 0x98badcfe, 0x10325476]

-- The size of a sine, as a fraction of a word.
def sine (i : Nat) : UInt32 :=
  ((i + 1).toFloat.sin.abs * 4294967296.0).floor.toUInt64.toUInt32

def fifthShifts : List (List UInt32) :=
  [[7, 12, 17, 22], [5, 9, 14, 20], [4, 11, 16, 23], [6, 10, 15, 21]]

def fifthStep (block : Array UInt32) (h : Chain) (i : Nat) : Chain :=
  match h with
  | [a, b, c, d] =>
    let (f, k) :=
      match i / 16 with
      | 0 => ((b &&& c) ||| (~~~b &&& d), i)
      | 1 => ((d &&& b) ||| (~~~d &&& c), (5 * i + 1) % 16)
      | 2 => (b ^^^ c ^^^ d, (3 * i + 5) % 16)
      | _ => (c ^^^ (b ||| ~~~d), 7 * i % 16)
    let shift := (fifthShifts.getD (i / 16) []).getD (i % 4) 0
    [d, b + rotate (a + f + sine i + block.getD k 0) shift, b, c]
  | other => other

def fifth (s : String) : String :=
  let h := (blocks false s).foldl
    (fun h block => Chain.add h ((List.range 64).foldl (fifthStep block) h)) startChain
  String.join <| h.map fun w =>
    String.join ((List.range 4).map fun i => hexadecimal 2 (w.toNat / Nat.pow 256 i % 256))

-- More words from those of a block, each of which is made of earlier ones.
def extended (count : Nat) (next : Array UInt32 → Nat → UInt32) (block : Array UInt32) :
    Array UInt32 :=
  (List.range' 16 (count - 16)).foldl (fun w i => w.push (next w i)) block

def firstStep (words : Array UInt32) (h : Chain) (i : Nat) : Chain :=
  match h with
  | [a, b, c, d, e] =>
    let (f, k) : UInt32 × UInt32 :=
      match i / 20 with
      | 0 => ((b &&& c) ||| (~~~b &&& d), 0x5a827999)
      | 1 => (b ^^^ c ^^^ d, 0x6ed9eba1)
      | 2 => ((b &&& c) ||| (b &&& d) ||| (c &&& d), 0x8f1bbcdc)
      | _ => (b ^^^ c ^^^ d, 0xca62c1d6)
    [rotate a 5 + f + e + k + words.getD i 0, a, rotate b 30, c, d]
  | other => other

def written (h : Chain) : String :=
  String.join (h.map fun w => hexadecimal 8 w.toNat)

def first (s : String) : String :=
  let next (w : Array UInt32) (i : Nat) : UInt32 :=
    rotate (w.getD (i - 3) 0 ^^^ w.getD (i - 8) 0 ^^^ w.getD (i - 14) 0 ^^^ w.getD (i - 16) 0) 1
  written <| (blocks true s).foldl
    (fun h block => Chain.add h ((List.range 80).foldl (firstStep (extended 80 next block)) h))
    (startChain ++ [0xc3d2e1f0])

def primes (count : Nat) : List Nat :=
  ((List.range' 2 400).filter fun n =>
    (List.range' 2 20).all fun d => n = d || n % d ≠ 0).take count

-- The greatest number of less than so many bits whose power is not above a number.
def root (power n : Nat) : (bits : Nat) → (found : Nat) → Nat
  | 0, found => found
  | bits + 1, found =>
    let tried := found + Nat.pow 2 bits
    root power n bits (if Nat.pow tried power ≤ n then tried else found)

-- The fraction of the root of a prime number.
def fraction (power p : Nat) : UInt32 :=
  (root power (p * Nat.pow 2 (32 * power)) 40 0).toUInt32

def secondStep (words constants : Array UInt32) (h : Chain) (i : Nat) : Chain :=
  match h with
  | [a, b, c, d, e, f, g, k] =>
    let x := rotate e 26 ^^^ rotate e 21 ^^^ rotate e 7
    let y := k + x + ((e &&& f) ^^^ (~~~e &&& g)) + constants.getD i 0 + words.getD i 0
    let z := rotate a 30 ^^^ rotate a 19 ^^^ rotate a 10
    [y + z + ((a &&& b) ^^^ (a &&& c) ^^^ (b &&& c)), a, b, c, d + y, e, f, g]
  | other => other

def second (s : String) : String :=
  let next (w : Array UInt32) (i : Nat) : UInt32 :=
    let x := w.getD (i - 15) 0
    let y := w.getD (i - 2) 0
    w.getD (i - 16) 0 + (rotate x 25 ^^^ rotate x 14 ^^^ (x >>> 3)) + w.getD (i - 7) 0 +
      (rotate y 15 ^^^ rotate y 13 ^^^ (y >>> 10))
  let constants := ((primes 64).map (fraction 3)).toArray
  written <| (blocks true s).foldl
    (fun h block =>
      Chain.add h ((List.range 64).foldl (secondStep (extended 64 next block) constants) h))
    ((primes 8).map (fraction 2))

end Checksum

-- Something that is told of the contents of each file.
def checksumTool (tool : String) (tell : String → Option String → String) (args : List String) :
    Work Nat :=
  withOptions tool [⟨'b', "binary", .nothing⟩, ⟨'t', "text", .nothing⟩] 1 args fun g => do
    let texts ← readEach tool "" g.operands
    texts.forM fun (name, text) => do
      match text with
      | some s => printLine (tell s (if g.operands.isEmpty then none else some name))
      | none => return
    return if texts.any (·.2.isNone) then 1 else 0

def cksumTool : List String → Work Nat :=
  checksumTool "cksum" fun s name =>
    toString (Checksum.cyclic s) ++ " " ++ toString s.length ++
      (name.map (" " ++ ·)).getD ""

def digestTool (tool : String) (digest : String → String) : List String → Work Nat :=
  checksumTool tool fun s name => digest s ++ "  " ++ name.getD "-"

end Rulebook.Script
