import UniversalModule.Number.Power
import UniversalModule.Text.Utf8

/-!
Digests of bytes: cyclic checks and sums, and the digests that mix blocks of words into a state. The
constants of the latter are not tabled: they are digits of roots of primes and of sines.
-/

namespace UniversalModule.Host.Digest

def turnLeft (width count word : Nat) : Nat :=
  (word <<< count ||| word >>> (width - count)) % twoTo width

def turnRight (width count word : Nat) : Nat := turnLeft width (width - count) word

def flip (width word : Nat) : Nat := word ^^^ (twoTo width - 1)

/-- A number as bytes, those of least weight first. -/
def lowFirst : Nat → Nat → Bytes
  | 0, _ => []
  | size + 1, number => UInt8.ofNat (number % 256) :: lowFirst size (number / 256)

def highFirst (size number : Nat) : Bytes := (lowFirst size number).reverse

/-- The number that bytes stand for, those of greatest weight first. -/
def ofHighFirst (bytes : Bytes) : Nat := bytes.foldl (fun number byte => 256 * number + byte.toNat) 0

def ofLowFirst (bytes : Bytes) : Nat := ofHighFirst bytes.reverse

/-- Pieces of one size, as many as are wanted. -/
def piecesOf (size : Nat) : Nat → Bytes → List Bytes
  | 0, _ => []
  | count + 1, bytes => bytes.take size :: piecesOf size count (bytes.drop size)

/-- Bytes filled up to whole blocks: a mark, zeros, and the number of bits at the end. -/
def padded (block : Nat) (length : Bytes) (bytes : Bytes) : Bytes :=
  let used := bytes.length + 1 + length.length
  bytes ++ 0x80 :: (List.replicate ((block - used % block) % block) 0 ++ length)

def blocksOf (wordSize : Nat) (wordOf : Bytes → Nat) (message : Bytes) : List (Array Nat) :=
  let block := 16 * wordSize
  (piecesOf block (message.length / block) message).map fun piece =>
    ((piecesOf wordSize 16 piece).map wordOf).toArray

def addAll (width : Nat) (first second : List Nat) : List Nat :=
  List.zipWith (fun left right => (left + right) % twoTo width) first second

/-- The greatest number whose power is not above another one, sought bit by bit. -/
def rootFrom (power number : Nat) : Nat → Nat → Nat
  | 0, root => root
  | bits + 1, root =>
      let next := root + twoTo bits
      rootFrom power number bits (if Nat.pow next power ≤ number then next else root)

def primes : List Nat :=
  (List.range 410).filter fun number => 2 ≤ number && (List.range number).all fun d => d < 2 || number % d != 0

/-- The first bits behind the point of a root of a number. -/
def rootBits (power width number : Nat) : Nat :=
  rootFrom power (number * twoTo (power * width)) (width + 5) 0 % twoTo width

def sineWidth : Nat := 160

/-- What the series of the sine adds from one term on. -/
def sineFrom (square : Int) : Nat → Int → Int → Int
  | 0, _, _ => 0
  | fuel + 1, index, term =>
      term + sineFrom square fuel (index + 2) (-(term * square / (index * (index + 1))))

/-- The first 32 bits behind the point of the sine of a number, without its sign. -/
def sineBits (number : Nat) : Nat :=
  (sineFrom ((number : Int) * number) 200 2 ((number : Int) * twoTo sineWidth)).natAbs / twoTo (sineWidth - 32)

def usualStart : List Nat := [0x67452301, 0xefcdab89, 0x98badcfe, 0x10325476]

def sines : Array Nat := ((List.range 64).map fun index => sineBits (index + 1)).toArray

/-- How far words go round in the rounds of the digest with sines. -/
def sineTurns : List (List Nat) := [[7, 12, 17, 22], [5, 9, 14, 20], [4, 11, 16, 23], [6, 10, 15, 21]]

/-- One of the 64 steps of the digest with sines. -/
def sineStep (words : Array Nat) (state : List Nat) (index : Nat) : List Nat :=
  match state with
  | [a, b, c, d] =>
      let (mixed, place) :=
        match index / 16 with
        | 0 => ((b &&& c) ||| (flip 32 b &&& d), index)
        | 1 => ((d &&& b) ||| (flip 32 d &&& c), 5 * index + 1)
        | 2 => (b ^^^ c ^^^ d, 3 * index + 5)
        | _ => (c ^^^ (b ||| flip 32 d), 7 * index)
      let sum := (a + mixed + sines.getD index 0 + words.getD (place % 16) 0) % twoTo 32
      let turn := (sineTurns.getD (index / 16) []).getD (index % 4) 0
      [d, (b + turnLeft 32 turn sum) % twoTo 32, b, c]
  | other => other

/-- The digest of 128 bits, which mixes sines in. -/
def md5 (bytes : Bytes) : Bytes :=
  let message := padded 64 (lowFirst 8 (8 * bytes.length)) bytes
  let state := (blocksOf 4 ofLowFirst message).foldl (fun state words =>
    addAll 32 state ((List.range 64).foldl (sineStep words) state)) usualStart
  state.flatMap (lowFirst 4)

/-- One of the 80 steps of the digest of 160 bits. -/
def turningStep (words : Array Nat) (state : List Nat) (index : Nat) : List Nat :=
  match state with
  | [a, b, c, d, e] =>
      let (mixed, constant) :=
        match index / 20 with
        | 0 => ((b &&& c) ||| (flip 32 b &&& d), 0x5a827999)
        | 1 => (b ^^^ c ^^^ d, 0x6ed9eba1)
        | 2 => ((b &&& c) ||| (b &&& d) ||| (c &&& d), 0x8f1bbcdc)
        | _ => (b ^^^ c ^^^ d, 0xca62c1d6)
      let sum := (turnLeft 32 5 a + mixed + e + constant + words.getD index 0) % twoTo 32
      [sum, a, turnLeft 32 30 b, c, d]
  | other => other

def sha1 (bytes : Bytes) : Bytes :=
  let message := padded 64 (highFirst 8 (8 * bytes.length)) bytes
  let state := (blocksOf 4 ofHighFirst message).foldl (fun state words =>
    let all := (List.range 64).foldl (fun (all : Array Nat) index =>
      all.push <| turnLeft 32 1 <|
        all.getD (index + 13) 0 ^^^ all.getD (index + 8) 0 ^^^ all.getD (index + 2) 0 ^^^ all.getD index 0) words
    addAll 32 state ((List.range 80).foldl (turningStep all) state)) (usualStart ++ [0xc3d2e1f0])
  state.flatMap (highFirst 4)

/-- How far a word goes round before it is mixed with itself: two turns, and a third turn or shift. -/
abbrev Turns := Nat × Nat × Nat

/-- The digests that mix roots of primes in: over words of one width, in so many steps. -/
structure Rooted where
  width : Nat
  steps : Nat
  /-- The turns of the first and of the fifth word of the state. -/
  first : Turns
  fifth : Turns
  /-- The turns of the words of a block, the last of them a shift. -/
  early : Turns
  late : Turns

namespace Rooted

def narrow : Rooted := ⟨32, 64, (2, 13, 22), (6, 11, 25), (7, 18, 3), (17, 19, 10)⟩

def wide : Rooted := ⟨64, 80, (28, 34, 39), (14, 18, 41), (1, 8, 7), (19, 61, 6)⟩

variable (rooted : Rooted)

def turned (turns : Turns) (word : Nat) : Nat :=
  turnRight rooted.width turns.1 word ^^^ turnRight rooted.width turns.2.1 word ^^^
    turnRight rooted.width turns.2.2 word

def shifted (turns : Turns) (word : Nat) : Nat :=
  turnRight rooted.width turns.1 word ^^^ turnRight rooted.width turns.2.1 word ^^^ word >>> turns.2.2

/-- The constants of the steps: cube roots of the first primes. -/
def constants : Array Nat := ((primes.take rooted.steps).map (rootBits 3 rooted.width)).toArray

/-- The words of a block and those that are made of them, one for each step. -/
def wordsOf (block : Array Nat) : Array Nat :=
  (List.range (rooted.steps - 16)).foldl (fun (words : Array Nat) index =>
    words.push <|
      (rooted.shifted rooted.late (words.getD (index + 14) 0) + words.getD (index + 9) 0 +
        rooted.shifted rooted.early (words.getD (index + 1) 0) + words.getD index 0) % twoTo rooted.width) block

def step (constants words : Array Nat) (state : List Nat) (index : Nat) : List Nat :=
  match state with
  | [a, b, c, d, e, f, g, h] =>
      let chosen := (e &&& f) ^^^ (flip rooted.width e &&& g)
      let most := (a &&& b) ^^^ (a &&& c) ^^^ (b &&& c)
      let sum := h + rooted.turned rooted.fifth e + chosen + constants.getD index 0 + words.getD index 0
      let other := rooted.turned rooted.first a + most
      [(sum + other) % twoTo rooted.width, a, b, c, (d + sum) % twoTo rooted.width, e, f, g]
  | other => other

/-- The words of the digest of a message, from the words with which it begins. -/
def digest (start : List Nat) (bytes : Bytes) : Bytes :=
  let wordSize := rooted.width / 8
  let message := padded (16 * wordSize) (highFirst (2 * wordSize) (8 * bytes.length)) bytes
  let constants := rooted.constants
  let state := (blocksOf wordSize ofHighFirst message).foldl (fun state block =>
    let words := rooted.wordsOf block
    addAll rooted.width state ((List.range rooted.steps).foldl (rooted.step constants words) state)) start
  state.flatMap (highFirst wordSize)

end Rooted

/-- The digests with roots that are in use. A shorter one begins otherwise and is cut. -/
def sha256 : Bytes → Bytes := Rooted.narrow.digest ((primes.take 8).map (rootBits 2 32))

def sha512 : Bytes → Bytes := Rooted.wide.digest ((primes.take 8).map (rootBits 2 64))

def sha384 (bytes : Bytes) : Bytes :=
  (Rooted.wide.digest (((primes.drop 8).take 8).map (rootBits 2 64)) bytes).take 48

def sha224 (bytes : Bytes) : Bytes :=
  (Rooted.narrow.digest (((primes.drop 8).take 8).map fun prime => rootBits 2 64 prime % twoTo 32) bytes).take 28

/-- One bit further in a division by the polynomial of the cyclic check. -/
def divideBit (rest : Nat) : Nat :=
  let next := 2 * rest
  if next < twoTo 32 then next else (next - twoTo 32) ^^^ 0x04c11db7

/-- The cyclic check of bytes with their number behind them. -/
def cyclic (bytes : Bytes) : Nat :=
  let divide (rest : Nat) (byte : UInt8) : Nat :=
    (List.range 8).foldl (fun rest _ => divideBit rest) (rest ^^^ byte.toNat <<< 24)
  let length := ((lowFirst 8 bytes.length).reverse.dropWhile (· == 0)).reverse
  flip 32 ((bytes ++ length).foldl divide 0)

/-- A sum of 16 bits that goes round to the right before each byte. -/
def turningSum (bytes : Bytes) : Nat :=
  bytes.foldl (fun sum byte => (turnRight 16 1 sum + byte.toNat) % twoTo 16) 0

def plainSum (bytes : Bytes) : Nat :=
  let sum := bytes.foldl (fun sum byte => sum + byte.toNat) 0 % twoTo 32
  let folded := sum % twoTo 16 + sum / twoTo 16
  folded % twoTo 16 + folded / twoTo 16

def hexOf (bytes : Bytes) : Text :=
  bytes.flatMap fun byte => [Nat.digitChar (byte.toNat / 16), Nat.digitChar (byte.toNat % 16)]

end UniversalModule.Host.Digest
