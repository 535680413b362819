/-!
The SHA-256 digest of a byte sequence, by which a snapshot is recognised again.
-/
namespace ColumnRoles.Digest

/-- The first 32 bits of the fractional parts of the cube roots of the first 64 primes. -/
def roundConstants : List UInt32 :=
  [0x428a2f98, 0x71374491, 0xb5c0fbcf, 0xe9b5dba5, 0x3956c25b, 0x59f111f1, 0x923f82a4, 0xab1c5ed5,
    0xd807aa98, 0x12835b01, 0x243185be, 0x550c7dc3, 0x72be5d74, 0x80deb1fe, 0x9bdc06a7, 0xc19bf174,
    0xe49b69c1, 0xefbe4786, 0x0fc19dc6, 0x240ca1cc, 0x2de92c6f, 0x4a7484aa, 0x5cb0a9dc, 0x76f988da,
    0x983e5152, 0xa831c66d, 0xb00327c8, 0xbf597fc7, 0xc6e00bf3, 0xd5a79147, 0x06ca6351, 0x14292967,
    0x27b70a85, 0x2e1b2138, 0x4d2c6dfc, 0x53380d13, 0x650a7354, 0x766a0abb, 0x81c2c92e, 0x92722c85,
    0xa2bfe8a1, 0xa81a664b, 0xc24b8b70, 0xc76c51a3, 0xd192e819, 0xd6990624, 0xf40e3585, 0x106aa070,
    0x19a4c116, 0x1e376c08, 0x2748774c, 0x34b0bcb5, 0x391c0cb3, 0x4ed8aa4a, 0x5b9cca4f, 0x682e6ff3,
    0x748f82ee, 0x78a5636f, 0x84c87814, 0x8cc70208, 0x90befffa, 0xa4506ceb, 0xbef9a3f7, 0xc67178f2]

structure Words where
  a : UInt32
  b : UInt32
  c : UInt32
  d : UInt32
  e : UInt32
  f : UInt32
  g : UInt32
  h : UInt32
deriving DecidableEq, Repr

/-- The first 32 bits of the fractional parts of the square roots of the first eight primes. -/
def start : Words where
  a := 0x6a09e667
  b := 0xbb67ae85
  c := 0x3c6ef372
  d := 0xa54ff53a
  e := 0x510e527f
  f := 0x9b05688c
  g := 0x1f83d9ab
  h := 0x5be0cd19

def rotate (x n : UInt32) : UInt32 :=
  (x >>> n) ||| (x <<< (32 - n))

def round (s : Words) (word constant : UInt32) : Words :=
  let mix := rotate s.e 6 ^^^ rotate s.e 11 ^^^ rotate s.e 25
  let choice := (s.e &&& s.f) ^^^ ((~~~s.e) &&& s.g)
  let t := s.h + mix + choice + constant + word
  let mix' := rotate s.a 2 ^^^ rotate s.a 13 ^^^ rotate s.a 22
  let majority := (s.a &&& s.b) ^^^ (s.a &&& s.c) ^^^ (s.b &&& s.c)
  { a := t + (mix' + majority), b := s.a, c := s.b, d := s.c, e := s.d + t, f := s.e, g := s.f,
    h := s.g }

def nextWord (words : List UInt32) : UInt32 :=
  let before := fun n => words.getD (n - 1) 0
  let x := before 15
  let y := before 2
  before 16 + (rotate x 7 ^^^ rotate x 18 ^^^ (x >>> 3)) + before 7 +
    (rotate y 17 ^^^ rotate y 19 ^^^ (y >>> 10))

def extend : Nat → List UInt32 → List UInt32
  | 0, words => words
  | n + 1, words => extend n (nextWord words :: words)

def wordAt (bytes : ByteArray) (i : Nat) : UInt32 :=
  (List.range 4).foldl (fun w k => (w <<< 8) ||| (bytes.data.getD (i + k) 0).toUInt32) 0

def block (bytes : ByteArray) (s : Words) (i : Nat) : Words :=
  let words := (List.range 16).map fun k => wordAt bytes (i + 4 * k)
  let schedule := (extend 48 words.reverse).reverse
  let t := (schedule.zip roundConstants).foldl (fun t p => round t p.1 p.2) s
  { a := s.a + t.a, b := s.b + t.b, c := s.c + t.c, d := s.d + t.d, e := s.e + t.e, f := s.f + t.f,
    g := s.g + t.g, h := s.h + t.h }

/-- The bytes with one further bit, zeros, and their length in bits as 64 bits, so that they make
whole blocks. -/
def padded (bytes : ByteArray) : ByteArray :=
  let zeros := (119 - bytes.size % 64) % 64
  let length := (List.range 8).map fun k => UInt8.ofNat ((8 * bytes.size) >>> (8 * (7 - k)))
  ⟨bytes.data ++ (0x80 :: List.replicate zeros 0 ++ length).toArray⟩

def words (bytes : ByteArray) : Words :=
  let bytes := padded bytes
  (List.range (bytes.size / 64)).foldl (fun s k => block bytes s (64 * k)) start

def hexWord (x : UInt32) : List Char :=
  (List.range 8).map fun k => Nat.digitChar ((x.toNat >>> (4 * (7 - k))) % 16)

def sha256 (bytes : ByteArray) : String :=
  let s := words bytes
  String.ofList ([s.a, s.b, s.c, s.d, s.e, s.f, s.g, s.h].flatMap hexWord)

end ColumnRoles.Digest
