/-! # SHA-256

The digest of FIPS 180-4. A block's sixteen words form a window that slides over
the message schedule, one word for each of the sixty-four rounds.
-/

namespace Testbed.Digest

namespace Sha256

abbrev Block := Vector UInt32 16

abbrev Chain := Vector UInt32 8

def initial : Chain := #v[
  0x6a09e667, 0xbb67ae85, 0x3c6ef372, 0xa54ff53a, 0x510e527f, 0x9b05688c, 0x1f83d9ab, 0x5be0cd19]

def roundConstants : List UInt32 := [
  0x428a2f98, 0x71374491, 0xb5c0fbcf, 0xe9b5dba5, 0x3956c25b, 0x59f111f1, 0x923f82a4, 0xab1c5ed5,
  0xd807aa98, 0x12835b01, 0x243185be, 0x550c7dc3, 0x72be5d74, 0x80deb1fe, 0x9bdc06a7, 0xc19bf174,
  0xe49b69c1, 0xefbe4786, 0x0fc19dc6, 0x240ca1cc, 0x2de92c6f, 0x4a7484aa, 0x5cb0a9dc, 0x76f988da,
  0x983e5152, 0xa831c66d, 0xb00327c8, 0xbf597fc7, 0xc6e00bf3, 0xd5a79147, 0x06ca6351, 0x14292967,
  0x27b70a85, 0x2e1b2138, 0x4d2c6dfc, 0x53380d13, 0x650a7354, 0x766a0abb, 0x81c2c92e, 0x92722c85,
  0xa2bfe8a1, 0xa81a664b, 0xc24b8b70, 0xc76c51a3, 0xd192e819, 0xd6990624, 0xf40e3585, 0x106aa070,
  0x19a4c116, 0x1e376c08, 0x2748774c, 0x34b0bcb5, 0x391c0cb3, 0x4ed8aa4a, 0x5b9cca4f, 0x682e6ff3,
  0x748f82ee, 0x78a5636f, 0x84c87814, 0x8cc70208, 0x90befffa, 0xa4506ceb, 0xbef9a3f7, 0xc67178f2]

def rotateRight (x n : UInt32) : UInt32 :=
  (x >>> n) ||| (x <<< (32 - n))

def smallSigma0 (x : UInt32) : UInt32 :=
  rotateRight x 7 ^^^ rotateRight x 18 ^^^ (x >>> 3)

def smallSigma1 (x : UInt32) : UInt32 :=
  rotateRight x 17 ^^^ rotateRight x 19 ^^^ (x >>> 10)

def bigSigma0 (x : UInt32) : UInt32 :=
  rotateRight x 2 ^^^ rotateRight x 13 ^^^ rotateRight x 22

def bigSigma1 (x : UInt32) : UInt32 :=
  rotateRight x 6 ^^^ rotateRight x 11 ^^^ rotateRight x 25

/-- Moves the window one word on: the next word of the schedule enters at its end. -/
def slide (w : Block) : Block :=
  let next := smallSigma1 w[14] + w[9] + smallSigma0 w[1] + w[0]
  Vector.ofFn fun i => if h : i.val + 1 < 16 then w[i.val + 1] else next

def round (s : Chain) (constant word : UInt32) : Chain :=
  let choice := (s[4] &&& s[5]) ^^^ (~~~s[4] &&& s[6])
  let majority := (s[0] &&& s[1]) ^^^ (s[0] &&& s[2]) ^^^ (s[1] &&& s[2])
  let t1 := s[7] + bigSigma1 s[4] + choice + constant + word
  let t2 := bigSigma0 s[0] + majority
  #v[t1 + t2, s[0], s[1], s[2], s[3] + t1, s[4], s[5], s[6]]

def compress (s : Chain) (block : Block) : Chain :=
  let final := roundConstants.foldl
    (fun (state, window) constant => (round state constant window[0], slide window)) (s, block)
  s.zipWith (· + ·) final.1

def word (a b c d : UInt8) : UInt32 :=
  (a.toUInt32 <<< 24) ||| (b.toUInt32 <<< 16) ||| (c.toUInt32 <<< 8) ||| d.toUInt32

/-- Big-endian words; bytes that fill no whole word are dropped. -/
def words : List UInt8 → List UInt32
  | a :: b :: c :: d :: rest => word a b c d :: words rest
  | _ => []

def bigEndian (n : Nat) (count : Nat) : List UInt8 :=
  (List.range count).reverse.map fun i => UInt8.ofNat (n >>> (8 * i))

/-- A one bit, as many zeros as fill the block up, and the length in bits on eight bytes. -/
def pad (message : List UInt8) : List UInt8 :=
  let zeros := (64 - (message.length + 9) % 64) % 64
  message ++ 0x80 :: (List.replicate zeros 0 ++ bigEndian (8 * message.length) 8)

def blocks (message : List UInt8) : List Block :=
  let all := (words (pad message)).toArray
  (List.range (all.size / 16)).map fun k => Vector.ofFn fun i => all.getD (16 * k + i.val) 0

end Sha256

open Sha256 in
def sha256 (message : List UInt8) : Vector UInt8 32 :=
  let chain := (blocks message).foldl compress initial
  Vector.ofFn fun i =>
    have : i.val / 4 < 8 := by omega
    (chain[i.val / 4] >>> UInt32.ofNat (8 * (3 - i.val % 4))).toUInt8

end Testbed.Digest
