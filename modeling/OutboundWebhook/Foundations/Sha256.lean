import OutboundWebhook.Foundations.Bytes

/-!
# SHA-256 and HMAC-SHA256

The hash function and its keyed form, written so that the kernel can evaluate them: words are
natural numbers below `2 ^ 32`, and every loop is structurally recursive. Nothing is proved about
them beyond the length of a digest. They are here so that a run can be evaluated with the real
digests rather than with a stand-in.
-/

namespace Sha256

/-- Rotate a 32-bit word right. -/
def rotr (x n : ℕ) : ℕ := (x >>> n ||| x <<< (32 - n)) % 2 ^ 32

/-- The round constants. -/
def roundConstants : List ℕ :=
  [0x428a2f98, 0x71374491, 0xb5c0fbcf, 0xe9b5dba5, 0x3956c25b, 0x59f111f1, 0x923f82a4, 0xab1c5ed5,
   0xd807aa98, 0x12835b01, 0x243185be, 0x550c7dc3, 0x72be5d74, 0x80deb1fe, 0x9bdc06a7, 0xc19bf174,
   0xe49b69c1, 0xefbe4786, 0x0fc19dc6, 0x240ca1cc, 0x2de92c6f, 0x4a7484aa, 0x5cb0a9dc, 0x76f988da,
   0x983e5152, 0xa831c66d, 0xb00327c8, 0xbf597fc7, 0xc6e00bf3, 0xd5a79147, 0x06ca6351, 0x14292967,
   0x27b70a85, 0x2e1b2138, 0x4d2c6dfc, 0x53380d13, 0x650a7354, 0x766a0abb, 0x81c2c92e, 0x92722c85,
   0xa2bfe8a1, 0xa81a664b, 0xc24b8b70, 0xc76c51a3, 0xd192e819, 0xd6990624, 0xf40e3585, 0x106aa070,
   0x19a4c116, 0x1e376c08, 0x2748774c, 0x34b0bcb5, 0x391c0cb3, 0x4ed8aa4a, 0x5b9cca4f, 0x682e6ff3,
   0x748f82ee, 0x78a5636f, 0x84c87814, 0x8cc70208, 0x90befffa, 0xa4506ceb, 0xbef9a3f7, 0xc67178f2]

/-- The chaining value and the working variables of a round. -/
structure Words where
  a : ℕ
  b : ℕ
  c : ℕ
  d : ℕ
  e : ℕ
  f : ℕ
  g : ℕ
  h : ℕ

/-- The initial chaining value. -/
def initial : Words :=
  ⟨0x6a09e667, 0xbb67ae85, 0x3c6ef372, 0xa54ff53a, 0x510e527f, 0x9b05688c, 0x1f83d9ab, 0x5be0cd19⟩

/-- The message, a one bit, zeros up to 56 modulo 64 octets, and the length in bits. -/
def pad (m : Bytes) : Bytes :=
  m ++ (0x80 : UInt8) :: List.replicate ((119 - m.length % 64) % 64) (0 : UInt8) ++
    (List.range 8).map fun i => UInt8.ofNat ((m.length * 8) >>> (8 * (7 - i)))

/-- Big-endian words. -/
def words : Bytes → List ℕ
  | a :: b :: c :: d :: rest =>
    (a.toNat <<< 24 ||| b.toNat <<< 16 ||| c.toNat <<< 8 ||| d.toNat) :: words rest
  | _ => []

/-- Extend the message schedule by `n` words, newest first. -/
def schedule : ℕ → List ℕ → List ℕ
  | 0, w => w
  | n + 1, w =>
    let w15 := w.getD 14 0
    let w2 := w.getD 1 0
    let s0 := rotr w15 7 ^^^ rotr w15 18 ^^^ w15 >>> 3
    let s1 := rotr w2 17 ^^^ rotr w2 19 ^^^ w2 >>> 10
    schedule n ((w.getD 15 0 + s0 + w.getD 6 0 + s1) % 2 ^ 32 :: w)

/-- One round, with the sum of its constant and its schedule word. -/
def round (s : Words) (kw : ℕ) : Words :=
  let s1 := rotr s.e 6 ^^^ rotr s.e 11 ^^^ rotr s.e 25
  let ch := (s.e &&& s.f) ^^^ ((2 ^ 32 - 1 - s.e) &&& s.g)
  let t1 := s.h + s1 + ch + kw
  let s0 := rotr s.a 2 ^^^ rotr s.a 13 ^^^ rotr s.a 22
  let maj := (s.a &&& s.b) ^^^ (s.a &&& s.c) ^^^ (s.b &&& s.c)
  ⟨(t1 + s0 + maj) % 2 ^ 32, s.a, s.b, s.c, (s.d + t1) % 2 ^ 32, s.e, s.f, s.g⟩

/-- Absorb one block of sixteen words. -/
def compress (s : Words) (block : List ℕ) : Words :=
  let t := (List.zipWith (· + ·) roundConstants (schedule 48 block.reverse).reverse).foldl round s
  ⟨(s.a + t.a) % 2 ^ 32, (s.b + t.b) % 2 ^ 32, (s.c + t.c) % 2 ^ 32, (s.d + t.d) % 2 ^ 32,
   (s.e + t.e) % 2 ^ 32, (s.f + t.f) % 2 ^ 32, (s.g + t.g) % 2 ^ 32, (s.h + t.h) % 2 ^ 32⟩

/-- Absorb `n` blocks. -/
def absorb : ℕ → Words → List ℕ → Words
  | 0, s, _ => s
  | n + 1, s, w => absorb n (compress s (w.take 16)) (w.drop 16)

/-- A word as four octets, most significant first. -/
def octets (w : ℕ) : Bytes :=
  [UInt8.ofNat (w >>> 24), UInt8.ofNat (w >>> 16), UInt8.ofNat (w >>> 8), UInt8.ofNat w]

/-- The SHA-256 digest. -/
def digest (m : Bytes) : Bytes :=
  let p := pad m
  let s := absorb (p.length / 64) initial (words p)
  octets s.a ++ octets s.b ++ octets s.c ++ octets s.d ++
    octets s.e ++ octets s.f ++ octets s.g ++ octets s.h

@[simp] theorem length_digest (m : Bytes) : (digest m).length = 32 := rfl

-- a message of two blocks, whose length takes two octets
example : digest (asBytes "abcdbcdecdefdefgefghfghighijhijkijkljklmklmnlmnomnopnopq")
    = [0x24, 0x8d, 0x6a, 0x61, 0xd2, 0x06, 0x38, 0xb8, 0xe5, 0xc0, 0x26, 0x93,
       0x0c, 0x3e, 0x60, 0x39, 0xa3, 0x3c, 0xe4, 0x59, 0x64, 0xff, 0x21, 0x67,
       0xf6, 0xec, 0xed, 0xd4, 0x19, 0xdb, 0x06, 0xc1] := by
  decide +kernel

/-- A key longer than a block is hashed, and a shorter one padded with zeros. -/
def blockKey (key : Bytes) : Bytes :=
  let k := if 64 < key.length then digest key else key
  k ++ List.replicate (64 - k.length) (0 : UInt8)

/-- HMAC-SHA256. -/
def hmac (key message : Bytes) : Bytes :=
  let k := blockKey key
  digest (k.map (· ^^^ 0x5c) ++ digest (k.map (· ^^^ 0x36) ++ message))

example : hmac (asBytes "Jefe") (asBytes "what do ya want for nothing?")
    = [0x5b, 0xdc, 0xc1, 0x46, 0xbf, 0x60, 0x75, 0x4e, 0x6a, 0x04, 0x24, 0x26,
       0x08, 0x95, 0x75, 0xc7, 0x5a, 0x00, 0x3f, 0x08, 0x9d, 0x27, 0x39, 0x83,
       0x9d, 0xec, 0x58, 0xb9, 0x64, 0xec, 0x38, 0x43] := by
  decide +kernel

end Sha256
