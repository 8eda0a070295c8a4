import Precedence.Shell.Tool.Basic

namespace Precedence.Shell.Tool.Digest

def bigWord (cs : Bytes) : Nat := cs.foldl (fun n c => n * 256 + c.toNat) 0

def littleWord (cs : Bytes) : Nat := bigWord cs.reverse

def bigBytes (size n : Nat) : Bytes :=
  ((List.range size).map fun k => Char.ofNat (n / Nat.pow 256 k % 256)).reverse

def blocks (big : Bool) (size : Nat) (text : Bytes) : List Bytes :=
  let field := size / 8
  let length := bigBytes field (8 * text.length)
  let zeros := (2 * size - (text.length + 1 + field) % size) % size
  let all := text ++ '\x80' :: List.replicate zeros '\x00' ++ if big then length else length.reverse
  cut (all.length / size) all
where
  cut : Nat → Bytes → List Bytes
    | 0, _ => []
    | n + 1, cs => cs.take size :: cut n (cs.drop size)

def words (big : Bool) (size : Nat) (block : Bytes) : Array Nat :=
  ((List.range (block.length / size)).map fun n =>
    let part := (block.drop (size * n)).take size
    if big then bigWord part else littleWord part).toArray

def hex (cs : Bytes) : Bytes := cs.flatMap fun c => pad false '0' 2 (Nat.toDigits 16 c.toNat)

def rotate (n k : UInt32) : UInt32 := n <<< k ||| n >>> (32 - k)

def rotate64 (n k : UInt64) : UInt64 := n >>> k ||| n <<< (64 - k)

/-! ## MD5 -/

def md5Constants : Array UInt32 :=
  #[0xd76aa478, 0xe8c7b756, 0x242070db, 0xc1bdceee, 0xf57c0faf, 0x4787c62a,
    0xa8304613, 0xfd469501, 0x698098d8, 0x8b44f7af, 0xffff5bb1, 0x895cd7be,
    0x6b901122, 0xfd987193, 0xa679438e, 0x49b40821, 0xf61e2562, 0xc040b340,
    0x265e5a51, 0xe9b6c7aa, 0xd62f105d, 0x02441453, 0xd8a1e681, 0xe7d3fbc8,
    0x21e1cde6, 0xc33707d6, 0xf4d50d87, 0x455a14ed, 0xa9e3e905, 0xfcefa3f8,
    0x676f02d9, 0x8d2a4c8a, 0xfffa3942, 0x8771f681, 0x6d9d6122, 0xfde5380c,
    0xa4beea44, 0x4bdecfa9, 0xf6bb4b60, 0xbebfbc70, 0x289b7ec6, 0xeaa127fa,
    0xd4ef3085, 0x04881d05, 0xd9d4d039, 0xe6db99e5, 0x1fa27cf8, 0xc4ac5665,
    0xf4292244, 0x432aff97, 0xab9423a7, 0xfc93a039, 0x655b59c3, 0x8f0ccc92,
    0xffeff47d, 0x85845dd1, 0x6fa87e4f, 0xfe2ce6e0, 0xa3014314, 0x4e0811a1,
    0xf7537e82, 0xbd3af235, 0x2ad7d2bb, 0xeb86d391]

def md5Shifts : Array UInt32 := #[7, 12, 17, 22, 5, 9, 14, 20, 4, 11, 16, 23, 6, 10, 15, 21]

def md5Block (state : UInt32 × UInt32 × UInt32 × UInt32) (block : Bytes) :
    UInt32 × UInt32 × UInt32 × UInt32 :=
  let input := words false 4 block
  let (a, b, c, d) := (List.range 64).foldl (fun (a, b, c, d) n =>
    let (mixed, place) : UInt32 × Nat := match n / 16 with
      | 0 => (b &&& c ||| ~~~b &&& d, n)
      | 1 => (d &&& b ||| ~~~d &&& c, (5 * n + 1) % 16)
      | 2 => (b ^^^ c ^^^ d, (3 * n + 5) % 16)
      | _ => (c ^^^ (b ||| ~~~d), 7 * n % 16)
    let sum := a + mixed + md5Constants.getD n 0 + (input.getD place 0).toUInt32
    (d, b + rotate sum (md5Shifts.getD (n / 16 * 4 + n % 4) 0), b, c)) state
  (state.1 + a, state.2.1 + b, state.2.2.1 + c, state.2.2.2 + d)

def md5 (text : Bytes) : Bytes :=
  let (a, b, c, d) := (blocks false 64 text).foldl md5Block
    (0x67452301, 0xefcdab89, 0x98badcfe, 0x10325476)
  [a, b, c, d].flatMap fun word => hex (bigBytes 4 word.toNat).reverse

/-! ## SHA-1 -/

def sha1Block (state : UInt32 × UInt32 × UInt32 × UInt32 × UInt32) (block : Bytes) :
    UInt32 × UInt32 × UInt32 × UInt32 × UInt32 :=
  let first := (words true 4 block).map Nat.toUInt32
  let input := (List.range 64).foldl (fun input n =>
    let earlier (k : Nat) : UInt32 := input.getD (n + 16 - k) 0
    input.push (rotate (earlier 3 ^^^ earlier 8 ^^^ earlier 14 ^^^ earlier 16) 1)) first
  let (a, b, c, d, e) := (List.range 80).foldl (fun (a, b, c, d, e) n =>
    let (mixed, constant) : UInt32 × UInt32 := match n / 20 with
      | 0 => (b &&& c ||| ~~~b &&& d, 0x5a827999)
      | 1 => (b ^^^ c ^^^ d, 0x6ed9eba1)
      | 2 => (b &&& c ||| b &&& d ||| c &&& d, 0x8f1bbcdc)
      | _ => (b ^^^ c ^^^ d, 0xca62c1d6)
    (rotate a 5 + mixed + e + constant + input.getD n 0, a, rotate b 30, c, d)) state
  (state.1 + a, state.2.1 + b, state.2.2.1 + c, state.2.2.2.1 + d, state.2.2.2.2 + e)

def sha1 (text : Bytes) : Bytes :=
  let (a, b, c, d, e) := (blocks true 64 text).foldl sha1Block
    (0x67452301, 0xefcdab89, 0x98badcfe, 0x10325476, 0xc3d2e1f0)
  [a, b, c, d, e].flatMap fun word => hex (bigBytes 4 word.toNat)

/-! ## SHA-256 -/

def sha256Constants : Array UInt32 :=
  #[0x428a2f98, 0x71374491, 0xb5c0fbcf, 0xe9b5dba5, 0x3956c25b, 0x59f111f1,
    0x923f82a4, 0xab1c5ed5, 0xd807aa98, 0x12835b01, 0x243185be, 0x550c7dc3,
    0x72be5d74, 0x80deb1fe, 0x9bdc06a7, 0xc19bf174, 0xe49b69c1, 0xefbe4786,
    0x0fc19dc6, 0x240ca1cc, 0x2de92c6f, 0x4a7484aa, 0x5cb0a9dc, 0x76f988da,
    0x983e5152, 0xa831c66d, 0xb00327c8, 0xbf597fc7, 0xc6e00bf3, 0xd5a79147,
    0x06ca6351, 0x14292967, 0x27b70a85, 0x2e1b2138, 0x4d2c6dfc, 0x53380d13,
    0x650a7354, 0x766a0abb, 0x81c2c92e, 0x92722c85, 0xa2bfe8a1, 0xa81a664b,
    0xc24b8b70, 0xc76c51a3, 0xd192e819, 0xd6990624, 0xf40e3585, 0x106aa070,
    0x19a4c116, 0x1e376c08, 0x2748774c, 0x34b0bcb5, 0x391c0cb3, 0x4ed8aa4a,
    0x5b9cca4f, 0x682e6ff3, 0x748f82ee, 0x78a5636f, 0x84c87814, 0x8cc70208,
    0x90befffa, 0xa4506ceb, 0xbef9a3f7, 0xc67178f2]

/-- A round on eight words, with the input and the constant already added. -/
def sha256Round (state : Array UInt32) (added : UInt32) : Array UInt32 :=
  let word (n : Nat) : UInt32 := state.getD n 0
  let turn (x k : UInt32) : UInt32 := rotate x (32 - k)
  let e := word 4
  let first := word 7 + (turn e 6 ^^^ turn e 11 ^^^ turn e 25) +
    (e &&& word 5 ^^^ ~~~e &&& word 6) + added
  let a := word 0
  let second := (turn a 2 ^^^ turn a 13 ^^^ turn a 22) +
    (a &&& word 1 ^^^ a &&& word 2 ^^^ word 1 &&& word 2)
  #[first + second, a, word 1, word 2, word 3 + first, e, word 5, word 6]

def sha256Block (state : Array UInt32) (block : Bytes) : Array UInt32 :=
  let turn (x k : UInt32) : UInt32 := rotate x (32 - k)
  let input := (List.range 48).foldl (fun (input : Array UInt32) n =>
    let low := input.getD (n + 1) 0
    let high := input.getD (n + 14) 0
    input.push (input.getD n 0 + (turn low 7 ^^^ turn low 18 ^^^ low >>> 3) + input.getD (n + 9) 0 +
      (turn high 17 ^^^ turn high 19 ^^^ high >>> 10))) ((words true 4 block).map Nat.toUInt32)
  let after := (List.range 64).foldl (fun state n =>
    sha256Round state (sha256Constants.getD n 0 + input.getD n 0)) state
  state.mapIdx fun n word => word + after.getD n 0

def sha256 (text : Bytes) : Bytes :=
  let start : Array UInt32 :=
    #[0x6a09e667, 0xbb67ae85, 0x3c6ef372, 0xa54ff53a, 0x510e527f, 0x9b05688c,
    0x1f83d9ab, 0x5be0cd19]
  ((blocks true 64 text).foldl sha256Block start).toList.flatMap fun word =>
    hex (bigBytes 4 word.toNat)

/-! ## SHA-512 -/

def sha512Constants : Array UInt64 :=
  #[0x428a2f98d728ae22, 0x7137449123ef65cd, 0xb5c0fbcfec4d3b2f, 0xe9b5dba58189dbbc,
    0x3956c25bf348b538, 0x59f111f1b605d019, 0x923f82a4af194f9b, 0xab1c5ed5da6d8118,
    0xd807aa98a3030242, 0x12835b0145706fbe, 0x243185be4ee4b28c, 0x550c7dc3d5ffb4e2,
    0x72be5d74f27b896f, 0x80deb1fe3b1696b1, 0x9bdc06a725c71235, 0xc19bf174cf692694,
    0xe49b69c19ef14ad2, 0xefbe4786384f25e3, 0x0fc19dc68b8cd5b5, 0x240ca1cc77ac9c65,
    0x2de92c6f592b0275, 0x4a7484aa6ea6e483, 0x5cb0a9dcbd41fbd4, 0x76f988da831153b5,
    0x983e5152ee66dfab, 0xa831c66d2db43210, 0xb00327c898fb213f, 0xbf597fc7beef0ee4,
    0xc6e00bf33da88fc2, 0xd5a79147930aa725, 0x06ca6351e003826f, 0x142929670a0e6e70,
    0x27b70a8546d22ffc, 0x2e1b21385c26c926, 0x4d2c6dfc5ac42aed, 0x53380d139d95b3df,
    0x650a73548baf63de, 0x766a0abb3c77b2a8, 0x81c2c92e47edaee6, 0x92722c851482353b,
    0xa2bfe8a14cf10364, 0xa81a664bbc423001, 0xc24b8b70d0f89791, 0xc76c51a30654be30,
    0xd192e819d6ef5218, 0xd69906245565a910, 0xf40e35855771202a, 0x106aa07032bbd1b8,
    0x19a4c116b8d2d0c8, 0x1e376c085141ab53, 0x2748774cdf8eeb99, 0x34b0bcb5e19b48a8,
    0x391c0cb3c5c95a63, 0x4ed8aa4ae3418acb, 0x5b9cca4f7763e373, 0x682e6ff3d6b2b8a3,
    0x748f82ee5defb2fc, 0x78a5636f43172f60, 0x84c87814a1f0ab72, 0x8cc702081a6439ec,
    0x90befffa23631e28, 0xa4506cebde82bde9, 0xbef9a3f7b2c67915, 0xc67178f2e372532b,
    0xca273eceea26619c, 0xd186b8c721c0c207, 0xeada7dd6cde0eb1e, 0xf57d4f7fee6ed178,
    0x06f067aa72176fba, 0x0a637dc5a2c898a6, 0x113f9804bef90dae, 0x1b710b35131c471b,
    0x28db77f523047d84, 0x32caab7b40c72493, 0x3c9ebe0a15c9bebc, 0x431d67c49c100d4c,
    0x4cc5d4becb3e42b6, 0x597f299cfc657e2a, 0x5fcb6fab3ad6faec, 0x6c44198c4a475817]

/-- A round on eight words, with the input and the constant already added. -/
def sha512Round (state : Array UInt64) (added : UInt64) : Array UInt64 :=
  let word (n : Nat) : UInt64 := state.getD n 0
  let e := word 4
  let first := word 7 + (rotate64 e 14 ^^^ rotate64 e 18 ^^^ rotate64 e 41) +
    (e &&& word 5 ^^^ ~~~e &&& word 6) + added
  let a := word 0
  let second := (rotate64 a 28 ^^^ rotate64 a 34 ^^^ rotate64 a 39) +
    (a &&& word 1 ^^^ a &&& word 2 ^^^ word 1 &&& word 2)
  #[first + second, a, word 1, word 2, word 3 + first, e, word 5, word 6]

def sha512Block (state : Array UInt64) (block : Bytes) : Array UInt64 :=
  let input := (List.range 64).foldl (fun (input : Array UInt64) n =>
    let low := input.getD (n + 1) 0
    let high := input.getD (n + 14) 0
    input.push (input.getD n 0 + (rotate64 low 1 ^^^ rotate64 low 8 ^^^ low >>> 7) +
      input.getD (n + 9) 0 + (rotate64 high 19 ^^^ rotate64 high 61 ^^^ high >>> 6)))
    ((words true 8 block).map Nat.toUInt64)
  let after := (List.range 80).foldl (fun state n =>
    sha512Round state (sha512Constants.getD n 0 + input.getD n 0)) state
  state.mapIdx fun n word => word + after.getD n 0

def sha512 (text : Bytes) : Bytes :=
  let start : Array UInt64 :=
    #[0x6a09e667f3bcc908, 0xbb67ae8584caa73b, 0x3c6ef372fe94f82b, 0xa54ff53a5f1d36f1,
    0x510e527fade682d1, 0x9b05688c2b3e6c1f, 0x1f83d9abfb41bd6b, 0x5be0cd19137e2179]
  ((blocks true 128 text).foldl sha512Block start).toList.flatMap fun word =>
    hex (bigBytes 8 word.toNat)

/-! ## Checksums -/

def cyclic (remainder : UInt32) (byte : Nat) : UInt32 :=
  (List.range 8).foldl (fun (remainder : UInt32) _ =>
    if remainder &&& 0x80000000 ≠ 0 then remainder <<< 1 ^^^ 0x04c11db7 else remainder <<< 1)
    (remainder ^^^ byte.toUInt32 <<< 24)

/-- The bytes of a length without zeros at its high end, the lowest first. -/
def lengthBytes : Nat → Nat → List Nat
  | 0, _ => []
  | _ + 1, 0 => []
  | fuel + 1, n => n % 256 :: lengthBytes fuel (n / 256)

def checksum (text : Bytes) : Nat :=
  let bytes := text.map Char.toNat ++ lengthBytes 8 text.length
  (~~~(bytes.foldl cyclic 0)).toNat

end Digest

open Digest

/-- Prints the digests of files, or checks the digests that files list. -/
def sum (name : String) (digest : Bytes → Bytes) : Tool := fun arguments =>
  let allowed := letters "bctwz" "" ++ flags [('c', "check"), ('q', "quiet"), ('s', "status")]
  withChoice name allowed false 1 arguments fun options paths => do
    if !has 'c' options then
      forFiles name paths fun path text =>
        put name (digest text ++ "  ".toList ++ path ++ ['\n'])
    else
      let rows := (← gather name paths).flatMap lines
      let mut wrong := 0
      for row in rows do
        let (given, rest) := row.span (· ≠ ' ')
        let path := rest.drop 2
        match ← contents path with
        | .error trouble =>
          refuse name s!"{String.ofList path}: {trouble.text}"
          put name (path ++ ": FAILED open or read\n".toList)
        | .ok text =>
          if digest text = given then
            if !has 'q' options && !has 's' options then put name (path ++ ": OK\n".toList)
          else
            wrong := wrong + 1
            if !has 's' options then put name (path ++ ": FAILED\n".toList)
      if wrong ≠ 0 then
        if !has 's' options then
          warn (s!"{name}: WARNING: {wrong} computed checksum" ++
            (if wrong = 1 then " did" else "s did") ++ " NOT match\n")
        finish 1

def cksum : Tool := fun paths =>
  forFiles "cksum" paths fun path text => do
    let name := if paths.isEmpty then [] else ' ' :: path
    put "cksum" (Number.text (checksum text) ++ ' ' :: Number.text text.length ++ name ++ ['\n'])

end Precedence.Shell.Tool
