/-!
# SHA-256

The SHA-256 digest of a byte string, as 64 lowercase hexadecimal digits. The
message is padded with a one bit, zeros and its bit length to a multiple of 64
bytes, and each 64-byte block is folded into eight 32-bit words by 64 rounds.
-/

namespace NotebookGuard

namespace Sha256

/-- The round constants. -/
def roundConstants : Array UInt32 := #[
  0x428a2f98, 0x71374491, 0xb5c0fbcf, 0xe9b5dba5, 0x3956c25b, 0x59f111f1, 0x923f82a4, 0xab1c5ed5,
  0xd807aa98, 0x12835b01, 0x243185be, 0x550c7dc3, 0x72be5d74, 0x80deb1fe, 0x9bdc06a7, 0xc19bf174,
  0xe49b69c1, 0xefbe4786, 0x0fc19dc6, 0x240ca1cc, 0x2de92c6f, 0x4a7484aa, 0x5cb0a9dc, 0x76f988da,
  0x983e5152, 0xa831c66d, 0xb00327c8, 0xbf597fc7, 0xc6e00bf3, 0xd5a79147, 0x06ca6351, 0x14292967,
  0x27b70a85, 0x2e1b2138, 0x4d2c6dfc, 0x53380d13, 0x650a7354, 0x766a0abb, 0x81c2c92e, 0x92722c85,
  0xa2bfe8a1, 0xa81a664b, 0xc24b8b70, 0xc76c51a3, 0xd192e819, 0xd6990624, 0xf40e3585, 0x106aa070,
  0x19a4c116, 0x1e376c08, 0x2748774c, 0x34b0bcb5, 0x391c0cb3, 0x4ed8aa4a, 0x5b9cca4f, 0x682e6ff3,
  0x748f82ee, 0x78a5636f, 0x84c87814, 0x8cc70208, 0x90befffa, 0xa4506ceb, 0xbef9a3f7, 0xc67178f2]

/-- The initial state. -/
def initial : Array UInt32 := #[
  0x6a09e667, 0xbb67ae85, 0x3c6ef372, 0xa54ff53a, 0x510e527f, 0x9b05688c, 0x1f83d9ab, 0x5be0cd19]

/-- Rotation to the right. -/
def rotr (x : UInt32) (n : UInt32) : UInt32 := (x >>> n) ||| (x <<< (32 - n))

/-- The message padded to whole blocks. -/
def pad (msg : ByteArray) : ByteArray :=
  let len := msg.size
  let zerosNeeded := (119 - len % 64) % 64
  let withOne := msg.push 0x80
  let withZeros := (List.replicate zerosNeeded (0 : UInt8)).foldl ByteArray.push withOne
  let bits := len * 8
  (List.range 8).reverse.foldl (fun acc i => acc.push (bits / Nat.pow 2 (8 * i) % 256).toUInt8) withZeros

/-- The big-endian word at byte `i`. -/
def wordAt (b : ByteArray) (i : Nat) : UInt32 :=
  let byte (k : Nat) : UInt32 := (b.get! (i + k)).toUInt32
  (byte 0 <<< 24) ||| (byte 1 <<< 16) ||| (byte 2 <<< 8) ||| byte 3

/-- The 64 words of the schedule of the block at byte `off`. -/
def schedule (b : ByteArray) (off : Nat) : Array UInt32 :=
  let first := (List.range 16).toArray.map fun t => wordAt b (off + 4 * t)
  (List.range 48).foldl (fun w j =>
    let t := j + 16
    let x := w[t - 15]!
    let y := w[t - 2]!
    let s0 := rotr x 7 ^^^ rotr x 18 ^^^ (x >>> 3)
    let s1 := rotr y 17 ^^^ rotr y 19 ^^^ (y >>> 10)
    w.push (w[t - 16]! + s0 + w[t - 7]! + s1)) first

/-- Folds one block into the state. -/
def compress (h : Array UInt32) (b : ByteArray) (off : Nat) : Array UInt32 :=
  let w := schedule b off
  let v := (List.range 64).foldl (fun (v : Array UInt32) t =>
    let a := v[0]!
    let bb := v[1]!
    let c := v[2]!
    let d := v[3]!
    let e := v[4]!
    let f := v[5]!
    let g := v[6]!
    let hh := v[7]!
    let s1 := rotr e 6 ^^^ rotr e 11 ^^^ rotr e 25
    let ch := (e &&& f) ^^^ ((~~~ e) &&& g)
    let t1 := hh + s1 + ch + roundConstants[t]! + w[t]!
    let s0 := rotr a 2 ^^^ rotr a 13 ^^^ rotr a 22
    let maj := (a &&& bb) ^^^ (a &&& c) ^^^ (bb &&& c)
    let t2 := s0 + maj
    #[t1 + t2, a, bb, c, d + t1, e, f, g]) h
  (List.range 8).toArray.map fun i => h[i]! + v[i]!

/-- Two lowercase hexadecimal digits per byte of each word. -/
def wordHex (x : UInt32) : String :=
  let s := String.ofList (Nat.toDigits 16 x.toNat)
  String.ofList (List.replicate (8 - s.length) '0') ++ s

end Sha256

/-- The SHA-256 digest of bytes, in lowercase hexadecimal. -/
def sha256Hex (msg : ByteArray) : String :=
  let p := Sha256.pad msg
  let h := (List.range (p.size / 64)).foldl (fun h i => Sha256.compress h p (64 * i)) Sha256.initial
  String.join (h.toList.map Sha256.wordHex)

end NotebookGuard
