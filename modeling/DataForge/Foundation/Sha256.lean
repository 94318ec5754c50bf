import DataForge.Foundation.Strings

namespace DataForge.Foundation.Sha256

open DataForge.Foundation.Strings

abbrev Bytes := ByteArray

def encodeUtf8 (s : Text) : Bytes := (String.ofList s).toUTF8

theorem encodeUtf8_injective {s t : Text} (h : encodeUtf8 s = encodeUtf8 t) : s = t :=
  String.ofList_injective (String.toByteArray_inj.mp h)

def decodeUtf8 (data : Bytes) : Option Text := (String.fromUTF8? data).map String.toList

theorem decodeUtf8_encodeUtf8 (s : Text) : decodeUtf8 (encodeUtf8 s) = some s := by
  have hvalid : (String.ofList s).toUTF8.IsValidUTF8 := (String.ofList s).isValidUTF8
  have hread : String.fromUTF8 (String.ofList s).toUTF8 hvalid = String.ofList s := rfl
  rw [decodeUtf8, encodeUtf8, String.fromUTF8?, dif_pos hvalid, hread, Option.map_some,
    String.toList_ofList]

def rounds : List Nat :=
  [0x428a2f98, 0x71374491, 0xb5c0fbcf, 0xe9b5dba5, 0x3956c25b, 0x59f111f1, 0x923f82a4, 0xab1c5ed5,
   0xd807aa98, 0x12835b01, 0x243185be, 0x550c7dc3, 0x72be5d74, 0x80deb1fe, 0x9bdc06a7, 0xc19bf174,
   0xe49b69c1, 0xefbe4786, 0x0fc19dc6, 0x240ca1cc, 0x2de92c6f, 0x4a7484aa, 0x5cb0a9dc, 0x76f988da,
   0x983e5152, 0xa831c66d, 0xb00327c8, 0xbf597fc7, 0xc6e00bf3, 0xd5a79147, 0x06ca6351, 0x14292967,
   0x27b70a85, 0x2e1b2138, 0x4d2c6dfc, 0x53380d13, 0x650a7354, 0x766a0abb, 0x81c2c92e, 0x92722c85,
   0xa2bfe8a1, 0xa81a664b, 0xc24b8b70, 0xc76c51a3, 0xd192e819, 0xd6990624, 0xf40e3585, 0x106aa070,
   0x19a4c116, 0x1e376c08, 0x2748774c, 0x34b0bcb5, 0x391c0cb3, 0x4ed8aa4a, 0x5b9cca4f, 0x682e6ff3,
   0x748f82ee, 0x78a5636f, 0x84c87814, 0x8cc70208, 0x90befffa, 0xa4506ceb, 0xbef9a3f7, 0xc67178f2]

structure Words where
  (a b c d e f g h : Nat)

def initial : Words :=
  ⟨0x6a09e667, 0xbb67ae85, 0x3c6ef372, 0xa54ff53a, 0x510e527f, 0x9b05688c, 0x1f83d9ab, 0x5be0cd19⟩

def add (x y : Nat) : Nat := (x + y) % 2 ^ 32

def rotr (n x : Nat) : Nat := x >>> n ||| (x <<< (32 - n)) % 2 ^ 32

/-- One round on the working words; the window holds the next sixteen words of
the message schedule. -/
def round (k : Nat) (window : List Nat) (s : Words) : Words :=
  let w := window.getD 0 0
  let sum1 := rotr 6 s.e ^^^ rotr 11 s.e ^^^ rotr 25 s.e
  let choice := (s.e &&& s.f) ^^^ ((s.e ^^^ 0xffffffff) &&& s.g)
  let sum0 := rotr 2 s.a ^^^ rotr 13 s.a ^^^ rotr 22 s.a
  let major := (s.a &&& s.b) ^^^ (s.a &&& s.c) ^^^ (s.b &&& s.c)
  let t1 := add (add (add s.h sum1) (add choice k)) w
  ⟨add t1 (add sum0 major), s.a, s.b, s.c, add s.d t1, s.e, s.f, s.g⟩

def extend (window : List Nat) : List Nat :=
  let x := window.getD 1 0
  let y := window.getD 14 0
  let sigma0 := rotr 7 x ^^^ rotr 18 x ^^^ x >>> 3
  let sigma1 := rotr 17 y ^^^ rotr 19 y ^^^ y >>> 10
  window.tail ++ [add (add (window.getD 0 0) sigma0) (add (window.getD 9 0) sigma1)]

def runRounds : List Nat → List Nat → Words → Words
  | [], _, s => s
  | k :: ks, window, s => runRounds ks (extend window) (round k window s)

def compress (s : Words) (block : List Nat) : Words :=
  let t := runRounds rounds block s
  ⟨add s.a t.a, add s.b t.b, add s.c t.c, add s.d t.d,
   add s.e t.e, add s.f t.f, add s.g t.g, add s.h t.h⟩

def bigEndian (width n : Nat) : List Nat :=
  (List.range width).reverse.map fun i => n / 256 ^ i % 256

def pad (message : List Nat) : List Nat :=
  let n := message.length
  message ++ [0x80] ++ List.replicate ((119 - n % 64) % 64) 0 ++ bigEndian 8 (8 * n)

/-- Group a list by fours of bytes into big endian words. -/
def words : List Nat → List Nat
  | a :: b :: c :: d :: rest => (((a * 256 + b) * 256 + c) * 256 + d) :: words rest
  | _ => []

def blocks : Nat → List Nat → List (List Nat)
  | 0, _ => []
  | n + 1, ws => ws.take 16 :: blocks n (ws.drop 16)

def digestWords (data : Bytes) : Words :=
  let ws := words (pad (data.toList.map UInt8.toNat))
  (blocks (ws.length / 16) ws).foldl compress initial

def hexWord (w : Nat) : Text :=
  (List.range 8).reverse.map fun i => hexDigit (w / 16 ^ i)

def hexdigest (data : Bytes) : Text :=
  let s := digestWords data
  [s.a, s.b, s.c, s.d, s.e, s.f, s.g, s.h].flatMap hexWord

theorem length_hexdigest (data : Bytes) : (hexdigest data).length = 64 := by
  simp [hexdigest, hexWord]

theorem mem_hexdigest {data : Bytes} {c : Char} (hc : c ∈ hexdigest data) : c ∈ hexDigits := by
  simp only [hexdigest, List.mem_flatMap, hexWord, List.mem_map] at hc
  obtain ⟨w, -, i, -, rfl⟩ := hc
  exact hexDigit_mem _

attribute [irreducible] hexdigest

set_option maxRecDepth 4000 in
example : hexdigest "abc".toUTF8 =
    "ba7816bf8f01cfea414140de5dae2223b00361a396177a9cb410ff61f20015ad".toList := by
  decide +kernel

end DataForge.Foundation.Sha256
