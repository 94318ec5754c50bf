import DataForge.Foundation.Sha256

namespace DataForge.Foundation.Hmac

open DataForge.Foundation.Strings
open DataForge.Foundation.Sha256

def ofList (bytes : List UInt8) : Bytes := ⟨bytes.toArray⟩

theorem ofList_injective {xs ys : List UInt8} (h : ofList xs = ofList ys) : xs = ys := by
  have harray : xs.toArray = ys.toArray := congrArg ByteArray.data h
  simpa using congrArg Array.toList harray

theorem ofList_toList (data : Bytes) : ofList data.data.toList = data := rfl

/-- The bytes whose digits `hexdigest` writes. -/
def digest (data : Bytes) : List UInt8 :=
  let s := digestWords data
  [s.a, s.b, s.c, s.d, s.e, s.f, s.g, s.h].flatMap fun w => (bigEndian 4 w).map UInt8.ofNat

def hexByte (b : UInt8) : Text := [hexDigit (b.toNat / 16), hexDigit b.toNat]

theorem hexWord_eq (w : Nat) : hexWord w = ((bigEndian 4 w).map UInt8.ofNat).flatMap hexByte := by
  have hbyte : ∀ n, (UInt8.ofNat (n % 256)).toNat = n % 256 := fun n => by simp
  have hhigh : ∀ n, hexDigit (n % 256 / 16) = hexDigit (n / 16) := fun n => by
    rw [hexDigit, hexDigit, show n % 256 / 16 % 16 = n / 16 % 16 by omega]
  have hlow : ∀ n, hexDigit (n % 256) = hexDigit n := fun n => by
    rw [hexDigit, hexDigit, show n % 256 % 16 = n % 16 by omega]
  simp only [hexWord, bigEndian, List.range, List.range.loop, List.reverse_cons, List.reverse_nil,
    List.nil_append, List.cons_append, List.map_cons, List.map_nil, List.flatMap_cons,
    List.flatMap_nil, hexByte, hbyte, hhigh, hlow, Nat.div_div_eq_div_mul]
  rfl

theorem hexdigest_eq (data : Bytes) : hexdigest data = (digest data).flatMap hexByte := by
  rw [hexdigest, digest, List.flatMap_assoc]
  exact List.flatMap_congr fun w _ => hexWord_eq w

def blockSize : Nat := 64

/-- The key of one block: a long key is hashed, a short one filled up with zeros. -/
def blockKey (key : Bytes) : List UInt8 :=
  let k := if blockSize < key.size then digest key else key.data.toList
  k ++ List.replicate (blockSize - k.length) 0

def padded (pad : UInt8) (key : Bytes) : List UInt8 := (blockKey key).map (· ^^^ pad)

def innerMessage (key message : Bytes) : Bytes := ofList (padded 0x36 key ++ message.data.toList)

def outerMessage (key message : Bytes) : Bytes :=
  ofList (padded 0x5c key ++ digest (innerMessage key message))

/-- `hmac.new(key, message, hashlib.sha256).hexdigest()`. -/
def hmac (key message : Bytes) : Text := hexdigest (outerMessage key message)

def Collide (x y : Bytes) : Prop := x ≠ y ∧ hexdigest x = hexdigest y

theorem eq_or_collide {x y : Bytes} (h : hexdigest x = hexdigest y) : x = y ∨ Collide x y := by
  by_cases hxy : x = y
  · exact .inl hxy
  · exact .inr ⟨hxy, h⟩

/-- Two messages under one code are one message, or their hashing shows a collision. -/
theorem hmac_binds {key m m' : Bytes} (h : hmac key m = hmac key m') :
    m = m' ∨ Collide (innerMessage key m) (innerMessage key m') ∨
      Collide (outerMessage key m) (outerMessage key m') := by
  rcases eq_or_collide h with houter | houter
  · have hdigest := List.append_cancel_left (ofList_injective houter)
    have hhex : hexdigest (innerMessage key m) = hexdigest (innerMessage key m') := by
      rw [hexdigest_eq, hexdigest_eq, hdigest]
    rcases eq_or_collide hhex with hinner | hinner
    · have hlist := List.append_cancel_left (ofList_injective hinner)
      left
      rw [← ofList_toList m, ← ofList_toList m', hlist]
    · exact .inr (.inl hinner)
  · exact .inr (.inr houter)

set_option maxRecDepth 4000 in
example : hmac "Jefe".toUTF8 "what do ya want for nothing?".toUTF8 =
    "5bdcc146bf60754e6a042426089575c75a003f089d2739839dec58b964ec3843".toList := by
  decide +kernel

end DataForge.Foundation.Hmac
