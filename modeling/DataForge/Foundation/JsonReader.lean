import DataForge.Foundation.Json
import DataForge.Foundation.Outcome

namespace DataForge.Foundation.JsonReader

open DataForge.Foundation.Strings
open DataForge.Foundation.Dictionary
open DataForge.Foundation.Json

def skipSpace (s : Text) : Text :=
  s.dropWhile fun c => c = ' ' || c = '\t' || c = '\n' || c = '\r'

def readHex4 : Text → Option (Nat × Text)
  | a :: b :: c :: d :: rest =>
    if [a, b, c, d].all (fun e => decide (e.toLower ∈ hexDigits)) then
      some ([a, b, c, d].foldl (fun n e => n * 16 + hexValue e.toLower) 0, rest)
    else none
  | _ => none

/-- The unit of an escape, and the one after it when the two are a surrogate pair. A
surrogate on its own, which no text of the model holds, is read as U+FFFD. -/
def readUnicode (s : Text) : Option (Char × Text) :=
  match readHex4 s with
  | none => none
  | some (n, rest) =>
    if 0xd800 ≤ n ∧ n < 0xdc00 then
      match rest with
      | '\\' :: 'u' :: low =>
        match readHex4 low with
        | some (m, rest') =>
          if 0xdc00 ≤ m ∧ m < 0xe000 then
            some (Char.ofNat (0x10000 + (n - 0xd800) * 0x400 + (m - 0xdc00)), rest')
          else some (Char.ofNat 0xfffd, rest)
        | none => some (Char.ofNat 0xfffd, rest)
      | _ => some (Char.ofNat 0xfffd, rest)
    else if 0xdc00 ≤ n ∧ n < 0xe000 then some (Char.ofNat 0xfffd, rest)
    else some (Char.ofNat n, rest)

def readEscape : Text → Option (Char × Text)
  | 'n' :: rest => some ('\n', rest)
  | 'r' :: rest => some ('\r', rest)
  | 't' :: rest => some ('\t', rest)
  | 'b' :: rest => some (Char.ofNat 8, rest)
  | 'f' :: rest => some (Char.ofNat 12, rest)
  | 'u' :: rest => readUnicode rest
  | c :: rest => if c = '"' ∨ c = '\\' ∨ c = '/' then some (c, rest) else none
  | [] => none

/-- The rest of a string after its opening quote; control characters are refused. -/
def readString : Nat → Text → Option (Text × Text)
  | 0, _ => none
  | _ + 1, [] => none
  | fuel + 1, c :: rest =>
    if c = '"' then some ([], rest)
    else if c = '\\' then
      (readEscape rest).bind fun (d, rest) =>
        (readString fuel rest).map fun (t, rest) => (d :: t, rest)
    else if c.toNat < 32 then none
    else (readString fuel rest).map fun (t, rest) => (c :: t, rest)

def readSign : Text → Text × Text
  | '-' :: rest => (['-'], rest)
  | s => ([], s)

def readInteger : Text → Option (Text × Text)
  | [] => none
  | c :: rest =>
    if c = '0' then some (['0'], rest)
    else if c.isDigit then some ((c :: rest).span Char.isDigit)
    else none

def readFraction : Text → Text × Text
  | '.' :: rest =>
    let digits := rest.span Char.isDigit
    if digits.1 = [] then ([], '.' :: rest) else ('.' :: digits.1, digits.2)
  | s => ([], s)

def readExponent : Text → Text × Text
  | [] => ([], [])
  | c :: rest =>
    if c = 'e' ∨ c = 'E' then
      let sign := if rest.head? = some '+' then (['+'], rest.tail) else readSign rest
      let digits := sign.2.span Char.isDigit
      if digits.1 = [] then ([], c :: rest) else (c :: sign.1 ++ digits.1, digits.2)
    else ([], c :: rest)

def readNumber (s : Text) : Option (Text × Text) :=
  let sign := readSign s
  (readInteger sign.2).map fun integer =>
    let fraction := readFraction integer.2
    let exponent := readExponent fraction.2
    (sign.1 ++ integer.1 ++ fraction.1 ++ exponent.1, exponent.2)

instance : (s : Text) → Decidable (IsNumber s)
  | [] => .isFalse id
  | _ :: _ => inferInstanceAs (Decidable (_ ∧ _))

def numberValue (s : Text) : Option Value := if h : IsNumber s then some (.num ⟨s, h⟩) else none

/-- The words of the scanner. -/
def literals : List (Text × Option Value) :=
  [("null".toList, some .null), ("true".toList, some (.bool true)),
    ("false".toList, some (.bool false)), ("NaN".toList, numberValue "NaN".toList),
    ("Infinity".toList, numberValue "Infinity".toList),
    ("-Infinity".toList, numberValue "-Infinity".toList)]

def readScalar (s : Text) : Option (Value × Text) :=
  match literals.find? fun word => word.1.isPrefixOf s with
  | some (word, value) => value.map fun v => (v, s.drop word.length)
  | none => (readNumber s).bind fun (token, rest) => (numberValue token).map fun v => (v, rest)

mutual

def readValue : Nat → Text → Option (Value × Text)
  | 0, _ => none
  | fuel + 1, s =>
    match s with
    | '"' :: rest => (readString fuel rest).map fun (t, rest) => (.str t, rest)
    | '[' :: rest =>
      match skipSpace rest with
      | ']' :: rest => some (.arr [], rest)
      | rest => (readItems fuel rest).map fun (vs, rest) => (.arr vs, rest)
    | '{' :: rest =>
      match skipSpace rest with
      | '}' :: rest => some (.obj [], rest)
      | rest => (readMembers fuel rest).map fun (ms, rest) => (.obj (update [] ms), rest)
    | s => readScalar s

def readItems : Nat → Text → Option (List Value × Text)
  | 0, _ => none
  | fuel + 1, s =>
    (readValue fuel s).bind fun (v, rest) =>
      match skipSpace rest with
      | ']' :: rest => some ([v], rest)
      | ',' :: rest => (readItems fuel (skipSpace rest)).map fun (vs, rest) => (v :: vs, rest)
      | _ => none

def readMembers : Nat → Text → Option (List (Text × Value) × Text)
  | 0, _ => none
  | fuel + 1, s =>
    match s with
    | '"' :: rest =>
      (readString fuel rest).bind fun (k, rest) =>
        match skipSpace rest with
        | ':' :: rest =>
          (readValue fuel (skipSpace rest)).bind fun (v, rest) =>
            match skipSpace rest with
            | '}' :: rest => some ([(k, v)], rest)
            | ',' :: rest =>
              (readMembers fuel (skipSpace rest)).map fun (ms, rest) => ((k, v) :: ms, rest)
            | _ => none
        | _ => none
    | _ => none

end

/-- `json.loads`, with `none` where it raises `JSONDecodeError`. -/
def loads (s : Text) : Option Value :=
  if s.head? = some (Char.ofNat 0xfeff) then none
  else
    (readValue (2 * s.length + 1) (skipSpace s)).bind fun (v, rest) =>
      if skipSpace rest = [] then some v else none

/-- What a line of a JSON lines file holds for a reader that looks for objects. -/
inductive JsonlRecord where
  | invalid
  | notObject
  | object (payload : Dict Text Value)

def JsonlRecord.read (loads : Text → Option Value) (line : Text) : JsonlRecord :=
  match loads line with
  | none => .invalid
  | some (.obj payload) => .object payload
  | some _ => .notObject

example : (loads "\x7b\"a\": [1, -2.5e3], \"a\": \"x\\u00e9\\n\"\x7d ".toList).map dumps =
    some "\x7b\"a\":\"x\\u00e9\\n\"\x7d".toList := by decide +kernel

end DataForge.Foundation.JsonReader

namespace DataForge.Foundation.JsonErrors

open DataForge.Foundation.Strings
open DataForge.Foundation.Dictionary
open DataForge.Foundation.Json
open DataForge.Foundation.JsonReader
open DataForge.Foundation.Outcome

/-- What `json.loads` does: `raised` is an error that is no `JSONDecodeError`, such as the
one for an integer of more digits than `int` converts. -/
inductive Loaded (ε : Type) where
  | value (v : Value)
  | decodeError
  | raised (e : ε)

/-- `json.loads`, and the characters that stand for surrogates on their own: an escape of
JSON can write one, UTF-8 cannot. -/
structure JsonModule (ε : Type) where
  loads : Text → Loaded ε
  lone : Char → Bool

namespace JsonModule

variable {ε : Type} (json : JsonModule ε)

/-- `json.loads` where it decodes or raises `JSONDecodeError`. -/
def decode (line : Text) : Option Value :=
  match json.loads line with
  | .value v => some v
  | .decodeError | .raised _ => none

def read (line : Text) : Except ε JsonlRecord :=
  match json.loads line with
  | .raised e => .error e
  | .value _ | .decodeError => .ok (JsonlRecord.read json.decode line)

def Raises (line : Text) : Prop := ∃ e, json.loads line = .raised e

/-- The text can be encoded. -/
def Encodes (s : Text) : Prop := ∀ c ∈ s, json.lone c = false

instance (s : Text) : Decidable (json.Encodes s) := inferInstanceAs (Decidable (∀ c ∈ s, _ = _))

variable {json}

theorem read_eq_ok {line : Text} {record : JsonlRecord} :
    json.read line = .ok record ↔ ¬ json.Raises line ∧ record =
      JsonlRecord.read json.decode line := by
  rw [read, Raises]
  cases json.loads line with
  | raised e => simp
  | value _ | decodeError => simp [eq_comm]

end JsonModule

/-- The scanner of `JsonReader`, for texts without surrogates and without long integers. -/
def scanner (ε : Type) : JsonModule ε where
  loads line := (JsonReader.loads line).elim .decodeError .value
  lone _ := false

end DataForge.Foundation.JsonErrors
