import DataForge.Foundation.Failures
import DataForge.Foundation.JsonRoundTrip

namespace DataForge.Foundation.JsonSchema

open DataForge.Foundation.Strings
open DataForge.Foundation.Dictionary
open DataForge.Foundation.Json
open DataForge.Foundation.JsonRoundTrip

section Keywords

/-- What a keyword finds wrong with a value below the given one: the path to it, and the
name of the property when one is missing. -/
structure SchemaError where
  path : List Text
  keyword : String
  subject : Value
  property : Option Text

def SchemaError.under (name : Text) (e : SchemaError) : SchemaError :=
  { e with path := name :: e.path }

/-- A schema is what validating with it reports, in the order of its keywords. -/
abbrev Schema := Value → List SchemaError

def violation (keyword : String) (v : Value) : List SchemaError := [⟨[], keyword, v, none⟩]

def keywords (schemas : List Schema) : Schema := fun v => schemas.flatMap fun schema => schema v

def typeName : Value → String
  | .null => "null"
  | .bool _ => "boolean"
  | .num _ => "number"
  | .str _ => "string"
  | .arr _ => "array"
  | .obj _ => "object"

def type (names : List String) : Schema := fun v =>
  if typeName v ∈ names then [] else violation "type" v

def required (names : List Text) : Schema
  | .obj ms => (names.filter fun name => !contains name ms).map fun name =>
    ⟨[], "required", .obj ms, some name⟩
  | _ => []

/-- `"additionalProperties": false`, beside the properties of these names. -/
def closed (known : List Text) : Schema
  | .obj ms =>
    if ∀ m ∈ ms, m.1 ∈ known then [] else violation "additionalProperties" (.obj ms)
  | _ => []

def additionalProperties (known : List Text) (schema : Schema) : Schema
  | .obj ms => (ms.filter fun m => decide (m.1 ∉ known)).flatMap fun m =>
    (schema m.2).map (SchemaError.under m.1)
  | _ => []

def property (ms : Dict Text Value) (name : Text) (schema : Schema) : List SchemaError :=
  ((get? name ms).elim [] schema).map (SchemaError.under name)

def properties (schemas : List (Text × Schema)) : Schema
  | .obj ms => schemas.flatMap fun item => property ms item.1 item.2
  | _ => []

/-- `"enum"` over texts, with `none` for null. -/
def isOneOf (values : List (Option Text)) : Value → Bool
  | .str s => decide (some s ∈ values)
  | .null => decide (none ∈ values)
  | _ => false

def enum (values : List (Option Text)) : Schema := fun v =>
  if isOneOf values v = true then [] else violation "enum" v

/-- A keyword about texts, such as `"pattern"`, that other values pass. -/
def onText (keyword : String) (p : Text → Prop) [DecidablePred p] : Schema
  | .str s => if p s then [] else violation keyword (.str s)
  | _ => []

def onNumber (keyword : String) (p : NumberToken → Bool) : Schema
  | .num token => if p token = true then [] else violation keyword (.num token)
  | _ => []

def minProperties (least : Nat) : Schema
  | .obj ms => if least ≤ ms.length then [] else violation "minProperties" (.obj ms)
  | _ => []

end Keywords

section Acceptance

variable {v : Value} {ms : Dict Text Value}

theorem keywords_eq_nil {schemas : List Schema} :
    keywords schemas v = [] ↔ ∀ schema ∈ schemas, schema v = [] := by
  rw [keywords, List.flatMap_eq_nil_iff]

theorem type_eq_nil {names : List String} : type names v = [] ↔ typeName v ∈ names := by
  simp [type, violation]

theorem required_eq_nil {names : List Text} :
    required names (.obj ms) = [] ↔ ∀ name ∈ names, contains name ms = true := by
  simp [required]

theorem closed_eq_nil {known : List Text} :
    closed known (.obj ms) = [] ↔ ∀ m ∈ ms, m.1 ∈ known := by
  rw [closed]
  split
  · next h => exact iff_of_true rfl h
  · next h => exact iff_of_false (List.cons_ne_nil _ _) h

theorem additionalProperties_eq_nil {known : List Text} {schema : Schema} :
    additionalProperties known schema (.obj ms) = [] ↔
      ∀ m ∈ ms, m.1 ∉ known → schema m.2 = [] := by
  rw [additionalProperties, List.flatMap_eq_nil_iff]
  simp only [List.mem_filter, decide_eq_true_eq, List.map_eq_nil_iff, and_imp]

theorem property_eq_nil {name : Text} {schema : Schema} :
    property ms name schema = [] ↔ ∀ w, get? name ms = some w → schema w = [] := by
  rw [property, List.map_eq_nil_iff]
  cases get? name ms with
  | none => simp
  | some w => simp

theorem properties_eq_nil {schemas : List (Text × Schema)} :
    properties schemas (.obj ms) = [] ↔ ∀ item ∈ schemas, property ms item.1 item.2 = [] := by
  rw [properties, List.flatMap_eq_nil_iff]

theorem closedObject_eq_nil {names known : List Text} {schemas : List (Text × Schema)} :
    keywords [type ["object"], required names, closed known, properties schemas] (.obj ms) = [] ↔
      (∀ name ∈ names, contains name ms = true) ∧ (∀ m ∈ ms, m.1 ∈ known) ∧
        ∀ item ∈ schemas, property ms item.1 item.2 = [] := by
  simp only [keywords_eq_nil, List.forall_mem_cons, List.mem_singleton, forall_eq, type_eq_nil,
    typeName, true_and, required_eq_nil, closed_eq_nil, properties_eq_nil]

/-- An object that has what is required and nothing that is unknown offends in its properties. -/
theorem mem_closedObject {names known : List Text} {schemas : List (Text × Schema)}
    (hnames : ∀ name ∈ names, contains name ms = true) (hknown : ∀ m ∈ ms, m.1 ∈ known)
    {e : SchemaError} (h : e ∈ keywords
      [type ["object"], required names, closed known, properties schemas] (.obj ms)) :
    ∃ item ∈ schemas, ∃ w, get? item.1 ms = some w ∧ ∃ e' ∈ item.2 w, e = e'.under item.1 := by
  obtain ⟨schema, hschema, he⟩ := List.mem_flatMap.mp h
  simp only [List.mem_cons, List.not_mem_nil, or_false] at hschema
  obtain rfl | rfl | rfl | rfl := hschema
  · cases he
  · rw [required_eq_nil.mpr hnames] at he
    cases he
  · rw [closed_eq_nil.mpr hknown] at he
    cases he
  · obtain ⟨item, hitem, he⟩ := List.mem_flatMap.mp he
    obtain ⟨e', he', rfl⟩ := List.mem_map.mp he
    cases hget : get? item.1 ms with
    | none =>
      rw [hget] at he'
      cases he'
    | some w =>
      rw [hget] at he'
      exact ⟨item, hitem, w, hget, e', he', rfl⟩

theorem path_of_type {names : List String} {e : SchemaError} (h : e ∈ type names v) :
    e.path = [] := by
  rw [type] at h
  split at h
  · cases h
  · rw [List.mem_singleton.mp h]

theorem path_of_onText {keyword : String} {p : Text → Prop} [DecidablePred p] {e : SchemaError}
    (h : e ∈ onText keyword p v) : e.path = [] := by
  cases v with
  | str s =>
    rw [onText] at h
    split at h
    · cases h
    · rw [List.mem_singleton.mp h]
  | _ => cases h

theorem enum_eq_nil {values : List (Option Text)} :
    enum values v = [] ↔ isOneOf values v = true := by
  simp [enum, violation]

theorem onText_eq_nil {keyword : String} {p : Text → Prop} [DecidablePred p] {s : Text} :
    onText keyword p (.str s) = [] ↔ p s := by
  simp [onText, violation]

theorem onNumber_eq_nil {keyword : String} {p : NumberToken → Bool} {token : NumberToken} :
    onNumber keyword p (.num token) = [] ↔ p token = true := by
  simp [onNumber, violation]

theorem minProperties_eq_nil {least : Nat} :
    minProperties least (.obj ms) = [] ↔ least ≤ ms.length := by
  simp [minProperties, violation]

end Acceptance

section Places

/-- The value at a path. -/
def follow : List Text → Value → Option Value
  | [], v => some v
  | k :: path, .obj ms => (get? k ms).bind (follow path)
  | _ :: _, _ => none

/-- The path of an error leads to the value that the error is about. -/
def Located (schema : Schema) : Prop :=
  ∀ v, Wellformed (fun _ => True) v → ∀ e ∈ schema v, follow e.path v = some e.subject

theorem follow_violation {keyword : String} {v : Value} {e : SchemaError}
    (h : e ∈ violation keyword v) : follow e.path v = some e.subject := by
  obtain rfl := List.mem_singleton.mp h
  rfl

theorem located_keywords {schemas : List Schema} (h : ∀ schema ∈ schemas, Located schema) :
    Located (keywords schemas) := by
  intro v hv e he
  obtain ⟨schema, hmem, he⟩ := List.mem_flatMap.mp he
  exact h schema hmem v hv e he

theorem located_type (names : List String) : Located (type names) := by
  intro v _ e he
  rw [type] at he
  split at he
  · simp at he
  · exact follow_violation he

theorem located_required (names : List Text) : Located (required names) := by
  intro v _ e he
  cases v with
  | obj ms =>
    obtain ⟨name, -, rfl⟩ := List.mem_map.mp he
    rfl
  | _ => simp [required] at he

theorem located_closed (known : List Text) : Located (closed known) := by
  intro v _ e he
  cases v with
  | obj ms =>
    rw [closed] at he
    split at he
    · simp at he
    · exact follow_violation he
  | _ => simp [closed] at he

theorem follow_under {ms : Dict Text Value} {name : Text} {v : Value} {e : SchemaError}
    (hget : get? name ms = some v) (h : follow e.path v = some e.subject) :
    follow (e.under name).path (.obj ms) = some (e.under name).subject := by
  rw [SchemaError.under, follow, hget]
  exact h

theorem located_properties {schemas : List (Text × Schema)}
    (h : ∀ item ∈ schemas, Located item.2) : Located (properties schemas) := by
  intro v hv e he
  cases hv with
  | @obj ms hkeys hmembers =>
    obtain ⟨item, hitem, he⟩ := List.mem_flatMap.mp he
    obtain ⟨e', he', rfl⟩ := List.mem_map.mp he
    cases hget : get? item.1 ms with
    | none => simp [hget] at he'
    | some w =>
      rw [hget] at he'
      exact follow_under hget (h item hitem w (hmembers _ (mem_of_get? hget)) e' he')
  | _ => simp [properties] at he

theorem located_additionalProperties {known : List Text} {schema : Schema} (h : Located schema) :
    Located (additionalProperties known schema) := by
  intro v hv e he
  cases hv with
  | @obj ms hkeys hmembers =>
    obtain ⟨m, hm, he⟩ := List.mem_flatMap.mp he
    obtain ⟨e', he', rfl⟩ := List.mem_map.mp he
    have hmem := (List.mem_filter.mp hm).1
    exact follow_under (get?_of_mem hkeys hmem) (h m.2 (hmembers m hmem) e' he')
  | _ => simp [additionalProperties] at he

theorem located_enum (values : List (Option Text)) : Located (enum values) := by
  intro v _ e he
  rw [enum] at he
  split at he
  · simp at he
  · exact follow_violation he

theorem located_onText (keyword : String) (p : Text → Prop) [DecidablePred p] :
    Located (onText keyword p) := by
  intro v _ e he
  cases v with
  | str s =>
    rw [onText] at he
    split at he
    · simp at he
    · exact follow_violation he
  | _ => simp [onText] at he

theorem located_onNumber (keyword : String) (p : NumberToken → Bool) :
    Located (onNumber keyword p) := by
  intro v _ e he
  cases v with
  | num token =>
    rw [onNumber] at he
    split at he
    · simp at he
    · exact follow_violation he
  | _ => simp [onNumber] at he

theorem located_minProperties (least : Nat) : Located (minProperties least) := by
  intro v _ e he
  cases v with
  | obj ms =>
    rw [minProperties] at he
    split at he
    · simp at he
    · exact follow_violation he
  | _ => simp [minProperties] at he

theorem located_pair {a b : Schema} (ha : Located a) (hb : Located b) : Located (keywords [a, b]) :=
  located_keywords (List.forall_mem_cons.mpr ⟨ha, List.forall_mem_singleton.mpr hb⟩)

theorem located_closedObject {names known : List Text} {schemas : List (Text × Schema)}
    (h : ∀ item ∈ schemas, Located item.2) :
    Located (keywords [type ["object"], required names, closed known, properties schemas]) := by
  refine located_keywords fun schema hschema => ?_
  simp only [List.mem_cons, List.not_mem_nil, or_false] at hschema
  obtain rfl | rfl | rfl | rfl := hschema
  · exact located_type _
  · exact located_required _
  · exact located_closed _
  · exact located_properties h

end Places

section Reports

/-- The error that is reported: of those with the least path, the one found first. -/
def firstError (errors : List SchemaError) : Option SchemaError :=
  (errors.insertionSort fun a b => a.path ≤ b.path).head?

def errorPath (path : List Text) : Text :=
  if path = [] then "$".toList else "$.".toList ++ joinWith '.' path

theorem firstError_eq_none {errors : List SchemaError} :
    firstError errors = none ↔ errors = [] := by
  rw [firstError, List.head?_eq_none_iff, ← List.length_eq_zero_iff, List.length_insertionSort,
    List.length_eq_zero_iff]

theorem firstError_spec {errors : List SchemaError} {e : SchemaError}
    (h : firstError errors = some e) : e ∈ errors ∧ ∀ e' ∈ errors, e.path ≤ e'.path := by
  have hsorted : (errors.insertionSort fun a b => a.path ≤ b.path).Pairwise
      fun a b => a.path ≤ b.path :=
    have : Std.Total fun a b : SchemaError => a.path ≤ b.path := ⟨fun a b => le_total a.path b.path⟩
    have : IsTrans SchemaError fun a b => a.path ≤ b.path := ⟨fun _ _ _ => le_trans⟩
    List.pairwise_insertionSort _ errors
  obtain ⟨rest, hrest⟩ := List.head?_eq_some_iff.mp h
  rw [hrest] at hsorted
  have hmem : ∀ e', e' ∈ errors ↔ e' ∈ e :: rest := fun e' => by
    rw [← hrest, List.mem_insertionSort]
  refine ⟨(hmem e).mpr List.mem_cons_self, fun e' he' => ?_⟩
  obtain rfl | he' := List.mem_cons.mp ((hmem e').mp he')
  · exact le_refl _
  · exact List.rel_of_pairwise_cons hsorted he'

end Reports

end DataForge.Foundation.JsonSchema

namespace DataForge.Foundation.JsonModels

open DataForge.Foundation.Strings
open DataForge.Foundation.Dictionary
open DataForge.Foundation.Outcome
open DataForge.Foundation.Failures
open DataForge.Foundation.Json
open DataForge.Foundation.JsonRoundTrip
open DataForge.Foundation.JsonSchema

section Checks

/-- What is wrong with a field: one of the library's own error types, or the message of a
validator. -/
inductive Problem where
  | builtin (type : String)
  | value (message : String)

structure ModelError where
  loc : List Text
  problem : Problem

/-- The validation of a value: what it becomes, or the first error. -/
abbrev Check (α : Type) := Value → Except ModelError α

def fail {α : Type} (type : String) : Except ModelError α := .error ⟨[], .builtin type⟩

def ModelError.under (name : Text) (e : ModelError) : ModelError := { e with loc := name :: e.loc }

def checkText : Check Text
  | .str s => .ok s
  | _ => fail "string_type"

def constrained (p : Text → Prop) [DecidablePred p] (type : String) : Check { s : Text // p s }
  | .str s => if h : p s then .ok ⟨s, h⟩ else fail type
  | _ => fail "string_type"

/-- A member of an enumeration, by its value. -/
def choice {α : Type} (members : List α) (name : α → Text) : Check α
  | .str s => (members.find? fun a => decide (name a = s)).elim (fail "enum") .ok
  | _ => fail "enum"

def checkDict : Check (Dict Text Value)
  | .obj ms => .ok ms
  | _ => fail "dict_type"

def ModelError.underKey (name : Text) (e : ModelError) : ModelError :=
  { e with loc := name :: "[key]".toList :: e.loc }

def mappingItem {κ α : Type} (checkKey : Text → Except ModelError κ) (check : Check α)
    (m : Text × Value) : Except ModelError (κ × α) := do
  let k ← (checkKey m.1).mapError (ModelError.underKey m.1)
  let a ← (check m.2).mapError (ModelError.under m.1)
  pure (k, a)

def mapping {κ α : Type} (checkKey : Text → Except ModelError κ) (check : Check α) :
    Check (Dict κ α)
  | .obj ms => ms.mapM (mappingItem checkKey check)
  | _ => fail "dict_type"

def nullable {α : Type} (check : Check α) : Check (Option α)
  | .null => .ok none
  | v => (check v).map some

variable {α : Type} (ms : Dict Text Value) (name : Text)

def requiredField (check : Check α) : Except ModelError α :=
  match get? name ms with
  | none => .error ⟨[name], .builtin "missing"⟩
  | some v => (check v).mapError (ModelError.under name)

def defaultField (default : α) (check : Check α) : Except ModelError α :=
  match get? name ms with
  | none => .ok default
  | some v => (check v).mapError (ModelError.under name)

/-- `extra="forbid"`. -/
def forbidExtra (known : List Text) : Except ModelError Unit :=
  match ms.find? fun m => decide (m.1 ∉ known) with
  | none => .ok ()
  | some m => .error ⟨[m.1], .builtin "extra_forbidden"⟩

end Checks

section Acceptance

variable {α : Type} {v : Value} {ms : Dict Text Value} {name : Text} {check : Check α} {a : α}

theorem mapError_eq_ok {ε ε' : Type} {x : Except ε α} {f : ε → ε'} :
    x.mapError f = .ok a ↔ x = .ok a := by
  cases x <;> simp [Except.mapError]

theorem constrained_eq_ok {p : Text → Prop} [DecidablePred p] {type : String}
    {s : { s : Text // p s }} : constrained p type v = .ok s ↔ v = .str s.1 := by
  cases v with
  | str t =>
    rw [constrained]
    split
    · simp [Subtype.ext_iff]
    · next h =>
      simp only [fail, reduceCtorEq, Value.str.injEq, false_iff]
      rintro rfl
      exact h s.2
  | _ => simp [constrained, fail]

theorem choice_eq_ok {members : List α} {label : α → Text}
    (hinj : ∀ x ∈ members, ∀ y ∈ members, label x = label y → x = y) :
    choice members label v = .ok a ↔ a ∈ members ∧ v = .str (label a) := by
  cases v with
  | str s =>
    rw [choice]
    cases hfind : members.find? fun x => decide (label x = s) with
    | none =>
      have hnone := List.find?_eq_none.mp hfind
      simp only [Option.elim_none, fail, reduceCtorEq, Value.str.injEq, false_iff, not_and]
      rintro ha rfl
      exact hnone a ha (by simp)
    | some x =>
      have hlabel : label x = s := by simpa using List.find?_some hfind
      have hmem := List.mem_of_find?_eq_some hfind
      simp only [Option.elim_some, Except.ok.injEq, Value.str.injEq]
      refine ⟨?_, ?_⟩
      · rintro rfl
        exact ⟨hmem, hlabel.symm⟩
      · rintro ⟨ha, rfl⟩
        exact hinj x hmem a ha hlabel
  | _ => simp [choice, fail]

theorem nullable_eq_ok {o : Option α} (hnull : ∀ a, check .null ≠ .ok a) :
    nullable check v = .ok o ↔ (v = .null ∧ o = none) ∨ ∃ a, check v = .ok a ∧ o = some a := by
  cases v with
  | null => simp [nullable, hnull, eq_comm]
  | _ =>
    rw [nullable, map_eq_ok]
    · simp [eq_comm]
    · simp

theorem mappingItem_eq_ok {κ : Type} {checkKey : Text → Except ModelError κ} {m : Text × Value}
    {item : κ × α} :
    mappingItem checkKey check m = .ok item ↔
      checkKey m.1 = .ok item.1 ∧ check m.2 = .ok item.2 := by
  simp only [mappingItem, bind_eq_ok, mapError_eq_ok, pure_eq, Except.ok.injEq]
  constructor
  · rintro ⟨k, hk, a, ha, rfl⟩
    exact ⟨hk, ha⟩
  · rintro ⟨hk, ha⟩
    exact ⟨_, hk, _, ha, rfl⟩

theorem mapping_eq_ok {κ : Type} {checkKey : Text → Except ModelError κ} {d : Dict κ α} :
    mapping checkKey check (.obj ms) = .ok d ↔
      List.Forall₂ (fun m item => checkKey m.1 = .ok item.1 ∧ check m.2 = .ok item.2) ms d := by
  rw [mapping, mapM_eq_ok_iff_forall₂]
  exact ⟨fun h => h.imp fun m item => mappingItem_eq_ok.mp,
    fun h => h.imp fun m item => mappingItem_eq_ok.mpr⟩

theorem requiredField_eq_ok :
    requiredField ms name check = .ok a ↔ ∃ v, get? name ms = some v ∧ check v = .ok a := by
  rw [requiredField]
  cases get? name ms with
  | none => simp
  | some v => simp [mapError_eq_ok]

theorem defaultField_eq_ok {default : α} :
    defaultField ms name default check = .ok a ↔
      (get? name ms = none ∧ a = default) ∨ ∃ v, get? name ms = some v ∧ check v = .ok a := by
  rw [defaultField]
  cases get? name ms with
  | none => simp [eq_comm]
  | some v => simp [mapError_eq_ok]

theorem forbidExtra_eq_ok {known : List Text} {u : Unit} :
    forbidExtra ms known = .ok u ↔ ∀ m ∈ ms, m.1 ∈ known := by
  rw [forbidExtra]
  split
  · next h => simpa using List.find?_eq_none.mp h
  · next m h =>
    simp only [reduceCtorEq, false_iff, not_forall]
    exact ⟨m, List.mem_of_find?_eq_some h, by simpa using List.find?_some h⟩

end Acceptance

section Agreement

variable {α : Type} {check : Check α} {schema : Schema} {v : Value} {ms : Dict Text Value}
  {name : Text}

/-- A schema and a model field accept the same values. -/
def Agree (schema : Schema) (check : Check α) : Prop :=
  ∀ v, schema v = [] ↔ ∃ a, check v = .ok a

theorem agree_onText {p q : Text → Prop} [DecidablePred p] [DecidablePred q]
    (h : ∀ s, p s ↔ q s) (keyword error : String) :
    Agree (keywords [type ["string"], onText keyword p]) (constrained q error) := by
  intro v
  simp only [keywords_eq_nil, List.forall_mem_cons, List.not_mem_nil, false_implies, implies_true,
    and_true, type_eq_nil]
  cases v with
  | str s =>
    rw [onText_eq_nil, constrained, h s]
    by_cases hs : q s <;> simp [hs, typeName, fail]
  | _ => simp [typeName, constrained, fail]

theorem choice_str {members : List α} {label : α → Text} {s : Text} :
    (∃ a, choice members label (.str s) = .ok a) ↔ ∃ a ∈ members, label a = s := by
  rw [choice]
  cases hfind : members.find? fun x => decide (label x = s) with
  | none => simpa [fail] using List.find?_eq_none.mp hfind
  | some x =>
    have hlabel : label x = s := by simpa using List.find?_some hfind
    exact iff_of_true ⟨x, rfl⟩ ⟨x, List.mem_of_find?_eq_some hfind, hlabel⟩

theorem agree_enum (members : List α) (label : α → Text) :
    Agree (keywords [type ["string"], enum (members.map (some ∘ label))])
      (choice members label) := by
  intro v
  simp only [keywords_eq_nil, List.forall_mem_cons, List.not_mem_nil, false_implies, implies_true,
    and_true, type_eq_nil, enum_eq_nil]
  cases v with
  | str s =>
    rw [choice_str]
    simp [typeName, isOneOf]
  | _ => simp [typeName, choice, fail]

theorem nullable_of_ne_null (h : v ≠ .null) :
    (∃ o, nullable check v = .ok o) ↔ ∃ a, check v = .ok a := by
  cases v with
  | null => exact absurd rfl h
  | _ =>
    rw [nullable]
    · simp [map_eq_ok]
    · simp

theorem agree_nullableEnum (members : List α) (label : α → Text) :
    Agree (keywords [type ["string", "null"], enum (members.map (some ∘ label) ++ [none])])
      (nullable (choice members label)) := by
  intro v
  simp only [keywords_eq_nil, List.forall_mem_cons, List.not_mem_nil, false_implies, implies_true,
    and_true, type_eq_nil, enum_eq_nil]
  cases v with
  | null => simp [typeName, isOneOf, nullable]
  | str s =>
    rw [nullable_of_ne_null (by simp), choice_str]
    simp [typeName, isOneOf]
  | _ =>
    rw [nullable_of_ne_null (by simp)]
    simp [typeName, choice, fail]

theorem agree_nullableText :
    Agree (keywords [type ["string", "null"]]) (nullable checkText) := by
  intro v
  simp only [keywords_eq_nil, List.forall_mem_cons, List.not_mem_nil, false_implies, implies_true,
    and_true, type_eq_nil]
  cases v with
  | null => simp [typeName, nullable]
  | _ =>
    rw [nullable_of_ne_null (by simp)]
    simp [typeName, checkText, fail]

theorem agree_text : Agree (keywords [type ["string"]]) checkText := by
  intro v
  simp only [keywords_eq_nil, List.forall_mem_cons, List.not_mem_nil, false_implies, implies_true,
    and_true, type_eq_nil]
  cases v <;> simp [typeName, checkText, fail]

theorem agree_dict : Agree (keywords [type ["object"]]) checkDict := by
  intro v
  simp only [keywords_eq_nil, List.forall_mem_cons, List.not_mem_nil, false_implies, implies_true,
    and_true, type_eq_nil]
  cases v <;> simp [typeName, checkDict, fail]

theorem agree_mapping (h : Agree schema check) :
    Agree (keywords [type ["object"], additionalProperties [] schema])
      (mapping (κ := Text) .ok check) := by
  intro v
  simp only [keywords_eq_nil, List.forall_mem_cons, List.not_mem_nil, false_implies, implies_true,
    and_true, type_eq_nil]
  cases v with
  | obj ms =>
    have hmembers : (∃ d, mapping (κ := Text) .ok check (.obj ms) = .ok d) ↔
        ∀ m ∈ ms, ∃ a, check m.2 = .ok a := by
      refine exists_mapM_iff.trans (forall₂_congr fun m _ => ?_)
      simp only [mappingItem_eq_ok, Except.ok.injEq]
      constructor
      · rintro ⟨item, h⟩
        exact ⟨item.2, h.2⟩
      · rintro ⟨a, h⟩
        exact ⟨(m.1, a), rfl, h⟩
    rw [hmembers, additionalProperties_eq_nil]
    simp only [typeName, List.mem_singleton, true_and, List.not_mem_nil, not_false_eq_true,
      forall_const, h _]
  | _ => simp [typeName, mapping, fail]

theorem agree_required (h : Agree schema check) :
    (contains name ms = true ∧ property ms name schema = []) ↔
      ∃ a, requiredField ms name check = .ok a := by
  simp only [requiredField_eq_ok, property_eq_nil, contains, h _]
  cases get? name ms with
  | none => simp
  | some v => simp

theorem agree_default (h : Agree schema check) {default : α} :
    property ms name schema = [] ↔ ∃ a, defaultField ms name default check = .ok a := by
  simp only [defaultField_eq_ok, property_eq_nil, h _]
  cases get? name ms with
  | none => simp
  | some v => simp

end Agreement

end DataForge.Foundation.JsonModels
