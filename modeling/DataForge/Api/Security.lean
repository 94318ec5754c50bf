import DataForge.Domain.Artifact
import DataForge.Foundation.DecimalText
import DataForge.Foundation.Failures
import DataForge.Foundation.Hmac
import DataForge.Foundation.JsonRoundTrip

namespace DataForge.Api.Security

open DataForge.Foundation.Strings
open DataForge.Foundation.Outcome
open DataForge.Foundation.Failures
open DataForge.Foundation.Dictionary
open DataForge.Foundation.Sha256
open DataForge.Foundation.Hmac
open DataForge.Foundation
open DataForge.Foundation.Json
open DataForge.Foundation.JsonErrors
open DataForge.Foundation.Rounding
open DataForge.Foundation.DecimalText
open DataForge.Domain.Common
open DataForge.Domain.Artifact

/-- The value of a request header: one line of Latin-1. -/
abbrev FieldValue := { s : Text // ∀ c ∈ s, c ≠ '\n' ∧ c.toNat < 256 }

structure Headers where
  serviceIdentity : Option FieldValue
  timestamp : Option FieldValue
  signature : Option FieldValue
  organizationId : Option FieldValue
  projectId : Option FieldValue

structure PlatformSettings where
  serviceSigningSecret : NonEmptyStr
  serviceIdentity : NonEmptyStr
  signatureMaxAgeSeconds : { n : Nat // 0 < n }

structure PlatformRequestIdentity where
  serviceIdentity : Text
  organizationId : Text
  projectId : Text
  signedAt : Datetime
deriving DecidableEq

/-- A reading of the clock, in microseconds. -/
abbrev Instant := { t : Int // 0 ≤ t ∧ t < maxMicros }

def signatureVersion : Text := "v1".toList

def signatureErrorOf (reasonCode : String) (code : ErrorCode) (status : Nat) : Raised :=
  .reasoned "ServiceSignatureError" reasonCode code (some status) reasonCode

def signatureError (reasonCode : String) (status : Nat) : Raised :=
  signatureErrorOf reasonCode .actionPlanSignatureInvalid status

/-- A header that has to be there and not to be empty. -/
def present (reasonCode : String) (status : Nat) (value : Option FieldValue) : Result FieldValue :=
  match value with
  | none => .error (signatureError reasonCode status)
  | some v => if v.1 = [] then .error (signatureError reasonCode status) else .ok v

def normalized (value : Text) : Text :=
  value.flatMap fun c => if c = 'Z' then "+00:00".toList else [c]

def parseTimestamp (p : Platform) (value : Text) : Result Datetime :=
  match p.fromisoformat (normalized value) with
  | none => .error (signatureError "invalid_timestamp" 401)
  | some parsed =>
    match parsed.offset with
    | none => .error (signatureError "timestamp_must_include_timezone" 401)
    | some offset => parsed.astimezoneUtc offset

/-- `timedelta.total_seconds`: a division whose result is rounded to a double. -/
def totalSeconds (micros : Int) : ℚ := binary64.rounded (micros / 1000000)

def ageSeconds (now : Instant) (signedAt : Datetime) : ℚ := |totalSeconds (now.1 - signedAt.micros)|

def validateTimestampFreshness (now : Instant) (signedAt : Datetime) (maxAgeSeconds : Nat) :
    Result Unit :=
  guardOk (ageSeconds now signedAt ≤ maxAgeSeconds) (signatureError "stale_timestamp" 401)

def payloadError (reasonCode : String) : Raised :=
  signatureErrorOf reasonCode .invalidJobPayload 422

def parseJsonBody (json : JsonModule Raised) (body : Bytes) : Result (Dict Text Value) :=
  match decodeUtf8 body with
  | none => .error (payloadError "invalid_json_payload")
  | some text =>
    match json.loads text with
    | .raised e => .error e
    | .decodeError => .error (payloadError "invalid_json_payload")
    | .value (.obj payload) => .ok payload
    | .value _ => .error (payloadError "payload_must_be_object")

/-- Whether an entry of the payload is a text, and this one. -/
def isText (value : Option Value) (text : Text) : Bool :=
  match value with
  | some (.str t) => decide (t = text)
  | _ => false

def validatePayloadScope (payload : Dict Text Value) (organizationId projectId : Text) :
    Result Unit :=
  guardOk (isText (get? "organization_id".toList payload) organizationId = true ∧
      isText (get? "project_id".toList payload) projectId = true)
    (signatureError "scope_mismatch" 403)

/-- What the platform signs of a request. -/
structure SignedFields where
  serviceIdentity : Text
  timestamp : Text
  organizationId : Text
  projectId : Text
  body : Bytes

def SignedFields.parts (m : SignedFields) : List Text :=
  [signatureVersion, m.serviceIdentity, m.timestamp, m.organizationId, m.projectId,
    hexdigest m.body]

def SignedFields.canonical (m : SignedFields) : Bytes := encodeUtf8 (joinWith '\n' m.parts)

def buildServiceSignature (secret : Text) (m : SignedFields) : Text :=
  signatureVersion ++ '=' :: hmac (encodeUtf8 secret) m.canonical

def isAscii (s : Text) : Bool := s.all fun c => c.toNat < 128

def notAscii : Raised :=
  .plain "TypeError" "comparing strings with non-ASCII characters is not supported"

/-- `hmac.compare_digest` of two texts. -/
def compareDigest (a b : Text) : Result Bool :=
  if isAscii a ∧ isAscii b then .ok (decide (a = b)) else .error notAscii

variable (p : Platform) (json : JsonModule Raised) (now : Instant)

def verifyPlatformSignature (headers : Headers) (body : Bytes) (config : Option PlatformSettings)
    (requirePayloadScope : Bool) : Result PlatformRequestIdentity := do
  let config ← config.elim (.error (signatureError "service_config_unavailable" 500)) .ok
  let serviceIdentity ← present "missing_service_identity" 401 headers.serviceIdentity
  guardOk (serviceIdentity.1 = config.serviceIdentity.1)
    (signatureError "invalid_service_identity" 401)
  let timestamp ← present "missing_timestamp" 401 headers.timestamp
  let signature ← present "missing_signature" 401 headers.signature
  let organizationId ← present "missing_scope_headers" 403 headers.organizationId
  let projectId ← present "missing_scope_headers" 403 headers.projectId
  let signedAt ← parseTimestamp p timestamp.1
  validateTimestampFreshness now signedAt config.signatureMaxAgeSeconds.1
  (if requirePayloadScope then
      parseJsonBody json body >>= (validatePayloadScope · organizationId.1 projectId.1)
    else pure ())
  let expected := buildServiceSignature config.serviceSigningSecret.1
    ⟨serviceIdentity.1, timestamp.1, organizationId.1, projectId.1, body⟩
  let equal ← compareDigest signature.1 expected
  guardOk (equal = true) (signatureError "signature_mismatch" 401)
  pure ⟨serviceIdentity.1, organizationId.1, projectId.1, signedAt⟩

def requirePlatformSignature (headers : Headers) (body : Bytes)
    (config : Option PlatformSettings) : Result PlatformRequestIdentity :=
  verifyPlatformSignature p json now headers body config true

def requirePlatformSignatureNoBody (headers : Headers) (body : Bytes)
    (config : Option PlatformSettings) : Result PlatformRequestIdentity :=
  verifyPlatformSignature p json now headers body config false


section Checks

variable {p json now}

theorem present_eq_ok {reasonCode : String} {status : Nat} {value : Option FieldValue}
    {v : FieldValue} : present reasonCode status value = .ok v ↔ value = some v ∧ v.1 ≠ [] := by
  cases value with
  | none => simp [present]
  | some w =>
    rw [present, Option.some.injEq]
    by_cases hw : w.1 = []
    · rw [if_pos hw]
      constructor
      · intro h
        cases h
      · rintro ⟨rfl, hne⟩
        exact absurd hw hne
    · rw [if_neg hw, Except.ok.injEq]
      constructor
      · rintro rfl
        exact ⟨rfl, hw⟩
      · exact And.left

theorem isAscii_buildServiceSignature (secret : Text) (m : SignedFields) :
    isAscii (buildServiceSignature secret m) = true := by
  have hhex : ∀ c ∈ hexDigits, c.toNat < 128 := forall_mem_of_all (by decide)
  have hversion : ∀ c ∈ signatureVersion, c.toNat < 128 := forall_mem_of_all (by decide)
  simp only [isAscii, List.all_eq_true, decide_eq_true_eq, buildServiceSignature, List.mem_append,
    List.mem_cons]
  rintro c (hc | rfl | hc)
  · exact hversion c hc
  · decide
  · exact hhex c (mem_hexdigest hc)

theorem compareDigest_eq_true {signature secret : Text} {m : SignedFields} :
    compareDigest signature (buildServiceSignature secret m) = .ok true ↔
      signature = buildServiceSignature secret m := by
  have hascii := isAscii_buildServiceSignature secret m
  rw [compareDigest]
  constructor
  · intro h
    split at h
    · exact of_decide_eq_true (Except.ok.inj h)
    · cases h
  · intro h
    rw [if_pos ⟨h ▸ hascii, hascii⟩, h, decide_eq_true rfl]

theorem isText_iff {value : Option Value} {text : Text} :
    isText value text = true ↔ value = some (.str text) := by
  cases value with
  | none => simp [isText]
  | some v => cases v <;> simp [isText]

theorem parseJsonBody_eq_ok {body : Bytes} {payload : Dict Text Value} :
    parseJsonBody json body = .ok payload ↔
      ∃ text, decodeUtf8 body = some text ∧ json.loads text = .value (.obj payload) := by
  rw [parseJsonBody]
  cases decodeUtf8 body with
  | none => simp
  | some text =>
    simp only [Option.some.injEq, exists_eq_left']
    cases json.loads text with
    | raised e => simp
    | decodeError => simp
    | value v => cases v <;> simp

end Checks

/-- The body is a JSON object for the organization and the project of the headers. -/
def ScopedBody (body : Bytes) (identity : PlatformRequestIdentity) : Prop :=
  ∃ text payload, decodeUtf8 body = some text ∧ json.loads text = .value (.obj payload) ∧
    get? "organization_id".toList payload = some (.str identity.organizationId) ∧
    get? "project_id".toList payload = some (.str identity.projectId)

def PlatformRequestIdentity.signs (identity : PlatformRequestIdentity) (timestamp : Text)
    (body : Bytes) : SignedFields :=
  ⟨identity.serviceIdentity, timestamp, identity.organizationId, identity.projectId, body⟩

def told (value : Option FieldValue) (text : Text) : Prop := value.map Subtype.val = some text

/-- The headers are those of the platform's service, and they sign the body. -/
structure Authentic (settings : PlatformSettings) (headers : Headers) (body : Bytes)
    (identity : PlatformRequestIdentity) : Prop where
  service : told headers.serviceIdentity identity.serviceIdentity
  known : identity.serviceIdentity = settings.serviceIdentity.1
  organization : told headers.organizationId identity.organizationId
  organization_ne_nil : identity.organizationId ≠ []
  project : told headers.projectId identity.projectId
  project_ne_nil : identity.projectId ≠ []
  signed : ∃ timestamp, told headers.timestamp timestamp ∧ timestamp ≠ [] ∧
    parseTimestamp p timestamp = .ok identity.signedAt ∧ told headers.signature
      (buildServiceSignature settings.serviceSigningSecret.1 (identity.signs timestamp body))

section Accepted

variable {p json now} {headers : Headers} {body : Bytes} {settings : PlatformSettings}
  {config : Option PlatformSettings} {inBody : Bool} {identity : PlatformRequestIdentity}

theorem told_iff {value : Option FieldValue} {text : Text} :
    told value text ↔ ∃ v, value = some v ∧ v.1 = text := by
  rw [told, Option.map_eq_some_iff]

theorem scopedBody_iff :
    (if inBody then parseJsonBody json body >>=
        (validatePayloadScope · identity.organizationId identity.projectId)
      else pure ()) = .ok () ↔ (inBody = true → ScopedBody json body identity) := by
  cases inBody with
  | false => simp
  | true =>
    simp only [if_true, bind_eq_ok, parseJsonBody_eq_ok, validatePayloadScope, guardOk_eq_ok,
      isText_iff, true_implies, ScopedBody]
    constructor
    · rintro ⟨payload, ⟨text, htext, hloads⟩, horganization, hproject⟩
      exact ⟨text, payload, htext, hloads, horganization, hproject⟩
    · rintro ⟨text, payload, htext, hloads, horganization, hproject⟩
      exact ⟨payload, ⟨text, htext, hloads⟩, horganization, hproject⟩

theorem verifyPlatformSignature_eq_ok :
    verifyPlatformSignature p json now headers body config inBody = .ok identity ↔
      ∃ settings, config = some settings ∧ Authentic p settings headers body identity ∧
        ageSeconds now identity.signedAt ≤ settings.signatureMaxAgeSeconds.1 ∧
        (inBody = true → ScopedBody json body identity) := by
  cases config with
  | none =>
    constructor
    · intro h
      cases h
    · rintro ⟨settings, hnone, -⟩
      cases hnone
  | some settings =>
    rw [verifyPlatformSignature]
    constructor
    · intro h
      obtain ⟨_, hconfig, h⟩ := bind_eq_ok.mp h
      obtain rfl := Except.ok.inj hconfig
      obtain ⟨service, hservice, h⟩ := bind_eq_ok.mp h
      obtain ⟨hknown, h⟩ := check_bind_eq_ok.mp h
      obtain ⟨timestamp, htimestamp, h⟩ := bind_eq_ok.mp h
      obtain ⟨signature, hsignature, h⟩ := bind_eq_ok.mp h
      obtain ⟨organization, horganization, h⟩ := bind_eq_ok.mp h
      obtain ⟨project, hproject, h⟩ := bind_eq_ok.mp h
      obtain ⟨signedAt, hsignedAt, h⟩ := bind_eq_ok.mp h
      obtain ⟨hfresh, h⟩ := check_bind_eq_ok.mp h
      obtain ⟨hscope, h⟩ := check_bind_eq_ok.mp h
      obtain ⟨equal, hequal, h⟩ := bind_eq_ok.mp h
      obtain ⟨htrue, h⟩ := check_bind_eq_ok.mp h
      obtain rfl := Except.ok.inj h
      obtain rfl := guardOk_eq_ok.mp htrue
      obtain ⟨hservice, -⟩ := present_eq_ok.mp hservice
      obtain ⟨htimestamp, htimestamp'⟩ := present_eq_ok.mp htimestamp
      obtain ⟨hsignature, -⟩ := present_eq_ok.mp hsignature
      obtain ⟨horganization, horganization'⟩ := present_eq_ok.mp horganization
      obtain ⟨hproject, hproject'⟩ := present_eq_ok.mp hproject
      refine ⟨settings, rfl, ?_, guardOk_eq_ok.mp hfresh, scopedBody_iff.mp hscope⟩
      exact ⟨told_iff.mpr ⟨service, hservice, rfl⟩, guardOk_eq_ok.mp hknown,
        told_iff.mpr ⟨organization, horganization, rfl⟩, horganization',
        told_iff.mpr ⟨project, hproject, rfl⟩, hproject', timestamp.1,
        told_iff.mpr ⟨timestamp, htimestamp, rfl⟩, htimestamp', hsignedAt,
        told_iff.mpr ⟨signature, hsignature, compareDigest_eq_true.mp hequal⟩⟩
    · rintro ⟨_, hsettings, hauthentic, hfresh, hscope⟩
      obtain rfl := Option.some.inj hsettings
      obtain ⟨service, hservice, hservice'⟩ := told_iff.mp hauthentic.service
      obtain ⟨organization, horganization, horganization'⟩ := told_iff.mp hauthentic.organization
      obtain ⟨project, hproject, hproject'⟩ := told_iff.mp hauthentic.project
      obtain ⟨text, htext, hne, hsignedAt, hsigned⟩ := hauthentic.signed
      obtain ⟨timestamp, htimestamp, rfl⟩ := told_iff.mp htext
      obtain ⟨signature, hsignature, hsignature'⟩ := told_iff.mp hsigned
      have hsignature'' : signature.1 ≠ [] := by
        rw [hsignature']
        exact List.cons_ne_nil _ _
      have hservice'' : service.1 ≠ [] := by
        rw [hservice', hauthentic.known]
        exact settings.serviceIdentity.2
      have hequal : compareDigest signature.1 (buildServiceSignature
          settings.serviceSigningSecret.1 ⟨service.1, timestamp.1, organization.1, project.1, body⟩) =
          .ok true := by
        rw [hservice', horganization', hproject']
        exact compareDigest_eq_true.mpr hsignature'
      refine bind_eq_ok.mpr ⟨settings, rfl, bind_eq_ok.mpr ⟨service,
        present_eq_ok.mpr ⟨hservice, hservice''⟩, check_bind_eq_ok.mpr ⟨guardOk_eq_ok.mpr
          (hservice'.trans hauthentic.known), ?_⟩⟩⟩
      refine bind_eq_ok.mpr ⟨timestamp, present_eq_ok.mpr ⟨htimestamp, hne⟩,
        bind_eq_ok.mpr ⟨signature, present_eq_ok.mpr ⟨hsignature, hsignature''⟩, ?_⟩⟩
      refine bind_eq_ok.mpr ⟨organization, present_eq_ok.mpr
        ⟨horganization, horganization' ▸ hauthentic.organization_ne_nil⟩,
        bind_eq_ok.mpr ⟨project, present_eq_ok.mpr
          ⟨hproject, hproject' ▸ hauthentic.project_ne_nil⟩, ?_⟩⟩
      refine bind_eq_ok.mpr ⟨identity.signedAt, hsignedAt, check_bind_eq_ok.mpr
        ⟨guardOk_eq_ok.mpr hfresh, check_bind_eq_ok.mpr ⟨?_, ?_⟩⟩⟩
      · rw [horganization', hproject']
        exact scopedBody_iff.mpr hscope
      · refine bind_eq_ok.mpr ⟨true, hequal, check_bind_eq_ok.mpr ⟨guardOk_eq_ok.mpr rfl, ?_⟩⟩
        rw [hservice', horganization', hproject']
        rfl

/-- A request is let through exactly if it carries the service's signature over its own fields and
is fresh. Routes with a body also want its scope there, and nothing else tells the routes apart. -/
theorem requirePlatformSignature_eq_ok :
    (requirePlatformSignatureNoBody p json now headers body config = .ok identity ↔
      ∃ settings, config = some settings ∧ Authentic p settings headers body identity ∧
        ageSeconds now identity.signedAt ≤ settings.signatureMaxAgeSeconds.1) ∧
    (requirePlatformSignature p json now headers body config = .ok identity ↔
      requirePlatformSignatureNoBody p json now headers body config = .ok identity ∧
        ScopedBody json body identity) := by
  simp only [requirePlatformSignature, requirePlatformSignatureNoBody,
    verifyPlatformSignature_eq_ok, Bool.false_eq_true, false_implies, and_true, true_implies,
    true_and]
  constructor
  · rintro ⟨settings, hsettings, hauthentic, hfresh, hscope⟩
    exact ⟨⟨settings, hsettings, hauthentic, hfresh⟩, hscope⟩
  · rintro ⟨⟨settings, hsettings, hauthentic, hfresh⟩, hscope⟩
    exact ⟨settings, hsettings, hauthentic, hfresh, hscope⟩

theorem told_unique {value : Option FieldValue} {s t : Text} (hs : told value s)
    (ht : told value t) : s = t :=
  Option.some.inj (hs.symm.trans ht)

theorem not_mem_of_told {value : Option FieldValue} {text : Text} (h : told value text) :
    '\n' ∉ text := by
  obtain ⟨v, -, rfl⟩ := told_iff.mp h
  exact fun hmem => (v.2 _ hmem).1 rfl

/-- The fields that the platform signs are lines, as headers are. -/
def SignedFields.OneLine (m : SignedFields) : Prop :=
  ∀ part ∈ [m.serviceIdentity, m.timestamp, m.organizationId, m.projectId], '\n' ∉ part

theorem SignedFields.OneLine.parts {m : SignedFields} (h : m.OneLine) :
    ∀ part ∈ m.parts, '\n' ∉ part := by
  have hhex : '\n' ∉ hexdigest m.body := fun hmem =>
    absurd (mem_hexdigest hmem) (by decide)
  simp only [SignedFields.OneLine, SignedFields.parts, List.forall_mem_cons] at h ⊢
  exact ⟨by decide, h.1, h.2.1, h.2.2.1, h.2.2.2.1, hhex, List.forall_mem_nil _⟩

/-- The hashing of two signed requests under one key shows a collision. -/
def Collides (key : Bytes) (m m' : SignedFields) : Prop :=
  Collide m.body m'.body ∨
    Collide (innerMessage key m.canonical) (innerMessage key m'.canonical) ∨
    Collide (outerMessage key m.canonical) (outerMessage key m'.canonical)

theorem buildServiceSignature_binds {secret : Text} {m m' : SignedFields} (hm : m.OneLine)
    (hm' : m'.OneLine) (h : buildServiceSignature secret m = buildServiceSignature secret m') :
    m = m' ∨ Collides (encodeUtf8 secret) m m' := by
  rw [buildServiceSignature, buildServiceSignature, List.append_cancel_left_eq,
    List.cons.injEq] at h
  rcases hmac_binds h.2 with hcanonical | hcollide
  · have hparts := joinWith_injective '\n' hm.parts hm'.parts (List.cons_ne_nil _ _)
      (List.cons_ne_nil _ _) (encodeUtf8_injective hcanonical)
    obtain ⟨service, timestamp, organization, project, body⟩ := m
    obtain ⟨service', timestamp', organization', project', body'⟩ := m'
    simp only [SignedFields.parts, List.cons.injEq, and_true, true_and] at hparts
    obtain ⟨rfl, rfl, rfl, rfl, hbody⟩ := hparts
    rcases eq_or_collide hbody with rfl | hbody
    · exact .inl rfl
    · exact .inr (.inl hbody)
  · exact .inr (.inr hcollide)

/-- A signature lets no other request through than the one that the platform made it for, unless
the two show a collision of the hash. -/
theorem accepted_binds {m : SignedFields} (hm : m.OneLine) {settings : PlatformSettings}
    (hsignature : told headers.signature
      (buildServiceSignature settings.serviceSigningSecret.1 m))
    (h : verifyPlatformSignature p json now headers body (some settings) inBody = .ok identity) :
    ∃ timestamp, told headers.timestamp timestamp ∧ (identity.signs timestamp body = m ∨
      Collides (encodeUtf8 settings.serviceSigningSecret.1) (identity.signs timestamp body) m) := by
  obtain ⟨_, hsettings, hauthentic, -⟩ := verifyPlatformSignature_eq_ok.mp h
  obtain rfl := Option.some.inj hsettings
  obtain ⟨timestamp, htimestamp, -, -, hsigned⟩ := hauthentic.signed
  have hline : (identity.signs timestamp body).OneLine := by
    simp only [SignedFields.OneLine, PlatformRequestIdentity.signs, List.forall_mem_cons]
    exact ⟨not_mem_of_told hauthentic.service, not_mem_of_told htimestamp,
      not_mem_of_told hauthentic.organization, not_mem_of_told hauthentic.project,
      List.forall_mem_nil _⟩
  exact ⟨timestamp, htimestamp,
    buildServiceSignature_binds hline hm (told_unique hsigned hsignature)⟩

end Accepted

section Fresh

theorem representable_natCast {n : Nat} (h : n < 2 ^ 53) : binary64.Representable n :=
  ⟨n, 0, by rw [Nat.abs_cast]; exact_mod_cast h, by decide, by simp⟩

theorem abs_rounded_le {x : ℚ} {n : Nat} (hn : n < 2 ^ 53) (h : |x| ≤ n) :
    |binary64.rounded x| ≤ n := by
  have hrepresentable := representable_natCast hn
  obtain ⟨hlow, hhigh⟩ := abs_le.mp h
  exact abs_le.mpr
    ⟨Format.le_rounded hrepresentable.neg hlow, Format.rounded_le hrepresentable hhigh⟩

variable {now : Instant} {signedAt : Datetime} {maxAge : Nat}

/-- The clock and a time stamp are within the years that a date can have. -/
theorem ageSeconds_le (hsigned : 0 ≤ signedAt.micros ∧ signedAt.micros < maxMicros)
    (h : |now.1 - signedAt.micros| ≤ maxAge * 1000000) : ageSeconds now signedAt ≤ maxAge := by
  have hage : |((now.1 - signedAt.micros : ℤ) : ℚ) / 1000000| ≤ maxAge := by
    rw [abs_div, abs_of_pos (by norm_num : (0 : ℚ) < 1000000), div_le_iff₀ (by norm_num)]
    exact_mod_cast h
  by_cases hmax : maxAge < 2 ^ 53
  · exact abs_rounded_le hmax hage
  · have hspan : |((now.1 - signedAt.micros : ℤ) : ℚ) / 1000000| ≤ (2 ^ 39 : Nat) := by
      have hnow := now.2
      have hmicros : |now.1 - signedAt.micros| ≤ 2 ^ 39 * 1000000 := by
        have hspan : maxMicros ≤ 2 ^ 39 * 1000000 := by decide
        rw [abs_le]
        omega
      rw [abs_div, abs_of_pos (by norm_num : (0 : ℚ) < 1000000), div_le_iff₀ (by norm_num)]
      exact_mod_cast hmicros
    refine (abs_rounded_le (by norm_num) hspan).trans ?_
    exact_mod_cast (show 2 ^ 39 ≤ maxAge by omega)

/-- Up to some centuries, rounding does not lose a microsecond. -/
theorem abs_sub_le_of_ageSeconds_le (hmax : maxAge < 2 ^ 33)
    (h : ageSeconds now signedAt ≤ maxAge) : |now.1 - signedAt.micros| ≤ maxAge * 1000000 := by
  by_contra hold
  -- A number of the format that is a little older than allowed.
  let y : ℚ := ((maxAge * 2 ^ 20 + 1 : ℤ) : ℚ) * 2 ^ (-20 : ℤ)
  have hy : binary64.Representable y := by
    refine ⟨maxAge * 2 ^ 20 + 1, -20, ?_, by decide, rfl⟩
    rw [abs_of_nonneg (by positivity)]
    have hbound : maxAge * 2 ^ 20 + 1 < 2 ^ 53 := by omega
    exact_mod_cast hbound
  have hyMax : (maxAge : ℚ) < y ∧ y ≤ (maxAge * 1000000 + 1) / 1000000 := by
    simp only [y]
    push_cast
    constructor
    · norm_num
      linarith
    · norm_num
      linarith
  have hage : (maxAge * 1000000 + 1 : ℚ) ≤ |((now.1 - signedAt.micros : ℤ) : ℚ)| := by
    have hint : (maxAge : ℤ) * 1000000 + 1 ≤ |now.1 - signedAt.micros| := by omega
    exact_mod_cast hint
  obtain ⟨hlow, hhigh⟩ := abs_le.mp h
  rw [totalSeconds] at hlow hhigh
  rcases abs_cases ((now.1 - signedAt.micros : ℤ) : ℚ) with ⟨habs, -⟩ | ⟨habs, -⟩
  · have hle : y ≤ ((now.1 - signedAt.micros : ℤ) : ℚ) / 1000000 :=
      hyMax.2.trans (by rw [habs] at hage; gcongr)
    linarith [Format.le_rounded hy hle]
  · have hle : ((now.1 - signedAt.micros : ℤ) : ℚ) / 1000000 ≤ -y := by
      have hneg : (maxAge * 1000000 + 1 : ℚ) / 1000000 ≤
          -((now.1 - signedAt.micros : ℤ) : ℚ) / 1000000 := by
        rw [habs] at hage
        gcongr
      rw [neg_div] at hneg
      linarith [hyMax.2]
    linarith [Format.rounded_le hy.neg hle]

end Fresh

section Times

variable {p json} {headers : Headers} {body : Bytes} {settings : PlatformSettings} {inBody : Bool}
  {identity : PlatformRequestIdentity}

theorem bounded_of_parseTimestamp {text : Text} {signedAt : Datetime}
    (h : parseTimestamp p text = .ok signedAt) :
    0 ≤ signedAt.micros ∧ signedAt.micros < maxMicros := by
  rw [parseTimestamp] at h
  split at h
  · cases h
  · split at h
    · cases h
    · rw [Datetime.astimezoneUtc] at h
      split at h
      · next hrange =>
        obtain rfl := Except.ok.inj h
        exact hrange
      · cases h

theorem Authentic.unique {identity' : PlatformRequestIdentity}
    (h : Authentic p settings headers body identity)
    (h' : Authentic p settings headers body identity') : identity = identity' := by
  obtain ⟨timestamp, htimestamp, -, hsignedAt, -⟩ := h.signed
  obtain ⟨timestamp', htimestamp', -, hsignedAt', -⟩ := h'.signed
  obtain rfl := told_unique htimestamp htimestamp'
  have hservice := told_unique h.service h'.service
  have horganization := told_unique h.organization h'.organization
  have hproject := told_unique h.project h'.project
  have hsigned := Except.ok.inj (hsignedAt.symm.trans hsignedAt')
  cases identity
  cases identity'
  simp only at hservice horganization hproject hsigned
  rw [hservice, horganization, hproject, hsigned]

/-- Nothing is remembered of a request that was let through: the same request is let through
again as long as the clock is within the greatest age of its time stamp, on either side, and, for
ages below some centuries, not a microsecond longer. -/
theorem accepted_again {now later : Instant}
    (h : verifyPlatformSignature p json now headers body (some settings) inBody = .ok identity) :
    (|later.1 - identity.signedAt.micros| ≤ settings.signatureMaxAgeSeconds.1 * 1000000 →
      verifyPlatformSignature p json later headers body (some settings) inBody = .ok identity) ∧
    ∀ identity', verifyPlatformSignature p json later headers body (some settings) inBody =
        .ok identity' → identity' = identity ∧ (settings.signatureMaxAgeSeconds.1 < 2 ^ 33 →
      |later.1 - identity.signedAt.micros| ≤ settings.signatureMaxAgeSeconds.1 * 1000000) := by
  obtain ⟨_, hsettings, hauthentic, -, hscope⟩ := verifyPlatformSignature_eq_ok.mp h
  obtain rfl := Option.some.inj hsettings
  constructor
  · intro hage
    obtain ⟨timestamp, -, -, hsignedAt, -⟩ := hauthentic.signed
    exact verifyPlatformSignature_eq_ok.mpr
      ⟨settings, rfl, hauthentic, ageSeconds_le (bounded_of_parseTimestamp hsignedAt) hage, hscope⟩
  · intro identity' h'
    obtain ⟨_, hsettings', hauthentic', hfresh, -⟩ := verifyPlatformSignature_eq_ok.mp h'
    obtain rfl := Option.some.inj hsettings'
    obtain rfl := hauthentic'.unique hauthentic
    exact ⟨rfl, fun hmax => abs_sub_le_of_ageSeconds_le hmax hfresh⟩

end Times

section Errors

/-- The errors that the application answers with their own status. -/
def Refusal (e : Raised) : Prop :=
  ∃ reasonCode code status, e = signatureErrorOf reasonCode code status ∧
    status ∈ [401, 403, 422, 500]

/-- A time stamp that no date in UTC can tell. -/
def OutOfRange (timestamp : Text) : Prop :=
  ∃ parsed offset, p.fromisoformat (normalized timestamp) = some parsed ∧
    parsed.offset = some offset ∧ parsed.astimezoneUtc offset =
      .error (.plain "OverflowError" "date value out of range")

/-- The errors of requests that nobody has refused. -/
inductive Unhandled (headers : Headers) (body : Bytes) (inBody : Bool) : Raised → Prop
  | timestamp {text : Text} (h : told headers.timestamp text) (hrange : OutOfRange p text) :
    Unhandled headers body inBody (.plain "OverflowError" "date value out of range")
  | body {text : Text} {e : Raised} (h : decodeUtf8 body = some text)
    (hraised : json.loads text = .raised e) (hscoped : inBody = true) :
    Unhandled headers body inBody e
  | signature {text : Text} (h : told headers.signature text) (hascii : isAscii text = false) :
    Unhandled headers body inBody notAscii

variable {p json now} {headers : Headers} {body : Bytes} {config : Option PlatformSettings}
  {inBody : Bool}

theorem refusal {reasonCode : String} {code : ErrorCode} {status : Nat}
    (h : status ∈ [401, 403, 422, 500]) : Refusal (signatureErrorOf reasonCode code status) :=
  ⟨reasonCode, code, status, rfl, h⟩

theorem raisesOnly_present {P : Raised → Prop} (hP : ∀ e, Refusal e → P e) {reasonCode : String}
    {status : Nat} (h : status ∈ [401, 403, 422, 500]) (value : Option FieldValue) :
    RaisesOnly P (present reasonCode status value) := by
  cases value with
  | none => exact .error (hP _ (refusal h))
  | some v =>
    rw [present]
    split
    · exact .error (hP _ (refusal h))
    · exact .ok _

theorem raisesOnly_parseTimestamp {P : Raised → Prop} (hP : ∀ e, Refusal e → P e) {text : Text}
    (hrange : OutOfRange p text → P (.plain "OverflowError" "date value out of range")) :
    RaisesOnly P (parseTimestamp p text) := by
  rw [parseTimestamp]
  split
  · exact .error (hP _ (refusal (by decide)))
  · next parsed hparsed =>
    split
    · exact .error (hP _ (refusal (by decide)))
    · next offset hoffset =>
      intro e he
      have hoverflow : e = .plain "OverflowError" "date value out of range" := by
        rw [Datetime.astimezoneUtc] at he
        split at he
        · cases he
        · exact (Except.error.inj he).symm
      rw [hoverflow] at he ⊢
      exact hrange ⟨parsed, offset, hparsed, hoffset, he⟩

theorem raisesOnly_parseJsonBody {P : Raised → Prop} (hP : ∀ e, Refusal e → P e)
    (hraised : ∀ text e, decodeUtf8 body = some text → json.loads text = .raised e → P e) :
    RaisesOnly P (parseJsonBody json body) := by
  rw [parseJsonBody]
  split
  · exact .error (hP _ (refusal (by decide)))
  · next text htext =>
    split
    · next e he => exact .error (hraised text e htext he)
    · exact .error (hP _ (refusal (by decide)))
    · exact .ok _
    · exact .error (hP _ (refusal (by decide)))

/-- A request that is not let through is refused under a status of its own, except for time stamps
beyond the calendar, bodies on which the JSON reader itself fails, and signatures with letters that
the comparison does not take. -/
theorem verifyPlatformSignature_error {e : Raised}
    (h : verifyPlatformSignature p json now headers body config inBody = .error e) :
    Refusal e ∨ Unhandled p json headers body inBody e := by
  revert e
  change RaisesOnly (fun e => Refusal e ∨ Unhandled p json headers body inBody e) _
  have hP : ∀ e, Refusal e → Refusal e ∨ Unhandled p json headers body inBody e :=
    fun _ => .inl
  rw [verifyPlatformSignature]
  refine .bind ?_ fun settings _ => ?_
  · cases config with
    | none => exact .error (hP _ (refusal (by decide)))
    | some settings => exact .ok _
  refine .bind (raisesOnly_present hP (by decide) _) fun service _ => ?_
  refine .bind (.guard _ (hP _ (refusal (by decide)))) fun _ _ => ?_
  refine .bind (raisesOnly_present hP (by decide) _) fun timestamp htimestamp => ?_
  refine .bind (raisesOnly_present hP (by decide) _) fun signature hsignature => ?_
  refine .bind (raisesOnly_present hP (by decide) _) fun organization _ => ?_
  refine .bind (raisesOnly_present hP (by decide) _) fun project _ => ?_
  obtain ⟨htimestamp, -⟩ := present_eq_ok.mp htimestamp
  obtain ⟨hsignature, -⟩ := present_eq_ok.mp hsignature
  refine .bind (raisesOnly_parseTimestamp hP fun hrange =>
    .inr (.timestamp (told_iff.mpr ⟨timestamp, htimestamp, rfl⟩) hrange)) fun signedAt _ => ?_
  refine .bind (.guard _ (hP _ (refusal (by decide)))) fun _ _ => ?_
  refine .bind ?_ fun _ _ => ?_
  · split
    · next hscoped =>
      refine .bind (raisesOnly_parseJsonBody hP fun text e htext hraised =>
        .inr (.body htext hraised hscoped)) fun payload _ => ?_
      exact .guard _ (hP _ (refusal (by decide)))
    · exact .ok _
  refine .bind ?_ fun equal _ => ?_
  · rw [compareDigest]
    split
    · exact .ok _
    · next hascii =>
      refine .error (.inr (.signature (told_iff.mpr ⟨signature, hsignature, rfl⟩) ?_))
      rw [isAscii_buildServiceSignature] at hascii
      simpa using hascii
  · exact .bind (.guard _ (hP _ (refusal (by decide)))) fun _ _ => .ok _

end Errors

section Example

theorem isField_buildServiceSignature (secret : Text) (m : SignedFields) :
    ∀ c ∈ buildServiceSignature secret m, c ≠ '\n' ∧ c.toNat < 256 := by
  have hhex : ∀ c ∈ hexDigits, c ≠ '\n' ∧ c.toNat < 256 := forall_mem_of_all (by decide)
  have hversion : ∀ c ∈ signatureVersion, c ≠ '\n' ∧ c.toNat < 256 :=
    forall_mem_of_all (by decide)
  simp only [buildServiceSignature, List.mem_append, List.mem_cons]
  rintro c (hc | rfl | hc)
  · exact hversion c hc
  · decide
  · exact hhex c (mem_hexdigest hc)

/-- New year of 2026. -/
def exampleDate : Datetime := ⟨63902822400000000, some 0⟩

def exampleClock : Platform :=
  { asciiPlatform with
    fromisoformat := fun s =>
      if s = "2026-01-01T00:00:00+00:00".toList then some exampleDate else none }

def isField (s : Text) : Bool := s.all fun c => decide (c ≠ '\n' ∧ c.toNat < 256)

theorem forall_of_isField {s : Text} (h : isField s = true) :
    ∀ c ∈ s, c ≠ '\n' ∧ c.toNat < 256 := by
  simpa [isField] using h

theorem isField_service : isField "dataforge-platform".toList = true := by decide
theorem isField_timestamp : isField "2026-01-01T00:00:00Z".toList = true := by decide
theorem isField_organization : isField "org_1".toList = true := by decide
theorem isField_project : isField "prj_1".toList = true := by decide
theorem exampleAge_pos : 0 < 300 := by decide

def exampleSettings : PlatformSettings where
  serviceSigningSecret := literal "secret"
  serviceIdentity := literal "dataforge-platform"
  signatureMaxAgeSeconds := ⟨300, exampleAge_pos⟩

def examplePayload : Dict Text Value :=
  [("organization_id".toList, .str "org_1".toList), ("project_id".toList, .str "prj_1".toList)]

theorem readable_examplePayload : JsonRoundTrip.Readable (.obj examplePayload) := by
  refine .obj (by decide) ?_
  simp only [examplePayload, List.forall_mem_cons]
  exact ⟨.str _, .str _, List.forall_mem_nil _⟩

def exampleFields : SignedFields where
  serviceIdentity := "dataforge-platform".toList
  timestamp := "2026-01-01T00:00:00Z".toList
  organizationId := "org_1".toList
  projectId := "prj_1".toList
  body := encodeUtf8 (render (.obj examplePayload))

def exampleHeaders : Headers where
  serviceIdentity := some ⟨"dataforge-platform".toList, forall_of_isField isField_service⟩
  timestamp := some ⟨"2026-01-01T00:00:00Z".toList, forall_of_isField isField_timestamp⟩
  signature := some ⟨buildServiceSignature "secret".toList exampleFields,
    isField_buildServiceSignature _ _⟩
  organizationId := some ⟨"org_1".toList, forall_of_isField isField_organization⟩
  projectId := some ⟨"prj_1".toList, forall_of_isField isField_project⟩

def exampleIdentity : PlatformRequestIdentity :=
  ⟨"dataforge-platform".toList, "org_1".toList, "prj_1".toList, exampleDate⟩

theorem instant_example : 0 ≤ exampleDate.micros ∧ exampleDate.micros < maxMicros := by decide

def exampleNow : Instant := ⟨exampleDate.micros, instant_example⟩

theorem example_signedAt :
    parseTimestamp exampleClock exampleFields.timestamp = .ok exampleIdentity.signedAt := by
  rw [parseTimestamp]
  rfl

theorem example_authentic : Authentic exampleClock exampleSettings exampleHeaders
    exampleFields.body exampleIdentity where
  service := rfl
  known := rfl
  organization := rfl
  organization_ne_nil := List.cons_ne_nil _ _
  project := rfl
  project_ne_nil := List.cons_ne_nil _ _
  signed := ⟨exampleFields.timestamp, rfl, List.cons_ne_nil _ _, example_signedAt, rfl⟩

theorem example_scoped : ScopedBody (scanner Raised) exampleFields.body exampleIdentity := by
  refine ⟨_, examplePayload, decodeUtf8_encodeUtf8 _, ?_, rfl, rfl⟩
  change (JsonReader.loads (render (.obj examplePayload))).elim Loaded.decodeError .value = _
  rw [JsonRoundTrip.loads_render readable_examplePayload]
  rfl

theorem example_fresh :
    ageSeconds exampleNow exampleIdentity.signedAt ≤ exampleSettings.signatureMaxAgeSeconds.1 := by
  apply ageSeconds_le
  · exact instant_example
  · rw [show exampleNow.1 = exampleIdentity.signedAt.micros from rfl, sub_self, abs_zero]
    positivity

theorem example_accepted : verifyPlatformSignature exampleClock (scanner Raised) exampleNow
    exampleHeaders exampleFields.body (some exampleSettings) true = .ok exampleIdentity :=
  verifyPlatformSignature_eq_ok.mpr
    ⟨exampleSettings, rfl, example_authentic, example_fresh, fun _ => example_scoped⟩

theorem oneLine_exampleFields : exampleFields.OneLine := by
  simp only [SignedFields.OneLine, List.forall_mem_cons]
  exact ⟨by decide, by decide, by decide, by decide, List.forall_mem_nil _⟩

theorem accepted_binds_example : ∃ timestamp, told exampleHeaders.timestamp timestamp ∧
    (exampleIdentity.signs timestamp exampleFields.body = exampleFields ∨
      Collides (encodeUtf8 exampleSettings.serviceSigningSecret.1)
        (exampleIdentity.signs timestamp exampleFields.body) exampleFields) :=
  accepted_binds oneLine_exampleFields rfl example_accepted

theorem instant_after {seconds : Int} (h : 0 ≤ seconds ∧ seconds ≤ 301000000) :
    0 ≤ exampleDate.micros + seconds ∧ exampleDate.micros + seconds < maxMicros := by
  have hmicros : exampleDate.micros = 63902822400000000 := rfl
  have hmax : maxMicros = 315537897600000000 := rfl
  omega

theorem last_instant : 0 ≤ (300000000 : Int) ∧ (300000000 : Int) ≤ 301000000 := by decide

theorem late_instant : 0 ≤ (301000000 : Int) ∧ (301000000 : Int) ≤ 301000000 := by decide

/-- Five minutes on, the request is let through once more, and a second later no more. -/
theorem accepted_again_example :
    verifyPlatformSignature exampleClock (scanner Raised) ⟨_, instant_after last_instant⟩
      exampleHeaders exampleFields.body (some exampleSettings) true = .ok exampleIdentity ∧
    ∀ identity, verifyPlatformSignature exampleClock (scanner Raised)
      ⟨_, instant_after late_instant⟩ exampleHeaders exampleFields.body (some exampleSettings) true ≠
        .ok identity := by
  have hmax : exampleSettings.signatureMaxAgeSeconds.1 = 300 := rfl
  have hsigned : exampleIdentity.signedAt = exampleDate := rfl
  constructor
  · refine (accepted_again example_accepted).1 ?_
    rw [hsigned, hmax, add_sub_cancel_left]
    norm_num
  · intro identity h
    have hage := ((accepted_again example_accepted).2 identity h).2 (by rw [hmax]; norm_num)
    rw [hsigned, hmax, add_sub_cancel_left] at hage
    norm_num at hage

theorem verifyPlatformSignature_error_unsigned :
    Refusal (signatureError "missing_service_identity" 401) ∨
      Unhandled exampleClock (scanner Raised) ⟨none, none, none, none, none⟩ exampleFields.body true
        (signatureError "missing_service_identity" 401) := by
  have h : verifyPlatformSignature exampleClock (scanner Raised) exampleNow
      ⟨none, none, none, none, none⟩ exampleFields.body (some exampleSettings) true =
        .error (signatureError "missing_service_identity" 401) := rfl
  exact verifyPlatformSignature_error h

end Example

end DataForge.Api.Security
