import DataForge.Adapters.ArtifactRegistry

namespace DataForge.Adapters.ArtifactKeys

open DataForge.Foundation.Strings
open DataForge.Foundation.Sha256
open DataForge.Foundation.PosixPath
open DataForge.Foundation.Outcome
open DataForge.Domain.Common
open DataForge.Adapters.ObjectStorage
open DataForge.Adapters.ArtifactRegistry

theorem componentChar_range {c : Char} (h : componentChar c = true) :
    45 ≤ c.toNat ∧ c.toNat ≤ 122 ∧ c ≠ '/' := by
  have hslash : c ≠ '/' := by
    rintro rfl
    exact absurd h (by decide)
  simp only [componentChar, Bool.or_eq_true, Bool.and_eq_true, decide_eq_true_eq, char_le_iff,
    Char.reduceToNat] at h
  obtain ((((h | h) | h) | rfl) | rfl) | rfl := h
  · exact ⟨by omega, by omega, hslash⟩
  · exact ⟨by omega, by omega, hslash⟩
  · exact ⟨by omega, by omega, hslash⟩
  all_goals decide

theorem isSpace_componentChar {c : Char} (h : componentChar c = true) : isSpace c = false := by
  obtain ⟨h1, h2, -⟩ := componentChar_range h
  simp [isSpace, isWhiteSpace]
  omega

variable (addr : Address) (data : Bytes)

theorem removePrefix_sha256 : removePrefix "sha256:".toList (sha256 data) = hexdigest data :=
  removePrefix_append _ _

theorem plain_fileName : Plain (hexdigest data ++ '.' :: addr.format.1) := by
  have hlen : 65 ≤ (hexdigest data ++ '.' :: addr.format.1).length := by
    simp [length_hexdigest]
    omega
  refine ⟨?_, ?_, ?_, ?_⟩
  · intro h
    rw [h] at hlen
    simp at hlen
  · intro h
    rw [h] at hlen
    simp [dot] at hlen
  · intro h
    rw [h] at hlen
    simp [dotdot] at hlen
  · intro h
    rcases List.mem_append.mp h with h | h
    · exact absurd (mem_hexdigest h) (by decide)
    · exact addr.format.2.1.2.2.2 (by simpa using h)

theorem plain_objectComponents : ∀ comp ∈ objectComponents addr (sha256 data), Plain comp := by
  intro comp hc
  simp only [objectComponents, removePrefix_sha256, List.mem_cons, List.not_mem_nil, or_false] at hc
  obtain rfl | rfl | rfl | rfl | rfl | rfl | rfl | rfl := hc
  · decide
  · exact addr.version.2.1
  · decide
  · exact addr.job.2.1
  · decide
  · exact addr.kind.2.1
  · exact addr.schema.2.1
  · exact plain_fileName addr data

/-- An object name starts with a letter and ends with the format. -/
theorem objectName_ends : ∃ mid, objectName addr (sha256 data) = 'v' :: mid ++ addr.format.1 := by
  let dirs := [addr.version.1, "jobs".toList, addr.job.1, "artifacts".toList, addr.kind.1,
    addr.schema.1]
  have hcomps : objectComponents addr (sha256 data) =
      ("versions".toList :: dirs) ++ [hexdigest data ++ '.' :: addr.format.1] := by
    simp only [objectComponents, removePrefix_sha256, dirs, List.cons_append, List.nil_append]
  refine ⟨"ersions".toList ++ '/' :: joinWith '/' dirs ++ '/' :: hexdigest data ++ ['.'], ?_⟩
  rw [objectName, hcomps, joinWith_append '/' (by simp) (by simp),
    joinWith_cons '/' _ (by simp [dirs]), joinWith_singleton]
  simp

theorem objectName_stripBy {p : Char → Bool} (hv : p 'v' = false)
    (hp : ∀ c, componentChar c = true → p c = false) :
    stripBy p (objectName addr (sha256 data)) = objectName addr (sha256 data) := by
  obtain ⟨mid, hmid⟩ := objectName_ends addr data
  rw [hmid]
  refine stripBy_eq_self (by simp [hv]) fun c hc => ?_
  have hne : addr.format.1 ≠ [] := addr.format.2.1.1
  rw [List.getLast?_append_of_ne_nil _ hne] at hc
  exact hp c (addr.format.2.2 c (List.mem_of_getLast? hc))

/-- The registry's object names pass the path check unchanged. -/
theorem safeRelativePath_objectName :
    safeRelativePath (objectName addr (sha256 data)) = .ok (objectName addr (sha256 data)) := by
  have hstrip : strip (objectName addr (sha256 data)) = objectName addr (sha256 data) :=
    objectName_stripBy addr data (by decide) fun c => isSpace_componentChar
  have hplain := plain_objectComponents addr data
  have hnorm : normpath (objectName addr (sha256 data)) = objectName addr (sha256 data) :=
    normpath_joinWith hplain (by simp [objectComponents])
  obtain ⟨mid, hmid⟩ := objectName_ends addr data
  have hl : lstripBy (· == '/') (objectName addr (sha256 data)) = objectName addr (sha256 data) :=
    lstripBy_eq_self (by simp [hmid])
  have hinfix : ¬ "/../".toList <:+: '/' :: objectName addr (sha256 data) ++ ['/'] := by
    intro h
    have hmem : dotdot ∈ (objectName addr (sha256 data)).splitOn '/' :=
      mem_splitOn_of_isInfix (by decide) (by decide) h
    rw [objectName, splitOn_joinWith '/' (fun p hp => (hplain p hp).2.2.2)
      (by simp [objectComponents])] at hmem
    exact (hplain dotdot hmem).2.2.1 rfl
  simp only [safeRelativePath, hstrip, hl, hnorm]
  rw [if_neg (by simp [hmid, dot]), if_neg]
  rintro (h | h | h)
  · simp [hmid] at h
  · simp [hmid, dotdot] at h
  · exact hinfix h

def objectKey (a : MinioObjectStorageAdapter) : Text :=
  joinKey [a.allowedPrefix, objectName addr (sha256 data)]

theorem keyForObjectName_objectName {a : MinioObjectStorageAdapter} {key : Text}
    (h : a.keyForObjectName (objectName addr (sha256 data)) = .ok key) :
    key = objectKey addr data a ∧ a.IsKeyInScope key := by
  simp only [MinioObjectStorageAdapter.keyForObjectName, safeRelativePath_objectName, ok_bind,
    MinioObjectStorageAdapter.requireKeyInScope, bind_eq_ok, guardOk_eq_ok, pure_eq,
    Except.ok.injEq] at h
  obtain ⟨-, hscope, rfl⟩ := h
  exact ⟨rfl, hscope⟩

/-- Two keys agree only when the components and the digests do. -/
theorem objectKey_injective {a : MinioObjectStorageAdapter} {addr' : Address} {data' : Bytes}
    (h : objectKey addr data a = objectKey addr' data' a) :
    addr = addr' ∧ hexdigest data = hexdigest data' := by
  have hslash : ∀ c, componentChar c = true → (c == '/') = false := fun c hc => by
    simpa using (componentChar_range hc).2.2
  have hne : ∀ (addr : Address) (data : Bytes), objectName addr (sha256 data) ≠ [] := by
    intro addr data
    obtain ⟨mid, hmid⟩ := objectName_ends addr data
    simp [hmid]
  have hname : objectName addr (sha256 data) = objectName addr' (sha256 data') := by
    simp only [objectKey, joinKey, List.map_cons, List.map_nil, stripSlashes,
      objectName_stripBy _ _ (by decide) hslash] at h
    by_cases hap : stripBy (· == '/') a.allowedPrefix = []
    · simpa [hap, hne, joinWith_singleton] using h
    · simpa [hap, hne, joinWith_cons, joinWith_singleton] using h
  have hcomps := joinWith_injective '/' (fun p hp => (plain_objectComponents addr data p hp).2.2.2)
    (fun p hp => (plain_objectComponents addr' data' p hp).2.2.2) (by simp [objectComponents])
    (by simp [objectComponents]) hname
  simp only [objectComponents, removePrefix_sha256, List.cons.injEq, true_and, and_true] at hcomps
  obtain ⟨hversion, hjob, hkind, hschema, hfile⟩ := hcomps
  obtain ⟨hhex, hfmt⟩ := List.append_inj hfile (by simp [length_hexdigest])
  have hformat := (List.cons.inj hfmt).2
  cases addr
  cases addr'
  exact ⟨by simp only [Address.mk.injEq]; exact ⟨Subtype.ext hkind, Subtype.ext hformat,
    Subtype.ext hschema, Subtype.ext hversion, Subtype.ext hjob⟩, hhex⟩

end DataForge.Adapters.ArtifactKeys
