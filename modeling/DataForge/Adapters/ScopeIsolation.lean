import DataForge.Adapters.ObjectStorage
import Mathlib

namespace DataForge.Adapters.ScopeIsolation

open DataForge.Foundation.Strings
open DataForge.Foundation.PosixPath
open DataForge.Foundation.Outcome
open DataForge.Domain.Common
open DataForge.Adapters.ObjectStorage

/-- The path components that `_join_key` makes of one part. -/
def pathSegments (part : Text) : List Text :=
  if stripSlashes part = [] then [] else (stripSlashes part).splitOn '/'

def scopeSegments (scope : ObjectStorageScope) : List Text :=
  [scope.organizationId.1, scope.projectId.1, scope.datasetId.1].flatMap pathSegments

def acceptedKeys (a : MinioObjectStorageAdapter) : Set Text :=
  { key | (∃ objectName, a.keyForObjectName objectName = .ok key) ∨ ∃ uri,
    a.keyForUri uri = .ok key }

theorem joinKey_eq_joinWith (parts : List Text) (h : parts.flatMap pathSegments ≠ []) :
    joinKey parts = joinWith '/' (parts.flatMap pathSegments) ∧
      (joinKey parts).splitOn '/' = parts.flatMap pathSegments := by
  have hkept : ((parts.map stripSlashes).filter (· ≠ [])).flatMap (·.splitOn '/') =
      parts.flatMap pathSegments := by
    clear h
    induction parts with
    | nil => rfl
    | cons part parts ih =>
      by_cases hp : stripSlashes part = []
      · simpa [pathSegments, hp] using ih
      · simpa [pathSegments, hp] using ih
  have hne : (parts.map stripSlashes).filter (· ≠ []) ≠ [] := by
    intro he
    rw [he] at hkept
    exact h hkept.symm
  have hsplit : (joinKey parts).splitOn '/' = parts.flatMap pathSegments := by
    rw [joinKey, splitOn_joinWith_flatMap '/' hne, hkept]
  exact ⟨by rw [← hsplit, joinWith_splitOn], hsplit⟩

theorem safeRelativePath_eq_ok {value path : Text} (h : safeRelativePath value = .ok path) :
    path ≠ [] ∧ path.head? ≠ some '/' ∧ dotdot ∉ path.splitOn '/' ∧
      dotdot ∉ (stripSlashes path).splitOn '/' := by
  simp only [safeRelativePath] at h
  split at h
  · cases h
  · rename_i hempty
    split at h
    · cases h
    · rename_i hdots
      obtain rfl := Except.ok.inj h
      have hhead : (lstripBy (· == '/') (strip value)).head? ≠ some '/' := fun he => by
        simpa using head?_lstripBy _ _ _ he
      have hout : ¬ '/' :: dotdot ++ ['/'] <:+: '/' ::
          normpath (lstripBy (· == '/') (strip value)) ++ ['/'] :=
        fun he => hdots (Or.inr (Or.inr he))
      refine ⟨fun he => hempty (Or.inr (Or.inl he)), head?_normpath hhead, fun he => ?_,
        fun he => ?_⟩
      · exact hout (isInfix_of_mem_splitOn he)
      · exact hout ((isInfix_of_mem_splitOn he).trans (isInfix_enclosed_stripBy '/' _))

/-- A root that `_safe_path_part` returned has components, none of them `..`. -/
theorem pathSegments_root (a : MinioObjectStorageAdapter) :
    pathSegments a.prefixRoot ≠ [] ∧ dotdot ∉ pathSegments a.prefixRoot := by
  obtain ⟨value, hv⟩ := a.rooted
  obtain ⟨path, hpath, hroot⟩ := bind_eq_ok.mp hv
  have hroot : stripSlashes path = a.prefixRoot := Except.ok.inj hroot
  obtain ⟨hne, hhead, -, hdots⟩ := safeRelativePath_eq_ok hpath
  have hstrip : stripSlashes path ≠ [] := by
    cases path with
    | nil => exact absurd rfl hne
    | cons c s => exact stripBy_ne_nil (by simpa using hhead)
  have hidem : stripSlashes (stripSlashes path) = stripSlashes path := stripBy_idem _ _
  rw [← hroot, pathSegments, hidem, if_neg hstrip]
  exact ⟨List.splitOn_ne_nil _ _, hdots⟩

theorem allowedPrefix_eq (a : MinioObjectStorageAdapter) :
    a.allowedPrefix = joinWith '/' (pathSegments a.prefixRoot ++ scopeSegments a.scope) := by
  have h := joinKey_eq_joinWith
    [a.prefixRoot, a.scope.organizationId.1, a.scope.projectId.1, a.scope.datasetId.1]
    (by simp [(pathSegments_root a).1])
  rw [MinioObjectStorageAdapter.allowedPrefix, h.1]
  simp [scopeSegments]

theorem not_mem_pathSegments (part : Text) : ∀ seg ∈ pathSegments part, '/' ∉ seg := by
  intro seg hs
  rw [pathSegments] at hs
  split at hs
  · simp at hs
  · exact not_mem_of_mem_splitOn '/' _ seg hs

/-- The keys in scope are the paths strictly below the root and the scope's
components, without a `..` component. -/
theorem isKeyInScope_iff (a : MinioObjectStorageAdapter) (key : Text) :
    a.IsKeyInScope key ↔
      (∃ rest, rest ≠ [] ∧
        key.splitOn '/' = pathSegments a.prefixRoot ++ scopeSegments a.scope ++ rest) ∧
      dotdot ∉ key.splitOn '/' := by
  have hslash : ∀ seg ∈ pathSegments a.prefixRoot ++ scopeSegments a.scope, '/' ∉ seg := by
    intro seg hs
    simp only [scopeSegments, List.mem_append, List.mem_flatMap] at hs
    obtain hs | ⟨part, -, hs⟩ := hs
    · exact not_mem_pathSegments _ seg hs
    · exact not_mem_pathSegments part seg hs
  rw [MinioObjectStorageAdapter.IsKeyInScope, allowedPrefix_eq,
    joinWith_sep_prefix_iff '/' hslash (by simp [(pathSegments_root a).1])]

theorem mem_acceptedKeys (a : MinioObjectStorageAdapter) (key : Text) :
    key ∈ acceptedKeys a ↔ a.IsKeyInScope key := by
  constructor
  · rintro (⟨objectName, h⟩ | ⟨uri, h⟩)
    · simp only [MinioObjectStorageAdapter.keyForObjectName, bind_eq_ok, pure_eq,
        MinioObjectStorageAdapter.requireKeyInScope, guardOk_eq_ok, Except.ok.injEq] at h
      obtain ⟨path, -, u, hscope, rfl⟩ := h
      exact hscope
    · simp only [MinioObjectStorageAdapter.keyForUri, bind_eq_ok, pure_eq,
        MinioObjectStorageAdapter.requireKeyInScope, guardOk_eq_ok, Except.ok.injEq] at h
      obtain ⟨u, -, v, hscope, rfl⟩ := h
      exact hscope
  · intro h
    refine Or.inr ⟨a.uriForKey key, ?_⟩
    simp [MinioObjectStorageAdapter.keyForUri, MinioObjectStorageAdapter.uriForKey,
      MinioObjectStorageAdapter.requireKeyInScope, removePrefix_append, guardOk, h]

/-- A path below both components lists shows that one opens the other. -/
theorem prefix_or_prefix {s t rest rest' : List Text} (h : s ++ rest = t ++ rest') :
    s <+: t ∨ t <+: s :=
  List.prefix_or_prefix_of_prefix (List.prefix_append s rest) (h ▸ List.prefix_append t rest')

theorem inScope_nested {a b : MinioObjectStorageAdapter} (hroot : a.prefixRoot = b.prefixRoot)
    (hb : dotdot ∉ scopeSegments b.scope) (h : scopeSegments a.scope <+: scopeSegments b.scope) :
    ∃ key, a.IsKeyInScope key ∧ b.IsKeyInScope key := by
  obtain ⟨rest, hrest⟩ := h
  have hsegs :
      ∀ seg ∈ pathSegments b.prefixRoot ++ scopeSegments b.scope ++ [['x']], '/' ∉ seg := by
    intro seg hs
    simp only [scopeSegments, List.mem_append, List.mem_flatMap, List.mem_singleton] at hs
    obtain (hs | ⟨part, -, hs⟩) | rfl := hs
    · exact not_mem_pathSegments _ seg hs
    · exact not_mem_pathSegments part seg hs
    · decide
  have hsplit := splitOn_joinWith '/' hsegs (by simp)
  have hdots : dotdot ∉ pathSegments b.prefixRoot ++ scopeSegments b.scope ++ [['x']] := by
    have hx : dotdot ≠ ['x'] := by decide
    simp [(pathSegments_root b).2, hb, hx]
  refine ⟨joinWith '/' (pathSegments b.prefixRoot ++ scopeSegments b.scope ++ [['x']]), ?_, ?_⟩
  · rw [isKeyInScope_iff, hsplit]
    exact ⟨⟨rest ++ [['x']], by simp, by rw [hroot, ← hrest]; simp⟩, hdots⟩
  · rw [isKeyInScope_iff, hsplit]
    exact ⟨⟨[['x']], by simp, rfl⟩, hdots⟩

theorem minioObjectStorageAdapter_eq_ok {bucketName root : Text} {scope : ObjectStorageScope}
    {a : MinioObjectStorageAdapter} (h : minioObjectStorageAdapter bucketName root scope = .ok a) :
    a.bucketName = bucketName ∧ safePathPart root = .ok a.prefixRoot ∧ a.scope = scope := by
  rw [minioObjectStorageAdapter] at h
  split at h
  · cases h
  · rename_i prefixRoot hroot
    obtain rfl := Except.ok.inj h
    exact ⟨rfl, hroot, rfl⟩

/-- Two scopes of one bucket and root share no key exactly when one of them has a
`..` component, and so no key at all, or neither's components open the other's. -/
theorem acceptedKeys_disjoint_iff (bucketName root : Text) (s t : ObjectStorageScope)
    (a b : MinioObjectStorageAdapter) (ha : minioObjectStorageAdapter bucketName root s = .ok a)
    (hb : minioObjectStorageAdapter bucketName root t = .ok b) :
    Disjoint (acceptedKeys a) (acceptedKeys b) ↔
      dotdot ∈ scopeSegments s ∨ dotdot ∈ scopeSegments t ∨
        (¬ scopeSegments s <+: scopeSegments t ∧ ¬ scopeSegments t <+: scopeSegments s) := by
  obtain ⟨-, hra, rfl⟩ := minioObjectStorageAdapter_eq_ok ha
  obtain ⟨-, hrb, rfl⟩ := minioObjectStorageAdapter_eq_ok hb
  have hroot : a.prefixRoot = b.prefixRoot := Except.ok.inj (hra.symm.trans hrb)
  simp only [Set.disjoint_left, mem_acceptedKeys]
  constructor
  · intro hdisj
    by_contra hcond
    push Not at hcond
    obtain ⟨hda, hdb, hnest⟩ := hcond
    by_cases hst : scopeSegments a.scope <+: scopeSegments b.scope
    · obtain ⟨key, hka, hkb⟩ := inScope_nested hroot hdb hst
      exact hdisj hka hkb
    · obtain ⟨key, hkb, hka⟩ := inScope_nested hroot.symm hda (hnest hst)
      exact hdisj hka hkb
  · intro hcond key hka hkb
    obtain ⟨⟨rest, -, hsa⟩, hdots⟩ := (isKeyInScope_iff a key).mp hka
    obtain ⟨⟨rest', -, hsb⟩, -⟩ := (isKeyInScope_iff b key).mp hkb
    obtain hd | hd | ⟨hst, hts⟩ := hcond
    · exact hdots (by rw [hsa]; simp [hd])
    · exact hdots (by rw [hsb]; simp [hd])
    · rw [hroot] at hsa
      have heq := hsa.symm.trans hsb
      rw [List.append_assoc, List.append_assoc] at heq
      obtain h | h := prefix_or_prefix (List.append_cancel_left heq)
      · exact hst h
      · exact hts h

/-- Two datasets of one project share no key. -/
theorem acceptedKeys_disjoint_datasets :
    let s : ObjectStorageScope := ⟨⟨['o'], by decide⟩, ⟨['p'], by decide⟩, ⟨['d'], by decide⟩⟩
    let t : ObjectStorageScope := ⟨⟨['o'], by decide⟩, ⟨['p'], by decide⟩, ⟨['e'], by decide⟩⟩
    let a : MinioObjectStorageAdapter := ⟨['b'], ['r'], s, ['r'], rfl⟩
    let b : MinioObjectStorageAdapter := ⟨['b'], ['r'], t, ['r'], rfl⟩
    Disjoint (acceptedKeys a) (acceptedKeys b) :=
  (acceptedKeys_disjoint_iff ['b'] ['r'] _ _ _ _ rfl rfl).mpr (by decide)

/-- A separator inside an identifier moves the boundary between two identifiers. -/
theorem distinct_scopes_share_key :
    ¬ ∀ (bucketName root : Text) (s t : ObjectStorageScope) (a b : MinioObjectStorageAdapter),
      minioObjectStorageAdapter bucketName root s = .ok a →
      minioObjectStorageAdapter bucketName root t = .ok b →
      s ≠ t → Disjoint (acceptedKeys a) (acceptedKeys b) := by
  intro hall
  let s : ObjectStorageScope :=
    ⟨⟨"a/b".toList, by decide⟩, ⟨"c".toList, by decide⟩, ⟨"d".toList, by decide⟩⟩
  let t : ObjectStorageScope :=
    ⟨⟨"a".toList, by decide⟩, ⟨"b/c".toList, by decide⟩, ⟨"d".toList, by decide⟩⟩
  let a : MinioObjectStorageAdapter := ⟨['b'], ['r'], s, ['r'], rfl⟩
  let b : MinioObjectStorageAdapter := ⟨['b'], ['r'], t, ['r'], rfl⟩
  have hdisj := hall ['b'] ['r'] s t a b rfl rfl (by decide)
  have ha : a.IsKeyInScope "r/a/b/c/d/x".toList := by decide
  have hb : b.IsKeyInScope "r/a/b/c/d/x".toList := by decide
  exact Set.disjoint_left.mp hdisj ((mem_acceptedKeys a _).mpr ha) ((mem_acceptedKeys b _).mpr hb)

end DataForge.Adapters.ScopeIsolation
