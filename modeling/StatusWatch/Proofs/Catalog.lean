import StatusWatch.Catalog
import StatusWatch.Proofs.Keyed

/-!
Catalogs by their versions. A registration is found under its kind and version until one of the same
version takes its place, so a merged catalog answers as the one that was merged into it wherever
that one knows the version. Rules have each version of a kind once.
-/

namespace StatusWatch

namespace Resource

def key (r : Resource) : GroupKind × String :=
  (r.groupKind, r.version)

theorem sameVersion_iff {r s : Resource} : r.sameVersion s = true ↔ r.key = s.key := by
  simp [sameVersion, key]

end Resource

namespace Catalog

variable {c other : Catalog} {gk : GroupKind} {version : String} {r : Resource}

theorem find?_some_version (c : Catalog) (gk : GroupKind) (version : String) :
    c.find? gk (some version) = c.resources.find? (·.key = (gk, version)) := by
  simp [find?, Resource.key, beq_eq_decide]

theorem key_of_find? (h : c.find? gk (some version) = some r) : r.key = (gk, version) := by
  rw [find?_some_version] at h
  simpa using List.find?_some h

theorem find?_none_version (c : Catalog) (gk : GroupKind) :
    c.find? gk none = c.resources.find? (·.groupKind = gk) := by
  simp [find?]

theorem groupKind_of_default (h : c.find? gk none = some r) : r.groupKind = gk := by
  rw [find?_none_version] at h
  simpa using List.find?_some h

theorem find?_of_default (h : c.find? gk none = some r) : c.find? gk (some r.version) = some r := by
  obtain ⟨resources⟩ := c
  rw [find?_none_version] at h
  rw [find?_some_version]
  dsimp only at h ⊢
  induction resources with
  | nil => cases h
  | cons s rest ih =>
    by_cases first : s.groupKind = gk
    · rw [List.find?_cons_of_pos (by simpa using first)] at h
      cases h
      exact List.find?_cons_of_pos (by simp [Resource.key, first])
    · rw [List.find?_cons_of_neg (by simpa using first)] at h
      rw [List.find?_cons_of_neg (by simp [Resource.key, first])]
      exact ih h

theorem find?_own_version {version : Option String} (found : c.find? gk version = some r) :
    c.find? gk (some r.version) = some r := by
  cases version with
  | none => exact find?_of_default found
  | some version =>
    have own : r.version = version := congrArg Prod.snd (key_of_find? found)
    rwa [own]

theorem resolve_eq_ok {version : Option String} :
    c.resolve gk version = .ok r ↔ c.find? gk version = some r := by
  unfold resolve
  cases c.find? gk version <;> simp

theorem put_eq_upsert (r : Resource) (resources : List Resource) :
    put r resources = upsert Resource.key r resources := by
  induction resources with
  | nil => rfl
  | cons s rest ih => simp only [put, upsert, ih, Resource.sameVersion_iff]

theorem find?_add (c : Catalog) (r : Resource) (gk : GroupKind) (version : String) :
    (c.add r).find? gk (some version) =
      if r.key = (gk, version) then some r else c.find? gk (some version) := by
  rw [find?_some_version, find?_some_version, add, put_eq_upsert, find?_upsert]

/-- Each version of a kind is registered once. -/
def Distinct (c : Catalog) : Prop :=
  (c.resources.map Resource.key).Nodup

theorem Distinct.add (h : c.Distinct) (r : Resource) : (c.add r).Distinct := by
  unfold Distinct Catalog.add
  rw [put_eq_upsert, map_upsert]
  exact nodup_addNew h r.key

theorem find?_merge (h : other.Distinct) (c : Catalog) (gk : GroupKind) (version : String) :
    (c.merge other).find? gk (some version) =
      (other.find? gk (some version)).or (c.find? gk (some version)) := by
  have last : (c.merge other).find? gk (some version) =
      ((other.resources.filter (·.key = (gk, version))).getLast?.map id).or
        (c.find? gk (some version)) :=
    reading_foldl (fun c : Catalog => c.find? gk (some version))
      (fun c r => by simp [find?_add]) other.resources c
  rw [last, Option.map_id_apply, getLast?_filter_key h, ← find?_some_version]

def defaultVersion? (c : Catalog) (gk : GroupKind) : Option String :=
  (c.find? gk none).map Resource.version

theorem defaultVersion?_put (r : Resource) (resources : List Resource) (gk : GroupKind) :
    defaultVersion? ⟨put r resources⟩ gk =
      (defaultVersion? ⟨resources⟩ gk).or (if r.groupKind = gk then some r.version else none) := by
  simp only [defaultVersion?, find?_none_version]
  induction resources with
  | nil =>
    by_cases ofKind : r.groupKind = gk <;> simp [put, ofKind]
  | cons s rest ih =>
    unfold put
    split
    case isTrue same =>
      rw [Resource.sameVersion_iff, Resource.key, Resource.key, Prod.mk.injEq] at same
      by_cases ofKind : s.groupKind = gk
      · simp [ofKind, same.1 ▸ ofKind, same.2]
      · simp [ofKind, same.1 ▸ ofKind]
    case isFalse =>
      by_cases ofKind : s.groupKind = gk
      · simp [ofKind]
      · simp [ofKind, ih]

/-- A merged catalog keeps the default versions that it had. -/
theorem defaultVersion?_merge (c other : Catalog) (gk : GroupKind) :
    (c.merge other).defaultVersion? gk = (c.defaultVersion? gk).or (other.defaultVersion? gk) := by
  obtain ⟨resources⟩ := other
  unfold merge
  dsimp only
  induction resources generalizing c with
  | nil => exact Option.or_none.symm
  | cons r rest ih =>
    have first : defaultVersion? ⟨r :: rest⟩ gk =
        (if r.groupKind = gk then some r.version else none).or (defaultVersion? ⟨rest⟩ gk) := by
      by_cases ofKind : r.groupKind = gk <;> simp [defaultVersion?, find?_none_version, ofKind]
    rw [List.foldl_cons, ih, Catalog.add, defaultVersion?_put, first, Option.or_assoc]

end Catalog

end StatusWatch
