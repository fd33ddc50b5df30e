import RemoteSearch.Platform
import RemoteSearch.Proofs.Path.Segments

/-!
# Filesystem types below a root

A search on a Unix host that asks for a type of filesystem is made if a mount of that type lies
below its root, or its root below the mount. The test is made on texts, and is right about
segments: a mount whose name merely begins like the root is none that counts.

* `isWithin_iff_segments`: the test on two texts.
* `admits_iff_isNested`: the test on a table of mounts.
-/

namespace RemoteSearch

open RemoteSearch.Path

/-- Whether one of two paths, given by their segments, lies on the way to the other. -/
def Path.IsNested (a b : List (List Char)) : Prop := a <+: b ∨ b <+: a

instance (a b : List (List Char)) : Decidable (IsNested a b) :=
  inferInstanceAs (Decidable (a <+: b ∨ b <+: a))

namespace Platform

variable {path root : String} {mounts : List Mount}

/-- The segments of a path of a Unix host. -/
def unixSegments (path : String) : List (List Char) := segments '/' path.toList

/-- Whether a path of a Unix host begins with a slash and has no empty segment inside. -/
def IsUnixPath (path : String) : Prop := IsTidy '/' path.toList

instance (path : String) : Decidable (IsUnixPath path) :=
  inferInstanceAs (Decidable (IsTidy '/' path.toList))

theorem isWithin_iff_segments (hpath : IsUnixPath path) (hroot : IsUnixPath root) :
    isWithin path root '/' false = true ↔ unixSegments root <+: unixSegments path :=
  isWithinText_iff_segments hpath hroot

/-- A mount counts if it has the type that is asked for, and its path and the root are nested. -/
theorem admits_iff_exists (d : Unix.Dialect) (fsType : String) (hroot : IsUnixPath root)
    (hmounts : ∀ m ∈ mounts, IsUnixPath m.path) :
    (unix d).admits mounts root fsType = true ↔
      ∃ m ∈ mounts, m.fsType = fsType ∧ IsNested (unixSegments m.path) (unixSegments root) := by
  have hdelimiter : (unix d).delimiter = '/' := rfl
  simp only [admits, List.any_eq_true, Bool.and_eq_true, Bool.or_eq_true, beq_iff_eq, hdelimiter]
  refine exists_congr fun m => and_congr_right fun hm => and_congr_right fun _ => ?_
  rw [isWithin_iff_segments (hmounts m hm) hroot, isWithin_iff_segments hroot (hmounts m hm),
    IsNested, or_comm]

/--
**A search is admitted exactly if there is a mount of the type on the way to its root or below
it**, segment by segment. So the root of the host goes with every mount, and a directory never goes
with another whose name begins like its own.
-/
theorem admits_iff_isNested (d : Unix.Dialect) (q : Query) (fsType : String)
    (hroot : IsUnixPath (q.normalizedRoot '/')) (hmounts : ∀ m ∈ mounts, IsUnixPath m.path) :
    ((unix d).admits mounts (q.normalizedRoot '/') fsType = true ↔
      ∃ m ∈ mounts, m.fsType = fsType ∧
        IsNested (unixSegments m.path) (unixSegments (q.normalizedRoot '/'))) ∧
    (∀ m : Mount, IsUnixPath m.path → (unix d).admits [m] "/" m.fsType = true) ∧
    (unix d).admits [⟨"/opt", fsType⟩] "/optional" fsType = false ∧
    (unix d).admits [⟨"/optional", fsType⟩] "/opt" fsType = false := by
  have hall : ∀ m : Mount, IsUnixPath m.path → (unix d).admits [m] "/" m.fsType = true := by
    intro m hm
    rw [admits_iff_exists d m.fsType (by decide) (by simpa using hm)]
    exact ⟨m, List.mem_singleton_self m, rfl, .inr List.nil_prefix⟩
  have hapart : ∀ a b, IsUnixPath a → IsUnixPath b → ¬IsNested (unixSegments a) (unixSegments b) →
      (unix d).admits [⟨a, fsType⟩] b fsType = false := by
    intro a b ha hb hnot
    rw [Bool.eq_false_iff, ne_eq, admits_iff_exists d fsType hb (by simpa using ha)]
    simpa using hnot
  refine ⟨admits_iff_exists d fsType hroot hmounts, hall, ?_, ?_⟩
  · exact hapart _ _ (by decide) (by decide) (by decide)
  · exact hapart _ _ (by decide) (by decide) (by decide)

/-- A root below a mount whose path ends in a slash, beside one whose name begins alike. -/
theorem admits_below_trailing_slash :
    let mounts : List Mount := [⟨"/", "ext4"⟩, ⟨"/op", "nfs4"⟩, ⟨"/opt/", "nfs"⟩]
    let q : Query := { root := "/opt/app//" }
    IsUnixPath (q.normalizedRoot '/') ∧ (∀ m ∈ mounts, IsUnixPath m.path) ∧
      ∀ d, (unix d).admits mounts (q.normalizedRoot '/') "nfs" = true ∧
        ¬(unix d).admits mounts (q.normalizedRoot '/') "nfs4" = true := by
  intro mounts q
  have hroot : IsUnixPath (q.normalizedRoot '/') := by decide
  have hmounts : ∀ m ∈ mounts, IsUnixPath m.path := by decide
  refine ⟨hroot, hmounts, fun d => ⟨?_, ?_⟩⟩
  · exact (admits_iff_isNested d q "nfs" hroot hmounts).1.mpr ⟨⟨"/opt/", "nfs"⟩, by decide⟩
  · rw [(admits_iff_isNested d q "nfs4" hroot hmounts).1]
    decide

end Platform

end RemoteSearch
