import RemoteSearch.Proofs.Path.Links

/-!
# Links on volumes of Windows hosts

An absolute path of a Windows host begins with the root of a volume, which is a drive or a share of
a server. A relative link should lead to something on its own volume. With drives it does; the root
of a share is not told from directories, and only one of its two delimiters is written anew.

* `walk_climb`: what steps up leave of the directory of a link.
* `resolve_on_drive`, `resolve_on_share`: where a link leads from each kind of volume.
* `link_stays_on_volume_iff`: so it stays on its volume exactly if that is a drive.
-/

namespace RemoteSearch

open Text
open RemoteSearch.Path

namespace Windows

/-! ## Volumes -/

/-- Whether a text can be the name of something on a Windows host. -/
def IsFileName (s : List Char) : Prop := IsSegment '\\' s ∧ IsProper s ∧ ':' ∉ s

instance (s : List Char) : Decidable (IsFileName s) :=
  inferInstanceAs (Decidable (IsSegment '\\' s ∧ IsProper s ∧ ':' ∉ s))

/-- A name on a Windows host. -/
structure FileName where
  text : List Char
  isFileName : IsFileName text

theorem FileName.isSegment (name : FileName) : IsSegment '\\' name.text := name.isFileName.1

theorem FileName.isProper (name : FileName) : IsProper name.text := name.isFileName.2.1

theorem FileName.colon_notMem (name : FileName) : ':' ∉ name.text := name.isFileName.2.2

/-- A volume: a drive, or what a server shares under a name. -/
inductive Volume where
  | drive (letter : Char) (isAlpha : letter.isAlpha = true)
  | share (server name : FileName)

/-- The texts of some names. -/
def texts (names : List FileName) : List (List Char) := names.map FileName.text

namespace Volume

/-- How the root is written. -/
def root : Volume → List Char
  | drive letter _ => [letter, ':', '\\']
  | share server name => '\\' :: '\\' :: (server.text ++ '\\' :: (name.text ++ ['\\']))

/-- The path of what is reached from the root by some names. -/
def path (v : Volume) (names : List FileName) : String :=
  String.ofList (v.root ++ joinWith '\\' (texts names))

/-- Whether the volume is a drive. -/
def isDrive : Volume → Bool
  | drive _ _ => true
  | share _ _ => false

/-- What the root is for those who know of segments only. -/
def stem : Volume → List (List Char)
  | drive letter _ => [[letter, ':']]
  | share server name => [server.text, name.text]

end Volume

/-- A target that goes up some directories, and from there along some names. -/
def climb (j : Nat) (names : List FileName) : List Char :=
  joinWith '\\' (List.replicate j ['.', '.'] ++ texts names)

variable {v : Volume} {dirs targets : List FileName} {link : FileName} {j : Nat}

theorem isSegment_of_mem_texts {s : List Char} (h : s ∈ texts dirs) : IsSegment '\\' s := by
  obtain ⟨name, -, rfl⟩ := List.mem_map.mp h
  exact name.isSegment

theorem isSegment_of_mem_climb {s : List Char}
    (h : s ∈ List.replicate j ['.', '.'] ++ texts targets) : IsSegment '\\' s := by
  rcases List.mem_append.mp h with h | h
  · rw [List.eq_of_mem_replicate h]
    decide
  · exact isSegment_of_mem_texts h

theorem isAbsoluteText_climb (j : Nat) (targets : List FileName) :
    isAbsoluteText '\\' (climb j targets) = false := by
  have hhead : (climb j targets).head? ≠ some '\\' :=
    head?_joinWith fun s hs => isSegment_of_mem_climb hs
  have hcolon : ':' ∉ climb j targets := by
    refine notMem_joinWith (by decide) fun s hs => ?_
    rcases List.mem_append.mp hs with hs | hs
    · rw [List.eq_of_mem_replicate hs]
      decide
    · obtain ⟨name, -, rfl⟩ := List.mem_map.mp hs
      exact name.colon_notMem
  generalize climb j targets = l at hhead hcolon
  unfold isAbsoluteText
  split
  · simp at hcolon
  · simpa using hhead

/-- Of the root only its segments are seen. -/
theorem segments_path (v : Volume) (names : List FileName) :
    segments '\\' (v.path names).toList = v.stem ++ texts names := by
  have hnames : segments '\\' (joinWith '\\' (texts names)) = texts names :=
    segments_joinWith fun s => isSegment_of_mem_texts
  rw [Volume.path, String.toList_ofList]
  cases v with
  | drive letter isAlpha =>
    have hne : '\\' ≠ letter := by
      rintro rfl
      exact absurd isAlpha (by decide)
    have hletter : IsSegment '\\' [letter, ':'] := ⟨List.cons_ne_nil _ _, by simp [hne]⟩
    have hsplit : Volume.root (.drive letter isAlpha) ++ joinWith '\\' (texts names) =
        [letter, ':'] ++ '\\' :: joinWith '\\' (texts names) := rfl
    rw [hsplit, segments_append, segments_of_isSegment hletter, hnames, Volume.stem]
  | share server name =>
    have hsplit : Volume.root (.share server name) ++ joinWith '\\' (texts names) =
        '\\' :: '\\' :: (server.text ++ '\\' :: (name.text ++ '\\' ::
          joinWith '\\' (texts names))) := by
      simp [Volume.root]
    rw [hsplit, segments_cons_self, segments_cons_self, segments_append, segments_append,
      segments_of_isSegment server.isSegment, segments_of_isSegment name.isSegment, hnames]
    rfl

theorem parentOf_path : parentOf '\\' (v.path (dirs ++ [link])).toList = v.stem ++ texts dirs := by
  rw [parentOf, segments_path, texts, List.map_append, ← List.append_assoc]
  exact List.dropLast_concat

/-- What a relative target reaches from some directories below what is never left. -/
theorem walk_climb (base : List (List Char)) (dirs : List FileName) (j : Nat)
    (targets : List FileName) :
    walk '\\' base.length (base ++ texts dirs) (climb j targets) =
      base ++ texts (dirs.take (dirs.length - j) ++ targets) := by
  have hsteps : ∀ s ∈ List.replicate j ['.', '.'] ++ texts targets, '\\' ∉ s :=
    fun s hs => (isSegment_of_mem_climb hs).2
  have hproper : ∀ s ∈ texts targets, IsProper s := by
    intro s hs
    obtain ⟨name, -, rfl⟩ := List.mem_map.mp hs
    exact name.isProper
  rw [climb, walk_joinWith hsteps, List.foldl_append, foldl_parents, foldl_names hproper]
  simp [texts, List.map_take]

/-! ## Links -/

/-- Where a link leads when `base` are the segments of its directory that are never left. -/
theorem resolve_climb (base : List (List Char)) (inside : List FileName)
    (hparent : v.stem ++ texts dirs = base ++ texts inside)
    (hfloor : floorOf '\\' (base ++ texts inside) = base.length) :
    resolve (v.path (dirs ++ [link])) (String.ofList (climb j targets)) '\\' =
      String.ofList (absolute '\\' base.length
        (base ++ texts (inside.take (inside.length - j) ++ targets))) := by
  have hdirectory : parentOf '\\' (v.path (dirs ++ [link])).toList = base ++ texts inside :=
    parentOf_path.trans hparent
  rw [resolve, String.toList_ofList,
    resolveText_of_relative (hdirectory ▸ hfloor) (isAbsoluteText_climb j targets), hdirectory,
    walk_climb]

/-- **From a drive a link leads to the drive**, at whose root steps up end. -/
theorem resolve_on_drive {letter : Char} {isAlpha : letter.isAlpha = true} :
    let v := Volume.drive letter isAlpha
    resolve (v.path (dirs ++ [link])) (String.ofList (climb j targets)) '\\' =
      v.path (dirs.take (dirs.length - j) ++ targets) := by
  intro v
  have hfloor : floorOf '\\' ([[letter, ':']] ++ texts dirs) = 1 := by simp [floorOf]
  rw [resolve_climb (v := v) [[letter, ':']] dirs rfl hfloor, List.length_singleton,
    List.singleton_append, absolute_one]
  rfl

/--
From a share a link leads to a path with one delimiter at its beginning, which is none of the
share, and steps up do not end at its root.
-/
theorem resolve_on_share {server name : FileName} :
    let v := Volume.share server name
    resolve (v.path (dirs ++ [link])) (String.ofList (climb j targets)) '\\' =
      String.ofList ('\\' :: joinWith '\\'
        (texts ((server :: name :: dirs).take (dirs.length + 2 - j) ++ targets))) := by
  intro v
  have hfloor : floorOf '\\' ([] ++ texts (server :: name :: dirs)) = 0 := by
    have hcolon : server.text.getLast? ≠ some ':' := fun h =>
      server.colon_notMem (List.mem_of_getLast? h)
    simp [texts, floorOf, hcolon]
  rw [resolve_climb (v := v) [] (server :: name :: dirs) rfl hfloor, List.length_nil,
    List.nil_append, absolute_zero]
  rfl

/--
**A relative link stays on its volume exactly if that is a drive.** From a share it leads to a path
with one delimiter at its beginning, in which server and share are directories like others.
-/
theorem link_stays_on_volume_iff (v : Volume) (dirs : List FileName) (link : FileName) (j : Nat)
    (targets : List FileName) :
    let reached := resolve (v.path (dirs ++ [link])) (String.ofList (climb j targets)) '\\'
    (reached = v.path (dirs.take (dirs.length - j) ++ targets) ↔ v.isDrive = true) ∧
      ∀ server name, v = .share server name →
        reached = String.ofList ('\\' :: joinWith '\\'
          (texts ((server :: name :: dirs).take (dirs.length + 2 - j) ++ targets))) := by
  cases v with
  | drive letter isAlpha =>
    exact ⟨iff_of_true resolve_on_drive rfl, fun _ _ h => by cases h⟩
  | share server name =>
    refine ⟨iff_of_false ?_ Bool.false_ne_true, ?_⟩
    · rw [resolve_on_share]
      intro h
      have htext := congrArg String.toList h
      rw [Volume.path, String.toList_ofList, String.toList_ofList] at htext
      -- a second delimiter would have to begin a name
      have hsecond := congrArg List.head? (List.cons.inj htext).2
      exact head?_joinWith (fun s => isSegment_of_mem_texts) hsecond
    · rintro _ _ ⟨⟩
      exact resolve_on_share

/-- More steps up than directories, from a drive. -/
theorem link_stops_at_drive :
    let a : FileName := ⟨['a'], by decide⟩
    let x : FileName := ⟨['x'], by decide⟩
    let v : Volume := .drive 'C' (by decide)
    v.path [a, a] = "C:\\a\\a" ∧ String.ofList (climb 2 [x]) = "..\\..\\x" ∧
      resolve "C:\\a\\a" "..\\..\\x" '\\' = "C:\\x" := by
  intro a x v
  have hpath : v.path [a, a] = "C:\\a\\a" := by decide
  have hclimb : String.ofList (climb 2 [x]) = "..\\..\\x" := by decide
  have hreached : v.path [x] = "C:\\x" := by decide
  refine ⟨hpath, hclimb, ?_⟩
  rw [← hpath, ← hclimb, ← hreached]
  exact (link_stays_on_volume_iff v [a] a 2 [x]).1.mpr rfl

/-- A step up from the root of a share should end there, but leads elsewhere. -/
theorem link_leaves_share :
    let server : FileName := ⟨"server".toList, by decide⟩
    let share : FileName := ⟨"share".toList, by decide⟩
    let l : FileName := ⟨['l'], by decide⟩
    let x : FileName := ⟨['x'], by decide⟩
    let v : Volume := .share server share
    v.path [l] = "\\\\server\\share\\l" ∧ String.ofList (climb 1 [x]) = "..\\x" ∧
      v.path [x] = "\\\\server\\share\\x" ∧
      resolve "\\\\server\\share\\l" "..\\x" '\\' = "\\server\\x" ∧
      resolve (v.path ([] ++ [l])) (String.ofList (climb 1 [x])) '\\' ≠
        v.path ([].take 0 ++ [x]) := by
  decide

end Windows

end RemoteSearch
