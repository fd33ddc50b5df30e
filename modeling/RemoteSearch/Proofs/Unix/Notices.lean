import Mathlib.Data.List.Basic
import RemoteSearch.Proofs.Unix.Mounts

/-!
# Notices of mounts

A host may tell of its mounts in sentences: the device, `on`, the path, and in brackets the type
and perhaps some options. Nothing in a path is escaped, so the path is what stands between the
first `on` and the last bracket that opens after a blank.

* `cutAtLast_append`: cutting at the last of a phrase.
* `mountOf_notice_iff`: a notice is read as its mount if its options do not open a bracket.
* `notices_read_back_iff`: and so are many, one under another.
-/

namespace RemoteSearch

open Text

variable {phrase a b l : List Char}

/-! ## The last of a phrase -/

/-- In `phrase` followed by `b`, the last occurrence of `phrase` is the one before `b`. -/
def Text.IsLastBefore (phrase b : List Char) : Prop :=
  ∀ x y, phrase ++ b = x ++ phrase ++ y → b.length ≤ y.length

theorem Text.isLastBefore_of_not_infix (h : ¬phrase <:+: (phrase ++ b).tail) :
    IsLastBefore phrase b := by
  intro x y hxy
  cases x with
  | nil => simp [List.append_cancel_left hxy]
  | cons c x =>
    refine absurd ⟨x, y, ?_⟩ h
    rw [hxy, List.cons_append, List.cons_append, List.tail_cons]

/-- **Cutting at the phrase that comes last.** -/
theorem Text.cutAtLast_append (h : IsLastBefore phrase b) (a : List Char) :
    cutAtLast phrase (a ++ (phrase ++ b)) = some (a, b) := by
  have hfirst : IsFirstAfter phrase.reverse b.reverse := by
    intro x y hxy
    have hback := congrArg List.reverse hxy
    simp only [List.reverse_append, List.reverse_reverse, ← List.append_assoc] at hback
    simpa using h _ _ hback
  have hcut := cutAt_append hfirst a.reverse
  simp [cutAtLast, hcut]

namespace Unix

/-- What stands before the path. -/
def onPhrase : List Char := [' ', 'o', 'n', ' ']

/-- What opens the bracket after the path. -/
def openPhrase : List Char := [' ', '(']

/-- Whether a bracket opens after a blank somewhere in a text. -/
def HasOpening (l : List Char) : Prop := openPhrase <:+: l

instance (l : List Char) : Decidable (HasOpening l) :=
  inferInstanceAs (Decidable (openPhrase <:+: l))

theorem not_hasOpening_of_isSolid (h : IsSolid l) : ¬HasOpening l := by
  intro hopen
  exact absurd (h ' ' (hopen.subset List.mem_cons_self)) (by decide)

/-- Two texts have no opening together that they do not have apart, or where they meet. -/
theorem HasOpening.of_append (h : HasOpening (a ++ b)) :
    HasOpening a ∨ HasOpening b ∨ a.getLast? = some ' ' ∧ b.head? = some '(' := by
  rcases List.infix_append_iff.mp h with h | h | ⟨x, y, hxy, hx, hy⟩
  · exact .inl h
  · exact .inr (.inl h)
  · -- the phrase has two characters, so it is cut in one of three ways
    rcases List.cons_eq_append_iff.mp hxy with ⟨-, rfl⟩ | ⟨x', rfl, hrest⟩
    · exact .inr (.inl hy.isInfix)
    · rcases List.singleton_eq_append_iff.mp hrest with ⟨rfl, rfl⟩ | ⟨rfl, rfl⟩
      · obtain ⟨front, rfl⟩ := hx
        obtain ⟨back, rfl⟩ := hy
        exact .inr (.inr ⟨by simp, by simp⟩)
      · exact .inl hx.isInfix

/-! ## Notices -/

/-- What a host tells of a mount. -/
structure Notice where
  device : List Char
  mount : Mount
  options : Option (List Char)
  device_noFeed : '\n' ∉ device
  /-- The first `on` of the line is the one after the device. -/
  on_first : IsFirstAfter onPhrase device
  rooted : mount.path.toList.head? = some '/'
  path_noFeed : '\n' ∉ mount.path.toList
  isColumn_type : IsColumn mount.fsType.toList
  comma_notMem : ',' ∉ mount.fsType.toList
  bracket_notMem : ')' ∉ mount.fsType.toList
  options_noFeed : ∀ o ∈ options, '\n' ∉ o
  options_noOpening : ∀ o ∈ options, ¬HasOpening o

namespace Notice

/-- The path of the mount. -/
def path (n : Notice) : List Char := n.mount.path.toList

/-- The type of the mount. -/
def type (n : Notice) : List Char := n.mount.fsType.toList

/-- What is printed after the type. -/
def ending (n : Notice) : List Char :=
  match n.options with
  | none => [')']
  | some o => ',' :: ' ' :: (o ++ [')'])

/-- The line of the mount. -/
def line (n : Notice) : List Char :=
  n.device ++ (onPhrase ++ (n.path ++ (openPhrase ++ (n.type ++ n.ending))))

/-- Whether the options begin with a bracket that opens. -/
def Opens (n : Notice) : Prop := ∃ o, n.options = some ('(' :: o)

variable (n : Notice)

theorem line_noFeed : '\n' ∉ n.line := by
  have htype : '\n' ∉ n.type := fun hmem => absurd (n.isColumn_type.1 _ hmem) (by decide)
  have hending : '\n' ∉ n.ending := by
    have hoptions := n.options_noFeed
    cases ho : n.options with
    | none => simp [ending, ho]
    | some o => simp [ending, ho, hoptions o ho]
  simp [line, onPhrase, openPhrase, n.device_noFeed, path, n.path_noFeed, htype, hending]

/-- A line ends in a bracket. -/
theorem getLast?_line : n.line.getLast? = some ')' := by
  have hending : ∃ front, n.ending = front ++ [')'] := by
    cases ho : n.options with
    | none => exact ⟨[], by simp [ending, ho]⟩
    | some o => exact ⟨',' :: ' ' :: o, by simp [ending, ho]⟩
  obtain ⟨front, hfront⟩ := hending
  simp [line, hfront, ← List.append_assoc]

theorem cutAt_line :
    cutAt onPhrase n.line = some (n.device, n.path ++ (openPhrase ++ (n.type ++ n.ending))) :=
  cutAt_append n.on_first _

/-- The text after the type opens a bracket only if the options begin with one. -/
theorem not_hasOpening_ending (h : ¬n.Opens) : ¬HasOpening n.ending := by
  cases ho : n.options with
  | none =>
    rw [ending, ho]
    exact not_hasOpening_of_isSolid (by decide)
  | some o =>
    have hsplit : n.ending = [',', ' '] ++ (o ++ [')']) := by simp [ending, ho]
    rw [hsplit]
    intro hopen
    rcases hopen.of_append with hopen | hopen | ⟨-, hhead⟩
    · exact absurd hopen (by decide)
    · rcases hopen.of_append with hopen | hopen | ⟨-, hhead⟩
      · exact n.options_noOpening o ho hopen
      · exact absurd hopen (by decide)
      · cases hhead
    · -- here the blank behind the comma meets the options
      cases o with
      | nil => cases hhead
      | cons c o =>
        obtain rfl : c = '(' := by simpa using hhead
        exact h ⟨o, ho⟩

/-- Behind the bracket before the type none is opened but by the options. -/
theorem not_hasOpening (h : ¬n.Opens) : ¬HasOpening ('(' :: (n.type ++ n.ending)) := by
  have hfront : IsSolid ('(' :: n.type) := List.forall_mem_cons.mpr ⟨by decide, n.isColumn_type.1⟩
  rw [← List.cons_append]
  intro hopen
  rcases hopen.of_append with hopen | hopen | ⟨hblank, -⟩
  · exact not_hasOpening_of_isSolid hfront hopen
  · exact n.not_hasOpening_ending h hopen
  · exact absurd (hfront _ (List.mem_of_getLast? hblank)) (by decide)

/-- The type ends where the options or the closing bracket begin. -/
theorem takeWhile_type :
    (n.type ++ n.ending).takeWhile (fun c => c != ',' && c != ')') = n.type := by
  have hplain : ∀ c ∈ n.type, (c != ',' && c != ')') = true := by
    intro c hc
    have hcomma : c ≠ ',' := fun he => n.comma_notMem (he ▸ hc)
    have hbracket : c ≠ ')' := fun he => n.bracket_notMem (he ▸ hc)
    simp [hcomma, hbracket]
  rw [List.takeWhile_append_of_pos hplain]
  cases ho : n.options with
  | none => simp [ending, ho]
  | some o => simp [ending, ho]

/-- What is read of a notice, by the two cuts. -/
theorem readBracketed_of_cutAtLast {path rest : List Char}
    (h : cutAtLast openPhrase (n.path ++ (openPhrase ++ (n.type ++ n.ending))) =
      some (path, rest)) :
    readBracketed n.line = some (path, trim (rest.takeWhile fun c => c != ',' && c != ')')) := by
  have hon : cutAt [' ', 'o', 'n', ' '] n.line =
      some (n.device, n.path ++ (openPhrase ++ (n.type ++ n.ending))) := n.cutAt_line
  have hopen : cutAtLast [' ', '('] (n.path ++ (openPhrase ++ (n.type ++ n.ending))) =
      some (path, rest) := h
  simp only [readBracketed, hon, hopen, Option.bind_eq_bind, Option.bind_some]

theorem readBracketed_line (h : ¬n.Opens) : readBracketed n.line = some (n.path, n.type) := by
  have hlast : IsLastBefore openPhrase (n.type ++ n.ending) :=
    isLastBefore_of_not_infix (n.not_hasOpening h)
  have htrim : trim n.type = n.type := trim_of_isSolid n.isColumn_type.1
  rw [n.readBracketed_of_cutAtLast (cutAtLast_append hlast n.path), n.takeWhile_type, htrim]

/-- A bracket that the options open is taken for the one before the type. -/
theorem readBracketed_of_opens (h : n.Opens) :
    ∃ fsType, readBracketed n.line =
      some (n.path ++ (openPhrase ++ (n.type ++ [','])), fsType) := by
  obtain ⟨o, ho⟩ := h
  have hnone : ¬HasOpening ('(' :: o ++ [')']) := by
    intro hopen
    rcases hopen.of_append with hopen | hopen | ⟨-, hhead⟩
    · exact n.options_noOpening _ ho hopen
    · exact absurd hopen (by decide)
    · cases hhead
  have hlast : IsLastBefore openPhrase (o ++ [')']) := isLastBefore_of_not_infix hnone
  have hsplit : n.path ++ (openPhrase ++ (n.type ++ n.ending)) =
      n.path ++ (openPhrase ++ (n.type ++ [','])) ++ (openPhrase ++ (o ++ [')'])) := by
    simp [ending, ho, openPhrase]
  have hcut := cutAtLast_append hlast (n.path ++ (openPhrase ++ (n.type ++ [','])))
  rw [← hsplit] at hcut
  exact ⟨_, n.readBracketed_of_cutAtLast hcut⟩

end Notice

/-- A notice is read as a mount, whatever the path is taken to be. -/
theorem mountOf_notice {n : Notice} {more fsType : List Char} (i : Nat)
    (h : readBracketed n.line = some (n.path ++ more, fsType)) :
    mountOf .bracketed i n.line = some ⟨String.ofList (n.path ++ more), String.ofList fsType⟩ := by
  have hblank : n.line.all isBlank = false :=
    List.all_eq_false.mpr ⟨')', List.mem_of_getLast? n.getLast?_line, by decide⟩
  have hslash : (n.path ++ more).head? = some '/' := by
    obtain ⟨rest, hpath⟩ := List.head?_eq_some_iff.mp n.rooted
    rw [Notice.path, hpath]
    rfl
  simp [mountOf, readMountLine, h, hblank, hslash]

/-- **A notice is read as its mount exactly if its options do not begin with a bracket.** -/
theorem mountOf_notice_iff (n : Notice) (i : Nat) :
    mountOf .bracketed i n.line = some n.mount ↔ ¬n.Opens := by
  constructor
  · intro h hopens
    obtain ⟨fsType, hread⟩ := n.readBracketed_of_opens hopens
    rw [mountOf_notice i hread] at h
    have hpath := congrArg (fun m => m.path.toList) (Option.some.inj h)
    rw [String.toList_ofList, ← Notice.path] at hpath
    simp [openPhrase] at hpath
  · intro h
    have hread := n.readBracketed_line h
    rw [← List.append_nil n.path] at hread
    rw [mountOf_notice i hread, List.append_nil, Notice.path, Notice.type, String.ofList_toList,
      String.ofList_toList]

/-- The text of some notices. -/
def noticeText (notices : List Notice) : String :=
  String.ofList ((notices.map Notice.line).flatMap fun line => line ++ ['\n'])

/--
**Notices of mounts read back exactly if no options begin with a bracket**, in order, and whatever
the paths hold.
-/
theorem notices_read_back_iff (notices : List Notice) :
    readMounts .bracketed (noticeText notices) = notices.map Notice.mount ↔
      ∀ n ∈ notices, ¬n.Opens := by
  have hlines : readMounts .bracketed (noticeText notices) =
      notices.filterMap fun n => mountOf .bracketed 0 n.line :=
    readMounts_lines (by decide) notices (fun n _ => n.line_noFeed)
      fun n _ => by rw [n.getLast?_line]; decide
  rw [hlines, List.filterMap_eq_map_iff_forall_eq_some]
  exact forall₂_congr fun n _ => mountOf_notice_iff n 0

/-- A path with every sign of a notice in it and blanks at its end, and a mount without options. -/
theorem crowded_path_reads_back :
    let mounts : List Mount := [⟨"/a on b (hfs, local) [x], (y  ", "smbfs"⟩, ⟨"/", "apfs"⟩]
    let text := "//me@nas/s on /a on b (hfs, local) [x], (y   (smbfs, nodev, no suid)\n" ++
      "/dev/disk1s1 on / (apfs)\n"
    ∃ notices : List Notice, notices.map Notice.mount = mounts ∧ noticeText notices = text ∧
      (∀ n ∈ notices, ¬n.Opens) ∧ readMounts .bracketed text = mounts := by
  intro mounts text
  let crowded : Notice :=
    { device := "//me@nas/s".toList
      mount := ⟨"/a on b (hfs, local) [x], (y  ", "smbfs"⟩
      options := some "nodev, no suid".toList
      device_noFeed := by decide +kernel
      on_first := by decide +kernel
      rooted := by decide +kernel
      path_noFeed := by decide +kernel
      isColumn_type := by decide +kernel
      comma_notMem := by decide +kernel
      bracket_notMem := by decide +kernel
      options_noFeed := by decide +kernel
      options_noOpening := by decide +kernel }
  let bare : Notice :=
    { device := "/dev/disk1s1".toList
      mount := ⟨"/", "apfs"⟩
      options := none
      device_noFeed := by decide +kernel
      on_first := by decide +kernel
      rooted := by decide +kernel
      path_noFeed := by decide +kernel
      isColumn_type := by decide +kernel
      comma_notMem := by decide +kernel
      bracket_notMem := by decide +kernel
      options_noFeed := by decide +kernel
      options_noOpening := by decide +kernel }
  have htext : noticeText [crowded, bare] = text := by decide +kernel
  have hopens : ∀ n ∈ [crowded, bare], ¬n.Opens := by
    simp [crowded, bare, Notice.Opens]
  refine ⟨[crowded, bare], rfl, htext, hopens, ?_⟩
  rw [← htext]
  exact (notices_read_back_iff [crowded, bare]).mpr hopens

/--
Options that begin with a bracket are taken for the type, and what stands before them for the
path. No reader could do better: the same line tells of a mount with just this path and type.
-/
theorem opened_options_move_type :
    let text := "/dev/disk4 on /Volumes/a (hfs, (local)\n"
    let moved : Mount := ⟨"/Volumes/a (hfs,", "local"⟩
    (∃ n : Notice, n.mount = ⟨"/Volumes/a", "hfs"⟩ ∧ noticeText [n] = text) ∧
      (∃ n : Notice, n.mount = moved ∧ noticeText [n] = text) ∧
      readMounts .bracketed text = [moved] := by
  intro text moved
  let opened : Notice :=
    { device := "/dev/disk4".toList
      mount := ⟨"/Volumes/a", "hfs"⟩
      options := some "(local".toList
      device_noFeed := by decide +kernel
      on_first := by decide +kernel
      rooted := by decide +kernel
      path_noFeed := by decide +kernel
      isColumn_type := by decide +kernel
      comma_notMem := by decide +kernel
      bracket_notMem := by decide +kernel
      options_noFeed := by decide +kernel
      options_noOpening := by decide +kernel }
  let other : Notice :=
    { device := "/dev/disk4".toList
      mount := moved
      options := none
      device_noFeed := by decide +kernel
      on_first := by decide +kernel
      rooted := by decide +kernel
      path_noFeed := by decide +kernel
      isColumn_type := by decide +kernel
      comma_notMem := by decide +kernel
      bracket_notMem := by decide +kernel
      options_noFeed := by decide +kernel
      options_noOpening := by decide +kernel }
  exact ⟨⟨opened, rfl, by decide +kernel⟩, ⟨other, rfl, by decide +kernel⟩, by decide +kernel⟩

end Unix

end RemoteSearch
