import Mathlib.Data.List.TakeWhile
import RemoteSearch.Proofs.Text.Encoding
import RemoteSearch.Proofs.Transfer.Lines
import RemoteSearch.Proofs.Unix.Listing
import RemoteSearch.Unix.Mounts

/-!
# Tables of mounts and their mounts

A kernel prints one line for each mount, with a space between its columns, and writes the four
characters that would be taken for something else in a path, space, tab, line feed and backslash,
as a backslash and three octal digits.

* `unescapeOctal_mangled`: a path is read back from what is printed for it.
* `mountOf_line`: a line is read as one mount, and its path stops at the first blank that is not
  escaped.
* `mount_table_reads_back_iff`: so a table reads back exactly if its paths have no such blank.
-/

namespace RemoteSearch

open Text

variable {bytes : List UInt8} {c : Char} {l r : List Char}

/-! ## Octal escapes -/

namespace Unix

/-- Whether a kernel escapes a character. -/
def isMangled (c : Char) : Bool := [' ', '\t', '\n', '\\'].contains c

/-- What is printed for a character of a path. -/
def mangledChar (c : Char) : List Char :=
  let n := c.toNat
  if isMangled c then ['\\', (n / 64).digitChar, (n / 8 % 8).digitChar, (n % 8).digitChar] else [c]

/-- What is printed for a path. -/
def mangled (path : List Char) : List Char := path.flatMap mangledChar

theorem isMangled_iff : isMangled c = true ↔ c = ' ' ∨ c = '\t' ∨ c = '\n' ∨ c = '\\' := by
  simp [isMangled]

/-- Bytes without a backslash stay as they are. -/
theorem unescapeBytes_append (h : 92 ∉ bytes) (more : List UInt8) :
    unescapeBytes (bytes ++ more) = bytes ++ unescapeBytes more := by
  induction bytes with
  | nil => rfl
  | cons b bytes ih =>
    have hb : b ≠ 92 := fun he => h (he ▸ List.mem_cons_self)
    have hbytes : 92 ∉ bytes := fun hmem => h (List.mem_cons_of_mem _ hmem)
    rw [List.cons_append, unescapeBytes, ih hbytes, List.cons_append]
    exact fun _ _ _ _ he => absurd he hb

theorem unescapeBytes_mangledChar (c : Char) (more : List UInt8) :
    unescapeBytes (Utf8.encode (mangledChar c) ++ more) =
      Utf8.encodeChar c ++ unescapeBytes more := by
  by_cases hc : isMangled c = true
  · rcases isMangled_iff.mp hc with rfl | rfl | rfl | rfl <;> rfl
  · have hback : 92 ∉ Utf8.encodeChar c := by
      intro hmem
      have hn := Utf8.toNat_eq_of_mem_encodeChar hmem (by decide)
      have he : c = '\\' := Char.toNat_inj.mp hn
      exact hc (he ▸ rfl)
    have hplain : Utf8.encode (mangledChar c) = Utf8.encodeChar c := by
      rw [mangledChar, if_neg hc, Utf8.encode, List.flatMap_singleton]
    rw [hplain, unescapeBytes_append hback]

theorem unescapeBytes_mangled (path : List Char) :
    unescapeBytes (Utf8.encode (mangled path)) = Utf8.encode path := by
  induction path with
  | nil => rfl
  | cons c path ih =>
    have hsplit : Utf8.encode (mangled (c :: path)) =
        Utf8.encode (mangledChar c) ++ Utf8.encode (mangled path) := by
      rw [mangled, List.flatMap_cons, Utf8.encode, List.flatMap_append]
      rfl
    rw [hsplit, unescapeBytes_mangledChar, ih]
    rfl

/-- **A path is read back from what is printed for it.** -/
theorem unescapeOctal_mangled (path : List Char) : unescapeOctal (mangled path) = path := by
  rw [unescapeOctal, unescapeBytes_mangled]
  exact Encoding.decode_encode .utf8 path

/-! ## Blanks in paths -/

/-- Whether a character of a path does not end the word that is printed. -/
def staysInWord (c : Char) : Bool := !isBlank c || isMangled c

theorem isSolid_mangledChar (h : staysInWord c = true) : IsSolid (mangledChar c) := by
  by_cases hc : isMangled c = true
  · rcases isMangled_iff.mp hc with rfl | rfl | rfl | rfl <;> decide
  · rw [mangledChar, if_neg hc]
    rintro d hd
    rw [List.mem_singleton.mp hd]
    simpa [staysInWord, hc] using h

/-- The word that is printed goes as far as its path has no blank that is left as it is. -/
theorem takeWhile_mangled (path : List Char) :
    (mangled path).takeWhile (!isBlank ·) = mangled (path.takeWhile staysInWord) := by
  induction path with
  | nil => rfl
  | cons c path ih =>
    rw [mangled, List.flatMap_cons, ← mangled]
    by_cases hc : staysInWord c = true
    · have hsolid : ∀ d ∈ mangledChar c, (!isBlank d) = true := by
        intro d hd
        rw [isSolid_mangledChar hc d hd]
        rfl
      rw [List.takeWhile_append_of_pos hsolid, ih, List.takeWhile_cons_of_pos hc, mangled, mangled,
        List.flatMap_cons]
    · obtain ⟨hblank, hplain⟩ : isBlank c = true ∧ isMangled c = false := by
        simpa [staysInWord] using hc
      rw [List.takeWhile_cons_of_neg hc, mangledChar, hplain]
      simp [hblank, mangled]

/-! ## Rows -/

/-- What a kernel tells of a mount. -/
structure Row where
  device : List Char
  mount : Mount
  options : List Char
  isColumn_device : IsColumn device
  rooted : mount.path.toList.head? = some '/'
  isColumn_type : IsColumn mount.fsType.toList
  options_noFeed : '\n' ∉ options

namespace Row

/-- The path of the mount. -/
def path (row : Row) : List Char := row.mount.path.toList

/-- What is printed after the path. -/
def ending (row : Row) : List Char :=
  ' ' :: (row.mount.fsType.toList ++ ' ' :: (row.options ++ [' ', '0', ' ', '0']))

/-- The line of the mount. -/
def line (row : Row) : List Char := row.device ++ ' ' :: (mangled row.path ++ row.ending)

/-- Whether no blank of the path is left as it is. -/
def IsWhole (row : Row) : Prop := ∀ c ∈ row.path, isBlank c = true → isMangled c = true

instance (row : Row) : Decidable row.IsWhole :=
  List.decidableBAll (fun c => isBlank c = true → isMangled c = true) row.path

end Row

/-- The table of some mounts. -/
def tableText (rows : List Row) : String :=
  String.ofList ((rows.map Row.line).flatMap fun line => line ++ ['\n'])

theorem wordsOf_of_nextWord {w : List Char} (h : nextWord l = some (w, r)) :
    wordsOf l = w :: wordsOf r := by
  rw [wordsOf]
  split
  · next hnone => rw [h] at hnone; cases hnone
  · next hsome =>
    rw [h] at hsome
    cases hsome
    rfl

/-- A text with anything but blanks has a word. -/
theorem exists_nextWord (hc : c ∈ l) (hsolid : isBlank c = false) :
    ∃ w r, nextWord l = some (w, r) := by
  unfold nextWord
  split
  · next hnil =>
    have hblank := List.dropWhile_eq_nil_iff.mp hnil c hc
    rw [hsolid] at hblank
    cases hblank
  · exact ⟨_, _, rfl⟩

namespace Row

variable (row : Row)

theorem exists_path : ∃ rest, row.path = '/' :: rest := List.head?_eq_some_iff.mp row.rooted

theorem takeWhile_path (h : row.IsWhole) : row.path.takeWhile staysInWord = row.path := by
  refine List.takeWhile_eq_self_iff.mpr fun c hc => ?_
  cases hblank : isBlank c with
  | false => simp [staysInWord, hblank]
  | true => simp [staysInWord, h c hc hblank]

theorem nextWord_line :
    nextWord row.line = some (row.device, ' ' :: (mangled row.path ++ row.ending)) := by
  refine nextWord_append (a := []) nofun row.isColumn_device.1 row.isColumn_device.2 ?_
  rintro c ⟨⟩
  rfl

/-- After the device comes the path, or what stands before the first blank in it. -/
theorem nextWord_path :
    nextWord (' ' :: (mangled row.path ++ row.ending)) =
      some (mangled (row.path.takeWhile staysInWord),
        (mangled row.path).dropWhile (!isBlank ·) ++ row.ending) := by
  obtain ⟨rest, hpath⟩ := row.exists_path
  have hparts : mangled (row.path.takeWhile staysInWord) ++
      (mangled row.path).dropWhile (!isBlank ·) = mangled row.path := by
    rw [← takeWhile_mangled, List.takeWhile_append_dropWhile]
  have hsplit : ' ' :: (mangled row.path ++ row.ending) =
      [' '] ++ (mangled (row.path.takeWhile staysInWord) ++
        ((mangled row.path).dropWhile (!isBlank ·) ++ row.ending)) := by
    rw [← List.append_assoc (mangled _), hparts]
    rfl
  rw [hsplit]
  refine nextWord_append (by decide) ?_ ?_ ?_
  · intro c hc
    rw [← takeWhile_mangled] at hc
    simpa using List.mem_takeWhile_imp hc
  · -- the slash is printed as it is
    rw [hpath]
    exact List.cons_ne_nil _ _
  · have hbreak := List.head?_dropWhile_not (!isBlank ·) (mangled row.path)
    cases hdrop : (mangled row.path).dropWhile (!isBlank ·) with
    | nil =>
      rintro c ⟨⟩
      rfl
    | cons d more =>
      rintro c ⟨⟩
      simpa [hdrop] using hbreak

/-- And then the type, if the path is whole. -/
theorem nextWord_ending :
    ∃ rest, nextWord row.ending = some (row.mount.fsType.toList, rest) := by
  refine ⟨_, nextWord_append (a := [' ']) (by decide) row.isColumn_type.1 row.isColumn_type.2 ?_⟩
  rintro c ⟨⟩
  rfl

/-- The first three words of a line. -/
theorem exists_wordsOf_line :
    ∃ fsType more, wordsOf row.line =
        row.device :: mangled (row.path.takeWhile staysInWord) :: fsType :: more ∧
      (row.IsWhole → fsType = row.mount.fsType.toList) := by
  obtain ⟨rest, hending⟩ := row.nextWord_ending
  rw [wordsOf_of_nextWord row.nextWord_line, wordsOf_of_nextWord row.nextWord_path]
  by_cases hwhole : row.IsWhole
  · have hdrop : (mangled row.path).dropWhile (!isBlank ·) = [] := by
      have htake := takeWhile_mangled row.path
      rw [row.takeWhile_path hwhole, List.takeWhile_eq_self_iff] at htake
      exact List.dropWhile_eq_nil_iff.mpr htake
    rw [hdrop, List.nil_append, wordsOf_of_nextWord hending]
    exact ⟨_, _, rfl, fun _ => rfl⟩
  · -- whatever the path goes on with, the type is still to come
    obtain ⟨c, hc⟩ := List.exists_mem_of_ne_nil _ row.isColumn_type.2
    have hmem : c ∈ (mangled row.path).dropWhile (!isBlank ·) ++ row.ending :=
      List.mem_append_right _ (List.mem_cons_of_mem _ (List.mem_append_left _ hc))
    obtain ⟨w, r, hnext⟩ := exists_nextWord hmem (row.isColumn_type.1 c hc)
    rw [wordsOf_of_nextWord hnext]
    exact ⟨w, _, rfl, fun h => absurd h hwhole⟩

theorem line_noFeed : '\n' ∉ row.line := by
  have hsolid : ∀ w, IsSolid w → '\n' ∉ w := fun w hw hmem => absurd (hw _ hmem) (by decide)
  have hmangled : '\n' ∉ mangled row.path := by
    intro hmem
    obtain ⟨c, -, hc⟩ := List.mem_flatMap.mp hmem
    by_cases hm : isMangled c = true
    · rcases isMangled_iff.mp hm with rfl | rfl | rfl | rfl <;> exact absurd hc (by decide)
    · rw [mangledChar, if_neg hm, List.mem_singleton] at hc
      exact hm (hc ▸ rfl)
  have hending : '\n' ∉ row.ending := by
    simp [ending, hsolid _ row.isColumn_type.1, row.options_noFeed]
  simp [line, hsolid _ row.isColumn_device.1, hmangled, hending]

/-- A line ends in a zero. -/
theorem getLast?_line : row.line.getLast? = some '0' := by
  have hline : row.line = row.device ++ ' ' :: (mangled row.path ++
      ' ' :: (row.mount.fsType.toList ++ ' ' :: (row.options ++ [' ', '0', ' ']))) ++ ['0'] := by
    simp [line, ending]
  rw [hline, List.getLast?_concat]

end Row

/-- **A line is read as one mount, whose path stops at the first blank left as it is.** -/
theorem mountOf_line (row : Row) (i : Nat) :
    ∃ fsType, mountOf .escapedTable i row.line =
        some ⟨String.ofList (row.path.takeWhile staysInWord), fsType⟩ ∧
      (row.IsWhole → fsType = row.mount.fsType) := by
  obtain ⟨fsType, more, hwords, htype⟩ := row.exists_wordsOf_line
  obtain ⟨rest, hpath⟩ := row.exists_path
  have hread : readMountLine .escapedTable i row.line =
      some (row.path.takeWhile staysInWord, fsType) := by
    simp [readMountLine, hwords, twoWords, unescapeOctal_mangled]
  have hslash : (row.path.takeWhile staysInWord).head? = some '/' := by
    rw [hpath]
    rfl
  have hblank : row.line.all isBlank = false := by
    obtain ⟨c, hc⟩ := List.exists_mem_of_ne_nil _ row.isColumn_device.2
    exact List.all_eq_false.mpr
      ⟨c, List.mem_append_left _ hc, by simp [row.isColumn_device.1 c hc]⟩
  refine ⟨String.ofList fsType, ?_, fun h => ?_⟩
  · simp [mountOf, hread, hslash, hblank]
  · rw [htype h, String.ofList_toList]

theorem mountOf_line_eq_iff (row : Row) (i : Nat) :
    mountOf .escapedTable i row.line = some row.mount ↔ row.IsWhole := by
  obtain ⟨fsType, hread, htype⟩ := mountOf_line row i
  rw [hread]
  constructor
  · intro h c hc hblank
    have hpath : row.path.takeWhile staysInWord = row.path := by
      have he := congrArg (fun m => m.path.toList) (Option.some.inj h)
      rwa [String.toList_ofList] at he
    have hstays := List.takeWhile_eq_self_iff.mp hpath c hc
    simpa [staysInWord, hblank] using hstays
  · intro h
    rw [row.takeWhile_path h, htype h, Row.path, String.ofList_toList]

/-! ## Tables -/

/-- Lines that have no carriage return at the end are the lines of their text. -/
theorem linesOf_flatMap {lines : List (List Char)} (hfeed : ∀ line ∈ lines, '\n' ∉ line)
    (hreturn : ∀ line ∈ lines, line.getLast? ≠ some '\r') :
    linesOf (lines.flatMap fun line => line ++ ['\n']) = lines := by
  have hdivided : Transfer.IsDivided (lines.flatMap fun line => line ++ ['\n']) lines [] :=
    ⟨(List.append_nil _).symm, hfeed, List.not_mem_nil⟩
  have hdrop : lines.map dropReturn = lines := by
    refine (List.map_congr_left fun line hl => ?_).trans (List.map_id lines)
    unfold dropReturn
    split
    · next hlast => exact absurd hlast (hreturn line hl)
    · rfl
  simp only [linesOf, hdivided.splitAt_eq, List.dropLast_concat, List.getLast?_concat, hdrop]

/-- Only in tables with headings does the number of a line count. -/
theorem readMounts_of_ne_columns {style : MountStyle} (h : style ≠ .columns) (output : String) :
    readMounts style output = (linesOf output.toList).filterMap (mountOf style 0) := by
  have hindex : readMounts style output =
      (linesOf output.toList).zipIdx.filterMap (mountOf style 0 ∘ Prod.fst) := by
    cases style with
    | columns => exact absurd rfl h
    | table => rfl
    | escapedTable => rfl
    | bracketed => rfl
  rw [hindex, ← List.filterMap_map, List.zipIdx_map_fst]

/-- **Mounts are read from each line by itself** when their lines are put one under another. -/
theorem readMounts_lines {α : Type} {style : MountStyle} (h : style ≠ .columns) (rows : List α)
    {lineOf : α → List Char} (hfeed : ∀ row ∈ rows, '\n' ∉ lineOf row)
    (hreturn : ∀ row ∈ rows, (lineOf row).getLast? ≠ some '\r') :
    readMounts style (String.ofList ((rows.map lineOf).flatMap fun line => line ++ ['\n'])) =
      rows.filterMap fun row => mountOf style 0 (lineOf row) := by
  have hlines : linesOf ((rows.map lineOf).flatMap fun line => line ++ ['\n']) =
      rows.map lineOf :=
    linesOf_flatMap (by simpa using hfeed) (by simpa using hreturn)
  rw [readMounts_of_ne_columns h, String.toList_ofList, hlines, List.filterMap_map]
  rfl

theorem readMounts_tableText (rows : List Row) :
    readMounts .escapedTable (tableText rows) =
      rows.filterMap fun row => mountOf .escapedTable 0 row.line :=
  readMounts_lines (by decide) rows (fun row _ => row.line_noFeed)
    fun row _ => by rw [row.getLast?_line]; decide

/--
**A table of mounts reads back exactly if its paths have no blanks but those that are escaped.**
There is a mount for each row, in order, and its path goes as far as the first blank that the
kernel prints as it is.
-/
theorem mount_table_reads_back_iff (rows : List Row) :
    (readMounts .escapedTable (tableText rows)).map Mount.path =
        rows.map (fun row => String.ofList (row.path.takeWhile staysInWord)) ∧
      (readMounts .escapedTable (tableText rows) = rows.map Row.mount ↔
        ∀ row ∈ rows, row.IsWhole) := by
  rw [readMounts_tableText]
  induction rows with
  | nil => simp
  | cons row rows ih =>
    obtain ⟨fsType, hread, -⟩ := mountOf_line row 0
    have hiff := mountOf_line_eq_iff row 0
    rw [hread, Option.some_inj] at hiff
    simp only [List.filterMap_cons, hread]
    refine ⟨?_, ?_⟩
    · rw [List.map_cons, ih.1, List.map_cons]
    · rw [List.map_cons, List.cons_eq_cons, hiff, ih.2, List.forall_mem_cons]

/-- A name with each of the escaped characters, one that looks like an escape, and an accent. -/
theorem escaped_path_reads_back :
    let m : Mount := ⟨"/mnt/é \t\n\\040", "ext4"⟩
    let table := "/dev/sdb1 /mnt/é\\040\\011\\012\\134040 ext4 rw 0 0\n"
    ∃ row : Row, row.mount = m ∧ tableText [row] = table ∧
      readMounts .escapedTable table = [m] := by
  intro m table
  let row : Row :=
    { device := "/dev/sdb1".toList
      mount := m
      options := "rw".toList
      isColumn_device := by decide +kernel
      rooted := by decide +kernel
      isColumn_type := by decide +kernel
      options_noFeed := by decide +kernel }
  have htable : tableText [row] = table := by decide +kernel
  have hwhole : row.IsWhole := by decide +kernel
  refine ⟨row, rfl, htable, ?_⟩
  rw [← htable]
  exact (mount_table_reads_back_iff [row]).2.mpr (by simpa using hwhole)

/-- A space that does not break ends a path, and the rest of the path is taken for the type. -/
theorem unbroken_space_ends_path :
    let m : Mount := ⟨"/mnt/a\u00a0b", "ext4"⟩
    let table := "/dev/sdb1 /mnt/a\u00a0b ext4 rw 0 0\n"
    ∃ row : Row, row.mount = m ∧ tableText [row] = table ∧
      readMounts .escapedTable table = [⟨"/mnt/a", "b"⟩] := by
  intro m table
  let row : Row :=
    { device := "/dev/sdb1".toList
      mount := m
      options := "rw".toList
      isColumn_device := by decide +kernel
      rooted := by decide +kernel
      isColumn_type := by decide +kernel
      options_noFeed := by decide +kernel }
  exact ⟨row, rfl, by decide +kernel, by decide +kernel⟩

end Unix

end RemoteSearch
