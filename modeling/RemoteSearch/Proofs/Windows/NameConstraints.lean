import RemoteSearch.Proofs.Windows.CacheKey

/-!
# Constraints on names in commands

What commands tell about constraints on last names, when neither a path nor a directory governs.
Searches for files tell which name is asked for, and the pattern in which the other constraints are
put together. Searches for directories tell nothing: constraints on names are accepted there, and
have no part in the command (`command_eq_iff`).
-/

namespace RemoteSearch.Windows

variable {q : Query} {f g : NameFilter}

/-! ## Parts of a search by name -/

/-- The arguments for constraints on names, each with the text before it. -/
def nameArguments (f : NameFilter) : List (List Char × List Char) :=
  (match f.equals with
    | some name => [(" -LiteralFilename ".toList, name.toList)]
    | none => []) ++
  (match nameSource f with
    | some source => [(" -Filename ".toList, source.toList)]
    | none => [])

/-- The text at the end of a command. -/
def tailText (depth : Option Nat) : List Char :=
  s!" -Depth {depthNumber depth} | Print-FileInfo".toList

theorem commandParts_of_files (hp : q.path = none) (hd : q.dirname = none)
    (hk : q.kind ≠ .directory) :
    commandParts q =
      ⟨("Find-Files -Path ".toList, (q.normalizedRoot '\\').toList) :: nameArguments q.basename,
        tailText q.depth⟩ := by
  have hb : q.branch = .basename q.basename := by simp [Query.branch, hp, hd]
  have hfind : findObjects q =
      call "Find-Files" (q.normalizedRoot '\\') ++ nameParameters q.basename := by
    unfold findObjects
    rw [hb]
    cases h : q.kind with
    | directory => exact absurd h hk
    | file => rfl
    | link => rfl
  unfold commandParts searchPieces
  rw [hfind]
  unfold nameParameters nameArguments tailText
  cases q.basename.equals with
  | none =>
    cases nameSource q.basename with
    | none => rfl
    | some source => rfl
  | some name =>
    cases nameSource q.basename with
    | none => rfl
    | some source => rfl

theorem nameArguments_inj (h : nameArguments f = nameArguments g) :
    f.equals = g.equals ∧ nameSource f = nameSource g := by
  unfold nameArguments at h
  have hne : " -LiteralFilename ".toList ≠ " -Filename ".toList := by decide
  cases hf : f.equals <;> cases hg : g.equals <;> cases hf' : nameSource f <;>
    cases hg' : nameSource g <;> simp_all [String.toList_inj]

/-- What is put together in a pattern is not lost: none is there exactly for no constraint. -/
theorem nameSource_eq_none_iff : nameSource f = none ↔ f.differs = none ∧ f.pattern = none := by
  unfold nameSource
  cases f.differs <;> cases f.pattern <;> simp

theorem isEmpty_iff : f.isEmpty = true ↔ f.equals = none ∧ nameSource f = none := by
  rw [nameSource_eq_none_iff]
  simp [NameFilter.isEmpty, and_assoc]

/-! ## What commands tell -/

theorem compiled_command_eq_iff {q₁ q₂ : Query} :
    (compiled q₁).command = (compiled q₂).command ↔ commandParts q₁ = commandParts q₂ := by
  have hw : ∀ q, (compiled q).command.toList = (commandParts q).write := fun q =>
    (write_parts (searchPieces q)).symm
  rw [← String.toList_inj, hw, hw]
  exact write_inj (isReadable_commandParts q₁) (isReadable_commandParts q₂)

/--
**What a command tells about constraints on names**: in a search for directories nothing at all, in
others which name is asked for and the pattern that is made of the rest.
-/
theorem command_eq_iff (hp : q.path = none) (hd : q.dirname = none) :
    (compiled { q with basename := f }).command = (compiled { q with basename := g }).command ↔
      q.kind = .directory ∨ f.equals = g.equals ∧ nameSource f = nameSource g := by
  by_cases hk : q.kind = .directory
  · have hfind : ∀ f, findObjects { q with basename := f } =
        call "Find-Directories" (q.normalizedRoot '\\') := by
      intro f
      unfold findObjects
      simp [Query.branch, hp, hd, hk, Query.normalizedRoot]
    have hpieces :
        searchPieces { q with basename := f } = searchPieces { q with basename := g } := by
      unfold searchPieces
      rw [hfind, hfind]
    unfold compiled
    rw [hpieces]
    simp [hk]
  · have hparts : ∀ f, commandParts { q with basename := f } =
        ⟨("Find-Files -Path ".toList, (q.normalizedRoot '\\').toList) :: nameArguments f,
          tailText q.depth⟩ := fun f => commandParts_of_files hp hd hk
    rw [compiled_command_eq_iff, hparts, hparts]
    constructor
    · intro h
      refine Or.inr (nameArguments_inj ?_)
      exact List.tail_eq_of_cons_eq (Parts.mk.inj h).1
    · rintro (h | ⟨he, hs⟩)
      · exact absurd h hk
      · simp only [nameArguments, he, hs]

/--
**Constraints on names are dropped exactly in searches for directories.** Take a query without
constraints on path and directory, and two constraints on names that ask for different names, or of
which only one is empty. Either the query is refused with both, for what it asks otherwise, or it
compiles with both; and then its commands are the same exactly if it looks for directories.
-/
theorem name_constraints_dropped_iff (hp : q.path = none) (hd : q.dirname = none)
    (h : f.equals ≠ g.equals ∨ f.isEmpty ≠ g.isEmpty) :
    (∃ what, compile { q with basename := f } = .error (unsupported what) ∧
        compile { q with basename := g } = .error (unsupported what)) ∨
      ∃ c c', compile { q with basename := f } = .ok c ∧
        compile { q with basename := g } = .ok c' ∧
        (c.command = c'.command ↔ q.kind = .directory) := by
  by_cases hf : q.followLinks = true
  · exact Or.inl ⟨"following links", by simp [compile, hf], by simp [compile, hf]⟩
  by_cases hk : q.kind = .link
  · exact Or.inl ⟨"link file type", by simp [compile, hf, hk], by simp [compile, hf, hk]⟩
  have hcompile : ∀ f, compile { q with basename := f } = .ok (compiled { q with basename := f }) :=
    fun f => compile_eq_ok_iff.mpr ⟨by simpa using hf, hk, rfl⟩
  refine Or.inr ⟨_, _, hcompile f, hcompile g, ?_⟩
  rw [command_eq_iff hp hd]
  constructor
  · rintro (hdir | ⟨he, hs⟩)
    · exact hdir
    · have hempty : f.isEmpty = g.isEmpty := by
        rw [Bool.eq_iff_iff, isEmpty_iff, isEmpty_iff, he, hs]
      rcases h with h | h
      · exact absurd he h
      · exact absurd hempty h
  · exact Or.inl

/-- A search for files tells a name from none. -/
theorem file_name_is_kept :
    let q : Query := { root := "C:\\" }
    let named : NameFilter := { equals := some "x" }
    ∃ c c', compile { q with basename := named } = .ok c ∧ compile q = .ok c' ∧
      c.command ≠ c'.command := by
  intro q named
  have hne : named.equals ≠ ({} : NameFilter).equals ∨ named.isEmpty ≠ ({} : NameFilter).isEmpty :=
    Or.inl (by decide)
  have hp : q.path = none := rfl
  have hd : q.dirname = none := rfl
  rcases name_constraints_dropped_iff hp hd hne with ⟨what, hw, -⟩ | ⟨c, c', hc, hc', hiff⟩
  · cases hw
  · exact ⟨c, c', hc, hc', fun he => by cases hiff.mp he⟩

/-- **A search for directories does not tell a name from none**: all directories are found. -/
theorem directory_name_is_dropped :
    let q : Query := { root := "C:\\", kind := .directory }
    let named : NameFilter := { equals := some "x" }
    ∃ c, compile { q with basename := named } = .ok c ∧ compile q = .ok c := by
  intro q named
  exact ⟨compiled q, rfl, rfl⟩

end RemoteSearch.Windows
