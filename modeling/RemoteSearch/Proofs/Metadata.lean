import RemoteSearch.Platform
import RemoteSearch.Proofs.Path.Links
import RemoteSearch.Proofs.Result

/-!
# Well-formed records

What holds of every record that is read from a host, whatever the host has sent.

* `isConsistent_of_make?`: the constructor of records ties kind, link target and canonical path
  together, and readers only fill in what it leaves open.
* `Unix.parts_of_readClean`: what a record is made of that is read from a line of a listing.
* `Unix.isListed_of_readClean`: what every line of a listing makes of a record.
* `records_are_well_formed`: the records of each platform.
-/

namespace RemoteSearch

open Text
open Calendar (Instant)

variable {r : Metadata}

/-! ## Links -/

/-- Links have targets and nothing else has, and the canonical path is where a target leads. -/
structure Metadata.IsConsistent (delimiter : Char) (r : Metadata) : Prop where
  link_iff : r.fileType = .link ↔ r.linkTarget.isSome
  canonical : r.canonicalPath =
    match r.linkTarget with
    | some target => Path.resolve r.path target delimiter
    | none => r.path

section Make

variable {kind : FileType} {path : String} {target : Option String} {d : Char}

/-- **A record can only be made consistent.** -/
theorem isConsistent_of_make? (h : Metadata.make? kind path target d = .ok r) :
    r.IsConsistent d ∧ r.fileType = kind ∧ r.path = path := by
  cases target with
  | none =>
    cases kind <;> cases h <;> exact ⟨⟨by simp, rfl⟩, rfl, rfl⟩
  | some target =>
    cases kind <;> cases h
    exact ⟨⟨by simp, rfl⟩, rfl, rfl⟩

/-- And what only some platforms tell is left open then. -/
theorem open_of_make? (h : Metadata.make? kind path target d = .ok r) :
    r.created = none ∧ r.accessed = none ∧ r.unix = none := by
  cases target with
  | none => cases kind <;> cases h <;> exact ⟨rfl, rfl, rfl⟩
  | some target =>
    cases kind <;> cases h
    exact ⟨rfl, rfl, rfl⟩

end Make

/-! ## Listings -/

namespace Unix

/-- What a listing tells of an object, and what it does not. -/
structure IsListed (r : Metadata) : Prop where
  path_ne : r.path ≠ ""
  path_first : ∀ c ∈ r.path.toList.head?, isBlank c = false
  link_absolute : r.fileType = .link → r.canonicalPath.toList.head? = some '/'
  attributes : r.unix.isSome
  device : ∀ a, r.unix = some a → a.device.isSome → r.fileType.isDevice
  device_size : r.fileType.isDevice → r.size = 0
  created : r.created = none
  accessed : r.accessed = none

/-- The path of a name begins where the name does: before an arrow there is something. -/
theorem head?_of_nameParts {kind : FileType} {line name path : List Char} {target : Option String}
    (hname : ∀ c ∈ name.head?, isBlank c = false)
    (h : nameParts kind line name = .ok (path, target)) : path.head? = name.head? := by
  unfold nameParts at h
  split at h
  · obtain ⟨⟨front, back⟩, hcut, h⟩ := ok_of_bind h
    cases h
    cases hc : cutAt [' ', '-', '>', ' '] name with
    | none =>
      rw [hc] at hcut
      cases hcut
    | some parts =>
      rw [hc] at hcut
      cases hcut
      -- a name that began with the arrow would begin with a blank
      have happend := append_of_cutAt hc
      cases path with
      | nil =>
        rw [happend] at hname
        exact absurd (hname ' ' rfl) (by decide)
      | cons c rest => rw [happend, List.cons_append, List.head?_cons]; rfl
  · cases h
    rfl

theorem isBlank_head?_trimStart (l : List Char) : ∀ c ∈ (trimStart l).head?, isBlank c = false := by
  intro c hc
  have hdrop := List.head?_dropWhile_not isBlank l
  rw [trimStart] at hc
  rw [Option.mem_def.mp hc] at hdrop
  simpa using hdrop

theorem eq_some_of_orMalformed {α : Type} {o : Option α} {a : α} {line : List Char}
    {reason : String} (h : orMalformed o line reason = .ok a) : o = some a := by
  cases o with
  | none => cases h
  | some b => exact congrArg some (Except.ok.inj h)

/-- What a record is made of that is read from a line: its permissions, its name, and the rest. -/
structure Parts (line : List Char) (r : Metadata) where
  kind : FileType
  /-- The text of the permissions, and what comes after it. -/
  text : List Char
  after : List Char
  /-- What comes after the date, up to which the name is told by its place. -/
  rest : List Char
  path : List Char
  target : Option String
  base : Metadata
  size : Nat
  modified : Option Instant
  attributes : UnixAttributes
  extended : Fields
  splitAt_eq : Utf8.splitAtByte 9 line.tail = some (text, after)
  permissions_eq : Permissions.ofText? text = some attributes.permissions
  named : ¬(trimStart rest).isEmpty = true
  nameParts_eq : nameParts kind line (trimStart rest) = .ok (path, target)
  make_eq : Metadata.make? kind (String.ofList path) target '/' = .ok base
  size_eq : kind.isDevice = true → size = 0
  isDevice : attributes.device.isSome → kind.isDevice = true
  record_eq : r = { base with size, modified, unix := some attributes, extended }

/-- **Every line that is a record at all has the parts of one.** -/
theorem parts_of_readClean {style : DateStyle} {now : Instant} {line : List Char}
    (h : readClean style now line = .ok r) : Nonempty (Parts line r) := by
  unfold readClean at h
  obtain ⟨kind, -, h⟩ := ok_of_bind h
  obtain ⟨⟨text, after⟩, hsplit, h⟩ := ok_of_bind h
  obtain ⟨permissions, hpermissions, h⟩ := ok_of_bind h
  obtain ⟨⟨mark, rest₁⟩, -, h⟩ := ok_of_bind h
  have splitAt_eq := eq_some_of_orMalformed hsplit
  have permissions_eq := eq_some_of_orMalformed hpermissions
  -- a device has numbers where other objects have a size
  by_cases hk : kind.isDevice = true
  · simp only [hk, if_true] at h
    obtain ⟨⟨device, rest₂⟩, -, h⟩ := ok_of_bind h
    obtain ⟨_, hplace, h⟩ := ok_of_bind h
    cases hplace
    obtain ⟨⟨date, rest⟩, -, h⟩ := ok_of_bind h
    obtain ⟨named, h⟩ := ok_of_ite h
    obtain ⟨⟨path, target⟩, nameParts_eq, h⟩ := ok_of_bind h
    obtain ⟨base, make_eq, h⟩ := ok_of_bind h
    cases h
    exact
      ⟨{ kind, text, after, rest, path, target, base
         size := 0
         modified := _
         attributes := _
         extended := _
         splitAt_eq, permissions_eq, named, nameParts_eq, make_eq
         size_eq := fun _ => rfl
         isDevice := fun _ => hk
         record_eq := rfl }⟩
  · simp only [hk] at h
    obtain ⟨⟨size, rest₂⟩, -, h⟩ := ok_of_bind h
    obtain ⟨_, hplace, h⟩ := ok_of_bind h
    cases hplace
    obtain ⟨⟨date, rest⟩, -, h⟩ := ok_of_bind h
    obtain ⟨named, h⟩ := ok_of_ite h
    obtain ⟨⟨path, target⟩, nameParts_eq, h⟩ := ok_of_bind h
    obtain ⟨base, make_eq, h⟩ := ok_of_bind h
    cases h
    exact
      ⟨{ kind, text, after, rest, path, target, base, size
         modified := _
         attributes := _
         extended := _
         splitAt_eq, permissions_eq, named, nameParts_eq, make_eq
         size_eq := fun h => absurd h hk
         isDevice := fun h => by cases h
         record_eq := rfl }⟩

/-- What is filled in after the name keeps a record consistent. -/
theorem Parts.isListed {line : List Char} (p : Parts line r) :
    r.IsConsistent '/' ∧ IsListed r := by
  obtain ⟨kind, -, -, rest, path, target, base, size, modified, a, extended, -, -, hne, hparts,
    hmake, hsize, hdevice, hr⟩ := p
  obtain ⟨hbase, rfl, hpath⟩ := isConsistent_of_make? hmake
  obtain ⟨hcreated, haccessed, -⟩ := open_of_make? hmake
  have hfirst := isBlank_head?_trimStart rest
  have hhead : base.path.toList.head? = (trimStart rest).head? := by
    rw [hpath, String.toList_ofList]
    exact head?_of_nameParts hfirst hparts
  subst hr
  refine ⟨⟨hbase.link_iff, hbase.canonical⟩, ?_, ?_, ?_, rfl, ?_, hsize, hcreated, haccessed⟩
  · rintro he
    have hnone : base.path.toList.head? = none := by
      rw [show base.path = "" from he]
      rfl
    rw [hhead, List.head?_eq_none_iff] at hnone
    exact hne (List.isEmpty_iff.mpr hnone)
  · intro c hc
    exact hfirst c (hhead ▸ hc)
  · intro hlink
    obtain ⟨t, ht⟩ := Option.isSome_iff_exists.mp (hbase.link_iff.mp hlink)
    show base.canonicalPath.toList.head? = some '/'
    rw [hbase.canonical, ht]
    exact Path.head?_resolve (by decide) _ _
  · rintro _ ⟨⟩ hd
    exact hdevice hd

/-- **Every line that is a record at all is a consistent one, and tells what a listing tells.** -/
theorem isListed_of_readClean {style : DateStyle} {now : Instant} {line : List Char}
    (h : readClean style now line = .ok r) : r.IsConsistent '/' ∧ IsListed r := by
  obtain ⟨p⟩ := parts_of_readClean h
  exact p.isListed

end Unix

/-! ## Blocks -/

namespace Windows

theorem isConsistent_of_ofFields {fields : Fields} (h : ofFields fields = .ok r) :
    r.IsConsistent '\\' ∧ r.unix = none := by
  unfold ofFields at h
  obtain ⟨encoded, -, h⟩ := ok_of_bind h
  obtain ⟨path, -, h⟩ := ok_of_bind h
  obtain ⟨target, -, h⟩ := ok_of_bind h
  obtain ⟨kind, -, h⟩ := ok_of_bind h
  obtain ⟨size, -, h⟩ := ok_of_bind h
  obtain ⟨base, hmake, h⟩ := ok_of_bind h
  cases h
  obtain ⟨hbase, -, -⟩ := isConsistent_of_make? hmake
  exact ⟨⟨hbase.link_iff, hbase.canonical⟩, (open_of_make? hmake).2.2⟩

/-- A block comes to a record only at its closing brace, from the fields before it. -/
theorem isConsistent_of_readBlock {fields : Fields} {l rest : List String}
    (h : readBlock fields l = (.ok r, rest)) : r.IsConsistent '\\' ∧ r.unix = none := by
  induction l generalizing fields with
  | nil => cases h
  | cons line l ih =>
    simp only [readBlock] at h
    split at h
    · exact isConsistent_of_ofFields (congrArg Prod.fst h)
    · split at h
      · exact ih h
      · split at h
        · exact ih h
        · cases h

theorem isConsistent_of_readRecord {l rest : List String}
    (h : readRecord l = some (.ok r, rest)) : r.IsConsistent '\\' ∧ r.unix = none := by
  induction l with
  | nil => cases h
  | cons line l ih =>
    simp only [readRecord] at h
    split at h
    · exact ih h
    · split at h
      · exact isConsistent_of_readBlock (Option.some.inj h)
      · cases h

end Windows

/-! ## Records of a platform -/

/-- What a record from a host of a platform tells. -/
structure Metadata.IsWellFormed (p : Platform) (r : Metadata) : Prop where
  consistent : r.IsConsistent p.delimiter
  listed : ∀ d, p = .unix d → Unix.IsListed r
  plain : p = .windows → r.unix = none

namespace Platform

variable {p : Platform} {now : Instant} {l rest : List String}

theorem isListed_of_readLineRecord {style : Unix.DateStyle}
    (h : readLineRecord style now l = some (.ok r, rest)) :
    r.IsConsistent '/' ∧ Unix.IsListed r := by
  induction l with
  | nil => cases h
  | cons line l ih =>
    simp only [readLineRecord] at h
    split at h
    · exact ih h
    · exact Unix.isListed_of_readClean (congrArg Prod.fst (Option.some.inj h))

/-- One record that is read. -/
theorem isWellFormed_of_readRecord (h : p.readRecord now l = some (.ok r, rest)) :
    r.IsWellFormed p := by
  cases p with
  | unix d =>
    obtain ⟨hc, hl⟩ := isListed_of_readLineRecord h
    exact ⟨hc, fun _ _ => hl, nofun⟩
  | windows =>
    obtain ⟨hc, hu⟩ := Windows.isConsistent_of_readRecord h
    exact ⟨hc, nofun, fun _ => hu⟩

/--
**Every record is well formed**, whatever lines a host sends and however many records are read from
them: links and only links have a target, and the canonical path is where it leads. A Unix record
has a path that begins with a character that is no blank, permissions and owners, and of its times
the last change at most; numbers of a device only if it is one, and then no size; and the canonical
path of a link is absolute. A Windows record has no permissions and owners.
-/
theorem records_are_well_formed (h : .ok r ∈ p.readRecords now l) : r.IsWellFormed p := by
  fun_induction p.readRecords now l with
  | case1 l hnone => cases h
  | case2 l x rest hx hlt ih =>
    rcases List.mem_cons.mp h with rfl | h
    · exact isWellFormed_of_readRecord hx
    · exact ih h

/-- A link that leaves its directory and more, after a line that is no record. -/
theorem climbing_link_is_well_formed :
    let p := ofFlavor (.unix .linux)
    let lines :=
      ["find: no such file", "lrwxrwxrwx 1 0 0 9 2024-01-15 10:30:00 +0000  /a/b -> ../../x"]
    ∃ r, .ok r ∈ p.readRecords ⟨0, 0⟩ lines ∧ r.linkTarget = some "../../x" ∧
      r.canonicalPath = "/x" ∧ r.IsWellFormed p := by
  intro p lines
  let isClimbing (x : Except RecordError Metadata) : Bool :=
    x.toOption.any fun r => r.linkTarget == some "../../x" && r.canonicalPath == "/x"
  have hany : (p.readRecords ⟨0, 0⟩ lines).any isClimbing = true := by decide +kernel
  obtain ⟨x, hx, hclimbs⟩ := List.any_eq_true.mp hany
  cases x with
  | error e => cases hclimbs
  | ok r =>
    obtain ⟨ht, hc⟩ : r.linkTarget = some "../../x" ∧ r.canonicalPath = "/x" := by
      simpa [isClimbing, Except.toOption] using hclimbs
    exact ⟨r, hx, ht, hc, records_are_well_formed hx⟩

end Platform

end RemoteSearch
