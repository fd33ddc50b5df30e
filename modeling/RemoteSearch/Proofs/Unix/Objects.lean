import RemoteSearch.Proofs.Unix.Listing

/-!
# Listed objects

What the line of a listing says of an object besides the date, which is left open here. Whatever
stands in the other columns, the line makes a record whose last change is what the date is read as
(`Object.modified_of_lists`).
-/

namespace RemoteSearch.Unix

open Text Calendar

/-! ## Lines -/

/-- What a listing shows of an object besides the date. -/
structure Object where
  subject : Subject
  permissions : Permissions
  marker : Marker
  links : List Char
  uid : List Char
  gid : List Char
  path : String
  isColumn_links : IsColumn links
  isColumn_uid : IsColumn uid
  isColumn_gid : IsColumn gid
  /-- The path begins with something that can be told from the blanks before it. -/
  exists_path : ∃ c rest, path.toList = c :: rest ∧ isBlank c = false

namespace Object

/-- The path, with an arrow and the target if there is one. -/
def name (o : Object) : List Char :=
  o.path.toList ++ o.subject.target.elim [] fun target => arrow ++ target.toList

/-- The lines that list an object with a date. -/
def Lists (o : Object) (date : List (List Char)) (line : String) : Prop :=
  ∃ text, Spaced (o.links :: o.uid :: o.gid :: (o.subject.columns ++ (date ++ [o.name]))) text ∧
    line.toList = o.subject.kind.toChar :: (o.permissions.text ++ (o.marker.chars ++ text))

/-- The line with one space before each column. -/
def lineOf (o : Object) (date : List (List Char)) : String :=
  String.ofList (o.subject.kind.toChar :: (o.permissions.text ++ (o.marker.chars ++
    (o.links :: o.uid :: o.gid :: (o.subject.columns ++ (date ++ [o.name]))).flatMap (' ' :: ·))))

end Object

theorem spaced_flatMap (ws : List (List Char)) : Spaced ws (ws.flatMap (' ' :: ·)) := by
  induction ws with
  | nil => exact .nil
  | cons w ws ih => exact .cons 0 ih

/-- Every object has a line, with any date. -/
theorem Object.lists_line (o : Object) (date : List (List Char)) : o.Lists date (o.lineOf date) :=
  ⟨_, spaced_flatMap _, String.toList_ofList⟩

/-- The last column may be any other. -/
theorem Spaced.exists_append {w text : List Char} {ws : List (List Char)}
    (h : Spaced (ws ++ [w]) text) :
    ∃ front, text = front ++ w ∧ ∀ v, Spaced (ws ++ [v]) (front ++ v) := by
  induction ws generalizing text with
  | nil =>
    cases h with
    | cons n h =>
      cases h
      refine ⟨List.replicate (n + 1) ' ', by rw [List.append_nil], fun v => ?_⟩
      have hv := Spaced.cons n (w := v) .nil
      rwa [List.append_nil] at hv
  | cons u ws ih =>
    cases h with
    | cons n h =>
      obtain ⟨front, rfl, hfront⟩ := ih h
      refine ⟨List.replicate (n + 1) ' ' ++ (u ++ front), by simp, fun v => ?_⟩
      have hv := Spaced.cons n (w := u) (hfront v)
      rwa [← List.append_assoc, ← List.append_assoc, List.append_assoc _ u] at hv

/-- A phrase that is there is found. -/
theorem exists_cutAt (phrase a b : List Char) :
    ∃ parts, cutAt phrase (a ++ (phrase ++ b)) = some parts := by
  induction a with
  | nil => exact ⟨_, cutAt_append_self phrase b⟩
  | cons c a ih =>
    obtain ⟨parts, hparts⟩ := ih
    rw [List.cons_append, cutAt]
    split
    · exact ⟨_, rfl⟩
    · rw [hparts]
      exact ⟨_, rfl⟩

namespace Object

variable {o : Object} {date : List (List Char)} {line : String} {style : DateStyle}

/-- What is cleaned off the end of a line leaves the beginning of its name, and the arrow in it. -/
theorem exists_chomp (o : Object) :
    ∃ c rest, isBlank c = false ∧ (∀ front, chomp (front ++ o.name) = front ++ c :: rest) ∧
      (o.subject.kind = .link → ∃ parts, cutAt arrow (c :: rest) = some parts) := by
  obtain ⟨c, p, hpath, hc⟩ := o.exists_path
  have hsolid : c ≠ '\n' ∧ c ≠ '\r' := by
    constructor <;> rintro rfl <;> cases hc
  have hplain : ∀ front, o.subject.target = none →
      chomp (front ++ o.name) = front ++ c :: chomp p := by
    intro front ht
    rw [name, ht, hpath, Option.elim_none, List.append_nil, chomp_append_cons front p hsolid]
  cases hs : o.subject with
  | link target size =>
    refine ⟨c, p ++ (arrow ++ chomp target.toList), hc, fun front => ?_, fun _ => ?_⟩
    · have hname : front ++ o.name =
          front ++ (c :: p ++ [' ', '-', '>']) ++ ' ' :: target.toList := by
        simp [name, hs, hpath, Subject.target, arrow]
      rw [hname, chomp_append_cons _ _ (by decide)]
      simp [arrow]
    · exact exists_cutAt arrow (c :: p) _
  | device kind hk major minor =>
    refine ⟨c, chomp p, hc, fun front => hplain front (by rw [hs]; rfl), fun hlink => ?_⟩
    rw [show kind = .link from hlink] at hk
    cases hk
  | other kind hk size =>
    exact ⟨c, chomp p, hc, fun front => hplain front (by rw [hs]; rfl),
      fun hlink => absurd hlink hk.2⟩

/-- A name that has an arrow if it is that of a link makes a record. -/
theorem exists_make (kind : FileType) (line name : List Char)
    (h : kind = .link → ∃ parts, cutAt arrow name = some parts) :
    ∃ path target base, nameParts kind line name = .ok (path, target) ∧
      Metadata.make? kind (String.ofList path) target '/' = .ok base := by
  by_cases hk : kind = .link
  · obtain ⟨⟨path, target⟩, hcut⟩ := h hk
    subst hk
    refine ⟨path, some (String.ofList target), _, ?_, rfl⟩
    have hcut' : cutAt [' ', '-', '>', ' '] name = some (path, target) := hcut
    simp [nameParts, hcut', orMalformed, bind, Except.bind]
  · refine ⟨name, none, ?_⟩
    cases kind <;> first | exact absurd rfl hk | exact ⟨_, rfl, rfl⟩

/--
**The last change of a listed object is what its date is read as**, whatever the other columns are.
-/
theorem modified_of_lists (h : o.Lists date line) (hdate : ∀ w ∈ date, IsColumn w)
    (hlength : date.length = style.columns) (now : Instant) :
    ∃ r, readLine style now line = .ok r ∧ r.modified = style.read now date := by
  obtain ⟨text, hs, hline⟩ := h
  obtain ⟨c, rest, hc, hchomp, harrow⟩ := o.exists_chomp
  -- the end of the line is cleaned within its last column
  have hcolumns :
      Spaced (o.links :: o.uid :: o.gid :: (o.subject.columns ++ date) ++ [o.name]) text := by
    simpa using hs
  obtain ⟨front, rfl, hfront⟩ := hcolumns.exists_append
  have hclean : chomp line.toList = o.subject.kind.toChar ::
      (o.permissions.text ++ (o.marker.chars ++ (front ++ c :: rest))) := by
    have h := hchomp
      (o.subject.kind.toChar :: (o.permissions.text ++ (o.marker.chars ++ front)))
    rw [hline]
    simpa using h
  have hspaced : Spaced (o.links :: o.uid :: o.gid :: (o.subject.columns ++ (date ++ [c :: rest])))
      (front ++ c :: rest) := by
    simpa using hfront (c :: rest)
  have hkind : (chomp line.toList).head?.bind FileType.ofChar? = some o.subject.kind := by
    rw [hclean]
    exact FileType.ofChar?_toChar _
  have hperm : Utf8.splitAtByte 9 (chomp line.toList).tail =
      some (o.permissions.text, o.marker.chars ++ (front ++ c :: rest)) := by
    rw [hclean, List.tail_cons, ← o.permissions.size_eq]
    exact Utf8.splitAtByte_append _ _
  have hpermissions : Permissions.ofText? o.permissions.text = some o.permissions :=
    dif_pos o.permissions.size_eq
  have hmark := hspaced.takeMark o.marker
  obtain ⟨rest₁, h₁, hs₁⟩ := hspaced.wordOrEmpty o.isColumn_links
  obtain ⟨rest₂, h₂, hs₂⟩ := hs₁.wordOrEmpty o.isColumn_uid
  obtain ⟨rest₃, h₃, hs₃⟩ := hs₂.wordOrEmpty o.isColumn_gid
  obtain ⟨rest₄, hs₄, hplace⟩ := place_of_spaced hs₃
  obtain ⟨rest₅, h₅, hs₅⟩ := hs₄.takeWords hdate
  rw [hlength] at h₅
  have htrim : trimStart rest₅ = c :: rest := hs₅.trimStart_last hc
  obtain ⟨path, target, base, hparts, hmake⟩ :=
    exists_make o.subject.kind (chomp line.toList) (c :: rest) harrow
  rcases hplace with ⟨hdevice, h₄, -⟩ | ⟨hdevice, h₄, -⟩
  · simp [readLine, readClean, hkind, hperm, hpermissions, hmark, h₁, h₂, h₃, h₄, h₅, orMalformed,
      bind, Except.bind, pure, Except.pure, hdevice, htrim, hparts, hmake]
  · simp [readLine, readClean, hkind, hperm, hpermissions, hmark, h₁, h₂, h₃, h₄, h₅, orMalformed,
      bind, Except.bind, pure, Except.pure, hdevice, htrim, hparts, hmake]

end Object

/-- A file of one byte, in a directory of its own. -/
def Object.small : Object where
  subject := .other .file (by decide) 1
  permissions := ⟨"rw-r--r--".toList, by decide +kernel⟩
  marker := .none
  links := ['1']
  uid := ['0']
  gid := ['0']
  path := "/d/f"
  isColumn_links := by decide
  isColumn_uid := by decide
  isColumn_gid := by decide
  exists_path := ⟨'/', ['d', '/', 'f'], by decide +kernel, by decide⟩

theorem Object.small_lists {date : List (List Char)} {line : String}
    (h : small.lineOf date = line) : small.Lists date line :=
  h ▸ small.lists_line date

end RemoteSearch.Unix
