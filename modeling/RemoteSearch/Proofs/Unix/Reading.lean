import RemoteSearch.Proofs.Text.Digits
import RemoteSearch.Proofs.Unix.Layout

/-!
# Reading searches

A POSIX shell reads the command for a query as the layout of the query, with each text in its place
as one word. The proof follows the way in which the command is put together from pieces.
-/

namespace RemoteSearch.Unix

open Shell Piece

/-- The text of pieces of a command. -/
def text (l : List Piece) : List Char := (Shell.posix.render l).toList

@[simp] theorem text_nil : text [] = [] := rfl

@[simp] theorem text_cons (p : Piece) (l : List Piece) :
    text (p :: l) = (p.render .posix).toList ++ text l := by
  show ((p.render .posix) ++ Shell.posix.render l).toList = _
  rw [String.toList_append]
  rfl

theorem text_append (l l' : List Piece) : text (l ++ l') = text l ++ text l' := by
  induction l with
  | nil => rfl
  | cons p l ih => simp [ih]

@[simp] theorem text_fixed (t : String) : text [fixed t] = t.toList := by simp [Piece.render]

@[simp] theorem text_arg (a : String) : text [arg a] = quotePosix a.toList := by
  simp [Piece.render, Shell.quote, Shell.word]

/-- A piece of a command is read as places with texts in them. -/
def Reads (f : Hole → Option String) (l : List Piece) (slots : List Slot) : Prop :=
  Adds (text l) (slots.map (Slot.fill f))

section Pieces

variable {f : Hole → Option String} {l l' : List Piece} {slots slots' : List Slot} {h : Hole}

theorem reads_nil : Reads f [] [] := adds_nil

theorem Reads.append (hl : Reads f l slots) (hl' : Reads f l' slots') :
    Reads f (l ++ l') (slots ++ slots') := by
  unfold Reads
  rw [text_append, List.map_append]
  exact Adds.append hl hl'

theorem Reads.after (hl : Begins (text l) (slots.map (Slot.fill f))) (hl' : Reads f l' slots') :
    Begins (text (l ++ l')) ((slots ++ slots').map (Slot.fill f)) := by
  rw [text_append, List.map_append]
  exact hl.append hl'

theorem Reads.before (hl : Opens (text l) (slots.map (Slot.fill f)))
    (hl' : Begins (text l') (slots'.map (Slot.fill f))) : Reads f (l ++ l') (slots ++ slots') := by
  unfold Reads
  rw [text_append, List.map_append]
  exact hl.append hl'

theorem reads_if {b : Bool} (hl : Reads f l slots) :
    Reads f (if b then l else []) (onlyIf b slots) := by
  cases b with
  | true => exact hl
  | false => exact reads_nil

theorem reads_optionally {α : Type} {o : Option α} {g : α → List Piece}
    (hg : ∀ a, o = some a → Reads f (g a) slots) :
    Reads f (optionally o g) (onlyIf o.isSome slots) := by
  cases o with
  | none => exact reads_nil
  | some a => exact hg a rfl

/-- An argument after a blank. -/
theorem begins_arg {a : String} (ha : f h = some a) :
    Begins (text [arg a]) ([Slot.text h].map (Slot.fill f)) := by
  have hfill : [Slot.text h].map (Slot.fill f) = [argument a.toList] := by simp [Slot.fill, ha]
  rw [text_arg, hfill]
  exact begins_quotePosix a.toList

/-- An option with a text. -/
theorem reads_option {name a : String} (t : List Char) (ht : s!" {name} ".toList = t ++ [' '])
    (hadds : Adds t (slots.map (Slot.fill f))) (ha : f h = some a) :
    Reads f (option name a) (slots ++ [.text h]) := by
  have hopens : Opens (t ++ [' ']) (slots.map (Slot.fill f) ++ []) := hadds.opens opens_blank
  rw [List.append_nil, ← ht] at hopens
  rw [← text_fixed] at hopens
  -- the text ends with a blank, so the argument begins a word of its own
  show Reads f ([fixed s!" {name} "] ++ [arg a]) (slots ++ [.text h])
  exact Reads.before hopens (begins_arg ha)

/-! ### Numbers and programs -/

theorem isPlainText_toString (n : Nat) : isPlainText (toString n).toList = true := by
  rw [isPlainText, Bool.and_eq_true, List.all_eq_true]
  refine ⟨by simp, fun c hc => ?_⟩
  simp [isPlain, Char.isAlphanum, Text.isDigit_of_mem_toString hc]

theorem quote_notMem_toString (n : Nat) : '\'' ∉ (toString n).toList := by
  intro h
  exact absurd (Text.isDigit_of_mem_toString h) (by decide)

/-- The limit of depth as `find` takes it. -/
theorem reads_maxDepth {n : Nat} (hn : f .depth = some (toString n)) :
    Reads f [fixed s!" -maxdepth {n}"] [word "-maxdepth", .text .depth] := by
  have hopens : Opens (spaced ["-maxdepth".toList] ++ [' '])
      ([bareWord "-maxdepth".toList] ++ []) := (adds_spaced (by decide)).opens opens_blank
  have hbegins := begins_arg hn
  rw [text_arg, quotePosix_of_isPlainText (isPlainText_toString n)] at hbegins
  have htext : text [fixed s!" -maxdepth {n}"] =
      spaced ["-maxdepth".toList] ++ [' '] ++ (toString n).toList := by
    rw [text_fixed]
    exact String.toList_append
  unfold Reads
  rw [htext]
  exact hopens.append hbegins

/-- A program in single quotes. -/
theorem begins_program {program : String} (hp : f h = some program)
    (hb : ' ' ∈ program.toList) (hq : '\'' ∉ program.toList) :
    Begins ('\'' :: (program.toList ++ ['\''])) ([Slot.text h].map (Slot.fill f)) := by
  have hbegins := begins_arg hp
  rw [text_arg, quotePosix_of_blank hb hq] at hbegins
  exact hbegins

theorem reads_depthFilter {d : DepthFilter} (hd : f .depthProgram = some d.program) :
    Reads f [fixed s!" | {d.render}"] (awkLayout .depthProgram) := by
  have hopens : Opens ([' ', '|', ' '] ++ ("awk".toList ++ spaced ["-F/".toList]) ++ [' '])
      (.operator ['|'] :: ["awk".toList, "-F/".toList].map bareWord ++ []) :=
    (adds_step (by decide)).opens opens_blank
  have hprogram := d.toList_program
  have hblank : ' ' ∈ d.program.toList := by
    rw [hprogram]
    exact List.mem_append_left _ (by decide)
  have hquote : '\'' ∉ d.program.toList := by
    rw [hprogram, List.mem_append, not_or]
    exact ⟨by decide, quote_notMem_toString _⟩
  have htext : text [fixed s!" | {d.render}"] =
      [' ', '|', ' '] ++ ("awk".toList ++ spaced ["-F/".toList]) ++ [' '] ++
        '\'' :: (d.program.toList ++ ['\'']) := by
    rw [text_fixed]
    show (" | " ++ ("awk -F/ '" ++ d.program ++ "'")).toList = _
    simp only [String.toList_append]
    rfl
  unfold Reads
  rw [htext]
  exact hopens.append (begins_program hd hblank hquote)

/-- The variable of the loop, handed to a program. -/
theorem adds_assignment :
    Adds [' ', '-', 'v', ' ', 'd', '=', '"', '$', 'd', '"']
      [bareWord ['-', 'v'], .word [.bare 'd', .bare '=', .parameter ['d'] true]] := by
  have hbegins : Begins ['d', '=', '"', '$', 'd', '"']
      [.word [.bare 'd', .bare '=', .parameter ['d'] true]] := by
    rintro T s rfl
    exact ⟨[.parameter ['d'] true, .bare '=', .bare 'd'], T.reverse, by simp, rfl⟩
  have hopens : Opens ([' ', '-', 'v'] ++ [' ']) ([bareWord ['-', 'v']] ++ []) :=
    (adds_word (by decide)).opens opens_blank
  exact hopens.append hbegins

theorem reads_relativeDepthFilter {depth : Option Nat}
    (hd : ∀ n, depth = some n → f .relativeProgram = some (DepthFilter.relativeProgram n)) :
    Reads f (relativeDepthFilter depth) (onlyIf depth.isSome relativeLayout) := by
  refine reads_optionally fun n hn => ?_
  have hprogram := DepthFilter.toList_relativeProgram n
  have hblank : ' ' ∈ (DepthFilter.relativeProgram n).toList := by
    rw [hprogram]
    exact List.mem_append_left _ (by decide)
  have hquote : '\'' ∉ (DepthFilter.relativeProgram n).toList := by
    rw [hprogram, List.mem_append, not_or]
    exact ⟨by decide, quote_notMem_toString _⟩
  have hawk : Adds ([' ', '|', ' '] ++ ("awk".toList ++ spaced ["-F/".toList]))
      (.operator ['|'] :: ["awk".toList, "-F/".toList].map bareWord) := adds_step (by decide)
  have hopens := (hawk.append adds_assignment).opens opens_blank
  have htext : text [fixed (" | awk -F/ -v d=\"$d\" '" ++ DepthFilter.relativeProgram n ++ "'")] =
      [' ', '|', ' '] ++ ("awk".toList ++ spaced ["-F/".toList]) ++ " -v d=\"$d\"".toList ++
        [' '] ++ '\'' :: ((DepthFilter.relativeProgram n).toList ++ ['\'']) := by
    rw [text_fixed]
    simp only [String.toList_append]
    rfl
  unfold Reads
  rw [htext]
  exact hopens.append (begins_program (hd n hn) hblank hquote)

theorem reads_kindTest {k : SearchKind} (hk : f .kind = some k.letter) :
    Reads f [kindTest k] [word "-type", .text .kind] := by
  have hfill : [word "-type", .text .kind].map (Slot.fill f) =
      ["-type".toList, k.letter.toList].map bareWord := by
    have hplain : argument k.letter.toList = bareWord k.letter.toList := by cases k <;> rfl
    simp [Slot.fill, word, hk, hplain]
  have htext : text [kindTest k] = spaced ["-type".toList, k.letter.toList] := by
    cases k <;> rfl
  unfold Reads
  rw [hfill, htext]
  exact adds_spaced (by cases k <;> decide)

/-! ### Searches and filters -/

/-- The beginning of a `find` is read as its layout, whatever it starts from. -/
theorem begins_findHead {q : Query} {start : Piece} {slot : Slot} {maxDepth : Option Nat}
    (hstart : Begins (text [start]) ([slot].map (Slot.fill f)))
    (hdepth : ∀ n, maxDepth = some n → f .depth = some (toString n)) (hfs : f .fsType = q.fsType) :
    Begins (text (findHead q start maxDepth))
      ((findLayout (shape q) slot maxDepth.isSome).map (Slot.fill f)) := by
  have hfind : Begins (text [fixed "find"]) ([word "find"].map (Slot.fill f)) := by
    rw [text_fixed]
    exact begins_word (by decide)
  have hlinks : Reads f (if q.followLinks then [fixed " -L"] else [])
      (onlyIf q.followLinks [word "-L"]) := reads_if (adds_word (by decide))
  have hroot : Reads f ([fixed " "] ++ [start]) ([] ++ [slot]) := Reads.before opens_blank hstart
  have hmax : Reads f (optionally maxDepth fun n => [fixed s!" -maxdepth {n}"])
      (onlyIf maxDepth.isSome [word "-maxdepth", .text .depth]) :=
    reads_optionally fun n hn => reads_maxDepth (hdepth n hn)
  have hxdev : Reads f (if q.xdev then [fixed " -xdev"] else []) (onlyIf q.xdev [word "-xdev"]) :=
    reads_if (adds_word (by decide))
  have htype : Reads f (optionally q.fsType (option "-fstype"))
      (onlyIf q.fsType.isSome [word "-fstype", .text .fsType]) := by
    refine reads_optionally fun t ht => ?_
    have hname : Reads f [fixed " -fstype"] [word "-fstype"] := adds_word (by decide)
    exact reads_option _ (by decide) hname (hfs.trans ht)
  have h := Reads.after hfind ((((hlinks.append hroot).append hmax).append hxdev).append htype)
  exact h

theorem reads_nameTests {q : Query} (he : f .equals = q.basename.equals.map Glob.escape)
    (hd : f .differs = q.basename.differs.map Glob.escape) :
    Reads f (nameTests q.basename) (namesLayout (shape q)) := by
  have hequals : Reads f (optionally q.basename.equals fun s => option "-name" (Glob.escape s))
      (onlyIf q.basename.equals.isSome [word "-name", .text .equals]) := by
    refine reads_optionally fun name hn => ?_
    have hname : Reads f [fixed " -name"] [word "-name"] := adds_word (by decide)
    exact reads_option _ (by decide) hname (by rw [he, hn]; rfl)
  have hdiffers : Reads f (optionally q.basename.differs fun s => option "! -name" (Glob.escape s))
      (onlyIf q.basename.differs.isSome [word "!", word "-name", .text .differs]) := by
    refine reads_optionally fun name hn => ?_
    have hname : Adds (spaced [['!'], ['-', 'n', 'a', 'm', 'e']])
        ([word "!", word "-name"].map (Slot.fill f)) := adds_spaced (by decide)
    exact reads_option _ (by decide) hname (by rw [hd, hn]; rfl)
  exact hequals.append hdiffers

theorem reads_nameFilter {q : Query}
    (hp : f .nameProgram = q.basename.pattern.map fun p => Awk.lastNameProgram p.source) :
    Reads f (nameFilter q.basename)
      (onlyIf q.basename.pattern.isSome (awkLayout .nameProgram)) := by
  refine reads_optionally fun p hn => ?_
  have hawk : Adds ([' ', '|', ' '] ++ (['a', 'w', 'k'] ++ spaced [['-', 'F', '/']]))
      ([bar, word "awk", word "-F/"].map (Slot.fill f)) := adds_step (by decide)
  exact reads_option _ (by decide) hawk (by rw [hp, hn]; rfl)

theorem reads_grep {a : String} {h : Hole} (ha : f h = some a) :
    Reads f (option "| grep -E" a) (grepLayout "-E" h) ∧
      Reads f (option "| grep -Fx" a) (grepLayout "-Fx" h) := by
  have hpattern : Adds ([' ', '|', ' '] ++ (['g', 'r', 'e', 'p'] ++ spaced [['-', 'E']]))
      ([bar, word "grep", word "-E"].map (Slot.fill f)) := adds_step (by decide)
  have hline : Adds ([' ', '|', ' '] ++ (['g', 'r', 'e', 'p'] ++ spaced [['-', 'F', 'x']]))
      ([bar, word "grep", word "-Fx"].map (Slot.fill f)) := adds_step (by decide)
  exact ⟨reads_option _ (by decide) hpattern ha, reads_option _ (by decide) hline ha⟩

/-! ### Loops -/

/-- The start of a loop, up to its first command. -/
theorem opens_loop {v : Char} (hv : v = 'd' ∨ v = 'f') :
    Opens (" | while IFS= read -r ".toList ++ (v :: "; do ".toList))
      ((loopLayout v).map (Slot.fill f)) := by
  let ws := ["IFS=".toList, "read".toList, "-r".toList, [v]]
  have hstep : Adds ([' ', '|', ' '] ++ ("while".toList ++ spaced ws))
      (.operator ['|'] :: ("while".toList :: ws).map bareWord) := by
    refine adds_step ?_
    rcases hv with rfl | rfl <;> decide
  have hdo : Adds ([';', ' '] ++ "do".toList) ([.operator [';']] ++ [bareWord "do".toList]) :=
    opens_semicolon.append (begins_word (by decide))
  have htext : " | while IFS= read -r ".toList ++ (v :: "; do ".toList) =
      [' ', '|', ' '] ++ ("while".toList ++ spaced ws) ++ ([';', ' '] ++ "do".toList) ++ [' '] := by
    rcases hv with rfl | rfl <;> decide
  rw [htext]
  exact (hstep.append hdo).opens opens_blank

theorem begins_listWords (d : Dialect) :
    Begins d.listCommand.toList ((listWords d).map (Slot.fill f)) := by
  obtain ⟨k, native⟩ := d
  have hls : ∀ {l : List Char} (ws : List (List Char)), l = "ls".toList ++ spaced ws →
      (∀ w ∈ ws, IsWord w) → Begins l (bareWord "ls".toList :: ws.map bareWord) := by
    rintro _ ws rfl hw
    exact (begins_word (by decide)).append (adds_spaced hw)
  cases k with
  | aix =>
    show Begins "ls -dn".toList _
    exact hls ["-dn".toList] (by decide) (by decide)
  | solaris =>
    show Begins "ls -dn".toList _
    exact hls ["-dn".toList] (by decide) (by decide)
  | linux =>
    show Begins "ls -dn --full-time".toList _
    exact hls ["-dn".toList, "--full-time".toList] (by decide) (by decide)
  | macos =>
    show Begins "ls -dnT".toList _
    exact hls ["-dnT".toList] (by decide) (by decide)

/-- The end of a loop. -/
theorem adds_done : Adds "; done".toList ([semicolon, word "done"].map (Slot.fill f)) :=
  opens_semicolon.append (begins_word (l := "done".toList) (by decide))

theorem reads_listEach (d : Dialect) : Reads f [listEach d] (listLayout d) := by
  have hvalue : Adds ([' '] ++ ['"', '$', 'f', '"']) ([] ++ [value 'f'].map (Slot.fill f)) :=
    opens_blank.append (begins_variable (by decide))
  have hstart : " | while IFS= read -r f; do ".toList =
      " | while IFS= read -r ".toList ++ ('f' :: "; do ".toList) := by decide
  have hend : " \"$f\"; done".toList = ([' '] ++ ['"', '$', 'f', '"']) ++ "; done".toList := by
    decide
  have htext : text [listEach d] = " | while IFS= read -r f; do ".toList ++
      (d.listCommand.toList ++ " \"$f\"; done".toList) := by
    rw [← List.append_assoc, ← String.toList_append, ← String.toList_append]
    exact text_fixed _
  have h := (opens_loop (f := f) (Or.inr rfl)).append
    ((begins_listWords (f := f) d).append (hvalue.append (adds_done (f := f))))
  rw [← hstart, ← hend, ← htext] at h
  unfold Reads listLayout
  simp only [List.map_append, List.append_assoc, List.nil_append] at h ⊢
  exact h

end Pieces

/-! ## Whole searches -/

section Searches

variable (d : Dialect) (q : Query)

theorem fst_splitDepth_eq_some_iff {depth : Option Nat} {n : Nat} :
    (splitDepth d depth).1 = some n ↔ d.nativeDepth = true ∧ depth = some n := by
  unfold splitDepth
  cases d.nativeDepth <;> simp

theorem snd_splitDepth_eq_some_iff {depth : Option Nat} {n : Nat} :
    (splitDepth d depth).2 = some n ↔ d.nativeDepth = false ∧ depth = some n := by
  unfold splitDepth
  cases d.nativeDepth <;> simp

theorem isSome_native :
    (splitDepth d q.depth).1.isSome = ((shape q).hasDepth && d.nativeDepth) := by
  unfold splitDepth shape
  cases d.nativeDepth <;> simp

theorem isSome_counted :
    (splitDepth d q.depth).2.isSome = ((shape q).hasDepth && !d.nativeDepth) := by
  unfold splitDepth shape
  cases d.nativeDepth <;> simp

theorem depth_of_native {n : Nat} (h : (splitDepth d q.depth).1 = some n) :
    intended d q .depth = some (toString n) := by
  obtain ⟨hd, hn⟩ := (fst_splitDepth_eq_some_iff d).mp h
  simp [intended, hd, hn]

theorem program_of_counted {n : Nat} (ha : arm q ≠ .nested)
    (h : (splitDepth d q.depth).2 = some n) :
    intended d q .depthProgram = some (DepthFilter.below (q.normalizedRoot '/') n).program := by
  obtain ⟨hd, hn⟩ := (snd_splitDepth_eq_some_iff d).mp h
  simp [intended, hd, hn, ha]

theorem relative_of_counted {n : Nat} (ha : arm q = .nested)
    (h : (splitDepth d q.depth).2 = some n) :
    intended d q .relativeProgram = some (DepthFilter.relativeProgram n) := by
  obtain ⟨hd, hn⟩ := (snd_splitDepth_eq_some_iff d).mp h
  simp [intended, hd, hn, ha]

/-- The beginning of a search below its root. -/
theorem begins_root : Begins
    (text (findHead q (arg (q.normalizedRoot '/')) (splitDepth d q.depth).1))
    ((findLayout (shape q) (.text .root) ((shape q).hasDepth && d.nativeDepth)).map
      (Slot.fill (intended d q))) := by
  rw [← isSome_native]
  exact begins_findHead (begins_arg rfl) (fun n hn => depth_of_native d q hn) rfl

theorem reads_kind : Reads (intended d q) [kindTest q.kind] [word "-type", .text .kind] :=
  reads_kindTest rfl

theorem reads_depth (ha : arm q ≠ .nested) :
    Reads (intended d q) (depthFilter (q.normalizedRoot '/') (splitDepth d q.depth).2)
      (onlyIf ((shape q).hasDepth && !d.nativeDepth) (awkLayout .depthProgram)) := by
  rw [← isSome_counted]
  exact reads_optionally fun n hn => reads_depthFilter (program_of_counted d q ha hn)

theorem reads_names (ha : (arm q).takesNames = true) :
    Reads (intended d q) (nameTests q.basename) (namesLayout (shape q)) ∧
      Reads (intended d q) (nameFilter q.basename)
        (onlyIf (shape q).hasPattern (awkLayout .nameProgram)) := by
  refine ⟨reads_nameTests ?_ ?_, reads_nameFilter ?_⟩ <;> simp [intended, ha]

/-- The step for a path or a directory that governs. -/
theorem reads_path {p : PathFilter} (hb : q.branch = .path p) :
    ∃ literal, arm q = .path literal ∧
      Reads (intended d q) (pathFilter p) (grepLayout (if literal then "-Fx" else "-E") .path) := by
  cases p with
  | literal path => exact ⟨true, by simp [arm, hb], (reads_grep (by simp [intended, hb])).2⟩
  | pattern p => exact ⟨false, by simp [arm, hb], (reads_grep (by simp [intended, hb])).1⟩

theorem basename_of_branch {q : Query} {f : NameFilter} (hb : q.branch = .basename f) :
    f = q.basename := by
  unfold Query.branch at hb
  split at hb
  · cases hb
  · cases hb
  · cases hb
    rfl

/-- The search that runs in each of the directories found. -/
theorem begins_nested {p : PathFilter} (hb : q.branch = .dirname p) (hk : q.kind ≠ .directory)
    (ha : arm q = .nested) : Begins (text (findPaths d q))
      ((pathsLayout d (shape q)).map (Slot.fill (intended d q))) := by
  have hgrep : Reads (intended d q) (option "| grep -E" p.patternSource)
      (grepLayout "-E" .dirname) := (reads_grep (by simp [intended, hb])).1
  have houter : Begins (text (findHead q (arg (q.normalizedRoot '/')) none))
      ((findLayout (shape q) (.text .root) false).map (Slot.fill (intended d q))) :=
    begins_findHead (begins_arg rfl) (by simp) rfl
  have hdirectory : Reads (intended d q) [kindTest .directory] [word "-type", word "d"] := by
    have hwords : Adds (spaced ["-type".toList, "d".toList])
        (["-type".toList, "d".toList].map bareWord) := adds_spaced (by decide)
    exact hwords
  have hloop : Opens (text [fixed " | while IFS= read -r d; do "])
      ((loopLayout 'd').map (Slot.fill (intended d q))) := by
    have htext : " | while IFS= read -r d; do ".toList =
        " | while IFS= read -r ".toList ++ ('d' :: "; do ".toList) := by decide
    rw [text_fixed, htext]
    exact opens_loop (Or.inl rfl)
  have hstart : Begins (text [fixed "\"$d\""]) ([value 'd'].map (Slot.fill (intended d q))) := by
    have htext : "\"$d\"".toList = ['"', '$', 'd', '"'] := by decide
    rw [text_fixed, htext]
    exact begins_variable (by decide)
  have hinner : Begins (text (findHead q (fixed "\"$d\"") (splitDepth d q.depth).1))
      ((findLayout (shape q) (value 'd') ((shape q).hasDepth && d.nativeDepth)).map
        (Slot.fill (intended d q))) := by
    rw [← isSome_native]
    exact begins_findHead hstart (fun n hn => depth_of_native d q hn) rfl
  have hrelative : Reads (intended d q) (relativeDepthFilter (splitDepth d q.depth).2)
      (onlyIf ((shape q).hasDepth && !d.nativeDepth) relativeLayout) := by
    rw [← isSome_counted]
    exact reads_relativeDepthFilter fun n hn => relative_of_counted d q ha hn
  have hdone : Reads (intended d q) [fixed "; done"] [semicolon, word "done"] := by
    rw [Reads, text_fixed]
    exact adds_done
  obtain ⟨htests, hfilter⟩ := reads_names d q (by rw [ha]; rfl)
  have hbody := (Reads.before hloop hinner).append
    ((reads_kind d q).append (htests.append (hrelative.append (hdone.append hfilter))))
  have h := Reads.after houter (hdirectory.append (hgrep.append hbody))
  have hshape : (shape q).arm = arm q := rfl
  simpa [findPaths, pathsLayout, hb, hshape, ha, hk] using h

theorem begins_findPaths : Begins (text (findPaths d q))
    ((pathsLayout d (shape q)).map (Slot.fill (intended d q))) := by
  have hroot := begins_root d q
  have hkind := reads_kind d q
  have hshape : (shape q).arm = arm q := rfl
  cases hb : q.branch with
  | path p =>
    obtain ⟨literal, ha, hgrep⟩ := reads_path d q hb
    have hdepth := reads_depth d q (by simp [ha])
    have h := Reads.after hroot (hkind.append (hgrep.append hdepth))
    simpa [findPaths, pathsLayout, hb, hshape, ha] using h
  | dirname p =>
    have hgrep : Reads (intended d q) (option "| grep -E" p.patternSource)
        (grepLayout "-E" .dirname) := (reads_grep (by simp [intended, hb])).1
    by_cases hk : q.kind = .directory
    · have ha : arm q = .directories := by simp [arm, hb, hk]
      have hdepth := reads_depth d q (by simp [ha])
      have h := Reads.after hroot (hkind.append (hgrep.append hdepth))
      simpa [findPaths, pathsLayout, hb, hshape, ha, hk] using h
    · have ha : arm q = .nested := by
        cases hkind : q.kind <;> simp_all [arm]
      exact begins_nested d q hb hk ha
  | basename f =>
    have hf : f = q.basename := basename_of_branch hb
    subst hf
    have ha : arm q = .names := by simp [arm, hb]
    obtain ⟨htests, hfilter⟩ := reads_names d q (by rw [ha]; rfl)
    have hdepth := reads_depth d q (by simp [ha])
    have h := Reads.after hroot (hkind.append (htests.append (hfilter.append hdepth)))
    simpa [findPaths, pathsLayout, hb, hshape, ha] using h

/-- **The command for a query is read as its layout**, with each text in its place as one word. -/
theorem tokens?_compile : Shell.tokens? (compile d q).command.toList =
    some ((layout d (shape q)).map (Slot.fill (intended d q))) :=
  tokens?_of_begins (Reads.after (begins_findPaths d q) (reads_listEach d))

end Searches

end RemoteSearch.Unix
