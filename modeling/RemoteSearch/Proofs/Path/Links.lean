import RemoteSearch.Proofs.Path.Segments

/-!
# Where links lead

A relative target is walked segment by segment, beginning in the directory of the link: two dots go
up, but never above the root, and any other name goes down. The path that is reached is spelled
anew, with one delimiter in front of each segment.

* `absolute_zero`, `absolute_one`: how the segments that are reached are spelled.
* `walk_append`: a target that is cut at a delimiter is walked in two parts.
* `mem_walk`: a walk comes to no dots that it has not begun with.
* `foldl_parents`: what steps up leave.
* `links_are_walked`: without drives, links can be followed one part after the other.
-/

namespace RemoteSearch.Path

open Text

variable {d : Char} {floor : Nat} {path target l s : List Char} {stack names : List (List Char)}

/-! ## Spelling -/

theorem absolute_zero (d : Char) (stack : List (List Char)) :
    absolute d 0 stack = d :: joinWith d stack := by
  cases stack with
  | nil => rfl
  | cons s stack =>
    rw [cons_joinWith (List.cons_ne_nil s stack)]
    rfl

/-- A drive comes first, and keeps its delimiter when it stands alone. -/
theorem absolute_one (d : Char) (s : List Char) (stack : List (List Char)) :
    absolute d 1 (s :: stack) = s ++ d :: joinWith d stack := by
  cases stack with
  | nil => rfl
  | cons t stack => simp [absolute, joinWith]

/-- Without drives, a path that is put together from segments begins with the delimiter. -/
theorem head?_absolute (d : Char) (stack : List (List Char)) :
    (absolute d 0 stack).head? = some d := by
  rw [absolute_zero, List.head?_cons]

theorem segments_absolute (h : ∀ s ∈ stack, IsSegment d s) :
    segments d (absolute d 0 stack) = stack := by
  rw [absolute_zero, segments_cons_self, segments_joinWith h]

theorem isTidy_absolute (h : ∀ s ∈ stack, IsSegment d s) : IsTidy d (absolute d 0 stack) := by
  refine ⟨head?_absolute d stack, ?_⟩
  rw [absolute_zero, splitAt_cons_self, List.tail_cons]
  cases stack with
  | nil => exact List.forall_mem_nil _
  | cons s stack =>
    rw [splitAt_joinWith (List.cons_ne_nil s stack) fun t ht => (h t ht).2]
    exact fun t ht => (h t (List.dropLast_subset _ ht)).1

/-- No delimiter is put at the end, unless there is nothing else. -/
theorem getLast?_absolute (h : ∀ s ∈ stack, IsSegment d s) :
    absolute d 0 stack = [d] ∨ (absolute d 0 stack).getLast? ≠ some d := by
  cases stack with
  | nil => exact .inl rfl
  | cons s stack =>
    obtain ⟨front, c, hc, hend⟩ := exists_last (List.cons_ne_nil s stack) h
    refine .inr ?_
    rw [absolute_zero, cons_joinWith (List.cons_ne_nil s stack), hend, List.getLast?_concat]
    exact fun he => hc (Option.some.inj he)

/-! ## Walks -/

/-- The segments that are reached from a stack of segments. -/
def walk (d : Char) (floor : Nat) (stack : List (List Char)) (target : List Char) :
    List (List Char) :=
  (splitAt d target).foldl (walkStep floor) stack

/-- Whether a segment is the name of something, and no way of saying where one is. -/
def IsProper (s : List Char) : Prop := s ≠ [] ∧ s ≠ ['.'] ∧ s ≠ ['.', '.']

instance (s : List Char) : Decidable (IsProper s) :=
  inferInstanceAs (Decidable (s ≠ [] ∧ s ≠ ['.'] ∧ s ≠ ['.', '.']))

theorem walkStep_of_isProper (h : IsProper s) : walkStep floor stack s = stack ++ [s] := by
  rw [walkStep, if_neg (by simp [h.1, h.2.1]), if_neg h.2.2]

theorem mem_walkStep {t : List Char} (h : t ∈ walkStep floor stack s) :
    t ∈ stack ∨ t = s ∧ IsProper s := by
  unfold walkStep at h
  split at h
  · exact .inl h
  · next hstay =>
    split at h
    · split at h
      · exact .inl (List.dropLast_subset _ h)
      · exact .inl h
    · next hup =>
      rw [not_or] at hstay
      rcases List.mem_append.mp h with h | h
      · exact .inl h
      · exact .inr ⟨List.mem_singleton.mp h, hstay.1, hstay.2, hup⟩

theorem mem_foldl_walkStep (h : s ∈ names.foldl (walkStep floor) stack) :
    s ∈ stack ∨ s ∈ names ∧ IsProper s := by
  induction names generalizing stack with
  | nil => exact .inl h
  | cons t names ih =>
    rcases ih h with h | ⟨hmem, hproper⟩
    · rcases mem_walkStep h with h | ⟨rfl, hproper⟩
      · exact .inl h
      · exact .inr ⟨List.mem_cons_self, hproper⟩
    · exact .inr ⟨List.mem_cons_of_mem t hmem, hproper⟩

/-- **What a walk comes to** is what it has begun with and proper segments of the target. -/
theorem mem_walk (h : s ∈ walk d floor stack target) : s ∈ stack ∨ IsSegment d s ∧ IsProper s := by
  rcases mem_foldl_walkStep h with h | ⟨hmem, hproper⟩
  · exact .inl h
  · exact .inr ⟨⟨hproper.1, notMem_of_mem_splitAt hmem⟩, hproper⟩

theorem isSegment_of_mem_walk (hstack : ∀ s ∈ stack, IsSegment d s)
    (h : s ∈ walk d floor stack target) : IsSegment d s :=
  (mem_walk h).elim (hstack s) And.left

/-- **A target that is cut at a delimiter is walked in two parts.** -/
theorem walk_append (d : Char) (floor : Nat) (stack : List (List Char)) (a b : List Char) :
    walk d floor stack (a ++ d :: b) = walk d floor (walk d floor stack a) b := by
  rw [walk, splitAt_append, List.foldl_append, walk, walk]

/-- A target that is put together from segments is walked from one to the next. -/
theorem walk_joinWith (h : ∀ s ∈ names, d ∉ s) :
    walk d floor stack (joinWith d names) = names.foldl (walkStep floor) stack := by
  cases names with
  | nil => simp [walk, joinWith, walkStep]
  | cons s names => rw [walk, splitAt_joinWith (List.cons_ne_nil s names) h]

/-- **Each step up takes one segment away**, down to the ones that are never left. -/
theorem foldl_parents (base rest : List (List Char)) (j : Nat) :
    (List.replicate j ['.', '.']).foldl (walkStep base.length) (base ++ rest) =
      base ++ rest.take (rest.length - j) := by
  induction j generalizing rest with
  | zero => simp
  | succ j ih =>
    have hstep : walkStep base.length (base ++ rest) ['.', '.'] = base ++ rest.dropLast := by
      cases rest with
      | nil => simp [walkStep]
      | cons s rest => simp [walkStep, List.dropLast_append_of_ne_nil]
    rw [List.replicate_succ, List.foldl_cons, hstep, ih, List.length_dropLast,
      List.dropLast_eq_take, List.take_take]
    congr 2
    omega

theorem foldl_names (h : ∀ s ∈ names, IsProper s) :
    names.foldl (walkStep floor) stack = stack ++ names := by
  induction names generalizing stack with
  | nil => exact (List.append_nil stack).symm
  | cons s names ih =>
    obtain ⟨hs, hnames⟩ := List.forall_mem_cons.mp h
    rw [List.foldl_cons, walkStep_of_isProper hs, ih hnames, List.append_assoc,
      List.singleton_append]

/-! ## Links -/

/-- The segments of the directory that a path is in. -/
def parentOf (d : Char) (path : List Char) : List (List Char) := (segments d path).dropLast

theorem isSegment_of_mem_parentOf (h : s ∈ parentOf d path) : IsSegment d s :=
  isSegment_of_mem (List.dropLast_subset _ h)

theorem floorOf_of_ne (hd : d ≠ '\\') (stack : List (List Char)) : floorOf d stack = 0 := by
  cases stack with
  | nil => rfl
  | cons first rest => simp [floorOf, hd]

theorem isAbsoluteText_iff (hd : d ≠ '\\') : isAbsoluteText d l = true ↔ l.head? = some d := by
  simp [isAbsoluteText, hd]

/-- A relative target is walked from the directory of the link. -/
theorem resolveText_of_relative {floor : Nat} (hfloor : floorOf d (parentOf d path) = floor)
    (h : isAbsoluteText d target = false) :
    resolveText d path target = absolute d floor (walk d floor (parentOf d path) target) := by
  subst hfloor
  rw [resolveText, h]
  rfl

/-- Where there are no drives, links lead to absolute paths. -/
theorem head?_resolve (hd : d ≠ '\\') (path target : String) :
    (resolve path target d).toList.head? = some d := by
  rw [resolve, String.toList_ofList]
  by_cases h : isAbsoluteText d target.toList = true
  · rw [resolveText, if_pos h]
    exact (isAbsoluteText_iff hd).mp h
  · rw [resolveText_of_relative (floorOf_of_ne hd _) (Bool.eq_false_iff.mpr h)]
    exact head?_absolute d _

/-- **The directory that a link leads to** is where the rest of its target begins. -/
theorem resolveText_append {t₁ t₂ x : List Char} (hd : d ≠ '\\') (h₁ : isAbsoluteText d t₁ = false)
    (hne : t₁ ≠ []) (h₂ : isAbsoluteText d t₂ = false) (hx : IsSegment d x) :
    resolveText d path (t₁ ++ d :: t₂) =
      resolveText d (resolveText d path t₁ ++ d :: x) t₂ := by
  have happend : isAbsoluteText d (t₁ ++ d :: t₂) = false := by
    rw [Bool.eq_false_iff, ne_eq, isAbsoluteText_iff hd] at h₁ ⊢
    rwa [List.head?_append_of_ne_nil _ hne]
  have hzero := floorOf_of_ne hd
  have hstack : ∀ s ∈ walk d 0 (parentOf d path) t₁, IsSegment d s :=
    fun s hs => isSegment_of_mem_walk (fun s hs => isSegment_of_mem_parentOf hs) hs
  have hparent : parentOf d (absolute d 0 (walk d 0 (parentOf d path) t₁) ++ d :: x) =
      walk d 0 (parentOf d path) t₁ := by
    rw [parentOf, segments_append, segments_absolute hstack, segments_of_isSegment hx,
      List.dropLast_concat]
  rw [resolveText_of_relative (hzero _) happend, resolveText_of_relative (hzero _) h₁,
    resolveText_of_relative (hzero _) h₂, hparent, walk_append]

/-- A relative target leads to segments that are of its own or of the directory of the link. -/
theorem exists_stack (path : List Char) (hd : d ≠ '\\') (h : isAbsoluteText d target = false) :
    ∃ stack, resolveText d path target = absolute d 0 stack ∧
      ∀ s ∈ stack, IsSegment d s ∧ (s ∈ parentOf d path ∨ IsProper s) := by
  refine ⟨_, resolveText_of_relative (floorOf_of_ne hd _) h, fun s hs => ?_⟩
  rcases mem_walk hs with hs | ⟨hsegment, hproper⟩
  · exact ⟨isSegment_of_mem_parentOf hs, .inl hs⟩
  · exact ⟨hsegment, .inr hproper⟩

/-- Whoever is at the root stays there when going up. -/
theorem resolveText_up (hne : target ≠ []) (h : isAbsoluteText '/' target = false)
    (hroot : resolveText '/' path target = ['/']) :
    resolveText '/' path (target ++ ['/', '.', '.']) = ['/'] := by
  have hrest : resolveText '/' path (target ++ ['/', '.', '.']) =
      resolveText '/' (resolveText '/' path target ++ ['/', 'x']) ['.', '.'] :=
    resolveText_append (by decide) h hne (by decide) (by decide)
  rw [hrest, hroot]
  decide

/-- A target followed by some steps up. -/
def goingUp (target : String) : Nat → String
  | 0 => target
  | n + 1 => goingUp target n ++ "/.."

theorem toList_goingUp_ne {target : String} (h : target ≠ "") (n : Nat) :
    (goingUp target n).toList ≠ [] := by
  cases n with
  | zero => simpa [goingUp] using h
  | succ n => simp [goingUp]

theorem head?_goingUp {target : String} (h : target ≠ "") (n : Nat) :
    (goingUp target n).toList.head? = target.toList.head? := by
  induction n with
  | zero => rfl
  | succ n ih =>
    rw [goingUp, String.toList_append, List.head?_append_of_ne_nil _ (toList_goingUp_ne h n), ih]

/-- **From the root nothing leads up.** -/
theorem resolve_goingUp {path target : String} (hne : target ≠ "")
    (h : isAbsolute target '/' = false) (hroot : resolve path target '/' = "/") (n : Nat) :
    resolve path (goingUp target n) '/' = "/" := by
  induction n with
  | zero => exact hroot
  | succ n ih =>
    have hrelative : isAbsoluteText '/' (goingUp target n).toList = false := by
      rw [isAbsolute, Bool.eq_false_iff, ne_eq, isAbsoluteText_iff (by decide)] at h
      rwa [Bool.eq_false_iff, ne_eq, isAbsoluteText_iff (by decide), head?_goingUp hne]
    have hreached : resolveText '/' path.toList (goingUp target n).toList = ['/'] := by
      simpa [resolve] using congrArg String.toList ih
    have hup := resolveText_up (toList_goingUp_ne hne n) hrelative hreached
    rw [goingUp, resolve, String.toList_append]
    exact congrArg String.ofList hup

/--
**Links are walked, and walks stop at the root.** Where a target leads by a first part and a second
one is where the second part leads from anything that is in the directory to which the first part
leads. The path that is reached has no empty segments and no slash at its end, its dots are those
of the directory of the link, and from the root nothing leads up.
-/
theorem links_are_walked (path : String) :
    (∀ t₁ t₂ x : String, isAbsolute t₁ '/' = false → t₁ ≠ "" → isAbsolute t₂ '/' = false →
      x ≠ "" → '/' ∉ x.toList →
      resolve path (t₁ ++ "/" ++ t₂) '/' =
        resolve (resolve path t₁ '/' ++ "/" ++ x) t₂ '/') ∧
    ∀ t : String, isAbsolute t '/' = false →
      IsTidy '/' (resolve path t '/').toList ∧
      (resolve path t '/' = "/" ∨ (resolve path t '/').toList.getLast? ≠ some '/') ∧
      (∀ s ∈ segments '/' (resolve path t '/').toList, s = ['.'] ∨ s = ['.', '.'] →
        s ∈ parentOf '/' path.toList) ∧
      (t ≠ "" → resolve path t '/' = "/" → ∀ n, resolve path (goingUp t n) '/' = "/") := by
  constructor
  · intro t₁ t₂ x h₁ hne h₂ hx hslash
    have happend : resolveText '/' path.toList (t₁.toList ++ '/' :: t₂.toList) =
        resolveText '/' (resolveText '/' path.toList t₁.toList ++ '/' :: x.toList) t₂.toList :=
      resolveText_append (by decide) h₁ (by simpa using hne) h₂ ⟨by simpa using hx, hslash⟩
    simpa [resolve] using congrArg String.ofList happend
  · intro t h
    obtain ⟨stack, hresolve, hstack⟩ := exists_stack path.toList (by decide) h
    have hsegments : ∀ s ∈ stack, IsSegment '/' s := fun s hs => (hstack s hs).1
    rw [resolve, String.toList_ofList, hresolve]
    refine ⟨isTidy_absolute hsegments, ?_, ?_, fun hne hroot n => ?_⟩
    · exact (getLast?_absolute hsegments).imp_left (congrArg String.ofList)
    · intro s hs hdots
      rw [segments_absolute hsegments] at hs
      exact (hstack s hs).2.resolve_right fun hproper => hdots.elim hproper.2.1 hproper.2.2
    · exact resolve_goingUp hne h (by rw [resolve, hresolve, hroot]) n

/-- Above the root, back down, and up again, for a link whose own path has a dot in it. -/
theorem link_above_root_is_walked :
    let path := "/a/./b/l"
    let up := "../x/../../../.."
    resolve path up '/' = "/" ∧
      resolve path (up ++ "/" ++ "y/./z") '/' =
        resolve (resolve path up '/' ++ "/" ++ "..") "y/./z" '/' ∧
      resolve path (goingUp up 5) '/' = "/" ∧
      resolve path "../c" '/' = "/a/./c" ∧ ['.'] ∈ parentOf '/' path.toList := by
  intro path up
  have hroot : resolve path up '/' = "/" := by decide +kernel
  have hdot : resolve path "../c" '/' = "/a/./c" := by decide +kernel
  obtain ⟨happend, hshape⟩ := links_are_walked path
  refine ⟨hroot, ?_, ?_, hdot, ?_⟩
  · exact happend up "y/./z" ".." (by decide) (by decide) (by decide) (by decide) (by decide)
  · exact (hshape up (by decide)).2.2.2 (by decide) hroot 5
  · refine (hshape "../c" (by decide)).2.2.1 ['.'] ?_ (.inl rfl)
    rw [hdot]
    decide

end RemoteSearch.Path
