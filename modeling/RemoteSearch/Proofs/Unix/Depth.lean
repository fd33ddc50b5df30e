import RemoteSearch.Machine.Find
import RemoteSearch.Query
import RemoteSearch.Unix.Depth

/-!
# Depth by counting

The filter that stands in for a limit of depth counts fields between slashes, and `find` counts
levels below its start. A path that leads from a root through some names has as many slashes more
than the root (`count_below`), so that the filter lets through what lies no deeper than the limit.
The root of the host is the exception: it is written with a slash of its own, which no name follows
(`level_le_iff_admits`).
-/

namespace RemoteSearch.Unix

open Text Machine

variable {root : String} {names : List String}

/-! ## Fields -/

/-- A text has one piece more than delimiters. -/
theorem length_splitAt (c : Char) (l : List Char) : (splitAt c l).length = l.count c + 1 := by
  induction l with
  | nil => rfl
  | cons d l ih =>
    by_cases hd : d = c
    · subst hd
      rw [splitAt_cons_self, List.length_cons, ih, List.count_cons_self]
    · obtain ⟨p, ps, h, h'⟩ := splitAt_cons_of_ne hd l
      rw [h', List.count_cons_of_ne hd, ← ih, h]
      rfl

theorem admits_iff {f : DepthFilter} {path : String} :
    f.admits path = true ↔ path.toList.count '/' < f.maxFields := by
  rw [DepthFilter.admits, DepthFilter.admitsText, decide_eq_true_iff, length_splitAt]
  exact Nat.succ_le_iff

/-! ## Paths below a root -/

/-- Whether a text is the name of an object in a directory. -/
def IsName (name : String) : Prop := name ≠ "" ∧ '/' ∉ name.toList

instance (name : String) : Decidable (IsName name) := inferInstanceAs (Decidable (_ ∧ _))

/-- The path that leads from a root through some names, one level down with each of them. -/
def below (root : String) (names : List String) : String := names.foldl joinPath root

theorem toList_joinPath (path name : String) :
    (joinPath path name).toList =
      path.toList ++ (if path.toList.getLast? = some '/' then [] else ['/']) ++ name.toList := by
  unfold joinPath
  split
  · rw [String.toList_append, List.append_nil]
  · exact String.toList_append.trans (congrArg (· ++ name.toList) String.toList_append)

theorem getLast?_joinPath (path : String) {name : String} (h : IsName name) :
    (joinPath path name).toList.getLast? ≠ some '/' := by
  obtain ⟨hne, hslash⟩ := h
  have hl : name.toList ≠ [] := fun he => hne (String.toList_eq_nil_iff.mp he)
  intro he
  rw [toList_joinPath, List.getLast?_append, List.getLast?_eq_some_getLast hl] at he
  exact hslash (Option.some.inj he ▸ List.getLast_mem hl)

/-- A name adds one slash, if none stands there already. -/
theorem count_joinPath (path : String) {name : String} (h : IsName name) :
    (joinPath path name).toList.count '/' =
      path.toList.count '/' + if path.toList.getLast? = some '/' then 0 else 1 := by
  rw [toList_joinPath, List.count_append, List.count_append, List.count_eq_zero.mpr h.2]
  split <;> rfl

theorem count_below_of_getLast? (hroot : root.toList.getLast? ≠ some '/') (h : ∀ n ∈ names, IsName n) :
    (below root names).toList.count '/' = root.toList.count '/' + names.length := by
  induction names generalizing root with
  | nil => rfl
  | cons n names ih =>
    have hn := h n List.mem_cons_self
    have hstep := ih (getLast?_joinPath root hn) fun x hx => h x (List.mem_cons_of_mem n hx)
    rw [count_joinPath root hn, if_neg hroot] at hstep
    rw [List.length_cons, Nat.add_comm names.length, ← Nat.add_assoc]
    exact hstep

/-! ## Roots -/

/-- A root is the root of the host, or it does not end in a slash. -/
theorem normalizedRoot_cases (q : Query) :
    q.normalizedRoot '/' = "/" ∨ (q.normalizedRoot '/').toList.getLast? ≠ some '/' := by
  unfold Query.normalizedRoot Query.normalizedRootText
  cases hl : Path.dropTrailing '/' q.root.toList with
  | nil => exact Or.inl rfl
  | cons c l =>
    right
    have hlast : (Path.dropTrailing '/' q.root.toList).getLast? ≠ some '/' := by
      intro he
      have hd := List.head?_dropWhile_not (· == '/') q.root.toList.reverse
      rw [Path.dropTrailing, dropEndWhile, List.getLast?_reverse] at he
      rw [he] at hd
      simp at hd
    rw [hl] at hlast
    simpa using hlast

/-- **How many slashes a path has** below the root of a search. -/
theorem count_below (q : Query) (h : ∀ n ∈ names, IsName n) :
    (below (q.normalizedRoot '/') names).toList.count '/' =
      if q.normalizedRoot '/' = "/" ∧ names = [] then 1
      else DepthFilter.slashes (q.normalizedRoot '/').toList + names.length := by
  rcases normalizedRoot_cases q with hroot | hroot
  · rw [hroot]
    cases names with
    | nil => rfl
    | cons n names =>
      have hn := h n List.mem_cons_self
      have hrest := count_below_of_getLast? (getLast?_joinPath "/" hn)
        fun x hx => h x (List.mem_cons_of_mem n hx)
      have hone : (joinPath "/" n).toList.count '/' = 1 := count_joinPath "/" hn
      have hslashes : DepthFilter.slashes "/".toList = 0 := rfl
      rw [hone] at hrest
      rw [if_neg (by simp), hslashes, List.length_cons, Nat.zero_add, Nat.add_comm]
      exact hrest
  · have hne : q.normalizedRoot '/' ≠ "/" := fun he => hroot (he ▸ rfl)
    have hl : (q.normalizedRoot '/').toList ≠ ['/'] := fun he =>
      hne (String.toList_inj.mp he)
    rw [if_neg (fun hc => hne hc.1), count_below_of_getLast? hroot h, DepthFilter.slashes,
      if_neg hl]

/-! ## The limit -/

/--
**The filter keeps to the limit of depth**, but for the root of the host. Take the root of any query
and a path that leads from it through some names. That the filter for a limit lets the path through
exactly if the names are no more than the limit, which is when a limited `find` would show it, holds
except in one place: the root of the host itself is dropped when nothing below it is wanted.
-/
theorem level_le_iff_admits (q : Query) (h : ∀ n ∈ names, IsName n) (depth : Nat) :
    ((DepthFilter.below (q.normalizedRoot '/') depth).admits
          (below (q.normalizedRoot '/') names) = true ↔
        names.length ≤ depth) ↔
      ¬(q.normalizedRoot '/' = "/" ∧ names = [] ∧ depth = 0) := by
  rw [admits_iff, count_below q h]
  have hmax : (DepthFilter.below (q.normalizedRoot '/') depth).maxFields =
      DepthFilter.slashes (q.normalizedRoot '/').toList + 1 + depth := rfl
  rw [hmax]
  by_cases hn : q.normalizedRoot '/' = "/" ∧ names = []
  · obtain ⟨hroot, rfl⟩ := hn
    have hslashes : DepthFilter.slashes "/".toList = 0 := rfl
    simp only [hroot, hslashes, List.length_nil, and_self, if_true, true_and]
    omega
  · have hc : ¬(q.normalizedRoot '/' = "/" ∧ names = [] ∧ depth = 0) := fun hx => hn ⟨hx.1, hx.2.1⟩
    rw [if_neg hn, iff_true_right hc]
    omega

/-- Two levels below a directory are let through by a limit of two. -/
theorem second_level_is_kept :
    let q : Query := { root := "/srv/data//" }
    (∀ n ∈ ["a b", "c"], IsName n) ∧ below (q.normalizedRoot '/') ["a b", "c"] = "/srv/data/a b/c" ∧
      (DepthFilter.below (q.normalizedRoot '/') 2).admits "/srv/data/a b/c" = true := by
  intro q
  have hnames : ∀ n ∈ ["a b", "c"], IsName n := by decide
  have hpath : below (q.normalizedRoot '/') ["a b", "c"] = "/srv/data/a b/c" := by decide +kernel
  have hroot : q.normalizedRoot '/' ≠ "/" := by decide +kernel
  refine ⟨hnames, hpath, ?_⟩
  rw [← hpath]
  exact ((level_le_iff_admits q hnames 2).mpr fun hc => hroot hc.1).mpr (Nat.le_refl 2)

/-- **The root of the host is dropped where only it is wanted**, and is no level below itself. -/
theorem root_of_host_is_dropped :
    let q : Query := { root := "/", depth := some 0 }
    below (q.normalizedRoot '/') [] = "/" ∧ ([] : List String).length ≤ 0 ∧
      (DepthFilter.below (q.normalizedRoot '/') 0).admits "/" = false := by
  decide +kernel

end RemoteSearch.Unix
