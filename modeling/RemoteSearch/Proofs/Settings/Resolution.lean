import Mathlib.Data.List.TakeWhile
import RemoteSearch.Proofs.Settings.Placement

/-!
# Which text of a setting counts

Two orders meet when settings are loaded: that of the sources, which go one over the other in the
tree, and that of the scopes, which go one over the other when the tree is resolved. What comes out
is that scopes count first, and sources second. Within one source there is no order.

* `text?_resolve`: a resolved setting is the one in the first scope that has it.
* `IsListing.lastText_mem`: the last text for a place is one of the last layer that has any.
* `scopes_count_before_sources`: so a setting is one of those that the last source gives in the
  first scope that has any, if the sources agree on what is a text and what is a scope.
* `Apart.agree`: they do wherever no name is used both for a section and at the top.
-/

namespace RemoteSearch.Settings

variable {t : Tree} {key : String} {l : List (String × Tree)} {chain : List String}
  {layers : List Layer} {sources : List Source} {es : List Entry} {names : List String}

/-! ## Resolution of a tree -/

theorem lookup_filterMap {β : Type} (f : Tree → Option β) (hl : (l.map Prod.fst).Nodup)
    (key : String) :
    (l.filterMap fun p => (f p.2).map (p.1, ·)).lookup key = (l.lookup key).bind f := by
  induction l with
  | nil => rfl
  | cons p l ih =>
    obtain ⟨n, u⟩ := p
    obtain ⟨hn, hl'⟩ := List.nodup_cons.mp hl
    rw [List.filterMap_cons, List.lookup_cons]
    by_cases hk : key = n
    · subst hk
      cases hu : f u with
      | some b => simp [hu]
      | none =>
        -- a name that is passed over is not found later either
        simp only [Option.map_none, beq_self_eq_true, Option.bind_some, hu]
        rw [ih hl', Fields.lookup_of_notMem hn]
        rfl
    · have hb : (key == n) = false := by simpa using hk
      cases hu : f u with
      | some b => simpa [List.lookup_cons, hb] using ih hl'
      | none => simpa [hb] using ih hl'

theorem nodup_filterMap {β : Type} (f : Tree → Option β) (hl : (l.map Prod.fst).Nodup) :
    ((l.filterMap fun p => (f p.2).map (p.1, ·)).map Prod.fst).Nodup := by
  refine hl.sublist ?_
  induction l with
  | nil => exact .slnil
  | cons p l ih =>
    rw [List.filterMap_cons]
    cases f p.2 with
    | none => exact (ih hl.of_cons).cons _
    | some b => exact (ih hl.of_cons).cons_cons _

theorem texts_eq (l : List (String × Tree)) :
    Tree.texts l = .ofList (l.filterMap fun p => (Tree.text? p.2).map (p.1, ·)) := by
  unfold Tree.texts
  congr 2
  funext p
  obtain ⟨n, u⟩ := p
  cases u <;> rfl

theorem tables_eq (l : List (String × Tree)) :
    Tree.tables l = l.filterMap fun p => (Tree.table? p.2).map (p.1, ·) := by
  unfold Tree.tables
  congr 1
  funext p
  obtain ⟨n, u⟩ := p
  cases u <;> rfl

theorem get?_texts (hl : (l.map Prod.fst).Nodup) (key : String) :
    (Tree.texts l).get? key = (l.lookup key).bind Tree.text? := by
  rw [texts_eq, Fields.get?_ofList (nodup_filterMap _ hl), lookup_filterMap _ hl]

/-- The text that a tree has for a key in a scope. -/
def Tree.scoped? (t : Tree) (key scope : String) : Option String :=
  ((t.child? scope).bind (·.child? key)).bind Tree.text?

/-- **A scope goes over what is less specific.** -/
theorem get?_scope (ht : t.Named) (scope : String)
    (hs : ∀ u, t.child? scope = some u → u.Named) (values : Fields) :
    (match (Tree.tables t.entries).lookup scope with
      | some entries =>
        (Tree.texts entries).foldl (fun values p => Fields.put p.1 p.2 values) values
      | none => values : Fields).get? key = (t.scoped? key scope).or (values.get? key) := by
  have hlookup : (Tree.tables t.entries).lookup scope = (t.child? scope).bind Tree.table? := by
    rw [tables_eq, lookup_filterMap _ ht]
    rfl
  rw [hlookup, Tree.scoped?]
  cases hu : t.child? scope with
  | none => rfl
  | some u =>
    have hnamed := hs u hu
    cases u with
    | table entries =>
      have hsorted : (Tree.texts entries).Sorted := Fields.sorted_ofList _
      show ((Tree.texts entries).foldl _ values).get? key = _
      rw [Fields.get?_foldl_put hsorted.nodup]
      exact congrArg (Option.or · _) (get?_texts hnamed key)
    | nothing => rfl
    | text s => rfl
    | list items => rfl

theorem findSome?_cons_eq_or {α β : Type} (f : α → Option β) (a : α) (l : List α) :
    (a :: l).findSome? f = (f a).or (l.findSome? f) := by
  rw [List.findSome?_cons]
  cases f a <;> rfl

/-- **A resolved setting is the one in the first scope that has it**, or else at the top. -/
theorem text?_resolve (ht : t.Named)
    (hs : ∀ scope ∈ chain, ∀ u, t.child? scope = some u → u.Named) :
    (resolve t chain).text? key =
      (chain.findSome? (t.scoped? key)).or ((t.child? key).bind Tree.text?) := by
  induction chain with
  | nil => exact get?_texts ht key
  | cons scope chain ih =>
    obtain ⟨hscope, hchain⟩ := List.forall_mem_cons.mp hs
    have hrest : (resolve t chain).text? key = _ := ih hchain
    have hstep : (resolve t (scope :: chain)).text? key =
        (t.scoped? key scope).or ((resolve t chain).text? key) := by
      show Fields.get? (List.foldl _ _ (scope :: chain).reverse) key = _
      rw [List.reverse_cons, List.foldl_append]
      exact get?_scope ht scope hscope _
    rw [hstep, hrest, findSome?_cons_eq_or, Option.or_assoc]

/-! ## Layers -/

/-- The texts that a layer gives to the place of some names. There may be two, since a name with
dots can lead to the same place as a section. -/
def Layer.textsAt (l : Layer) (names : List String) : List String :=
  l.entries.flatMap (Entry.textsAt names)

/-- The texts that the last of the layers gives that has any for the place. -/
def lastTexts? (layers : List Layer) (names : List String) : Option (List String) :=
  (layers.reverse.map (·.textsAt names)).find? (!·.isEmpty)

/-- Everything that layers say about a place makes the same kind of tree there: all of it texts, or
tables, or lists. -/
def Agree (layers : List Layer) (names : List String) : Prop :=
  OneKind ((layers.flatMap Layer.entries).flatMap (Entry.below names))

instance (layers : List Layer) (names : List String) : Decidable (Agree layers names) :=
  inferInstanceAs (Decidable (OneKind _))

theorem IsListing.perm (h : IsListing layers es) : es.Perm (layers.flatMap Layer.entries) := by
  induction h with
  | nil => exact List.Perm.refl _
  | cons order _ ih =>
    rw [List.flatMap_cons]
    exact order.append ih

/-- Layers agree on a place in whatever order they are listed. -/
theorem Agree.oneKind (h : Agree layers names) (hes : IsListing layers es) :
    OneKind (es.flatMap (Entry.below names)) :=
  OneKind.of_perm h (hes.perm.flatMap_right _)

/-- The text that entries give to the place of some names in the end. -/
def lastText (es : List Entry) (names : List String) : Option String :=
  (es.flatMap (Entry.textsAt names)).getLast?

theorem lastText_eq (es : List Entry) (names : List String) :
    lastText es names = ((es.flatMap (Entry.below names)).filterMap Entry.text?).getLast? := by
  have htexts : Entry.textsAt names = fun e => (e.below names).filterMap Entry.text? :=
    funext (textsAt_eq names)
  rw [List.filterMap_flatMap, ← htexts]
  rfl

/-- One of the texts, if there are any. -/
abbrev IsAmong : Option String → Option (List String) → Prop := Option.Rel (· ∈ ·)

theorem IsAmong.or {o o' : Option String} {texts texts' : Option (List String)}
    (h : IsAmong o texts) (h' : IsAmong o' texts') : IsAmong (o.or o') (texts.or texts') := by
  cases h with
  | some h => exact .some h
  | none => exact h'

/-- A place that is given one text has that one. -/
theorem IsAmong.eq_some {o : Option String} {s : String} (h : IsAmong o (some [s])) :
    o = some s := by
  cases h with
  | some h => rw [List.mem_singleton.mp h]

/-- The last text of a layer is among its texts, whatever the order. -/
theorem isAmong_of_perm {texts : List String} {l : Layer} (h : texts.Perm (l.textsAt names)) :
    IsAmong texts.getLast? ([l.textsAt names].find? (!·.isEmpty)) := by
  cases ht : texts.getLast? with
  | none =>
    rw [List.getLast?_eq_none_iff.mp ht] at h
    rw [← h.nil_eq]
    exact .none
  | some s =>
    have hs : s ∈ l.textsAt names := h.subset (List.mem_of_getLast? ht)
    have hsome : [l.textsAt names].find? (!·.isEmpty) = some (l.textsAt names) := by
      rw [List.find?_singleton, if_pos]
      simpa using List.ne_nil_of_mem hs
    rw [hsome]
    exact .some hs

/-- **The text for a place in the end is one of the last layer that has any.** -/
theorem IsListing.lastText_mem (h : IsListing layers es) (names : List String) :
    IsAmong (lastText es names) (lastTexts? layers names) := by
  induction h with
  | nil => exact .none
  | @cons l layers es rest order _ ih =>
    have htext : lastText (es ++ rest) names = (lastText rest names).or (lastText es names) := by
      rw [lastText, List.flatMap_append, List.getLast?_append]
      rfl
    have htexts : lastTexts? (l :: layers) names =
        (lastTexts? layers names).or ([l.textsAt names].find? (!·.isEmpty)) := by
      rw [lastTexts?, List.reverse_cons, List.map_append, List.find?_append]
      rfl
    rw [htext, htexts]
    exact ih.or (isAmong_of_perm (order.flatMap_right _))

/-- The first name of a key leads into a table. -/
theorem kind_of_keySteps (key : String) (m : Matter) :
    (⟨keySteps key, m⟩ : Entry).kind = .table := by
  unfold keySteps
  dsimp only
  split
  · rfl
  · split <;> rfl

theorem Layer.kind_of_mem {l : Layer} {e : Entry} (h : e ∈ l.entries) : e.kind = .table := by
  rcases List.mem_append.mp h with h | h
  · obtain ⟨p, -, rfl⟩ := List.mem_map.mp h
    exact kind_of_keySteps _ _
  · obtain ⟨p, -, rfl⟩ := List.mem_map.mp h
    exact kind_of_keySteps _ _

theorem IsListing.kind_of_mem (h : IsListing layers es) {e : Entry} (he : e ∈ es) :
    e.kind = .table := by
  obtain ⟨l, -, he⟩ := List.mem_flatMap.mp (h.perm.subset he)
  exact Layer.kind_of_mem he

theorem grow_treeOf (es : List Entry) : grow (some (.table [])) es = some (treeOf es) :=
  grow_some (.table []) es

theorem named_treeOf (es : List Entry) : (treeOf es).Named := by
  refine named_grow (fun t ht => ?_) (grow_treeOf es)
  cases ht
  exact List.nodup_nil

/-- **What layers make of a place is what they say about it.** -/
theorem child?_treeOf (hes : IsListing layers es) (name : String) :
    (treeOf es).child? name = grow none (es.flatMap (Entry.below [name])) := by
  have hbelow : Entry.below [name] = Entry.under name := funext fun e => by simp [Entry.below]
  have hgrow := child?_grow_of_table (fun _ => hes.kind_of_mem) (some (.table [])) name
  rw [grow_treeOf] at hgrow
  rw [hbelow]
  exact hgrow

theorem below_pair (scope key : String) :
    Entry.below [scope, key] = fun e => (e.below [scope]).flatMap (Entry.under key) :=
  funext fun e => by simp [Entry.below]

/-- In a scope too, if they agree on what the scope is. -/
theorem scoped?_treeOf (hes : IsListing layers es) {scope : String}
    (hscope : Agree layers [scope]) (hkey : Agree layers [scope, key]) :
    (treeOf es).scoped? key scope = lastText es [scope, key] := by
  have hkind := hkey.oneKind hes
  rw [lastText_eq, Tree.scoped?, child?_treeOf hes, child?_grow (hscope.oneKind hes),
    List.flatMap_assoc, ← below_pair]
  exact text?_grow hkind

theorem isAmong_findSome? (hes : IsListing layers es)
    (h : ∀ scope ∈ chain, Agree layers [scope] ∧ Agree layers [scope, key]) :
    IsAmong (chain.findSome? ((treeOf es).scoped? key))
      (chain.findSome? fun scope => lastTexts? layers [scope, key]) := by
  induction chain with
  | nil => exact .none
  | cons scope chain ih =>
    obtain ⟨hscope, hchain⟩ := List.forall_mem_cons.mp h
    rw [findSome?_cons_eq_or, findSome?_cons_eq_or, scoped?_treeOf hes hscope.1 hscope.2]
    exact (hes.lastText_mem [scope, key]).or (ih hchain)

/-! ## Names that are used in one way -/

/-- A name that leads to the place under itself. -/
def IsPlainName (name : String) : Prop := keySteps name = [.child name]

/-- Letters, digits, underscores and dashes make plain names. -/
theorem isPlainName_of_all (h : key.toList.all isNameChar = true) : IsPlainName key := by
  have hall : ∀ c ∈ key.toList, isNameChar c = true := List.all_eq_true.mp h
  have htake : key.toList.takeWhile isNameChar = key.toList := List.takeWhile_eq_self_iff.mpr hall
  have hdrop : key.toList.dropWhile isNameChar = [] := List.dropWhile_eq_nil_iff.mpr hall
  have hend : readSteps [] = some [] := by rw [readSteps]
  unfold IsPlainName keySteps
  simp only [htake, hdrop, hend, String.ofList_toList]
  split <;> rfl

/-- Layers in which names are plain, and no name is one of a section and one at the top. -/
structure Apart (layers : List Layer) : Prop where
  top : ∀ l ∈ layers, ∀ p ∈ l.top, IsPlainName p.1
  sections : ∀ l ∈ layers, ∀ p ∈ l.sections, IsPlainName p.1
  apart : ∀ l ∈ layers, ∀ p ∈ l.top, ∀ l' ∈ layers, ∀ q ∈ l'.sections, p.1 ≠ q.1

theorem mem_below_of_plain {e : Entry} {name n : String} {m : Matter} (hn : IsPlainName n)
    (he : e ∈ (⟨keySteps n, m⟩ : Entry).below [name]) : n = name ∧ e = ⟨[], m⟩ := by
  rw [hn] at he
  by_cases h : n = name
  · exact ⟨h, by simpa [Entry.below, Entry.under, h] using he⟩
  · simp [Entry.below, Entry.under, h] at he

/-- What such layers say about the place under a name. -/
theorem Apart.of_mem_below (h : Apart layers) {e : Entry} {name : String}
    (he : e ∈ (layers.flatMap Layer.entries).flatMap (Entry.below [name])) :
    (∃ l ∈ layers, ∃ p ∈ l.top, p.1 = name ∧ e = ⟨[], .text p.2⟩) ∨
      ∃ l ∈ layers, ∃ p ∈ l.sections, p.1 = name ∧ e = ⟨[], .pairs p.2⟩ := by
  obtain ⟨e₀, he₀, he⟩ := List.mem_flatMap.mp he
  obtain ⟨l, hl, he₀⟩ := List.mem_flatMap.mp he₀
  rcases List.mem_append.mp he₀ with he₀ | he₀
  · obtain ⟨p, hp, rfl⟩ := List.mem_map.mp he₀
    exact Or.inl ⟨l, hl, p, hp, mem_below_of_plain (h.top l hl p hp) he⟩
  · obtain ⟨p, hp, rfl⟩ := List.mem_map.mp he₀
    exact Or.inr ⟨l, hl, p, hp, mem_below_of_plain (h.sections l hl p hp) he⟩

theorem Apart.agree_top (h : Apart layers) (name : String) : Agree layers [name] := by
  intro e he e' he'
  rcases h.of_mem_below he with ⟨l, hl, p, hp, hn, rfl⟩ | ⟨l, hl, p, hp, hn, rfl⟩
  · rcases h.of_mem_below he' with ⟨l', hl', q, hq, hn', rfl⟩ | ⟨l', hl', q, hq, hn', rfl⟩
    · rfl
    · exact absurd (hn.trans hn'.symm) (h.apart l hl p hp l' hl' q hq)
  · rcases h.of_mem_below he' with ⟨l', hl', q, hq, hn', rfl⟩ | ⟨l', hl', q, hq, hn', rfl⟩
    · exact absurd (hn'.trans hn.symm) (h.apart l' hl' q hq l hl p hp)
    · rfl

/-- **Names that are used in one way by all sources are no matter of dispute.** -/
theorem Apart.agree (h : Apart layers) (scope key : String) :
    Agree layers [scope] ∧ Agree layers [scope, key] := by
  refine ⟨h.agree_top scope, ?_⟩
  have htext : ∀ e ∈ (layers.flatMap Layer.entries).flatMap (Entry.below [scope, key]),
      e.kind = .text := by
    intro e he
    rw [below_pair, ← List.flatMap_assoc] at he
    obtain ⟨e₀, he₀, he⟩ := List.mem_flatMap.mp he
    rcases h.of_mem_below he₀ with ⟨l, -, p, -, -, rfl⟩ | ⟨l, -, p, -, -, rfl⟩
    · cases he
    · obtain ⟨q, -, rfl⟩ := List.mem_map.mp he
      rfl
  exact fun e he e' he' => (htext e he).trans (htext e' he').symm

/-! ## The built-in settings -/

theorem toList_append_ofList {text : String} {front back : List Char}
    (h : text.toList = front) : (text ++ String.ofList back).toList = front ++ back := by
  rw [String.toList_append, h, String.toList_ofList]

/-- The sections in the characters of a text. -/
def sectionsOf (l : List Char) : Option (List (Option String × Fields)) :=
  (Ini.readItems {} (Ini.begin l).1 (Ini.begin l).2).map fun s => s.sections.reverse

theorem read_of_toList {text : String} {l : List Char}
    {sections : Option (List (Option String × Fields))} (hl : text.toList = l)
    (h : sectionsOf l = sections) : Ini.read text = sections := by
  rw [← h, ← hl]
  rfl

/-- What the built-in settings say, section by section. -/
def builtInSections : List (Option String × Fields) :=
  [(none,
      [("read_timeout_l", "900000"), ("read_timeout_m", "120000"), ("read_timeout_s", "30000"),
        ("read_timeout_xl", "3600000"), ("temp_prefix", "find"), ("watchdog_interval", "15000"),
        ("watchdog_join_timeout", "2000")]),
    (some "unix", [("read_timeout_s", "20000")]),
    (some "aix", [("read_timeout_xl", "7200000")]),
    (some "solaris", [("read_timeout_xl", "7200000")]),
    (some "windows", [("read_timeout_m", "300000"), ("read_timeout_s", "60000")])]

theorem read_defaults : Ini.read defaults = some builtInSections := by
  apply read_of_toList
  · -- the text is put together from seventeen lines
    unfold defaults
    iterate 16 apply toList_append_ofList
    exact String.toList_ofList
  · decide +kernel

/-- The layer that sections make. -/
def layerOf (sections : List (Option String × Fields)) : Layer :=
  sections.foldl
    (fun layer part =>
      match part with
      | (none, pairs) => { layer with top := pairs }
      | (some name, pairs) =>
        { top := layer.top.without name, sections := putSection name pairs layer.sections })
    {}

theorem layer_inline {text : String} {sections : List (Option String × Fields)}
    (h : Ini.read text = some sections) : (Source.inline text).layer = .ok (layerOf sections) := by
  rw [Source.layer, Layer.ofText, h]
  rfl

/-! ## Loading -/

/--
**Scopes count first, and sources second.** Whatever the sources are, and however long the chain:
once they can be read, and agree on what is at the places of the key, loading succeeds, and the
setting is a text of the last source that gives any in the first scope for which any source does, or
else of the last source that gives any at the top; or there is none. That holds in whatever order
what one source says is taken up.
-/
theorem scopes_count_before_sources (hl : layersOf sources = .ok layers)
    (hkey : Agree layers [key])
    (hscopes : ∀ scope ∈ chain, Agree layers [scope] ∧ Agree layers [scope, key]) :
    MayLoad sources chain (load sources chain) ∧
      ∀ r, MayLoad sources chain r → ∃ settings, r = .ok settings ∧
        IsAmong (settings.text? key)
          ((chain.findSome? fun scope => lastTexts? layers [scope, key]).or
            (lastTexts? layers [key])) := by
  refine ⟨mayLoad_load sources chain, fun r hr => ?_⟩
  cases hr with
  | unreadable h =>
    rw [hl] at h
    cases h
  | @loaded layers' es h hes =>
    rw [hl] at h
    cases h
    have hnamed : ∀ scope ∈ chain, ∀ u, (treeOf es).child? scope = some u → u.Named := by
      intro scope _ u hu
      rw [child?_treeOf hes] at hu
      exact named_grow (fun t ht => by cases ht) hu
    have htop : ((treeOf es).child? key).bind Tree.text? = lastText es [key] := by
      rw [child?_treeOf hes, text?_grow (hkey.oneKind hes), lastText_eq]
    refine ⟨_, rfl, ?_⟩
    rw [text?_resolve (named_treeOf es) hnamed, htop]
    exact (isAmong_findSome? hes hscopes).or (hes.lastText_mem [key])

/-- A file, a text and a variable that all give one key, at the top and in two scopes. -/
def someSources : List Source :=
  [.file (some "x = 0\n[unix]\nx = 1\n") true, .inline "[linux]\nx = 2\n",
    .environment [("HOSTLENS_LINUX__X", "3")]]

/-- The layers that they make. -/
def someLayers : List Layer :=
  [layerOf builtInSections, { top := [("x", "0")], sections := [("unix", [("x", "1")])] },
    { sections := [("linux", [("x", "2")])] }, { top := [("linux.x", "3")] }]

theorem layers_of_someSources : layersOf someSources = .ok someLayers := by
  have hfile : Layer.ofText (withoutMark "x = 0\n[unix]\nx = 1\n") =
      some { top := [("x", "0")], sections := [("unix", [("x", "1")])] } := by decide +kernel
  have hinline : Layer.ofText "[linux]\nx = 2\n" =
      some { sections := [("linux", [("x", "2")])] } := by decide +kernel
  have hvariable : Layer.ofVariables [("HOSTLENS_LINUX__X", "3")] =
      { top := [("linux.x", "3")] } := by decide +kernel
  rw [layersOf, someSources, List.mapM_cons, layer_inline read_defaults]
  simp only [List.mapM_cons, List.mapM_nil, Source.layer, hfile, hinline, hvariable]
  rfl

/-- The variable counts: it comes last, and has a text in the first scope. -/
theorem variable_counts_in_first_scope :
    MayLoad someSources ["linux", "unix"] (load someSources ["linux", "unix"]) ∧
      ∀ r, MayLoad someSources ["linux", "unix"] r →
        ∃ settings, r = .ok settings ∧ settings.text? "x" = some "3" := by
  have hkey : Agree someLayers ["x"] := by decide +kernel
  have hscopes : ∀ scope ∈ ["linux", "unix"],
      Agree someLayers [scope] ∧ Agree someLayers [scope, "x"] := by decide +kernel
  obtain ⟨hload, hall⟩ := scopes_count_before_sources layers_of_someSources hkey hscopes
  refine ⟨hload, fun r hr => ?_⟩
  obtain ⟨settings, rfl, htext⟩ := hall r hr
  have htexts : (["linux", "unix"].findSome? fun scope => lastTexts? someLayers [scope, "x"]).or
      (lastTexts? someLayers ["x"]) = some ["3"] := by decide +kernel
  rw [htexts] at htext
  exact ⟨settings, rfl, htext.eq_some⟩

/-! ### The rule by the letter -/

/-- The text of a key under a heading, or above the first one. -/
def writtenUnder? (heading : Option String) (key : String)
    (sections : List (Option String × Fields)) : Option String :=
  sections.reverse.findSome? fun part => if part.1 = heading then part.2.get? key else none

/-- The text of a key if scopes were headings. -/
def byLetter? (read : List (List (Option String × Fields))) (chain : List String) (key : String) :
    Option String :=
  (chain.findSome? fun scope => read.reverse.findSome? (writtenUnder? (some scope) key)).or
    (read.reverse.findSome? (writtenUnder? none key))

/-- No name is both a heading and the name of something above the first one. -/
def HeadingsApart (sections : List (Option String × Fields)) : Prop :=
  ∀ part ∈ sections, part.1 = none → ∀ p ∈ part.2, ∀ other ∈ sections, other.1 ≠ some p.1

instance (sections : List (Option String × Fields)) : Decidable (HeadingsApart sections) :=
  inferInstanceAs (Decidable (∀ part ∈ sections, part.1 = none →
    ∀ p ∈ part.2, ∀ other ∈ sections, other.1 ≠ some p.1))

/-- What the headings of the built-in settings and of a text over them say about a key, and what
may come out when they are loaded. -/
structure Departs (text : String) (chain : List String) (key : String)
    (byLetter loaded : Option String) : Prop where
  builtIn : Ini.read defaults = some builtInSections ∧ HeadingsApart builtInSections
  reads : ∃ sections, Ini.read text = some sections ∧ HeadingsApart sections ∧
    byLetter? [builtInSections, sections] chain key = byLetter
  loads : ∃ settings, MayLoad [.inline text] chain (.ok settings) ∧ settings.text? key = loaded

theorem departs_of_read {text key : String} {chain : List String}
    {sections : List (Option String × Fields)} {byLetter loaded : Option String}
    (hr : Ini.read text = some sections) (ha : HeadingsApart sections)
    (hb : byLetter? [builtInSections, sections] chain key = byLetter)
    (hes : IsListing [layerOf builtInSections, layerOf sections] es)
    (hl : (resolve (treeOf es) chain).text? key = loaded) :
    Departs text chain key byLetter loaded := by
  have hbuiltIn : HeadingsApart builtInSections := by decide +kernel
  have hlayers : layersOf [.inline text] = .ok [layerOf builtInSections, layerOf sections] := by
    rw [layersOf, List.mapM_cons, List.mapM_cons, layer_inline read_defaults, layer_inline hr]
    rfl
  exact ⟨⟨read_defaults, hbuiltIn⟩, ⟨sections, hr, ha, hb⟩, _, .loaded hlayers hes, hl⟩

/--
**Scopes are not headings**, for four reasons: a text may take the place of the section of an
earlier source, a heading with a dot leads further down, one that is repeated begins anew, and what
is under it may be given by a name with a dot as well, which may come later.
-/
theorem scopes_are_not_headings :
    Departs "unix = 5\n" ["linux", "unix"] "read_timeout_s" (some "20000") (some "30000") ∧
      Departs "[a.b]\nx = 1\n" ["a.b"] "x" (some "1") none ∧
      Departs "[unix]\nx = 1\n[unix]\ny = 2\n" ["unix"] "x" (some "1") none ∧
      Departs "unix.x = 1\n[unix]\nx = 2\n" ["unix"] "x" (some "2") (some "1") := by
  have hlisted := isListing_flatMap List.Perm.refl
  refine ⟨?_, ?_, ?_, ?_⟩
  · have hr : Ini.read "unix = 5\n" = some [(none, [("unix", "5")])] := by decide +kernel
    exact departs_of_read hr (by decide +kernel) (by decide +kernel) (hlisted _)
      (by decide +kernel)
  · have hr : Ini.read "[a.b]\nx = 1\n" = some [(none, []), (some "a.b", [("x", "1")])] := by
      decide +kernel
    exact departs_of_read hr (by decide +kernel) (by decide +kernel) (hlisted _)
      (by decide +kernel)
  · have hr : Ini.read "[unix]\nx = 1\n[unix]\ny = 2\n" =
        some [(none, []), (some "unix", [("x", "1")]), (some "unix", [("y", "2")])] := by
      decide +kernel
    exact departs_of_read hr (by decide +kernel) (by decide +kernel) (hlisted _)
      (by decide +kernel)
  · have hr : Ini.read "unix.x = 1\n[unix]\nx = 2\n" =
        some [(none, [("unix.x", "1")]), (some "unix", [("x", "2")])] := by
      decide +kernel
    -- here the section comes before the name at the top
    exact departs_of_read hr (by decide +kernel) (by decide +kernel)
      (isListing_flatMap List.reverse_perm _) (by decide +kernel)

end RemoteSearch.Settings
