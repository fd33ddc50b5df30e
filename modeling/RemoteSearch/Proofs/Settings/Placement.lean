import RemoteSearch.Proofs.Fields
import RemoteSearch.Settings.Load

/-!
# What sources put into the tree

Layers are taken apart into entries, each of which puts its matter at the end of some steps. What
the tree has at a place in the end then depends only on the entries that are for that place or lie
below it.

* `Entry.under`: what an entry is, as seen from below a name.
* `child?_grow`: the tree below a name grows by what the entries are from there.
* `text?_grow`: the text at a place is the one of the last entry that gives it one.
-/

namespace RemoteSearch.Settings

/-- What entries make of the tree at a place, if there is one before. -/
def grow (o : Option Tree) (es : List Entry) : Option Tree :=
  es.foldl (fun o e => some (e.place (o.getD .nothing))) o

variable {e : Entry} {es es' : List Entry} {o : Option Tree} {t : Tree} {name key : String}
  {names : List String} {l : List (String × Tree)}

theorem grow_append (o : Option Tree) (es es' : List Entry) :
    grow o (es ++ es') = grow (grow o es) es' := List.foldl_append

theorem grow_some (t : Tree) (es : List Entry) :
    grow (some t) es = some (es.foldl (fun t e => e.place t) t) := by
  induction es generalizing t with
  | nil => rfl
  | cons e es ih => exact ih (e.place t)

/-! ## Kinds of trees -/

/-- What an entry makes of the tree that it is put into. -/
inductive Kind where
  | text
  | table
  | list
  deriving Repr, DecidableEq

/-- The kind of tree that there is once an entry is put into it. -/
def Entry.kind : Entry → Kind
  | ⟨[], .text _⟩ => .text
  | ⟨[], .pairs _⟩ => .table
  | ⟨.child _ :: _, _⟩ => .table
  | ⟨.position _ :: _, _⟩ => .list

/-- The text that an entry makes of the tree. -/
def Entry.text? : Entry → Option String
  | ⟨[], .text s⟩ => some s
  | _ => none

/-- The text that a tree is. -/
def Tree.text? : Tree → Option String
  | text s => some s
  | _ => none

/-- The entries of a tree that is a table. -/
def Tree.table? : Tree → Option (List (String × Tree))
  | table l => some l
  | _ => none

/-- What a tree has under a name. -/
def Tree.child? (t : Tree) (name : String) : Option Tree := t.entries.lookup name

theorem text?_place : ∀ (e : Entry) (t : Tree), (e.place t).text? = e.text?
  | ⟨[], .text _⟩, _ => rfl
  | ⟨[], .pairs _⟩, _ => rfl
  | ⟨.child _ :: _, _⟩, _ => rfl
  | ⟨.position _ :: _, _⟩, _ => rfl

theorem entries_place_of_ne : ∀ {e : Entry}, e.kind ≠ .table → ∀ t, (e.place t).entries = []
  | ⟨[], .text _⟩, _, _ => rfl
  | ⟨[], .pairs _⟩, h, _ => absurd rfl h
  | ⟨.child _ :: _, _⟩, h, _ => absurd rfl h
  | ⟨.position _ :: _, _⟩, _, _ => rfl

theorem Entry.text?_of_ne : ∀ {e : Entry}, e.kind ≠ .text → e.text? = none
  | ⟨[], .text _⟩, h => absurd rfl h
  | ⟨[], .pairs _⟩, _ => rfl
  | ⟨.child _ :: _, _⟩, _ => rfl
  | ⟨.position _ :: _, _⟩, _ => rfl

theorem Entry.exists_text : ∀ {e : Entry}, e.kind = .text → ∃ s, e.text? = some s
  | ⟨[], .text s⟩, _ => ⟨s, rfl⟩
  | ⟨[], .pairs _⟩, h => nomatch h
  | ⟨.child _ :: _, _⟩, h => nomatch h
  | ⟨.position _ :: _, _⟩, h => nomatch h

/-! ## Below a name -/

/-- What an entry is, as seen from below a name. -/
def Entry.under (name : String) : Entry → List Entry
  | ⟨.child n :: r, m⟩ => if n = name then [⟨r, m⟩] else []
  | ⟨[], .pairs fields⟩ => (fields.filter (·.1 = name)).map fun p => ⟨[], .text p.2⟩
  | _ => []

theorem Entry.under_of_ne : ∀ {e : Entry}, e.kind ≠ .table → e.under name = []
  | ⟨[], .text _⟩, _ => rfl
  | ⟨[], .pairs _⟩, h => absurd rfl h
  | ⟨.child _ :: _, _⟩, h => absurd rfl h
  | ⟨.position _ :: _, _⟩, _ => rfl

theorem lookup_modifyEntry (f : Tree → Tree) (l : List (String × Tree)) :
    (Tree.modifyEntry name f l).lookup key =
      if key = name then some (f ((l.lookup key).getD .nothing)) else l.lookup key := by
  induction l with
  | nil => by_cases hk : key = name <;> simp [Tree.modifyEntry, hk]
  | cons p l ih =>
    obtain ⟨n, t⟩ := p
    by_cases hn : n = name
    · subst hn
      rw [Tree.modifyEntry, if_pos rfl, List.lookup_cons, List.lookup_cons]
      by_cases hk : key = n
      · simp [hk]
      · have hb : (key == n) = false := by simpa using hk
        rw [if_neg hk, hb]
    · rw [Tree.modifyEntry, if_neg hn, List.lookup_cons, List.lookup_cons, ih]
      by_cases hk : key = n
      · simp [hk, hn]
      · have hb : (key == n) = false := by simpa using hk
        rw [hb]

theorem lookup_withTexts (fields : Fields) (l : List (String × Tree)) :
    (withTexts fields l).lookup key =
      grow (l.lookup key) ((fields.filter (·.1 = key)).map fun p => ⟨[], .text p.2⟩) := by
  induction fields generalizing l with
  | nil => rfl
  | cons p fields ih =>
    have hstep : withTexts (p :: fields) l =
        withTexts fields (Tree.modifyEntry p.1 (fun _ => .text p.2) l) := rfl
    rw [hstep, ih, lookup_modifyEntry]
    by_cases hk : p.1 = key
    · rw [if_pos hk.symm, List.filter_cons_of_pos (by simpa using hk)]
      rfl
    · rw [if_neg (Ne.symm hk), List.filter_cons_of_neg (by simpa using hk)]

theorem child?_place : ∀ {e : Entry}, e.kind = .table → ∀ t name,
    (e.place t).child? name = grow (t.child? name) (e.under name)
  | ⟨[], .text _⟩, h, _, _ => nomatch h
  | ⟨[], .pairs fields⟩, _, t, _ => lookup_withTexts fields t.entries
  | ⟨.child n :: r, m⟩, _, t, name => by
    show (Tree.modifyEntry n (Tree.modifyAt m.over r) t.entries).lookup name = _
    rw [lookup_modifyEntry, Entry.under]
    by_cases hn : n = name
    · rw [if_pos hn, if_pos hn.symm]
      rfl
    · rw [if_neg hn, if_neg (Ne.symm hn)]
      rfl
  | ⟨.position _ :: _, _⟩, h, _, _ => nomatch h

/-- **The tree below a name grows by what the entries are from there**, if they make a table. -/
theorem child?_grow_of_table (h : ∀ e ∈ es, e.kind = .table) (o : Option Tree) (name : String) :
    (grow o es).bind (·.child? name) =
      grow (o.bind (·.child? name)) (es.flatMap (Entry.under name)) := by
  induction es generalizing o with
  | nil => rfl
  | cons e es ih =>
    obtain ⟨he, hes⟩ := List.forall_mem_cons.mp h
    have hbefore : (o.getD .nothing).child? name = o.bind (·.child? name) := by cases o <;> rfl
    have hstep : grow o (e :: es) = grow (some (e.place (o.getD .nothing))) es := rfl
    rw [hstep, ih hes, List.flatMap_cons, grow_append, Option.bind_some, child?_place he, hbefore]

/-- Entries that all make the same kind of tree. -/
def OneKind (es : List Entry) : Prop := ∀ e ∈ es, ∀ e' ∈ es, e.kind = e'.kind

instance (es : List Entry) : Decidable (OneKind es) :=
  inferInstanceAs (Decidable (∀ e ∈ es, ∀ e' ∈ es, e.kind = e'.kind))

theorem OneKind.of_perm (h : OneKind es) (hp : es'.Perm es) : OneKind es' :=
  fun e he e' he' => h e (hp.subset he) e' (hp.subset he')

theorem child?_grow (h : OneKind es) (name : String) :
    (grow none es).bind (·.child? name) = grow none (es.flatMap (Entry.under name)) := by
  rcases List.eq_nil_or_concat es with rfl | ⟨before, last, rfl⟩
  · rfl
  · rw [List.concat_eq_append] at *
    by_cases hk : last.kind = .table
    · have hall : ∀ e ∈ before ++ [last], e.kind = .table := fun e he =>
        (h e he last (by simp)).trans hk
      exact child?_grow_of_table hall none name
    · -- texts and lists have nothing below names, and their entries are nothing from there
      have hunder : (before ++ [last]).flatMap (Entry.under name) = [] := by
        refine List.flatMap_eq_nil_iff.mpr fun e he => Entry.under_of_ne ?_
        rwa [h e he last (by simp)]
      rw [hunder, grow_append]
      show Tree.child? _ name = none
      rw [Tree.child?, entries_place_of_ne hk]
      rfl

/-- **The text at a place is that of the last entry.** -/
theorem text?_grow (h : OneKind es) :
    (grow none es).bind Tree.text? = (es.filterMap Entry.text?).getLast? := by
  rcases List.eq_nil_or_concat es with rfl | ⟨before, last, rfl⟩
  · rfl
  · rw [List.concat_eq_append] at *
    have hlast : (grow none (before ++ [last])).bind Tree.text? = last.text? := by
      rw [grow_append]
      exact text?_place last _
    rw [hlast, List.filterMap_append]
    by_cases hk : last.kind = .text
    · obtain ⟨s, hs⟩ := Entry.exists_text hk
      simp [hs]
    · have hall : ∀ e ∈ before ++ [last], e.text? = none := by
        refine fun e he => Entry.text?_of_ne ?_
        rwa [h e he last (by simp)]
      rw [← List.filterMap_append, List.filterMap_eq_nil_iff.mpr hall]
      exact hall last (by simp)

/-! ## Names are different -/

/-- The names of a table are all different. -/
def Tree.Named (t : Tree) : Prop := (t.entries.map Prod.fst).Nodup

theorem map_fst_modifyEntry (f : Tree → Tree) (l : List (String × Tree)) :
    (Tree.modifyEntry name f l).map Prod.fst =
      if name ∈ l.map Prod.fst then l.map Prod.fst else l.map Prod.fst ++ [name] := by
  induction l with
  | nil => rfl
  | cons p l ih =>
    obtain ⟨n, t⟩ := p
    by_cases hn : n = name
    · simp [Tree.modifyEntry, hn]
    · rw [Tree.modifyEntry, if_neg hn, List.map_cons, ih]
      have hne : name ≠ n := Ne.symm hn
      by_cases hm : name ∈ l.map Prod.fst <;> simp [hm, hne]

theorem nodup_modifyEntry (f : Tree → Tree) (h : (l.map Prod.fst).Nodup) :
    ((Tree.modifyEntry name f l).map Prod.fst).Nodup := by
  rw [map_fst_modifyEntry]
  by_cases hm : name ∈ l.map Prod.fst
  · rwa [if_pos hm]
  · rw [if_neg hm]
    refine List.nodup_append.mpr ⟨h, by simp, fun n hn n' hn' he => hm ?_⟩
    rwa [← List.mem_singleton.mp hn', ← he]

theorem nodup_withTexts (fields : Fields) (h : (l.map Prod.fst).Nodup) :
    ((withTexts fields l).map Prod.fst).Nodup := by
  induction fields generalizing l with
  | nil => exact h
  | cons p fields ih => exact ih (nodup_modifyEntry _ h)

theorem named_place : ∀ (e : Entry) {t : Tree}, t.Named → (e.place t).Named
  | ⟨[], .text _⟩, _, _ => List.nodup_nil
  | ⟨[], .pairs fields⟩, _, h => nodup_withTexts fields h
  | ⟨.child _ :: _, _⟩, _, h => nodup_modifyEntry _ h
  | ⟨.position _ :: _, _⟩, _, _ => List.nodup_nil

theorem named_grow (ho : ∀ t, o = some t → t.Named) (h : grow o es = some t) : t.Named := by
  induction es generalizing o with
  | nil => exact ho t h
  | cons e es ih =>
    refine ih (fun t' ht' => ?_) h
    cases ht'
    refine named_place e ?_
    cases o with
    | none => exact List.nodup_nil
    | some t' => exact ho t' rfl

/-! ## Places -/

/-- What an entry is at the place of some names, or below it. -/
def Entry.below : List String → Entry → List Entry
  | [], e => [e]
  | name :: names, e => (e.under name).flatMap (below names)

/-- The texts that an entry gives to the place of some names. -/
def Entry.textsAt (names : List String) (e : Entry) : List String :=
  match e.matter with
  | .text s => if e.steps = names.map .child then [s] else []
  | .pairs fields =>
    (fields.filter fun p => e.steps ++ [.child p.1] = names.map .child).map Prod.snd

theorem textsAt_nil : ∀ e : Entry, e.textsAt [] = e.text?.toList
  | ⟨[], .text _⟩ => rfl
  | ⟨.child _ :: _, .text _⟩ => rfl
  | ⟨.position _ :: _, .text _⟩ => rfl
  | ⟨[], .pairs _⟩ => by simp [Entry.textsAt, Entry.text?]
  | ⟨.child _ :: _, .pairs _⟩ => by simp [Entry.textsAt, Entry.text?]
  | ⟨.position _ :: _, .pairs _⟩ => by simp [Entry.textsAt, Entry.text?]

theorem textsAt_cons (name : String) (names : List String) : ∀ e : Entry,
    e.textsAt (name :: names) = (e.under name).flatMap (Entry.textsAt names)
  | ⟨[], .text _⟩ => rfl
  | ⟨[], .pairs fields⟩ => by
    cases names with
    | nil =>
      have htexts : Entry.textsAt [name] ⟨[], .pairs fields⟩ =
          (fields.filter (·.1 = name)).map Prod.snd := by simp [Entry.textsAt]
      rw [htexts, Entry.under, List.flatMap_map]
      exact List.map_eq_flatMap
    | cons n names => simp [Entry.textsAt, Entry.under, List.flatMap_map]
  | ⟨.child n :: r, .text s⟩ => by
    by_cases hn : n = name <;> simp [Entry.textsAt, Entry.under, hn]
  | ⟨.child n :: r, .pairs fields⟩ => by
    by_cases hn : n = name <;> simp [Entry.textsAt, Entry.under, hn]
  | ⟨.position _ :: _, .text _⟩ => by simp [Entry.textsAt, Entry.under]
  | ⟨.position _ :: _, .pairs _⟩ => by simp [Entry.textsAt, Entry.under]

/-- An entry gives the texts that it is at the place. -/
theorem textsAt_eq (names : List String) (e : Entry) :
    e.textsAt names = (e.below names).filterMap Entry.text? := by
  induction names generalizing e with
  | nil =>
    rw [textsAt_nil, Entry.below]
    cases ht : e.text? <;> simp [ht]
  | cons name names ih =>
    rw [textsAt_cons, Entry.below, List.filterMap_flatMap]
    congr 1
    funext e
    exact ih e

end RemoteSearch.Settings
