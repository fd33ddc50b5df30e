import Mathlib.Data.String.Basic
import RemoteSearch.Fields

/-!
# What is found among named texts

A text that is put under a name is found there, and no other changes. So pairs with different names
that are put one after another are all found, before whatever was there.
-/

namespace RemoteSearch.Fields

variable {fields : Fields} {name text : String} {l : List (String × String)}

theorem get?_put (fields : Fields) (name text key : String) :
    (put name text fields).get? key = if key = name then some text else fields.get? key := by
  by_cases hk : key = name
  · rw [if_pos hk, hk]
    exact get?_put_self fields name text
  · rw [if_neg hk]
    have hb : (key == name) = false := by simpa using hk
    induction fields with
    | nil => simp [put, get?, hb]
    | cons p r ih =>
      obtain ⟨n, t⟩ := p
      unfold put
      split
      · next hn =>
        subst hn
        simp [get?, List.lookup_cons, hb]
      · split
        · simp [get?, List.lookup_cons, hb]
        · have hr : (put name text r).lookup key = r.lookup key := ih
          rw [get?, get?, List.lookup_cons, List.lookup_cons, hr]

/-! ## Order -/

/-- The names ascend. -/
def Sorted (fields : Fields) : Prop := (fields.map Prod.fst).Pairwise (· < ·)

theorem mem_map_fst_put {key : String} :
    key ∈ (put name text fields).map Prod.fst ↔ key = name ∨ key ∈ fields.map Prod.fst := by
  induction fields with
  | nil => simp [put]
  | cons p r ih =>
    obtain ⟨n, t⟩ := p
    unfold put
    split
    · next h => simp [h]
    · split
      · simp
      · simp only [List.map_cons, List.mem_cons, ih]
        tauto

theorem Sorted.put (h : Sorted fields) : Sorted (fields.put name text) := by
  induction fields with
  | nil => exact List.pairwise_singleton _ _
  | cons p r ih =>
    obtain ⟨n, t⟩ := p
    obtain ⟨hn, hr⟩ := List.pairwise_cons.mp h
    unfold Fields.put
    split
    · next he =>
      subst he
      exact h
    · next hne =>
      split
      · next hlt =>
        refine List.pairwise_cons.mpr ⟨fun key hk => ?_, h⟩
        rcases List.mem_cons.mp hk with rfl | hk
        · exact hlt
        · exact hlt.trans (hn key hk)
      · next hnlt =>
        refine List.pairwise_cons.mpr ⟨fun key hk => ?_, ih hr⟩
        rcases mem_map_fst_put.mp hk with rfl | hk
        · exact lt_of_le_of_ne (not_lt.mp hnlt) (Ne.symm hne)
        · exact hn key hk

theorem sorted_ofList (l : List (String × String)) : Sorted (ofList l) := by
  have hfold : ∀ acc, Sorted acc → Sorted (l.foldl (fun acc p => Fields.put p.1 p.2 acc) acc) := by
    induction l with
    | nil => exact fun _ h => h
    | cons p l ih => exact fun acc h => ih _ h.put
  exact hfold [] .nil

theorem Sorted.nodup (h : Sorted fields) : (fields.map Prod.fst).Nodup := h.imp ne_of_lt

/-! ## Pairs that are put one after another -/

theorem lookup_of_notMem {α : Type} {l : List (String × α)} {key : String}
    (h : key ∉ l.map Prod.fst) : l.lookup key = none := by
  refine List.lookup_eq_none_iff.mpr fun p hp => ?_
  have hne : key ≠ p.1 := fun he => h (List.mem_map.mpr ⟨p, hp, he.symm⟩)
  simpa using hne

/-- Pairs with different names are found first, and then what was there before. -/
theorem get?_foldl_put (hl : (l.map Prod.fst).Nodup) (fields : Fields) (key : String) :
    (l.foldl (fun fields p => put p.1 p.2 fields) fields).get? key =
      (l.lookup key).or (fields.get? key) := by
  induction l generalizing fields with
  | nil => rfl
  | cons p l ih =>
    obtain ⟨n, t⟩ := p
    obtain ⟨hn, hl⟩ := List.nodup_cons.mp hl
    rw [List.foldl_cons, ih hl, get?_put, List.lookup_cons]
    by_cases hk : key = n
    · subst hk
      simp [lookup_of_notMem hn]
    · have hb : (key == n) = false := by simpa using hk
      rw [if_neg hk, hb]

theorem get?_ofList (hl : (l.map Prod.fst).Nodup) (key : String) :
    (ofList l).get? key = l.lookup key :=
  (get?_foldl_put hl [] key).trans (Option.or_none)

end RemoteSearch.Fields
