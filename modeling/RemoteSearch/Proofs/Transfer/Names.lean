import Mathlib.Data.List.Nodup
import RemoteSearch.Proofs.Text.Digits
import RemoteSearch.Proofs.Transfer.Course

/-!
# Names of temporary files

The stamps that are taken one after another, and what can be told of a stamp from the name that
carries it.

* `goes_takeStamps_iff`, `pairwise_stamps`: stamps increase, whatever the clock shows.
* `stampText_rawName`: a name tells its stamp, whatever dots and digits its prefix has.
* `nodup_files`: captured files with different stamps, and what they are compressed to, are all
  different.
-/

namespace RemoteSearch.Transfer

open RemoteSearch.Action

variable {s s' : Trail} {t : Exchanges} {last bound k : Nat} {now : Int} {clocks : List Int}
  {raw raw' : String} {raws : List String} {ks : List Nat}

/-! ## Stamps -/

/-- The stamps after `last` that are taken while the clock shows one time after another. -/
def stamps (last : Nat) : List Int → List Nat
  | [] => []
  | now :: clocks => nextStamp last now :: stamps (nextStamp last now) clocks

/-- The last of these stamps. -/
def lastOf (last : Nat) (clocks : List Int) : Nat := clocks.foldl nextStamp last

theorem stamps_concat (last : Nat) (clocks : List Int) (now : Int) :
    stamps last (clocks ++ [now]) = stamps last clocks ++ [nextStamp (lastOf last clocks) now] := by
  induction clocks generalizing last with
  | nil => rfl
  | cons x clocks ih => simp [stamps, lastOf, ih]

theorem lt_of_mem_stamps (h : k ∈ stamps last clocks) : last < k := by
  induction clocks generalizing last with
  | nil => cases h
  | cons now clocks ih =>
    rcases List.mem_cons.mp h with rfl | h
    · exact lt_nextStamp last now
    · exact Nat.lt_trans (lt_nextStamp last now) (ih h)

/-- **Stamps increase**, whether the clock stands still, jumps, or runs backwards. -/
theorem pairwise_stamps (last : Nat) (clocks : List Int) :
    (stamps last clocks).Pairwise (· < ·) := by
  induction clocks generalizing last with
  | nil => exact .nil
  | cons now clocks ih => exact .cons (fun _ h => lt_of_mem_stamps h) (ih _)

/-- Stamps go beyond the clock, and beyond the first of them, by at most one for each taken. -/
theorem le_of_mem_stamps (hl : last ≤ bound) (hc : ∀ now ∈ clocks, now ≤ bound)
    (h : k ∈ stamps last clocks) : k ≤ bound + clocks.length := by
  induction clocks generalizing last bound with
  | nil => cases h
  | cons now clocks ih =>
    obtain ⟨hnow, hc⟩ := List.forall_mem_cons.mp hc
    have hnext : nextStamp last now ≤ bound + 1 := by
      unfold nextStamp
      omega
    rw [List.length_cons]
    rcases List.mem_cons.mp h with rfl | h
    · omega
    · have hrest := ih hnext (fun x hx => by have := hc x hx; omega) h
      omega

/-- So they have room in 64 bits, while the clock and their number have in 63. -/
theorem stamp_lt (hl : last < 0x8000_0000_0000_0000)
    (hc : ∀ now ∈ clocks, now < 0x8000_0000_0000_0000)
    (hn : clocks.length ≤ 0x8000_0000_0000_0000) (h : k ∈ stamps last clocks) :
    k < 0x1_0000_0000_0000_0000 := by
  have hlast : last ≤ 0x7fff_ffff_ffff_ffff := by omega
  have hclocks : ∀ now ∈ clocks, now ≤ ((0x7fff_ffff_ffff_ffff : Nat) : Int) := fun now hm => by
    have := hc now hm
    omega
  have hk := le_of_mem_stamps hlast hclocks h
  omega

/-- Takes stamps one after another. -/
def takeStamps : Nat → Action Trail (List Nat)
  | 0 => pure []
  | n + 1 => do
    let stamp ← takeStamp
    let rest ← takeStamps n
    pure (stamp :: rest)

/-- A look at the clock, which shows a time. -/
def reading (now : Int) : Dialogue.Exchange Request.Reply := ⟨.home .clock, now⟩

theorem goes_takeStamp_iff {r : Except Error Nat} :
    takeStamp.Goes s [reading now] r s' ↔
      r = .ok (nextStamp s.lastStamp now) ∧
        s' = { s with lastStamp := nextStamp s.lastStamp now } := by
  constructor
  · intro h
    obtain ⟨now', ht, hr⟩ := goes_takeStamp h
    cases ht
    exact hr
  · rintro ⟨rfl, rfl⟩
    refine goes_home_bind_iff.mpr ⟨now, [], rfl, goes_get_bind_iff.mpr ?_⟩
    exact goes_modify_bind_iff.mpr (goes_pure_iff.mpr ⟨rfl, rfl, rfl⟩)

/-- **Whatever the clock shows, there are stamps**, and these they are. -/
theorem goes_takeStamps_iff {r : Except Error (List Nat)} :
    (takeStamps clocks.length).Goes s (clocks.map reading) r s' ↔
      r = .ok (stamps s.lastStamp clocks) ∧
        s' = { s with lastStamp := lastOf s.lastStamp clocks } := by
  induction clocks generalizing s s' r with
  | nil =>
    rw [List.length_nil, takeStamps, goes_pure_iff]
    exact ⟨fun ⟨_, hr, hs⟩ => ⟨hr, hs⟩, fun ⟨hr, hs⟩ => ⟨rfl, hr, hs⟩⟩
  | cons now clocks ih =>
    rw [List.length_cons, takeStamps, List.map_cons]
    constructor
    · intro h
      rcases goes_bind_iff.mp h with ⟨stamp, s₁, u, w, ht, h1, h2⟩ | ⟨e, -, h1⟩
      · obtain ⟨now', rfl, hstamp, rfl⟩ := goes_takeStamp h1
        cases ht
        cases hstamp
        rw [← map_eq_pure_bind] at h2
        obtain ⟨x, rfl, h3⟩ := goes_map_iff.mp h2
        obtain ⟨rfl, rfl⟩ := ih.mp h3
        exact ⟨rfl, rfl⟩
      · obtain ⟨now', -, hr, -⟩ := goes_takeStamp h1
        cases hr
    · rintro ⟨rfl, rfl⟩
      refine goes_bind_iff.mpr (Or.inl ⟨_, _, [reading now], _, rfl,
        goes_takeStamp_iff.mpr ⟨rfl, rfl⟩, ?_⟩)
      rw [← map_eq_pure_bind]
      exact goes_map_iff.mpr ⟨.ok _, rfl, ih.mpr ⟨rfl, rfl⟩⟩

/-! ## Names -/

/-- The digits before the suffix of a captured file. -/
def stampText (raw : String) : List Char :=
  ((raw.toList.reverse.drop 4).takeWhile Char.isDigit).reverse

/-- A name, read from its end. -/
theorem reverse_rawName (directory name : String) (stamp : Nat) :
    (rawName directory name stamp).toList.reverse =
      't' :: 'u' :: 'o' :: '.' ::
        ((toString stamp).toList.reverse ++ '.' :: (directory ++ name).toList.reverse) := by
  have hname : rawName directory name stamp =
      directory ++ name ++ "." ++ toString stamp ++ ".out" := rfl
  have hend : ".out".toList = ['.', 'o', 'u', 't'] := rfl
  have hdot : ".".toList = ['.'] := rfl
  rw [hname, String.toList_append, String.toList_append, String.toList_append, hend, hdot]
  simp only [List.reverse_append, List.reverse_cons, List.reverse_nil, List.nil_append,
    List.cons_append]

/-- **A name tells its stamp**: what a prefix has of dots and digits stands before the last dot but
one. -/
theorem stampText_rawName (directory name : String) (stamp : Nat) :
    stampText (rawName directory name stamp) = (toString stamp).toList := by
  have hdigits : ∀ c ∈ (toString stamp).toList.reverse, c.isDigit = true := fun c hc =>
    Text.isDigit_of_mem_toString (List.mem_reverse.mp hc)
  rw [stampText, reverse_rawName]
  show List.reverse (List.takeWhile _ ((toString stamp).toList.reverse ++ _)) = _
  rw [List.takeWhile_append_of_pos hdigits, List.takeWhile_cons_of_neg (by decide), List.append_nil,
    List.reverse_reverse]

/-- The name of a captured file that carries a stamp, in some directory and after some prefix. -/
def HasStamp (raw : String) (stamp : Nat) : Prop :=
  ∃ directory name, raw = rawName directory name stamp

theorem HasStamp.stampText (h : HasStamp raw k) : stampText raw = (toString k).toList := by
  obtain ⟨directory, name, rfl⟩ := h
  exact stampText_rawName directory name k

theorem compressedName_inj : compressedName raw = compressedName raw' ↔ raw = raw' := by
  unfold compressedName
  rw [← String.toList_inj, String.toList_append, String.toList_append, List.append_left_inj,
    String.toList_inj]

/-- No captured file is named as a compressed one. -/
theorem HasStamp.ne_compressedName (h : HasStamp raw k) (other : String) :
    raw ≠ compressedName other := by
  obtain ⟨directory, name, rfl⟩ := h
  intro he
  have hz : (compressedName other).toList.reverse = 'z' :: 'g' :: '.' :: other.toList.reverse := by
    rw [compressedName, String.toList_append, List.reverse_append]
    rfl
  rw [← he, reverse_rawName] at hz
  cases hz

/-- A captured file, and what it is compressed to. -/
def filesOf (raw : String) : List String := [raw, compressedName raw]

/-- **Files of different stamps are all different**, captured and compressed ones. -/
theorem nodup_files (h : List.Forall₂ HasStamp raws ks) (hk : ks.Nodup) :
    (raws.flatMap filesOf).Nodup := by
  have htexts : raws.map stampText = ks.map fun k => (toString k).toList := by
    clear hk
    induction h with
    | nil => rfl
    | cons hs _ ih => rw [List.map_cons, List.map_cons, hs.stampText, ih]
  have hraws : raws.Nodup := by
    refine List.Nodup.of_map stampText ?_
    rw [htexts]
    exact hk.map fun a b hab => Text.toString_inj.mp (String.toList_inj.mp hab)
  have hstamped : ∀ raw ∈ raws, ∃ k, HasStamp raw k := by
    intro raw hm
    obtain ⟨i, hi, rfl⟩ := List.getElem_of_mem hm
    exact ⟨_, h.get hi (h.length_eq ▸ hi)⟩
  refine List.nodup_flatMap.mpr ⟨fun raw hm => ?_, ?_⟩
  · obtain ⟨k, hs⟩ := hstamped raw hm
    exact List.nodup_cons.mpr ⟨by simpa using hs.ne_compressedName raw, List.nodup_singleton _⟩
  · refine hraws.imp_of_mem fun {raw raw'} hm hm' hne => ?_
    obtain ⟨k, hs⟩ := hstamped raw hm
    obtain ⟨k', hs'⟩ := hstamped raw' hm'
    show (filesOf raw).Disjoint (filesOf raw')
    intro x hx hx'
    rcases List.mem_pair.mp hx with rfl | rfl
    · rcases List.mem_pair.mp hx' with he | he
      · exact hne he
      · exact hs.ne_compressedName _ he
    · rcases List.mem_pair.mp hx' with he | he
      · exact hs'.ne_compressedName _ he.symm
      · exact hne (compressedName_inj.mp he)

end RemoteSearch.Transfer
