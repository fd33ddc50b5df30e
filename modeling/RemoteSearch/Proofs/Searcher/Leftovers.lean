import RemoteSearch.Proofs.Searcher.Course
import RemoteSearch.Proofs.Transfer.Leftovers

/-!
# Files that are left by searches

The exchange of a whole search, up to the first look for a file and from there on, and with it what
the search leaves on a truthful host.
-/

namespace RemoteSearch.Searcher

open RemoteSearch.Action Execution Transfer

variable {s : Setup} {m m' : Memory} {t u : Exchanges} {cs : List Condition}

/-- A part of an exchange that comes before anything is captured, and looks for nothing. -/
def IsPrelude (t : Exchanges) : Prop := captured t = none ∧ IsBlind t

theorem IsPrelude.append (ht : IsPrelude t) (hu : IsPrelude u) : IsPrelude (t ++ u) :=
  ⟨by rw [captured_append_of_none ht.1, hu.1], ht.2.append hu.2⟩

theorem isPrelude_isAdmitted {q : Query} {root : String} {r : Except Error Bool}
    (h : (isAdmitted s q root).Goes m t r m') : IsPrelude t := by
  rcases (goes_isAdmitted_exchange h).2 with rfl | ⟨-, -, reply, rfl⟩
  · exact ⟨rfl, by simp [IsBlind]⟩
  · exact ⟨captured_exchange, isBlind_exchange⟩

theorem isPrelude_isDirectory (path : String) (x : Except Error Bool) :
    IsPrelude [⟨.host (.isDirectory path .readOnly), x⟩] :=
  ⟨rfl, by simp [IsBlind, isLook]⟩

theorem isPrelude_prepare {r : Except Error Unit} (h : (prepare s).Goes m t r m') :
    IsPrelude t := by
  rcases goes_prepare h with ⟨rfl, -, -, -⟩ | ⟨name, source, -, -, rfl, -⟩
  · exact ⟨rfl, by simp [IsBlind]⟩
  · exact ⟨rfl, by simp [IsBlind, isLook]⟩

/-- The way of an exchange in which output is captured, if there is one. -/
def EndsWell (t : Exchanges) : Prop :=
  captured t = none ∨ ∃ raw a b, t = a ++ b ∧ captured a = some raw ∧ IsBlind a ∧ Ending raw b

theorem EndsWell.prelude (hu : EndsWell u) (ht : IsPrelude t) : EndsWell (t ++ u) := by
  rcases hu with h | ⟨raw, a, b, rfl, ha, hblind, hb⟩
  · exact Or.inl (by rw [captured_append_of_none ht.1, h])
  · refine Or.inr ⟨raw, t ++ a, b, by simp, ?_, ht.2.append hblind, hb⟩
    rw [captured_append_of_none ht.1, ha]

theorem endsWell_gather {command : String} {r : Except Error Findings}
    (h : (gather s command).Goes m t r m') : EndsWell t := by
  obtain ⟨u, trail, brought, hb, -, hway⟩ := goes_gather h
  have hclock : ∃ w, t = u ++ w ∧ IsIdle w ∧ captured w = none := by
    rcases hway with ⟨e, -, rfl, -⟩ | ⟨content, now, -, rfl, -⟩
    · exact ⟨[], by simp, by simp [IsIdle], rfl⟩
    · refine ⟨clockExchange now content, rfl, ?_, ?_⟩
      · cases content <;> simp [clockExchange, IsIdle, IsQuiet, isLook]
      · cases content <;> rfl
  obtain ⟨w, rfl, hw, hcw⟩ := hclock
  rcases ending_of_bring hb with hn | ⟨raw, a, b, rfl, ha, hblind, he⟩
  · exact Or.inl (by rw [captured_append_of_none hn, hcw])
  · exact Or.inr ⟨raw, a, b ++ w, by simp, ha, hblind, he.append hw⟩

theorem endsWell_runSearch {compiled : Compiled} {r : Except Error (List Handle)}
    (h : (runSearch s compiled).Goes m t r m') : EndsWell t := by
  rcases goes_runSearch h with ⟨e, hp, -⟩ | ⟨m₁, u, v, rfl, hp, hg⟩
  · exact Or.inl (isPrelude_prepare hp).1
  · have hv : EndsWell v := by
      rcases hg with ⟨e, hg, -⟩ | ⟨f, m₂, hs, hg, -⟩
      · exact endsWell_gather hg
      · exact endsWell_gather hg
    exact hv.prelude (isPrelude_prepare hp)

/-- **A search that captures output goes on in one of the four ways.** -/
theorem endsWell_of_search {r : Except Error (List Handle)} (h : (search s cs).Goes m t r m') :
    EndsWell t := by
  cases course_of_goes h with
  | noQuery hq => exact Or.inl rfl
  | unlisted hq ha => exact Or.inl (isPrelude_isAdmitted ha).1
  | notAdmitted hq ha => exact Or.inl (isPrelude_isAdmitted ha).1
  | notCompiled hq ha hc => exact Or.inl (isPrelude_isAdmitted ha).1
  | remembered hq ha hc hl hf =>
    obtain ⟨rfl, -, -⟩ := goes_fromCache hf
    rw [List.append_nil]
    exact Or.inl (isPrelude_isAdmitted ha).1
  | rootUnknown hq ha hc hl =>
    exact Or.inl ((isPrelude_isAdmitted ha).append (isPrelude_isDirectory _ _)).1
  | noDirectory hq ha hc hl =>
    exact Or.inl ((isPrelude_isAdmitted ha).append (isPrelude_isDirectory _ _)).1
  | run hq ha hc hl hr =>
    exact ((endsWell_runSearch hr).prelude (isPrelude_isDirectory _ _)).prelude
      (isPrelude_isAdmitted ha)

theorem beforeLook_append {a b : Exchanges} {e : Dialogue.Exchange Request.Reply} (ha : IsBlind a)
    (hb : b.head? = some e) (he : isLook e = true) :
    beforeLook (a ++ b) = a ∧ fromLook (a ++ b) = b := by
  have hall : ∀ e ∈ a, (!isLook e) = true := fun e hm => by simp [ha e hm]
  obtain ⟨b', rfl⟩ := List.head?_eq_some_iff.mp hb
  unfold beforeLook fromLook
  rw [List.takeWhile_append_of_pos hall, List.dropWhile_append_of_pos hall,
    List.takeWhile_cons_of_neg (by simp [he]), List.dropWhile_cons_of_neg (by simp [he])]
  simp

/--
**What a search leaves on a truthful host.** A search that has captured output leaves the captured
or the compressed file behind exactly if one of them slipped from the records by the first look: an
answered compression has left both files, or a command that was not answered has left a compressed
one. Nothing else that commands do, and no other failure, leaves anything.
-/
theorem leftovers_iff {F F' : Set String} {raw : String} {r : Except Error (List Handle)}
    (hg : (search s cs).Goes m u r m') (hf : Holds F u F') (hraw : captured u = some raw) :
    raw ∈ F' ∨ compressedName raw ∈ F' ↔
      ∃ G, Holds F (beforeLook u) G ∧ Holds G (fromLook u) F' ∧ Slips raw G (fromLook u) := by
  rcases endsWell_of_search hg with hn | ⟨raw', a, b, rfl, ha, hblind, he⟩
  · rw [hn] at hraw
    cases hraw
  · rw [captured_append_of_some ha] at hraw
    cases hraw
    obtain ⟨e, hhead, hlook⟩ := he.head?_isLook
    obtain ⟨hbefore, hfrom⟩ := beforeLook_append hblind hhead hlook
    rw [hbefore, hfrom]
    constructor
    · intro hleft
      obtain ⟨G, h1, h2⟩ := holds_append_iff.mp hf
      exact ⟨G, h1, h2, (he.left_iff h2).mp hleft⟩
    · rintro ⟨G, -, h2, hs⟩
      exact (he.left_iff h2).mpr hs

/-! ### A compression that leaves both files -/

/-- A searcher on a Linux host. -/
def someSetup : Setup := { session := ⟨"host", '/', none⟩, platform := .unix (.ofKind .linux) }

/-- The file in which the search below captures output. -/
def someRaw : String := rawPath someSetup.route "/tmp" 1

/-- The exchange of a search on it until its command has run. -/
def someCapture : Exchanges :=
  ⟨.host (.isDirectory "/" .readOnly), .ok true⟩ :: ⟨.host .tempDir, .ok "/tmp"⟩ ::
    captureExchange someSetup.route (Unix.compile (.ofKind .linux) { root := "/" }).command someRaw
      1 (.ok {})

/-- A compression that fails, and what the search does when it sees the compressed file. -/
def someFetch : Exchanges :=
  exchange someSetup.budgets (someSetup.route.shell.compress someRaw) .medium
      (.ok { exitCode := 1 }) ++
    [look (compressedName someRaw) (.ok true), ⟨.home (.makeCopy none), .ok ()⟩,
      ⟨.host (.read (compressedName someRaw) .readOnly), .error (.generic "refused")⟩,
      look (compressedName someRaw) (.ok true), ⟨.host (.delete (compressedName someRaw)), .ok ()⟩,
      ⟨.home .dropCopy, ()⟩]

theorem goes_someFetch :
    ∃ m', (search someSetup [.root "/"]).Goes {} (someCapture ++ someFetch) (.ok []) m' := by
  refine ⟨({} : Memory).afterCommand 1, ?_⟩
  show Dialogue.Goes _ _ _
  iterate 15 refine Dialogue.Goes.ask ?_
  exact .done _

/-- The command writes its file. -/
theorem holds_someCapture : Holds ∅ someCapture {someRaw} :=
  .cons rfl (.cons rfl (.cons rfl (.cons rfl (.cons rfl (.cons trivial (.cons rfl rfl))))))

/-- The compression leaves both files, and the cleanup one of them. -/
theorem holds_someFetch : Holds {someRaw} someFetch {someRaw} := by
  let both : Set String := {someRaw, compressedName someRaw}
  have hseen : ∀ b, (Except.ok true : Except Error Bool) = .ok b →
      (b = true ↔ compressedName someRaw ∈ both) := by
    intro b hb
    cases hb
    simp [both]
  have hdelete : ({someRaw} : Set String) = both \ {compressedName someRaw} := by
    ext p
    simp only [both, Set.mem_sdiff, Set.mem_insert_iff, Set.mem_singleton_iff]
    constructor
    · rintro rfl
      exact ⟨Or.inl rfl, (compressedName_ne _).symm⟩
    · rintro ⟨hp | hp, hne⟩
      · exact hp
      · exact absurd hp hne
  have hcleanup : Holds both [look (compressedName someRaw) (.ok true),
      ⟨.host (.delete (compressedName someRaw)), .ok ()⟩, ⟨.home .dropCopy, ()⟩] {someRaw} :=
    .cons ⟨rfl, hseen⟩ (.cons hdelete (.cons rfl rfl))
  have hread : Holds both [look (compressedName someRaw) (.ok true),
      ⟨.home (.makeCopy none), .ok ()⟩,
      ⟨.host (.read (compressedName someRaw) .readOnly), .error (.generic "refused")⟩] both :=
    .cons ⟨rfl, hseen⟩ (.cons rfl (.cons rfl rfl))
  have hpack : Holds {someRaw} (exchange someSetup.budgets
      (someSetup.route.shell.compress someRaw) .medium (.ok { exitCode := 1 })) both :=
    .cons rfl (.cons trivial rfl)
  exact holds_append_iff.mpr ⟨both, hpack, holds_append_iff.mpr ⟨both, hread, hcleanup⟩⟩

/-- The captured file slips from the records of this search. -/
theorem captured_file_slips :
    ∃ G, Holds ∅ (beforeLook (someCapture ++ someFetch)) G ∧
      Holds G (fromLook (someCapture ++ someFetch)) {someRaw} ∧
      Slips someRaw G (fromLook (someCapture ++ someFetch)) := by
  obtain ⟨m', hg⟩ := goes_someFetch
  have hf : Holds ∅ (someCapture ++ someFetch) {someRaw} :=
    holds_append_iff.mpr ⟨_, holds_someCapture, holds_someFetch⟩
  exact (leftovers_iff hg hf rfl).mp (Or.inl rfl)

/-- **A compression that fails midway leaves the captured file behind.** -/
theorem captured_file_is_left :
    ∃ m' raw F', (search someSetup [.root "/"]).Goes {} (someCapture ++ someFetch) (.ok []) m' ∧
      captured (someCapture ++ someFetch) = some raw ∧ Holds ∅ (someCapture ++ someFetch) F' ∧
      raw ∈ F' := by
  obtain ⟨m', hg⟩ := goes_someFetch
  exact ⟨m', someRaw, {someRaw}, hg, rfl,
    holds_append_iff.mpr ⟨_, holds_someCapture, holds_someFetch⟩, rfl⟩

end RemoteSearch.Searcher
