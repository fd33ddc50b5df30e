import RemoteSearch.Proofs.Searcher.Leftovers
import RemoteSearch.Proofs.Searcher.Run
import RemoteSearch.Proofs.Transfer.Names

/-!
# Temporary files of a process

All searchers of a process take their stamps from the same counter, so no two searches use files of
one name, whatever their directories and prefixes are and whatever the clock does.

* `Takes` is what a search has to do with stamps: nothing, or it takes one, and captures output in a
  file that carries it.
* `Process` is what can happen in a process.
-/

namespace RemoteSearch.Searcher

open RemoteSearch.Action Execution Transfer

variable {s : Setup} {m m' : Memory} {t u : Exchanges} {ts : List Exchanges} {last last' n k : Nat}
  {cs : List Condition} {command : String}

/-- An exchange in which no output is captured and no stamp is taken, or one is taken for the file
in which output is captured. -/
inductive Takes (last : Nat) (t : Exchanges) (last' : Nat) : Prop where
  | nothing (h : captured t = none) (hl : last' = last)
  | stamp {raw : String} (now : Int) (h : captured t = some raw) (hs : HasStamp raw last')
    (hl : last' = nextStamp last now)

theorem Takes.prelude (h : Takes last u last') (ht : captured t = none) :
    Takes last (t ++ u) last' := by
  cases h with
  | nothing h hl => exact .nothing ((captured_append_of_none ht).trans h) hl
  | stamp now h hs hl => exact .stamp now ((captured_append_of_none ht).trans h) hs hl

theorem Takes.append (h : Takes last t last') (hu : captured u = none) :
    Takes last (t ++ u) last' := by
  cases h with
  | nothing h hl => exact .nothing ((captured_append_of_none h).trans hu) hl
  | stamp now h hs hl => exact .stamp now (captured_append_of_some h) hs hl

theorem captured_of_discards {l : List String} (h : Discards l t) : captured t = none := by
  induction h with
  | nil => rfl
  | gone _ ih => exact ih
  | deleted _ _ _ ih => exact ih

theorem captured_of_isReading {path : String} (h : ∀ e ∈ t, IsReading path e.1) :
    captured t = none := by
  refine List.findSome?_eq_none_iff.mpr fun e he => ?_
  match e, h e he with
  | ⟨.host c, _⟩, _ => rfl
  | ⟨.home c, _⟩, .inl hc => simp only [hc]
  | ⟨.home c, _⟩, .inr ⟨directory, hc⟩ => simp only [hc]

theorem takes_capture {r : Route} {trail trail' : Trail} {res : Except Error String}
    (h : (capture r command).Goes trail t res trail') :
    Takes trail.lastStamp t trail'.lastStamp := by
  rcases goes_capture h with ⟨e, rfl, -, rfl⟩ | ⟨directory, now, reply, rfl, -, rfl⟩
  · exact .nothing rfl rfl
  · exact .stamp now rfl ⟨_, _, rfl⟩ rfl

/-- Fetching takes no stamp, and captures nothing. -/
theorem captured_of_fetch {r : Route} {raw : String} {trail trail' : Trail}
    {res : Except Error (List UInt8)} (h : (fetch r raw).Goes trail t res trail') :
    captured t = none ∧ trail'.lastStamp = trail.lastStamp := by
  obtain ⟨reply, u, rfl, hway⟩ := goes_fetch h
  rw [captured_append_of_none captured_exchange]
  rcases hway with ⟨-, rfl, -, rfl⟩ | ⟨-, seen, w, rfl, ⟨-, rfl, -, rfl⟩ | ⟨-, hs, hw, -⟩⟩
  · exact ⟨rfl, rfl⟩
  · exact ⟨rfl, rfl⟩
  · have hlook : captured [look (compressedName raw) seen] = none := rfl
    refine ⟨(captured_append_of_none hlook).trans (captured_of_isReading hw), ?_⟩
    rw [hs]

theorem takes_bring {r : Route} {trail : Trail}
    {res : Except Error (Except Error (List UInt8))}
    (h : (bring r command).Goes (.fresh n) t res trail) : Takes n t trail.lastStamp := by
  obtain ⟨u, v, hv, rfl, hway⟩ := goes_bring h
  have hend : captured (v ++ dropExchange trail.copied) = none := by
    rw [captured_append_of_none (captured_of_discards hv)]
    cases trail.copied <;> rfl
  refine Takes.append ?_ hend
  rcases hway with ⟨e, hcap, -⟩ | ⟨raw, s₁, a, b, x, rfl, hcap, hfetch, -⟩
  · exact takes_capture hcap
  · obtain ⟨hb, hlast⟩ := captured_of_fetch hfetch
    rw [hlast]
    exact (takes_capture hcap).append hb

theorem takes_gather {r : Except Error Findings} (h : (gather s command).Goes m t r m') :
    Takes m.lastStamp t m'.lastStamp := by
  obtain ⟨u, trail, brought, hb, rfl, hway⟩ := goes_gather h
  rcases hway with ⟨e, -, rfl, -⟩ | ⟨content, now, -, rfl, -⟩
  · exact takes_bring hb
  · exact (takes_bring hb).append (by cases content <;> rfl)

theorem stable_lastStamp : Stable Memory.lastStamp :=
  ⟨fun _ _ => rfl, fun _ _ => rfl, fun _ _ => rfl⟩

theorem takes_runSearch {compiled : Compiled} {r : Except Error (List Handle)}
    (h : (runSearch s compiled).Goes m t r m') : Takes m.lastStamp t m'.lastStamp := by
  rcases goes_runSearch h with ⟨e, hp, -⟩ | ⟨m₁, u, v, rfl, hp, hg⟩
  · exact .nothing (isPrelude_prepare hp).1 (keeps_prepare stable_lastStamp hp)
  · rw [← keeps_prepare stable_lastStamp hp]
    refine Takes.prelude ?_ (isPrelude_prepare hp).1
    rcases hg with ⟨e, hg, -⟩ | ⟨f, m₂, hs, hg, -, -, rfl⟩
    · exact takes_gather hg
    · have hlast : (m₂.afterFindings compiled.cacheKey f).lastStamp = m₂.lastStamp := rfl
      rw [hlast]
      exact takes_gather hg

theorem takes_isAdmitted {q : Query} {root : String} {r : Except Error Bool}
    (h : (isAdmitted s q root).Goes m t r m') : Takes m.lastStamp t m'.lastStamp :=
  .nothing (isPrelude_isAdmitted h).1 (keeps_isAdmitted stable_lastStamp h)

/-- **A search takes at most one stamp**, and captures output only in a file that carries it. -/
theorem takes_search {r : Except Error (List Handle)} (h : (search s cs).Goes m t r m') :
    Takes m.lastStamp t m'.lastStamp := by
  cases course_of_goes h with
  | noQuery hq => exact .nothing rfl rfl
  | unlisted hq ha => exact takes_isAdmitted ha
  | notAdmitted hq ha => exact takes_isAdmitted ha
  | notCompiled hq ha hc => exact takes_isAdmitted ha
  | @remembered q c paths v w _ m₁ _ hq ha hc hl hf =>
    obtain ⟨rfl, -, rfl⟩ := goes_fromCache hf
    exact (takes_isAdmitted ha).append rfl
  | rootUnknown hq ha hc hl => exact (takes_isAdmitted ha).append rfl
  | noDirectory hq ha hc hl => exact (takes_isAdmitted ha).append rfl
  | @run q c v w _ m₁ _ hq ha hc hl hr =>
    have hlast : m₁.lastStamp = m.lastStamp := keeps_isAdmitted stable_lastStamp ha
    rw [← hlast]
    exact ((takes_runSearch hr).prelude (isPrelude_isDirectory _ _).1).prelude
      (isPrelude_isAdmitted ha).1

/-! ## Processes -/

/--
What can happen in a process after a stamp `n` was taken: the exchanges of its searches so far, and
the last stamp. Every operation begins with the last stamp, and whatever else its searcher knows.
Searches may run at the same time; then they stand in the order in which they take their stamps,
since none of them looks at the last stamp at any other time.
-/
inductive Process (n : Nat) : List Exchanges → Nat → Prop where
  | start : Process n [] n
  | search {ts : List Exchanges} {s : Setup} {cs : List Condition} {m m' : Memory} {t : Exchanges}
      {r : Except Error (List Handle)} (h : Process n ts m.lastStamp)
      (hg : (Searcher.search s cs).Goes m t r m') : Process n (ts ++ [t]) m'.lastStamp
  | other {ts : List Exchanges} {s : Setup} {op : Operation} {m m' : Memory} {t : Exchanges}
      {r : Except Error op.Value} (h : Process n ts m.lastStamp) (hs : ∀ cs, op ≠ .search cs)
      (hg : (op.perform s).Goes m t r m') : Process n ts m'.lastStamp

/-- The files of all searches are named by the stamps that some clock gives. -/
def Stamped (n : Nat) (ts : List Exchanges) (k : Nat) (clocks : List Int) : Prop :=
  List.Forall₂ HasStamp (ts.filterMap captured) (stamps n clocks) ∧ k = lastOf n clocks

theorem Stamped.search {clocks : List Int} (h : Stamped n ts last clocks)
    (ht : Takes last t last') : ∃ clocks', Stamped n (ts ++ [t]) last' clocks' := by
  obtain ⟨hall, rfl⟩ := h
  cases ht with
  | nothing ht hl =>
    have hsame : (ts ++ [t]).filterMap captured = ts.filterMap captured := by simp [ht]
    exact ⟨clocks, by rwa [hsame], hl⟩
  | @stamp raw now ht hs hl =>
    have hnew : (ts ++ [t]).filterMap captured = ts.filterMap captured ++ [raw] := by simp [ht]
    subst hl
    refine ⟨clocks ++ [now], ?_, by simp [lastOf]⟩
    rw [hnew, stamps_concat]
    exact List.rel_append hall (.cons hs .nil)

/-- **Every search of a process takes the next stamp, if it takes one.** -/
theorem Process.stamped (h : Process n ts k) : ∃ clocks, Stamped n ts k clocks := by
  induction h with
  | start => exact ⟨[], .nil, rfl⟩
  | search h hg ih =>
    obtain ⟨clocks, hc⟩ := ih
    exact hc.search (takes_search hg)
  | other h hs hg ih =>
    rw [keeps_perform stable_lastStamp hs hg]
    exact ih

/-- The files that a search has on record: the captured one, and what it is compressed to. -/
def files (t : Exchanges) : List String := (captured t).toList.flatMap filesOf

theorem flatMap_files (ts : List Exchanges) :
    ts.flatMap files = (ts.filterMap captured).flatMap filesOf := by
  induction ts with
  | nil => rfl
  | cons t ts ih =>
    rw [List.flatMap_cons, ih]
    cases ht : captured t <;> simp [files, ht]

/--
**No two searches of a process use files of one name.** Whatever the clock shows, there are stamps,
and they increase. The files of the searches in a process, whose directories and prefixes may be
any, carry such stamps one after another, and so they and what they are compressed to are all
different.
-/
theorem temporary_files_are_distinct (h : Process n ts k) :
    (∀ (clocks : List Int) (trail trail' : Trail) (r : Except Error (List Nat)),
      (takeStamps clocks.length).Goes trail (clocks.map reading) r trail' ↔
        r = .ok (stamps trail.lastStamp clocks) ∧
          trail' = { trail with lastStamp := lastOf trail.lastStamp clocks }) ∧
      (∀ (last : Nat) (clocks : List Int), (stamps last clocks).Pairwise (· < ·)) ∧
      (∃ clocks, List.Forall₂ HasStamp (ts.filterMap captured) (stamps n clocks)) ∧
      (ts.flatMap files).Nodup := by
  obtain ⟨clocks, hall, -⟩ := h.stamped
  have hdistinct : (stamps n clocks).Nodup := (pairwise_stamps n clocks).imp Nat.ne_of_lt
  refine ⟨fun clocks trail trail' r => goes_takeStamps_iff, pairwise_stamps, ⟨clocks, hall⟩, ?_⟩
  rw [flatMap_files]
  exact nodup_files hall hdistinct

/-- A searcher whose prefix looks like the name of a captured file. -/
def dottedSetup : Setup := { someSetup with transfer := { tempName := "find.6.out.6" } }

/-- The exchange of a search whose command gets no answer. -/
def lostExchange (s : Setup) (now : Int) (stamp : Nat) : Exchanges :=
  ⟨.host (.isDirectory "/" .readOnly), .ok true⟩ :: ⟨.host .tempDir, .ok "/tmp"⟩ ::
    (captureExchange s.route (Unix.compile (.ofKind .linux) { root := "/" }).command
        (rawPath s.route "/tmp" stamp) now (.error (.generic "lost")) ++
      [look (rawPath s.route "/tmp" stamp) (.ok false)])

/-- Two searchers, between whose searches the clock runs back to a time before 1970. -/
theorem process_of_two_searchers :
    Process 4 [lostExchange someSetup 5 5, lostExchange dottedSetup (-7) 6] 6 := by
  have hfirst : (search someSetup [.root "/"]).Goes { lastStamp := 4 } (lostExchange someSetup 5 5)
      (.error (.generic "lost")) (({ lastStamp := 4 } : Memory).afterCommand 5) := by
    show Dialogue.Goes _ _ _
    iterate 8 refine Dialogue.Goes.ask ?_
    exact .done _
  have hsecond : (search dottedSetup [.root "/"]).Goes { lastStamp := 5 }
      (lostExchange dottedSetup (-7) 6) (.error (.generic "lost"))
      (({ lastStamp := 5 } : Memory).afterCommand 6) := by
    show Dialogue.Goes _ _ _
    iterate 8 refine Dialogue.Goes.ask ?_
    exact .done _
  have hstart : Process 4 [] ({ lastStamp := 4 } : Memory).lastStamp := .start
  have hfirst := hstart.search hfirst
  have hthen : Process 4 [lostExchange someSetup 5 5] ({ lastStamp := 5 } : Memory).lastStamp :=
    hfirst
  exact hthen.search hsecond

theorem files_of_two_searchers_are_distinct :
    [lostExchange someSetup 5 5, lostExchange dottedSetup (-7) 6].flatMap files =
        ["/tmp/find.5.out", "/tmp/find.5.out.gz", "/tmp/find.6.out.6.6.out",
          "/tmp/find.6.out.6.6.out.gz"] ∧
      ([lostExchange someSetup 5 5, lostExchange dottedSetup (-7) 6].flatMap files).Nodup :=
  ⟨by decide, (temporary_files_are_distinct process_of_two_searchers).2.2.2⟩

end RemoteSearch.Searcher
