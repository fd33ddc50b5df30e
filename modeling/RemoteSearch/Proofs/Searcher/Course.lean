import RemoteSearch.Proofs.Transfer.Course
import RemoteSearch.Searcher.Basic

/-!
# Courses of searches

What a searcher may do, function by function, and at the end `Course`: the ways in which a search
can go. There is one constructor for each exit of a search, with all that has been asked, found out
and remembered by then. Properties of searches are proved by cases on it.
-/

namespace RemoteSearch.Searcher

open RemoteSearch.Action Execution
open Calendar (Instant)

variable {s : Setup} {m m' : Memory} {t : Exchanges} {q : Query} {root command : String}

/-! ## Mounts and admission -/

/-- The mount table that a reply to the mount command gives. -/
def tableOf (s : Setup) (reply : Except Error Outcome) : Except Error (List Mount) :=
  ((verdict s.platform.mountCommand reply).map Outcome.stdout).map s.platform.readMounts

theorem isAnswered_of_tableOf {reply : Except Error Outcome} {l : List Mount}
    (h : tableOf s reply = .ok l) : IsAnswered reply := by
  unfold tableOf at h
  cases hv : (verdict s.platform.mountCommand reply).map Outcome.stdout with
  | ok output => exact (map_verdict_eq_ok hv).1
  | error e =>
    rw [hv] at h
    cases h

/-- The exchange in which the mounts are listed. -/
def listingExchange (s : Setup) (reply : Except Error Outcome) : Exchanges :=
  exchange s.budgets s.platform.mountCommand .short reply

/-- **The mounts are listed once**: a table that is known is not asked for again. -/
theorem goes_mounts {r : Except Error (List Mount)} (h : (mounts s).Goes m t r m') :
    (∃ l, m.mounts = some l ∧ t = [] ∧ r = .ok l ∧ m' = m) ∨
      (m.mounts = none ∧ ∃ reply, t = listingExchange s reply ∧ r = tableOf s reply ∧
        m' = { m with mounts := r.toOption }) := by
  unfold mounts at h
  have h1 := goes_get_bind_iff.mp h
  cases hm : m.mounts with
  | some l =>
    rw [hm] at h1
    obtain ⟨rfl, rfl, rfl⟩ := goes_pure_iff.mp h1
    exact Or.inl ⟨l, rfl, rfl, rfl, rfl⟩
  | none =>
    rw [hm] at h1
    refine Or.inr ⟨rfl, ?_⟩
    rcases goes_bind_iff.mp h1 with ⟨output, m₁, u, w, rfl, h2, h3⟩ | ⟨e, rfl, h2⟩
    · obtain ⟨reply, rfl, hv, rfl⟩ := goes_run_iff.mp h2
      have h4 := goes_modify_bind_iff.mp h3
      obtain ⟨rfl, rfl, rfl⟩ := goes_pure_iff.mp h4
      refine ⟨reply, by simp [listingExchange], ?_, rfl⟩
      rw [tableOf, ← hv]
      rfl
    · obtain ⟨reply, rfl, hv, rfl⟩ := goes_run_iff.mp h2
      have hm' : m' = { m' with mounts := none } := by rw [← hm]
      refine ⟨reply, rfl, ?_, hm'⟩
      rw [tableOf, ← hv]
      rfl

/-- The table that is known afterwards is the one that has been found. -/
theorem mounts_of_goes {r : Except Error (List Mount)} (h : (mounts s).Goes m t r m') :
    m'.mounts = r.toOption := by
  rcases goes_mounts h with ⟨l, hm, -, rfl, rfl⟩ | ⟨-, reply, -, -, rfl⟩
  · exact hm
  · rfl

/-- While no table is known, the mounts are listed, whatever is replied. -/
theorem goes_mounts_of_unknown (hm : m.mounts = none) (reply : Except Error Outcome) :
    (mounts s).Goes m (listingExchange s reply) (tableOf s reply)
      { m with mounts := (tableOf s reply).toOption } := by
  unfold mounts
  refine goes_get_bind_iff.mpr ?_
  rw [hm]
  cases hv : (verdict s.platform.mountCommand reply).map Outcome.stdout with
  | ok output =>
    have hrun : (run s.budgets s.platform.mountCommand .short : Action Memory String).Goes m
        (listingExchange s reply) (.ok output) m :=
      goes_run_iff.mpr ⟨reply, rfl, hv.symm, rfl⟩
    refine goes_bind_iff.mpr (Or.inl ⟨output, m, _, [], by simp, hrun, ?_⟩)
    refine goes_modify_bind_iff.mpr (goes_pure_iff.mpr ⟨rfl, ?_, ?_⟩)
    · rw [tableOf, hv]
      rfl
    · rw [tableOf, hv]
      rfl
  | error e =>
    have hrun : (run s.budgets s.platform.mountCommand .short : Action Memory String).Goes m
        (listingExchange s reply) (.error e) m :=
      goes_run_iff.mpr ⟨reply, rfl, hv.symm, rfl⟩
    have ht : tableOf s reply = .error e := by
      rw [tableOf, hv]
      rfl
    have hsame : { m with mounts := (tableOf s reply).toOption } = m := by
      rw [ht]
      show { m with mounts := none } = m
      rw [← hm]
    rw [hsame]
    exact goes_bind_iff.mpr (Or.inr ⟨e, ht, hrun⟩)

/-- A search asks for the mounts only if it asks for a type of filesystem. -/
theorem goes_isAdmitted {r : Except Error Bool} (h : (isAdmitted s q root).Goes m t r m') :
    (q.fsType = none ∧ t = [] ∧ r = .ok true ∧ m' = m) ∨
      ∃ fsType x, q.fsType = some fsType ∧ (mounts s).Goes m t x m' ∧
        r = x.map fun l => s.platform.admits l root fsType := by
  unfold isAdmitted at h
  cases hq : q.fsType with
  | none =>
    rw [hq] at h
    obtain ⟨rfl, rfl, rfl⟩ := goes_pure_iff.mp h
    exact Or.inl ⟨rfl, rfl, rfl, rfl⟩
  | some fsType =>
    simp only [hq, ← map_eq_pure_bind] at h
    obtain ⟨x, rfl, h1⟩ := goes_map_iff.mp h
    exact Or.inr ⟨fsType, x, rfl, h1, rfl⟩

/-- With a table that is known, an admission asks nothing. -/
theorem goes_isAdmitted_of_known {l : List Mount} {fsType : String} (hm : m.mounts = some l)
    (hq : q.fsType = some fsType) :
    (isAdmitted s q root).Goes m [] (.ok (s.platform.admits l root fsType)) m := by
  unfold isAdmitted mounts
  simp only [hq, ← map_eq_pure_bind]
  refine goes_map_iff.mpr ⟨.ok l, rfl, goes_get_bind_iff.mpr ?_⟩
  rw [hm]
  exact goes_pure_iff.mpr ⟨rfl, rfl, rfl⟩

/-- At most one listing of the mounts: only if a type is asked for, and no table is known. -/
def MayList (s : Setup) (m : Memory) (q : Query) (t : Exchanges) : Prop :=
  t = [] ∨ q.fsType.isSome ∧ m.mounts = none ∧ ∃ reply, t = listingExchange s reply

/-- The only request of an admission is at most one listing of the mounts. -/
theorem goes_isAdmitted_exchange {r : Except Error Bool}
    (h : (isAdmitted s q root).Goes m t r m') :
    m' = { m with mounts := m'.mounts } ∧ MayList s m q t := by
  rcases goes_isAdmitted h with ⟨-, rfl, -, rfl⟩ | ⟨fsType, x, hq, h1, -⟩
  · exact ⟨rfl, Or.inl rfl⟩
  · rcases goes_mounts h1 with ⟨l, -, rfl, -, rfl⟩ | ⟨hm, reply, rfl, -, rfl⟩
    · exact ⟨rfl, Or.inl rfl⟩
    · exact ⟨rfl, Or.inr ⟨by simp [hq], hm, reply, rfl⟩⟩

/-- **An admission fails only because the mounts cannot be listed**, and they are not known then. -/
theorem goes_isAdmitted_error {e : Error} (h : (isAdmitted s q root).Goes m t (.error e) m') :
    m'.mounts = none ∧ ∃ reply, t = listingExchange s reply ∧ tableOf s reply = .error e := by
  rcases goes_isAdmitted h with ⟨-, -, hr, -⟩ | ⟨fsType, x, -, h1, hr⟩
  · cases hr
  · cases x with
    | ok l => cases hr
    | error error =>
      cases hr
      rcases goes_mounts h1 with ⟨l, -, -, hl, -⟩ | ⟨-, reply, rfl, ht, rfl⟩
      · cases hl
      · exact ⟨rfl, reply, rfl, ht.symm⟩

/-- **The mounts are listed exactly if a type is asked for and no table is known.** -/
theorem hostCalls_isAdmitted {r : Except Error Bool} (h : (isAdmitted s q root).Goes m t r m') :
    hostCalls t =
      if q.fsType.isSome && m.mounts.isNone then
        [.execute s.platform.mountCommand (s.budgets .short)]
      else [] := by
  rcases goes_isAdmitted h with ⟨hq, rfl, -, -⟩ | ⟨fsType, x, hq, h1, -⟩
  · simp [hq]
  · rcases goes_mounts h1 with ⟨l, hm, rfl, -, -⟩ | ⟨hm, reply, rfl, -, -⟩
    · simp [hm]
    · simp [hq, hm, listingExchange]

/--
The mount table that is known has something of the type that a query asks for, if it asks for one.
-/
def Admits (s : Setup) (m : Memory) (q : Query) : Prop :=
  ∀ fsType, q.fsType = some fsType →
    ∃ l, m.mounts = some l ∧
      s.platform.admits l (q.normalizedRoot s.platform.delimiter) fsType = true

/-- **An admission is given exactly if the table that is known after it admits the query.** -/
theorem admits_iff_of_goes {r : Except Error Bool}
    (h : (isAdmitted s q (q.normalizedRoot s.platform.delimiter)).Goes m t r m') :
    Admits s m' q ↔ r = .ok true := by
  rcases goes_isAdmitted h with ⟨hq, -, rfl, -⟩ | ⟨fsType, x, hq, h1, rfl⟩
  · simp [Admits, hq]
  · have hx := mounts_of_goes h1
    cases x with
    | error e => simp [Admits, hq, hx, Except.toOption, Except.map]
    | ok l => simp [Admits, hq, hx, Except.toOption, Except.map]

/-! ## Preparation and handles -/

/-- **The helper module is loaded once**, and only on platforms that have one. -/
theorem goes_prepare {r : Except Error Unit} (h : (prepare s).Goes m t r m') :
    (t = [] ∧ r = .ok () ∧ m' = m ∧ (s.platform.helper?.isSome → m.helperLoaded = true)) ∨
      ∃ name source, s.platform.helper? = some (name, source) ∧ m.helperLoaded = false ∧
        t = [⟨.host (.loadModule name source), r⟩] ∧ m' = { m with helperLoaded := r.isOk } := by
  unfold prepare at h
  cases hp : s.platform.helper? with
  | none =>
    rw [hp] at h
    obtain ⟨rfl, rfl, rfl⟩ := goes_pure_iff.mp h
    exact Or.inl ⟨rfl, rfl, rfl, by simp⟩
  | some p =>
    obtain ⟨name, source⟩ := p
    rw [hp] at h
    have h1 := goes_get_bind_iff.mp h
    cases hl : m.helperLoaded with
    | true =>
      simp only [hl, Bool.not_true, Bool.false_eq_true, if_false] at h1
      obtain ⟨rfl, rfl, rfl⟩ := goes_pure_iff.mp h1
      exact Or.inl ⟨rfl, rfl, rfl, fun _ => rfl⟩
    | false =>
      simp only [hl, Bool.not_false, if_true] at h1
      refine Or.inr ⟨name, source, rfl, rfl, ?_⟩
      rcases goes_call_bind_iff.mp h1 with ⟨_, u, rfl, h2⟩ | ⟨e, rfl, rfl, rfl⟩
      · obtain ⟨rfl, rfl, rfl⟩ := goes_modify_iff.mp h2
        exact ⟨rfl, rfl⟩
      · have hl' : m' = { m' with helperLoaded := false } := by rw [← hl]
        exact ⟨rfl, hl'⟩

/-- Making handles asks nothing, and only adds places for their records. -/
theorem goes_makeAll {α : Type} {path : α → String} {mode : AccessMode}
    {record : α → Option Metadata} {l : List α} {r : Except Error (List Handle)}
    (h : (l.mapM fun x => Handle.make s (path x) mode (record x)).Goes m t r m') :
    t = [] ∧ (∃ hs, r = .ok hs ∧ hs.map Handle.path = l.map path) ∧
      m' = { m with records := m.records ++ (l.map record).toArray } := by
  induction l generalizing m m' t r with
  | nil =>
    rw [List.mapM_nil] at h
    obtain ⟨rfl, rfl, rfl⟩ := goes_pure_iff.mp h
    exact ⟨rfl, ⟨[], rfl, rfl⟩, by simp⟩
  | cons x l ih =>
    rw [List.mapM_cons] at h
    rcases goes_bind_iff.mp h with ⟨v, m₁, u, w, rfl, h1, h2⟩ | ⟨e, rfl, h1⟩
    · have h3 := goes_modify_bind_iff.mp (goes_get_bind_iff.mp h1)
      obtain ⟨rfl, hv, rfl⟩ := goes_pure_iff.mp h3
      cases hv
      rcases goes_bind_iff.mp h2 with ⟨vs, m₂, u, w, rfl, h4, h5⟩ | ⟨e, rfl, h4⟩
      · obtain ⟨rfl, ⟨hs, hr, hp⟩, rfl⟩ := ih h4
        cases hr
        obtain ⟨rfl, rfl, rfl⟩ := goes_pure_iff.mp h5
        exact ⟨rfl, ⟨_, rfl, by simp [hp]⟩, by simp⟩
      · obtain ⟨-, ⟨hs, hr, -⟩, -⟩ := ih h4
        cases hr
    · have h3 := goes_modify_bind_iff.mp (goes_get_bind_iff.mp h1)
      obtain ⟨-, hv, -⟩ := goes_pure_iff.mp h3
      cases hv

/-- And there always are such handles. -/
theorem exists_goes_makeAll {α : Type} (path : α → String) (mode : AccessMode)
    (record : α → Option Metadata) (l : List α) (m : Memory) :
    ∃ hs, (l.mapM fun x => Handle.make s (path x) mode (record x)).Goes m [] (.ok hs)
      { m with records := m.records ++ (l.map record).toArray } := by
  induction l generalizing m with
  | nil =>
    rw [List.mapM_nil]
    exact ⟨[], goes_pure_iff.mpr ⟨rfl, rfl, by simp⟩⟩
  | cons x l ih =>
    let new : Handle := ⟨s.session.hostname, path x, mode, m.records.size⟩
    let m₁ : Memory := { m with records := m.records.push (record x) }
    have h1 : (Handle.make s (path x) mode (record x)).Goes m [] (.ok new) m₁ :=
      goes_get_bind_iff.mpr (goes_modify_bind_iff.mpr (goes_pure_iff.mpr ⟨rfl, rfl, rfl⟩))
    obtain ⟨hs, h2⟩ := ih m₁
    rw [List.mapM_cons]
    refine ⟨new :: hs, goes_bind_iff.mpr (Or.inl ⟨new, m₁, [], [], rfl, h1, ?_⟩)⟩
    refine goes_bind_iff.mpr (Or.inl ⟨hs, _, [], [], rfl, h2, ?_⟩)
    exact goes_pure_iff.mpr ⟨rfl, rfl, by simp [m₁]⟩

/-- **A search from the cache asks nothing** and gives the remembered paths. -/
theorem goes_fromCache {paths : List String} {r : Except Error (List Handle)}
    (h : (fromCache s paths).Goes m t r m') :
    t = [] ∧ (∃ hs, r = .ok hs ∧ hs.map Handle.path = paths) ∧
      m' = { m with
        counters := { m.counters with cacheHits := m.counters.cacheHits + 1 }
        records := m.records ++ (paths.map fun _ => none).toArray } := by
  unfold fromCache at h
  obtain ⟨rfl, ⟨hs, rfl, hp⟩, rfl⟩ := goes_makeAll (goes_modify_bind_iff.mp h)
  exact ⟨rfl, ⟨hs, rfl, by simpa using hp⟩, rfl⟩

/-! ## Running a search -/

/-- The memory with one more search that came to its command, and the stamp that it took. -/
def Memory.afterCommand (m : Memory) (stamp : Nat) : Memory :=
  { m with
    counters := { m.counters with
      executions := m.counters.executions + 1
      cleanups := m.counters.cleanups + 1 }
    lastStamp := stamp }

/-- The findings in what a transfer brought: none if the output was lost on the way. -/
def findingsOf (s : Setup) (now : Int) : Except Error (List UInt8) → Findings
  | .ok file => .ofFile s.platform (.ofMillis now) file
  | .error _ => {}

/-- The look at the clock before output is read. -/
def clockExchange (now : Int) : Except Error (List UInt8) → Exchanges
  | .ok _ => [⟨.home .clock, now⟩]
  | .error _ => []

/-- **A search fails only with its command**; what is lost of the output makes findings smaller. -/
theorem goes_gather {r : Except Error Findings} (h : (gather s command).Goes m t r m') :
    ∃ u trail brought, (Transfer.bring s.route command).Goes (.fresh m.lastStamp) u brought trail ∧
      m' = m.afterCommand trail.lastStamp ∧
      ((∃ e, brought = .error e ∧ t = u ∧ r = .error e) ∨
        ∃ content now, brought = .ok content ∧ t = u ++ clockExchange now content ∧
          r = .ok (findingsOf s now content)) := by
  unfold gather at h
  obtain ⟨brought, m₁, u, w, rfl, h1, h2⟩ := goes_result_bind_iff.mp (goes_modify_bind_iff.mp h)
  obtain ⟨trail, rfl, h3⟩ := goes_onPart_iff.mp h1
  refine ⟨u, trail, brought, h3, ?_⟩
  rcases goes_ofResult_bind_iff.mp (goes_modify_bind_iff.mp h2) with
    ⟨content, rfl, h4⟩ | ⟨e, rfl, rfl, rfl, rfl⟩
  · cases content with
    | error e =>
      obtain ⟨rfl, rfl, rfl⟩ := goes_pure_iff.mp h4
      exact ⟨rfl, Or.inr ⟨.error e, 0, rfl, rfl, rfl⟩⟩
    | ok file =>
      rcases goes_bind_iff.mp h4 with ⟨now, m₂, u', w, rfl, h5, h6⟩ | ⟨e, rfl, h5⟩
      · obtain ⟨ms, v, rfl, h7⟩ := goes_home_bind_iff.mp h5
        obtain ⟨rfl, hn, rfl⟩ := goes_pure_iff.mp h7
        cases hn
        obtain ⟨rfl, rfl, rfl⟩ := goes_pure_iff.mp h6
        exact ⟨rfl, Or.inr ⟨.ok file, ms, rfl, rfl, rfl⟩⟩
      · obtain ⟨ms, v, rfl, h7⟩ := goes_home_bind_iff.mp h5
        obtain ⟨-, hn, -⟩ := goes_pure_iff.mp h7
        cases hn
  · exact ⟨rfl, Or.inl ⟨e, rfl, by simp, rfl⟩⟩

/-- The memory after findings: what could not be decoded is counted, and what is complete stored. -/
def Memory.afterFindings (m : Memory) (key : String) (f : Findings) : Memory :=
  { m with
    counters := { m.counters with skippedRecords := m.counters.skippedRecords + f.skipped }
    cache := if f.complete then m.cache.store key f.paths else m.cache
    records := m.records ++ (f.records.map some).toArray }

/-- A search on the host fails with its preparation or with its command, and then stores nothing. -/
theorem goes_runSearch {compiled : Compiled} {r : Except Error (List Handle)}
    (h : (runSearch s compiled).Goes m t r m') :
    (∃ e, (prepare s).Goes m t (.error e) m' ∧ r = .error e) ∨
      ∃ m₁ u v, t = u ++ v ∧ (prepare s).Goes m u (.ok ()) m₁ ∧
        ((∃ e, (gather s compiled.command).Goes m₁ v (.error e) m' ∧ r = .error e) ∨
          ∃ f m₂ hs, (gather s compiled.command).Goes m₁ v (.ok f) m₂ ∧ r = .ok hs ∧
            hs.map Handle.path = f.paths ∧ m' = m₂.afterFindings compiled.cacheKey f) := by
  unfold runSearch at h
  rcases goes_bind_iff.mp h with ⟨_, m₁, u, w, rfl, h1, h2⟩ | ⟨e, rfl, h1⟩
  · refine Or.inr ⟨m₁, u, w, rfl, h1, ?_⟩
    rcases goes_bind_iff.mp h2 with ⟨f, m₂, v, w, rfl, h3, h4⟩ | ⟨e, rfl, h3⟩
    · have h5 := goes_modify_bind_iff.mp h4
      have h6 : (f.records.mapM fun record =>
          Handle.make s record.path .readOnly (some record) : Action Memory (List Handle)).Goes
          { m₂ with
            counters := { m₂.counters with
              skippedRecords := m₂.counters.skippedRecords + f.skipped }
            cache := if f.complete then m₂.cache.store compiled.cacheKey f.paths else m₂.cache }
          w r m' := by
        by_cases hc : f.complete = true
        · rw [if_pos hc] at h5 ⊢
          exact goes_modify_bind_iff.mp h5
        · rw [if_neg hc] at h5 ⊢
          exact h5
      obtain ⟨rfl, ⟨hs, rfl, hp⟩, rfl⟩ := goes_makeAll h6
      exact Or.inr ⟨f, m₂, hs, by simpa using h3, rfl, hp, rfl⟩
    · exact Or.inl ⟨e, h3, rfl⟩
  · exact Or.inl ⟨e, h1, rfl⟩

/-- A search on the host goes on to its end once its command has findings. -/
theorem exists_goes_runSearch {compiled : Compiled} {f : Findings} {u v : Exchanges}
    {m₁ m₂ : Memory} (hp : (prepare s).Goes m u (.ok ()) m₁)
    (hg : (gather s compiled.command).Goes m₁ v (.ok f) m₂) :
    ∃ hs, (runSearch s compiled).Goes m (u ++ v) (.ok hs)
      (m₂.afterFindings compiled.cacheKey f) := by
  let m₃ : Memory :=
    { m₂ with
      counters := { m₂.counters with skippedRecords := m₂.counters.skippedRecords + f.skipped }
      cache := if f.complete then m₂.cache.store compiled.cacheKey f.paths else m₂.cache }
  have hend : { m₃ with records := m₃.records ++ (f.records.map some).toArray } =
      m₂.afterFindings compiled.cacheKey f := rfl
  obtain ⟨hs, hm⟩ := exists_goes_makeAll (s := s) Metadata.path .readOnly some f.records m₃
  rw [hend] at hm
  refine ⟨hs, goes_bind_iff.mpr (Or.inl ⟨(), m₁, u, v, rfl, hp, ?_⟩)⟩
  refine goes_bind_iff.mpr (Or.inl ⟨f, m₂, v, [], by simp, hg, goes_modify_bind_iff.mpr ?_⟩)
  unfold m₃ at hm
  by_cases hc : f.complete = true
  · rw [if_pos hc] at hm ⊢
    exact goes_modify_bind_iff.mpr hm
  · rw [if_neg hc] at hm ⊢
    exact hm

/-! ## The whole search -/

/--
How a search with conditions goes from a memory: what it asks, what it gives, and the memory after
it. The order is that of the checks: query, admission, command, cache, root, and then the host.
-/
inductive Course (s : Setup) (cs : List Condition) (m : Memory) :
    Exchanges → Except Error (List Handle) → Memory → Prop where
  /-- The conditions make no query. -/
  | noQuery {e : Error} (hq : Query.ofConditions cs = .error e) : Course s cs m [] (.error e) m
  /-- The mounts cannot be listed. -/
  | unlisted {q : Query} {t : Exchanges} {e : Error} {m₁ : Memory}
      (hq : Query.ofConditions cs = .ok q)
      (ha : (isAdmitted s q (q.normalizedRoot s.platform.delimiter)).Goes m t (.error e) m₁) :
      Course s cs m t (.error e) m₁
  /-- No filesystem of the type is below the root. -/
  | notAdmitted {q : Query} {t : Exchanges} {m₁ : Memory} (hq : Query.ofConditions cs = .ok q)
      (ha : (isAdmitted s q (q.normalizedRoot s.platform.delimiter)).Goes m t (.ok false) m₁) :
      Course s cs m t (.ok []) m₁
  /-- The platform cannot express the query. -/
  | notCompiled {q : Query} {t : Exchanges} {e : Error} {m₁ : Memory}
      (hq : Query.ofConditions cs = .ok q)
      (ha : (isAdmitted s q (q.normalizedRoot s.platform.delimiter)).Goes m t (.ok true) m₁)
      (hc : s.platform.compile q = .error e) : Course s cs m t (.error e) m₁
  /-- The result is remembered. -/
  | remembered {q : Query} {c : Compiled} {paths : List String} {t u : Exchanges}
      {r : Except Error (List Handle)} {m₁ m₂ : Memory} (hq : Query.ofConditions cs = .ok q)
      (ha : (isAdmitted s q (q.normalizedRoot s.platform.delimiter)).Goes m t (.ok true) m₁)
      (hc : s.platform.compile q = .ok c) (hl : m₁.cache.lookup? c.cacheKey = some paths)
      (hf : (fromCache s paths).Goes m₁ u r m₂) : Course s cs m (t ++ u) r m₂
  /-- The host does not tell whether the root is a directory. -/
  | rootUnknown {q : Query} {c : Compiled} {t : Exchanges} {e : Error} {m₁ : Memory}
      (hq : Query.ofConditions cs = .ok q)
      (ha : (isAdmitted s q (q.normalizedRoot s.platform.delimiter)).Goes m t (.ok true) m₁)
      (hc : s.platform.compile q = .ok c) (hl : m₁.cache.lookup? c.cacheKey = none) :
      Course s cs m
        (t ++ [⟨.host (.isDirectory (q.normalizedRoot s.platform.delimiter) .readOnly), .error e⟩])
        (.error e) m₁
  /-- The root is not a directory. -/
  | noDirectory {q : Query} {c : Compiled} {t : Exchanges} {m₁ : Memory}
      (hq : Query.ofConditions cs = .ok q)
      (ha : (isAdmitted s q (q.normalizedRoot s.platform.delimiter)).Goes m t (.ok true) m₁)
      (hc : s.platform.compile q = .ok c) (hl : m₁.cache.lookup? c.cacheKey = none) :
      Course s cs m
        (t ++ [⟨.host (.isDirectory (q.normalizedRoot s.platform.delimiter) .readOnly), .ok false⟩])
        (.ok []) m₁
  /-- The search runs on the host. -/
  | run {q : Query} {c : Compiled} {t u : Exchanges} {r : Except Error (List Handle)}
      {m₁ m₂ : Memory} (hq : Query.ofConditions cs = .ok q)
      (ha : (isAdmitted s q (q.normalizedRoot s.platform.delimiter)).Goes m t (.ok true) m₁)
      (hc : s.platform.compile q = .ok c) (hl : m₁.cache.lookup? c.cacheKey = none)
      (hr : (runSearch s c).Goes m₁ u r m₂) :
      Course s cs m
        (t ++
          ⟨.host (.isDirectory (q.normalizedRoot s.platform.delimiter) .readOnly), .ok true⟩ :: u)
        r m₂

/-- **Every search goes one of these ways.** -/
theorem course_of_goes {cs : List Condition} {r : Except Error (List Handle)}
    (h : (search s cs).Goes m t r m') : Course s cs m t r m' := by
  unfold search at h
  rcases goes_ofResult_bind_iff.mp h with ⟨q, hq, h1⟩ | ⟨e, hq, rfl, rfl, rfl⟩
  · rcases goes_bind_iff.mp h1 with ⟨admitted, m₁, u, w, rfl, ha, h2⟩ | ⟨e, rfl, ha⟩
    · cases admitted with
      | false =>
        rw [if_neg Bool.false_ne_true] at h2
        obtain ⟨rfl, rfl, rfl⟩ := goes_pure_iff.mp h2
        rw [List.append_nil]
        exact .notAdmitted hq ha
      | true =>
        rw [if_pos rfl] at h2
        rcases goes_ofResult_bind_iff.mp h2 with ⟨c, hc, h3⟩ | ⟨e, hc, rfl, rfl, rfl⟩
        · have h4 := goes_get_bind_iff.mp h3
          cases hl : m₁.cache.lookup? c.cacheKey with
          | some paths =>
            rw [hl] at h4
            exact .remembered hq ha hc hl h4
          | none =>
            rw [hl] at h4
            rcases goes_call_bind_iff.mp h4 with ⟨b, v, rfl, h5⟩ | ⟨e, rfl, rfl, rfl⟩
            · cases b with
              | true =>
                rw [if_pos rfl] at h5
                exact .run hq ha hc hl h5
              | false =>
                rw [if_neg Bool.false_ne_true] at h5
                obtain ⟨rfl, rfl, rfl⟩ := goes_pure_iff.mp h5
                exact .noDirectory hq ha hc hl
            · exact .rootUnknown hq ha hc hl
        · rw [List.append_nil]
          exact .notCompiled hq ha hc
    · exact .unlisted hq ha
  · exact .noQuery hq

/-- And each of these ways is one in which a search can go. -/
theorem Course.goes {cs : List Condition} {r : Except Error (List Handle)}
    (h : Course s cs m t r m') : (search s cs).Goes m t r m' := by
  unfold search
  refine goes_ofResult_bind_iff.mpr ?_
  cases h with
  | noQuery hq => exact Or.inr ⟨_, hq, rfl, rfl, rfl⟩
  | unlisted hq ha => exact Or.inl ⟨_, hq, goes_bind_iff.mpr (Or.inr ⟨_, rfl, ha⟩)⟩
  | @notAdmitted q t m₁ hq ha =>
    refine Or.inl ⟨q, hq, goes_bind_iff.mpr (Or.inl ⟨false, m', t, [], by simp, ha, ?_⟩)⟩
    exact goes_pure_iff.mpr ⟨rfl, rfl, rfl⟩
  | @notCompiled q t e m₁ hq ha hc =>
    refine Or.inl ⟨q, hq, goes_bind_iff.mpr (Or.inl ⟨true, m', t, [], by simp, ha, ?_⟩)⟩
    exact goes_ofResult_bind_iff.mpr (Or.inr ⟨e, hc, rfl, rfl, rfl⟩)
  | @remembered q c paths t u r m₁ m₂ hq ha hc hl hf =>
    refine Or.inl ⟨q, hq, goes_bind_iff.mpr (Or.inl ⟨true, m₁, t, u, rfl, ha, ?_⟩)⟩
    refine goes_ofResult_bind_iff.mpr (Or.inl ⟨c, hc, goes_get_bind_iff.mpr ?_⟩)
    rw [hl]
    exact hf
  | @rootUnknown q c t e m₁ hq ha hc hl =>
    refine Or.inl ⟨q, hq, goes_bind_iff.mpr (Or.inl ⟨true, m', t, [_], rfl, ha, ?_⟩)⟩
    refine goes_ofResult_bind_iff.mpr (Or.inl ⟨c, hc, goes_get_bind_iff.mpr ?_⟩)
    rw [hl]
    exact goes_call_bind_iff.mpr (Or.inr ⟨e, rfl, rfl, rfl⟩)
  | @noDirectory q c t m₁ hq ha hc hl =>
    refine Or.inl ⟨q, hq, goes_bind_iff.mpr (Or.inl ⟨true, m', t, [_], rfl, ha, ?_⟩)⟩
    refine goes_ofResult_bind_iff.mpr (Or.inl ⟨c, hc, goes_get_bind_iff.mpr ?_⟩)
    rw [hl]
    refine goes_call_bind_iff.mpr (Or.inl ⟨false, [], rfl, ?_⟩)
    exact goes_pure_iff.mpr ⟨rfl, rfl, rfl⟩
  | @run q c t u r m₁ m₂ hq ha hc hl hr =>
    refine Or.inl ⟨q, hq, goes_bind_iff.mpr (Or.inl ⟨true, m₁, t, _, rfl, ha, ?_⟩)⟩
    refine goes_ofResult_bind_iff.mpr (Or.inl ⟨c, hc, goes_get_bind_iff.mpr ?_⟩)
    rw [hl]
    exact goes_call_bind_iff.mpr (Or.inl ⟨true, u, rfl, hr⟩)

end RemoteSearch.Searcher
