import RemoteSearch.Proofs.Searcher.Preparation

/-!
# Records of handles

What the calls for the record of one handle ask of the host, and what they give, whatever else is
done with the searcher in between. Copies of a handle have its place, so they are that handle here.

* `LooksUp`: how a file is looked up: at most a load, and then one command.
* `Calls`: a history of the calls on a handle, with anything else between them.
* `looks_up_as_mode_says`: how often the calls of a history look their file up.
-/

namespace RemoteSearch.Searcher

open RemoteSearch.Action Execution

variable {s : Setup} {h : Handle} {m m' m₁ m₂ : Memory} {t u : Exchanges} {path : String}
  {place : Nat}

/-! ## Looking a file up -/

/-- The record that the output of the command for one file begins with. -/
def firstRecord (s : Setup) (path : String) (now : Int) (output : String) :
    Except Error Metadata :=
  match s.platform.readRecord (.ofMillis now) (Text.lines output) with
  | some (.ok record, _) => .ok record
  | some (.error e, _) => .error (.record e)
  | none => .error (.search (.notFound path))

/-- The exchange in which a searcher is prepared: the helper module is loaded, if there is one that
has not been loaded yet. -/
def loadExchange (s : Setup) (m : Memory) : Exchanges :=
  match s.platform.helper? with
  | none => []
  | some (name, source) =>
    if m.helperLoaded then [] else [⟨.host (.loadModule name source), .ok ()⟩]

/-- The exchange of the command for one file; the clock is read only if there is output. -/
def statExchange (s : Setup) (path : String) (reply : Except Error Outcome) (now : Int) :
    Exchanges :=
  exchange s.budgets (s.platform.statCommand path) .short reply ++
    match verdict (s.platform.statCommand path) reply with
    | .ok _ => [⟨.home .clock, now⟩]
    | .error _ => []

/-- How a file can be looked up: what is asked, and what that gives. -/
inductive LooksUp (s : Setup) (path : String) (m : Memory) :
    Exchanges → Except Error Metadata → Prop where
  /-- The helper module cannot be loaded; the command is not run. -/
  | unprepared {name source : String} (hp : s.platform.helper? = some (name, source))
      (hl : m.helperLoaded = false) (e : Error) :
      LooksUp s path m [⟨.host (.loadModule name source), .error e⟩] (.error e)
  /-- The command is run once. -/
  | asked (reply : Except Error Outcome) (now : Int) :
      LooksUp s path m (loadExchange s m ++ statExchange s path reply now)
        ((verdict (s.platform.statCommand path) reply).bind fun o =>
          firstRecord s path now o.stdout)

/-- **A file is looked up with one command**, unless the helper module cannot be loaded. -/
theorem LooksUp.hostCalls_eq {r : Except Error Metadata} (hl : LooksUp s path m t r) :
    hostCalls t = hostCalls (loadExchange s m) ++
        [.execute (s.platform.statCommand path) (s.budgets .short)] ∨
      hostCalls t = hostCalls (loadExchange s m) ∧ loadExchange s m ≠ [] ∧ ∃ e, r = .error e := by
  cases hl with
  | @unprepared name source hp hl e =>
    have hload : loadExchange s m = [⟨.host (.loadModule name source), .ok ()⟩] := by
      simp [loadExchange, hp, hl]
    rw [hload]
    exact Or.inr ⟨rfl, List.cons_ne_nil _ _, e, rfl⟩
  | asked reply now =>
    refine Or.inl ?_
    rw [statExchange, hostCalls_append, hostCalls_append, hostCalls_exchange]
    cases verdict (s.platform.statCommand path) reply <;> rfl

theorem prepare_cases {r : Except Error Unit} (hg : (prepare s).Goes m t r m') :
    (r = .ok () ∧ t = loadExchange s m ∧ m'.records = m.records) ∨
      ∃ name source e, s.platform.helper? = some (name, source) ∧ m.helperLoaded = false ∧
        t = [⟨.host (.loadModule name source), .error e⟩] ∧ r = .error e ∧
          m'.records = m.records := by
  rcases goes_prepare hg with ⟨rfl, rfl, rfl, hl⟩ | ⟨name, source, hp, hl, rfl, rfl⟩
  · refine Or.inl ⟨rfl, ?_, rfl⟩
    unfold loadExchange
    cases hp : s.platform.helper? with
    | none => rfl
    | some p => exact (if_pos (hl (by rw [hp]; rfl))).symm
  · cases r with
    | ok _ => exact Or.inl ⟨rfl, by simp [loadExchange, hp, hl], rfl⟩
    | error e => exact Or.inr ⟨name, source, e, hp, hl, rfl, rfl, rfl⟩

/-- The command for one file, with the first record of its output as of the time after it. -/
def stat (s : Setup) (path : String) : Action Memory Metadata := do
  let output ← run s.budgets (s.platform.statCommand path) .short
  let now ← Action.home .clock
  Action.ofResult (firstRecord s path now output)

theorem lookUp_eq (s : Setup) (h : Handle) : h.lookUp s = (do prepare s; stat s h.path) := by
  unfold Handle.lookUp readClock stat
  simp only [bind_assoc, pure_bind]
  congr 1
  funext _
  congr 1
  funext output
  congr 1
  funext now
  unfold firstRecord
  rcases s.platform.readRecord (.ofMillis now) (Text.lines output) with _ | ⟨_ | _, _⟩ <;> rfl

theorem goes_stat_iff {r : Except Error Metadata} :
    (stat s path).Goes m t r m' ↔ ∃ reply now, t = statExchange s path reply now ∧
      r = ((verdict (s.platform.statCommand path) reply).bind fun o =>
        firstRecord s path now o.stdout) ∧ m' = m := by
  unfold stat
  constructor
  · intro hg
    rcases goes_bind_iff.mp hg with ⟨output, m₁, a, b, rfl, hr, h1⟩ | ⟨e, rfl, hr⟩
    · obtain ⟨reply, rfl, hv, rfl⟩ := goes_run_iff.mp hr
      obtain ⟨now, u, rfl, h2⟩ := goes_home_bind_iff.mp h1
      obtain ⟨rfl, rfl, rfl⟩ := goes_ofResult_iff.mp h2
      refine ⟨reply, now, ?_, ?_, rfl⟩ <;>
        cases hverdict : verdict (s.platform.statCommand path) reply <;> rw [hverdict] at hv <;>
        cases hv
      · rw [statExchange, hverdict]
      · rfl
    · obtain ⟨reply, rfl, hv, rfl⟩ := goes_run_iff.mp hr
      refine ⟨reply, 0, ?_, ?_, rfl⟩ <;>
        cases hverdict : verdict (s.platform.statCommand path) reply <;> rw [hverdict] at hv <;>
        cases hv
      · rw [statExchange, hverdict, List.append_nil]
      · rfl
  · rintro ⟨reply, now, rfl, rfl, rfl⟩
    unfold statExchange
    refine goes_bind_iff.mpr ?_
    cases hverdict : verdict (s.platform.statCommand path) reply with
    | ok o =>
      refine Or.inl ⟨o.stdout, m', _, _, rfl, goes_run_iff.mpr
        ⟨reply, rfl, congrArg (Except.map Outcome.stdout) hverdict.symm, rfl⟩, ?_⟩
      exact goes_home_bind_iff.mpr ⟨now, [], rfl, goes_ofResult_iff.mpr ⟨rfl, rfl, rfl⟩⟩
    | error e =>
      rw [List.append_nil]
      exact Or.inr ⟨e, rfl, goes_run_iff.mpr
        ⟨reply, rfl, congrArg (Except.map Outcome.stdout) hverdict.symm, rfl⟩⟩

theorem looksUp_of_goes {r : Except Error Metadata} (hg : (h.lookUp s).Goes m t r m') :
    LooksUp s h.path m t r ∧ m'.records = m.records := by
  rw [lookUp_eq] at hg
  rcases goes_bind_iff.mp hg with ⟨_, m₁, p, w, rfl, hp, h1⟩ | ⟨e, rfl, hp⟩
  · rcases prepare_cases hp with ⟨-, rfl, hm⟩ | ⟨name, source, e, -, -, -, hr, -⟩
    · obtain ⟨reply, now, rfl, rfl, rfl⟩ := goes_stat_iff.mp h1
      exact ⟨.asked reply now, hm⟩
    · cases hr
  · rcases prepare_cases hp with ⟨hr, -, -⟩ | ⟨name, source, e, hs, hl, rfl, hr, hm⟩
    · cases hr
    · cases hr
      exact ⟨.unprepared hs hl e, hm⟩

/-! ## Asking for a record -/

/-- What is remembered is given without a question. -/
theorem goes_metadata_of_known {x : Metadata} {r : Except Error Metadata}
    (hr : h.mode.remembers = true) (hx : m.record? h.place = some x)
    (hg : (h.metadata s).Goes m t r m') : t = [] ∧ r = .ok x ∧ m' = m := by
  unfold Handle.metadata Handle.remembered at hg
  rw [if_pos hr, bind_assoc, goes_get_bind_iff, pure_bind, hx] at hg
  exact goes_pure_iff.mp hg

/-- What is not remembered is looked up, and remembered if that succeeds. -/
theorem goes_metadata_of_unknown {r : Except Error Metadata} (hr : h.mode.remembers = true)
    (hx : m.record? h.place = none) (hg : (h.metadata s).Goes m t r m') :
    LooksUp s h.path m t r ∧
      ((∃ e, r = .error e ∧ m'.records = m.records) ∨
        ∃ x, r = .ok x ∧ m'.records = (m.setRecord h.place x).records) := by
  unfold Handle.metadata Handle.remembered at hg
  rw [if_pos hr, bind_assoc, goes_get_bind_iff, pure_bind, hx] at hg
  rcases goes_bind_iff.mp hg with ⟨x, m₁, u, w, rfl, h1, h2⟩ | ⟨e, rfl, h1⟩
  · obtain ⟨hl, hm⟩ := looksUp_of_goes h1
    have h3 := goes_modify_bind_iff.mp h2
    obtain ⟨rfl, rfl, rfl⟩ := goes_pure_iff.mp h3
    rw [List.append_nil]
    exact ⟨hl, Or.inr ⟨x, rfl, by simp only [Memory.setRecord, hm]⟩⟩
  · obtain ⟨hl, hm⟩ := looksUp_of_goes h1
    exact ⟨hl, Or.inl ⟨e, rfl, hm⟩⟩

/-- A handle that does not remember looks its file up. -/
theorem goes_metadata_of_volatile {r : Except Error Metadata} (hr : h.mode.remembers = false)
    (hg : (h.metadata s).Goes m t r m') : LooksUp s h.path m t r ∧ m'.records = m.records := by
  unfold Handle.metadata at hg
  rw [if_neg (by rw [hr]; decide)] at hg
  exact looksUp_of_goes hg

/-! ## Places of records -/

/-- A place that is there stays there, with the record that it has. -/
def KeepsPlace (place : Nat) (m m' : Memory) : Prop :=
  place < m.records.size → place < m'.records.size ∧ m'.record? place = m.record? place

theorem keepsPlace_of_append (more : Array (Option Metadata)) (hm : m'.records = m.records ++ more)
    (place : Nat) : KeepsPlace place m m' := by
  intro hp
  refine ⟨?_, ?_⟩
  · rw [hm, Array.size_append]
    omega
  · rw [Memory.record?, hm, Array.getElem?_append_left hp, Memory.record?]

theorem keepsPlace_of_eq (hm : m'.records = m.records) (place : Nat) : KeepsPlace place m m' :=
  keepsPlace_of_append #[] (by rw [hm, Array.append_empty]) place

/-- A record that is put into another place does not matter. -/
theorem keepsPlace_of_setRecord {other : Nat} {x : Metadata}
    (hm : m'.records = (m.setRecord other x).records) (ho : other ≠ place) :
    KeepsPlace place m m' := by
  intro hp
  simp only [Memory.setRecord] at hm
  refine ⟨?_, ?_⟩
  · rwa [hm, Array.size_setIfInBounds]
  · rw [Memory.record?, hm, Array.getElem?_setIfInBounds_ne ho, Memory.record?]

theorem records_mounts {r : Except Error (List Mount)} (hg : (mounts s).Goes m t r m') :
    m'.records = m.records := by
  rcases goes_mounts hg with ⟨l, -, -, -, rfl⟩ | ⟨-, reply, -, -, rfl⟩ <;> rfl

theorem records_isAdmitted {q : Query} {root : String} {r : Except Error Bool}
    (hg : (isAdmitted s q root).Goes m t r m') : m'.records = m.records := by
  rw [(goes_isAdmitted_exchange hg).1]

theorem records_prepare {r : Except Error Unit} (hg : (prepare s).Goes m t r m') :
    m'.records = m.records := by
  rcases prepare_cases hg with ⟨-, -, hm⟩ | ⟨_, _, _, -, -, -, -, hm⟩ <;> exact hm

theorem records_gather {command : String} {r : Except Error Findings}
    (hg : (gather s command).Goes m t r m') : m'.records = m.records := by
  obtain ⟨u, trail, brought, -, rfl, -⟩ := goes_gather hg
  rfl

/-- A search adds places, for what it finds. -/
theorem records_search {cs : List Condition} {r : Except Error (List Handle)}
    (hg : (search s cs).Goes m t r m') : ∃ more, m'.records = m.records ++ more := by
  have hnone : ∀ {m₁ : Memory}, m₁.records = m.records → ∃ more, m₁.records = m.records ++ more :=
    fun hm => ⟨#[], by rw [hm, Array.append_empty]⟩
  cases course_of_goes hg with
  | noQuery hq => exact hnone rfl
  | unlisted hq ha => exact hnone (records_isAdmitted ha)
  | notAdmitted hq ha => exact hnone (records_isAdmitted ha)
  | notCompiled hq ha hc => exact hnone (records_isAdmitted ha)
  | remembered hq ha hc hl hf =>
    obtain ⟨-, -, rfl⟩ := goes_fromCache hf
    exact ⟨_, congrArg (· ++ _) (records_isAdmitted ha)⟩
  | rootUnknown hq ha hc hl => exact hnone (records_isAdmitted ha)
  | noDirectory hq ha hc hl => exact hnone (records_isAdmitted ha)
  | run hq ha hc hl hr =>
    have hm := records_isAdmitted ha
    rcases goes_runSearch hr with ⟨e, hp, -⟩ | ⟨m₂, v, w, -, hp, hg⟩
    · exact hnone ((records_prepare hp).trans hm)
    · have hm := (records_prepare hp).trans hm
      rcases hg with ⟨e, h1, -⟩ | ⟨f, m₃, hs, h1, -, -, rfl⟩
      · exact hnone ((records_gather h1).trans hm)
      · exact ⟨_, congrArg (· ++ _) ((records_gather h1).trans hm)⟩

/-- **Only the calls on a handle change its record.** -/
theorem keepsPlace_of_other {op : Operation} {r : Except Error op.Value}
    (ho : ∀ k, op = .metadata k → k.place ≠ place) (hg : (op.perform s).Goes m t r m') :
    KeepsPlace place m m' := by
  -- searches and new handles add places behind all others, calls on other handles fill their own
  have hcall : ∀ {c : HostCall} {r : Except Error c.Value},
      (call c : Action Memory c.Value).Goes m t r m' → m'.records = m.records := by
    intro c r hg
    obtain ⟨-, rfl⟩ := goes_call_iff.mp hg
    rfl
  cases op with
  | search cs =>
    obtain ⟨more, hm⟩ := records_search hg
    exact keepsPlace_of_append more hm place
  | mounts => exact keepsPlace_of_eq (records_mounts hg) place
  | mountsMatching pattern wanted =>
    have hg : (mountsMatching s pattern wanted).Goes m t r m' := hg
    unfold mountsMatching at hg
    rw [← map_eq_pure_bind] at hg
    obtain ⟨x, -, h1⟩ := goes_map_iff.mp hg
    exact keepsPlace_of_eq (records_mounts h1) place
  | handle path mode =>
    have hg : (Handle.make s path mode none).Goes m t r m' := hg
    have h1 := goes_modify_bind_iff.mp (goes_get_bind_iff.mp hg)
    obtain ⟨-, -, rfl⟩ := goes_pure_iff.mp h1
    exact keepsPlace_of_append #[none] Array.push_eq_append place
  | remembered k =>
    obtain ⟨-, -, rfl⟩ := goes_remembered hg
    exact keepsPlace_of_eq rfl place
  | metadata k =>
    have hg : (k.metadata s).Goes m t r m' := hg
    by_cases hr : k.mode.remembers = true
    · cases hx : m.record? k.place with
      | some x =>
        obtain ⟨-, -, rfl⟩ := goes_metadata_of_known hr hx hg
        exact keepsPlace_of_eq rfl place
      | none =>
        rcases (goes_metadata_of_unknown hr hx hg).2 with ⟨e, -, hm⟩ | ⟨x, -, hm⟩
        · exact keepsPlace_of_eq hm place
        · exact keepsPlace_of_setRecord hm (ho k rfl)
    · exact keepsPlace_of_eq (goes_metadata_of_volatile (by simpa using hr) hg).2 place
  | isPresent k => exact keepsPlace_of_eq (hcall hg) place
  | isDirectory k => exact keepsPlace_of_eq (hcall hg) place
  | length k => exact keepsPlace_of_eq (hcall hg) place
  | read k => exact keepsPlace_of_eq (hcall hg) place
  | delete k =>
    have hg : k.delete.Goes m t r m' := hg
    unfold Handle.delete at hg
    by_cases hw : k.mode.isWritable = true
    · rw [if_pos hw] at hg
      exact keepsPlace_of_eq (hcall hg) place
    · rw [if_neg hw] at hg
      obtain ⟨-, -, rfl⟩ := goes_throw_iff.mp hg
      exact keepsPlace_of_eq rfl place
  | cached key =>
    have hg : (Searcher.cached key).Goes m t r m' := hg
    have h1 := goes_get_bind_iff.mp hg
    obtain ⟨-, -, rfl⟩ := goes_ofResult_iff.mp h1
    exact keepsPlace_of_eq rfl place

/-! ## Histories of a handle -/

/-- A call for the record of a handle: the memory before it, what was asked, and what was given. -/
structure Call where
  before : Memory
  asked : Exchanges
  given : Except Error Metadata

/-- The call looks the file up. -/
def Call.LooksUp (s : Setup) (path : String) (c : Call) : Prop :=
  Searcher.LooksUp s path c.before c.asked c.given

/-- The call gives a record and asks nothing. -/
def Call.Recalls (x : Metadata) (c : Call) : Prop := c.asked = [] ∧ c.given = .ok x

/--
The calls for the record of a handle and of its copies, in order, from one memory to another.
Between them anything may be done with the searcher that is no call for the record in their place.
-/
inductive Calls (s : Setup) (h : Handle) (m : Memory) : List Call → Memory → Prop where
  | nil : Calls s h m [] m
  | call {l : List Call} {m₁ m₂ : Memory} {t : Exchanges} {r : Except Error Metadata}
      (hl : Calls s h m l m₁) (hg : (h.metadata s).Goes m₁ t r m₂) :
      Calls s h m (l ++ [⟨m₁, t, r⟩]) m₂
  | other {l : List Call} {op : Operation} {m₁ m₂ : Memory} {t : Exchanges}
      {r : Except Error op.Value} (hl : Calls s h m l m₁)
      (ho : ∀ k, op = .metadata k → k.place ≠ h.place) (hg : (op.perform s).Goes m₁ t r m₂) :
      Calls s h m l m₂

/-- Calls that fail, each after a look-up, until one succeeds; all others recall what that gave.
The last argument is what is remembered in the end. -/
inductive FillsOnce (s : Setup) (path : String) : List Call → Option Metadata → Prop where
  | unknown {failed : List Call} (hf : ∀ c ∈ failed, c.LooksUp s path ∧ ∃ e, c.given = .error e) :
      FillsOnce s path failed none
  | known {failed rest : List Call} {first : Call} {x : Metadata}
      (hf : ∀ c ∈ failed, c.LooksUp s path ∧ ∃ e, c.given = .error e)
      (hl : first.LooksUp s path) (hx : first.given = .ok x) (hr : ∀ c ∈ rest, c.Recalls x) :
      FillsOnce s path (failed ++ first :: rest) (some x)

variable {l : List Call}

theorem record?_setRecord_self {x : Metadata} (hp : place < m.records.size)
    (hm : m'.records = (m.setRecord place x).records) :
    place < m'.records.size ∧ m'.record? place = some x := by
  refine ⟨by simpa [hm, Memory.setRecord] using hp, ?_⟩
  have hx := m.record?_setRecord place place x hp
  rw [if_pos rfl] at hx
  rw [← hx, Memory.record?, hm, Memory.record?]

/-- **A record that is remembered is recalled**, and never changes. -/
theorem Calls.recalls {x : Metadata} (hc : Calls s h m l m') (hr : h.mode.remembers = true)
    (hp : h.place < m.records.size) (hx : m.record? h.place = some x) :
    (h.place < m'.records.size ∧ m'.record? h.place = some x) ∧ ∀ c ∈ l, c.Recalls x := by
  induction hc with
  | nil => exact ⟨⟨hp, hx⟩, fun c hc => by cases hc⟩
  | call _ hg ih =>
    obtain ⟨hm, hall⟩ := ih
    obtain ⟨rfl, rfl, rfl⟩ := goes_metadata_of_known hr hm.2 hg
    refine ⟨hm, List.forall_mem_append.mpr ⟨hall, fun c hc => ?_⟩⟩
    rw [List.mem_singleton.mp hc]
    exact ⟨rfl, rfl⟩
  | other _ ho hg ih =>
    obtain ⟨hm, hall⟩ := ih
    have hkeeps := keepsPlace_of_other ho hg hm.1
    exact ⟨⟨hkeeps.1, hkeeps.2.trans hm.2⟩, hall⟩

/-- **A record that is not remembered is looked up until that succeeds once.** -/
theorem Calls.fillsOnce (hc : Calls s h m l m') (hr : h.mode.remembers = true)
    (hp : h.place < m.records.size) (hx : m.record? h.place = none) :
    h.place < m'.records.size ∧ FillsOnce s h.path l (m'.record? h.place) := by
  induction hc with
  | nil => exact ⟨hp, hx ▸ .unknown fun c hc => by cases hc⟩
  | @call l m₁ m₂ t r _ hg ih =>
    obtain ⟨hm, hfills⟩ := ih
    -- what is remembered tells whether any call so far has succeeded
    generalize hk : m₁.record? h.place = known at hfills
    cases hfills with
    | unknown hf =>
      obtain ⟨hl, hend⟩ := goes_metadata_of_unknown hr hk hg
      rcases hend with ⟨e, rfl, hm'⟩ | ⟨x, rfl, hm'⟩
      · have hkeeps := keepsPlace_of_eq hm' h.place hm
        refine ⟨hkeeps.1, ?_⟩
        rw [hkeeps.2, hk]
        refine .unknown (List.forall_mem_append.mpr ⟨hf, fun c hc => ?_⟩)
        rw [List.mem_singleton.mp hc]
        exact ⟨hl, e, rfl⟩
      · obtain ⟨hm₂, hx₂⟩ := record?_setRecord_self hm hm'
        rw [hx₂]
        exact ⟨hm₂, .known hf hl rfl fun c hc => by cases hc⟩
    | @known failed rest first x hf hl hfirst hrest =>
      obtain ⟨rfl, rfl, rfl⟩ := goes_metadata_of_known hr hk hg
      rw [hk, List.append_assoc, List.cons_append]
      refine ⟨hm, .known hf hl hfirst (List.forall_mem_append.mpr ⟨hrest, fun c hc => ?_⟩)⟩
      rw [List.mem_singleton.mp hc]
      exact ⟨rfl, rfl⟩
  | other _ ho hg ih =>
    obtain ⟨hm, hfills⟩ := ih
    have hkeeps := keepsPlace_of_other ho hg hm
    exact ⟨hkeeps.1, hkeeps.2 ▸ hfills⟩

/-- **A handle that remembers nothing looks its file up each time.** -/
theorem Calls.looksUp (hc : Calls s h m l m') (hr : h.mode.remembers = false)
    (hp : h.place < m.records.size) :
    (h.place < m'.records.size ∧ m'.record? h.place = m.record? h.place) ∧
      ∀ c ∈ l, c.LooksUp s h.path := by
  induction hc with
  | nil => exact ⟨⟨hp, rfl⟩, fun c hc => by cases hc⟩
  | call _ hg ih =>
    obtain ⟨hm, hall⟩ := ih
    obtain ⟨hl, hm'⟩ := goes_metadata_of_volatile hr hg
    have hkeeps := keepsPlace_of_eq hm' h.place hm.1
    refine ⟨⟨hkeeps.1, hkeeps.2.trans hm.2⟩,
      List.forall_mem_append.mpr ⟨hall, fun c hc => ?_⟩⟩
    rw [List.mem_singleton.mp hc]
    exact hl
  | other _ ho hg ih =>
    obtain ⟨hm, hall⟩ := ih
    have hkeeps := keepsPlace_of_other ho hg hm.1
    exact ⟨⟨hkeeps.1, hkeeps.2.trans hm.2⟩, hall⟩

theorem goes_make {mode : AccessMode} {record : Option Metadata} {r : Except Error Handle}
    (hg : (Handle.make s path mode record).Goes m t r m') :
    t = [] ∧ r = .ok ⟨s.session.hostname, path, mode, m.records.size⟩ ∧
      m' = { m with records := m.records.push record } := by
  have h1 := goes_modify_bind_iff.mp (goes_get_bind_iff.mp hg)
  exact goes_pure_iff.mp h1

/--
**Handles look their file up as often as their mode says.** Take a handle that is made with a record
or without one, any calls for its record on it and its copies, whatever the host answers and
whatever is done in between. A handle that is read, or read and written, looks its file up in each
call until one succeeds; a call that fails leaves nothing remembered; and from the first that
succeeds, or from the start if it was made with a record, every call gives that record and asks
nothing. A handle of the other two modes looks its file up in every call, and its record stays what
it was.
-/
theorem looks_up_as_mode_says {mode : AccessMode} {record : Option Metadata}
    (hm : (Handle.make s path mode record).Goes m t (.ok h) m₁) (hc : Calls s h m₁ l m₂) :
    match mode, record with
    | .readOnly, none | .readWrite, none => FillsOnce s path l (m₂.record? h.place)
    | .readOnly, some x | .readWrite, some x =>
      m₂.record? h.place = some x ∧ ∀ c ∈ l, c.Recalls x
    | .readVolatile, _ | .noCache, _ =>
      m₂.record? h.place = record ∧ ∀ c ∈ l, c.LooksUp s path := by
  obtain ⟨-, hh, rfl⟩ := goes_make hm
  cases hh
  have hplace : m.records.size < (m.records.push record).size := by simp
  have hrecord : ({ m with records := m.records.push record } : Memory).record? m.records.size =
      record := by rw [Memory.record?_push, if_pos rfl]
  cases mode with
  | readOnly | readWrite =>
    cases record with
    | none => exact (hc.fillsOnce rfl hplace hrecord).2
    | some x =>
      obtain ⟨⟨-, hx⟩, hall⟩ := hc.recalls rfl hplace hrecord
      exact ⟨hx, hall⟩
  | readVolatile | noCache =>
    obtain ⟨⟨-, hx⟩, hall⟩ := hc.looksUp rfl hplace
    exact ⟨hx.trans hrecord, hall⟩

/-- A file on AIX that is asked for three times: the host refuses the first time, and answers the
second. -/
theorem third_call_recalls_on_aix :
    let s : Setup := { session := ⟨"localhost", '/', none⟩, platform := .unix (.ofKind .aix) }
    ∃ h m₁ m₂ c₁ c₂ c₃, (Handle.make s "/a" .readOnly none).Goes (.initial none 0) [] (.ok h) m₁ ∧
      Calls s h m₁ [c₁, c₂, c₃] m₂ ∧ c₁.given = .error (.io "refused") ∧ c₂.given.isOk = true ∧
        FillsOnce s "/a" [c₁, c₂, c₃] (m₂.record? h.place) := by
  intro s
  let h : Handle := ⟨"localhost", "/a", .readOnly, 0⟩
  let m₁ : Memory := { Memory.initial none 0 with records := #[none] }
  let line := "-rw-r--r-- 1 0 0 5 Jan 2 2024 /a"
  let refusal : Except Error Outcome := .error (.io "refused")
  let answer : Except Error Outcome := .ok { stdout := line }
  have hmake : (Handle.make s "/a" .readOnly none).Goes (.initial none 0) [] (.ok h) m₁ := .done _
  have hfirst : (h.metadata s).Goes m₁ (statExchange s "/a" refusal 0)
      (.error (.io "refused")) m₁ := by
    show Dialogue.Goes _ _ _
    iterate 2 refine Dialogue.Goes.ask ?_
    exact .done _
  obtain ⟨x, hx⟩ : ∃ x, firstRecord s "/a" 0 line = .ok x := by
    have hok : (firstRecord s "/a" 0 line).isOk = true := by decide +kernel
    cases hr : firstRecord s "/a" 0 line with
    | ok x => exact ⟨x, rfl⟩
    | error e =>
      rw [hr] at hok
      cases hok
  have hlook : (h.lookUp s).Goes m₁ (statExchange s "/a" answer 0) (.ok x) m₁ := by
    rw [lookUp_eq]
    exact goes_bind_iff.mpr (Or.inl
      ⟨(), m₁, [], _, rfl, .done _, goes_stat_iff.mpr ⟨answer, 0, rfl, hx.symm, rfl⟩⟩)
  have hsecond : (h.metadata s).Goes m₁ (statExchange s "/a" answer 0) (.ok x)
      (m₁.setRecord 0 x) :=
    goes_bind_iff.mpr (Or.inl ⟨none, m₁, [], _, rfl, .done _,
      goes_bind_iff.mpr (Or.inl
        ⟨x, m₁, _, [], (List.append_nil _).symm, hlook, .done _⟩)⟩)
  have hthird : (h.metadata s).Goes (m₁.setRecord 0 x) [] (.ok x) (m₁.setRecord 0 x) := .done _
  have hcalls : Calls s h m₁ [⟨m₁, _, _⟩, ⟨m₁, _, _⟩, ⟨m₁.setRecord 0 x, _, _⟩] _ :=
    ((Calls.nil.call hfirst).call hsecond).call hthird
  exact ⟨h, m₁, _, _, _, _, hmake, hcalls, rfl, rfl, looks_up_as_mode_says hmake hcalls⟩

end RemoteSearch.Searcher
