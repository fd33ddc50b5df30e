import RemoteSearch.Proofs.Searcher.Course

/-!
# Runs of a searcher

A run is any sequence of operations on one searcher, with all that is asked on the way and whatever
the answers are. Handles in it are arbitrary: nothing depends on where they come from.

* `keeps_perform`: only searches touch the cache and the counters.
* `Course.cache`: a search leaves the cache as it is, or stores what it has read to the end.
* `Run.lookup?_of_lookup?`: what is remembered once is remembered for the rest of the run.
-/

namespace RemoteSearch.Searcher

open RemoteSearch.Action Execution

/-- What can be done with a searcher, and with handles on its host. -/
inductive Operation where
  | search (conditions : List Condition)
  | mounts
  | mountsMatching (pattern : Regex) (wanted : Bool)
  | handle (path : String) (mode : AccessMode)
  | remembered (h : Handle)
  | metadata (h : Handle)
  | isPresent (h : Handle)
  | isDirectory (h : Handle)
  | length (h : Handle)
  | read (h : Handle)
  | delete (h : Handle)
  | cached (key : String)

namespace Operation

/-- What an operation gives. -/
@[reducible] def Value : Operation → Type
  | search _ => List Handle
  | mounts => List Mount
  | mountsMatching .. => List Mount
  | handle .. => Handle
  | remembered _ => Option Metadata
  | metadata _ => Metadata
  | isPresent _ => Bool
  | isDirectory _ => Bool
  | length _ => Nat
  | read _ => Delivery
  | delete _ => Unit
  | cached _ => List String

/-- Does what an operation says. -/
def perform (s : Setup) : (op : Operation) → Action Memory op.Value
  | search cs => Searcher.search s cs
  | mounts => Searcher.mounts s
  | mountsMatching pattern wanted => Searcher.mountsMatching s pattern wanted
  | handle path mode => Handle.make s path mode none
  | remembered h => h.remembered
  | metadata h => h.metadata s
  | isPresent h => h.isPresent
  | isDirectory h => h.isDirectory
  | length h => h.length
  | read h => h.read
  | delete h => h.delete
  | cached key => Searcher.cached key

end Operation

/-- The memory of a new searcher: mounts may be given, and stamps may have been taken before. -/
def Memory.initial (mounts : Option (List Mount)) (lastStamp : Nat) : Memory :=
  { mounts, lastStamp }

/-- A searcher can go from one memory to another by a sequence of operations with an exchange. -/
inductive Run (s : Setup) (m : Memory) : List Operation → Exchanges → Memory → Prop where
  | nil : Run s m [] [] m
  | snoc {ops : List Operation} {op : Operation} {t u : Exchanges} {m₁ m₂ : Memory}
      {r : Except Error op.Value} (h : Run s m ops t m₁) (hg : (op.perform s).Goes m₁ u r m₂) :
      Run s m (ops ++ [op]) (t ++ u) m₂

variable {ρ : Type} {view : Memory → ρ} {s : Setup} {m m' : Memory} {t : Exchanges}

/-! ## What operations other than searches leave alone -/

/-- A view of the memory that does not show what is looked up: mounts, helper and records. -/
structure Stable (view : Memory → ρ) : Prop where
  mounts : ∀ m l, view { m with mounts := l } = view m
  helperLoaded : ∀ m b, view { m with helperLoaded := b } = view m
  records : ∀ m r, view { m with records := r } = view m

theorem stable_cache : Stable Memory.cache := ⟨fun _ _ => rfl, fun _ _ => rfl, fun _ _ => rfl⟩

theorem stable_counters : Stable Memory.counters :=
  ⟨fun _ _ => rfl, fun _ _ => rfl, fun _ _ => rfl⟩

theorem keeps_mounts (hv : Stable view) : (mounts s).Keeps view := by
  intro m t r m' h
  rcases goes_mounts h with ⟨l, -, -, -, rfl⟩ | ⟨-, reply, -, -, rfl⟩
  · rfl
  · exact hv.mounts m _

theorem keeps_isAdmitted (hv : Stable view) {q : Query} {root : String} :
    (isAdmitted s q root).Keeps view := by
  intro m t r m' h
  obtain ⟨hm, -⟩ := goes_isAdmitted_exchange h
  rw [hm]
  exact hv.mounts m _

theorem keeps_prepare (hv : Stable view) : (prepare s).Keeps view := by
  intro m t r m' h
  rcases goes_prepare h with ⟨-, -, rfl, -⟩ | ⟨name, source, -, -, -, rfl⟩
  · rfl
  · exact hv.helperLoaded m _

theorem keeps_readClock : readClock.Keeps view :=
  (keeps_home .clock).bind fun _ => keeps_pure _

namespace Handle

theorem keeps_make (hv : Stable view) {path : String} {mode : AccessMode}
    {record : Option Metadata} : (make s path mode record).Keeps view :=
  keeps_get.bind fun _ =>
    (keeps_modify fun m => hv.records m _).bind fun _ => keeps_pure _

theorem keeps_remembered (h : Handle) : h.remembered.Keeps view :=
  keeps_get.bind fun _ => keeps_pure _

theorem keeps_lookUp (hv : Stable view) (h : Handle) : (h.lookUp s).Keeps view := by
  unfold lookUp
  refine (keeps_prepare hv).bind fun _ => keeps_run.bind fun _ => ?_
  refine keeps_readClock.bind fun _ => ?_
  split
  · exact keeps_pure _
  · exact keeps_throw _
  · exact keeps_throw _

theorem keeps_metadata (hv : Stable view) (h : Handle) : (h.metadata s).Keeps view := by
  unfold metadata
  refine keeps_ite ?_ (h.keeps_lookUp hv)
  refine h.keeps_remembered.bind fun known => ?_
  cases known with
  | some record => exact keeps_pure record
  | none =>
    refine (h.keeps_lookUp hv).bind fun record => ?_
    exact (keeps_modify fun m => hv.records m _).bind fun _ => keeps_pure record

end Handle

/-- **Only searches change what is not looked up**: the cache, the counters and the stamps. -/
theorem keeps_perform (hv : Stable view) {op : Operation} (hs : ∀ cs, op ≠ .search cs) :
    (op.perform s).Keeps view := by
  cases op with
  | search cs => exact absurd rfl (hs cs)
  | mounts => exact keeps_mounts hv
  | mountsMatching pattern wanted => exact (keeps_mounts hv).bind fun _ => keeps_pure _
  | handle path mode => exact Handle.keeps_make hv
  | remembered h => exact h.keeps_remembered
  | metadata h => exact h.keeps_metadata hv
  | isPresent h => exact keeps_call _
  | isDirectory h => exact keeps_call _
  | length h => exact keeps_call _
  | read h => exact keeps_call _
  | delete h => exact keeps_ite (keeps_call _) (keeps_throw _)
  | cached key => exact keeps_get.bind fun _ => keeps_ofResult _

/-! ## What searches do to the cache -/

theorem keeps_gather {command : String} : (gather s command).Keeps Memory.cache := by
  intro m t r m' h
  obtain ⟨u, trail, brought, -, rfl, -⟩ := goes_gather h
  rfl

/--
The way of a search that stores what it finds under a key: admitted, on the host, and with complete
findings.
-/
inductive Stores (s : Setup) (cs : List Condition) (m : Memory) :
    Exchanges → String → List String → Memory → Prop where
  | intro {q : Query} {c : Compiled} {f : Findings} {t u v : Exchanges} {m₁ m₂ m₃ : Memory}
      (hq : Query.ofConditions cs = .ok q) (hc : s.platform.compile q = .ok c)
      (ha : (isAdmitted s q (q.normalizedRoot s.platform.delimiter)).Goes m t (.ok true) m₁)
      (hp : (prepare s).Goes m₁ u (.ok ()) m₂)
      (hg : (gather s c.command).Goes m₂ v (.ok f) m₃) (hf : f.complete = true) :
      Stores s cs m
        (t ++ ⟨.host (.isDirectory (q.normalizedRoot s.platform.delimiter) .readOnly), .ok true⟩ ::
          (u ++ v))
        c.cacheKey f.paths (m₃.afterFindings c.cacheKey f)

/--
**A search leaves the cache as it is, or stores complete findings under a key that is new**, and
then it is a success that gives what it stores.
-/
theorem Course.cache {cs : List Condition} {r : Except Error (List Handle)}
    (h : Course s cs m t r m') :
    m'.cache = m.cache ∨
      ∃ hs key, r = .ok hs ∧ Stores s cs m t key (hs.map Handle.path) m' ∧
        m.cache.lookup? key = none ∧ m'.cache = m.cache.store key (hs.map Handle.path) := by
  cases h with
  | noQuery hq => exact Or.inl rfl
  | unlisted hq ha => exact Or.inl (keeps_isAdmitted stable_cache ha)
  | notAdmitted hq ha => exact Or.inl (keeps_isAdmitted stable_cache ha)
  | notCompiled hq ha hc => exact Or.inl (keeps_isAdmitted stable_cache ha)
  | @remembered q c paths t u r m₁ m₂ hq ha hc hl hf =>
    have h1 : m₁.cache = m.cache := keeps_isAdmitted stable_cache ha
    obtain ⟨-, -, rfl⟩ := goes_fromCache hf
    exact Or.inl h1
  | rootUnknown hq ha hc hl => exact Or.inl (keeps_isAdmitted stable_cache ha)
  | noDirectory hq ha hc hl => exact Or.inl (keeps_isAdmitted stable_cache ha)
  | @run q c t u r m₁ m₂ hq ha hc hl hr =>
    have h1 : m₁.cache = m.cache := keeps_isAdmitted stable_cache ha
    rcases goes_runSearch hr with ⟨e, hp, rfl⟩ | ⟨m₂, v, w, rfl, hp, hg⟩
    · exact Or.inl ((keeps_prepare stable_cache hp).trans h1)
    · have h2 : m₂.cache = m.cache := (keeps_prepare stable_cache hp).trans h1
      rcases hg with ⟨e, hg, rfl⟩ | ⟨f, m₃, hs, hg, rfl, hpaths, rfl⟩
      · exact Or.inl ((keeps_gather hg).trans h2)
      · have h3 : m₃.cache = m.cache := (keeps_gather hg).trans h2
        by_cases hf : f.complete = true
        · rw [h1] at hl
          refine Or.inr ⟨hs, c.cacheKey, rfl, ?_, hl, ?_⟩
          · rw [hpaths]
            exact .intro hq hc ha hp hg hf
          · rw [hpaths]
            simp [Memory.afterFindings, hf, h3]
        · refine Or.inl ?_
          simp [Memory.afterFindings, hf, h3]

/-- A search never changes what is remembered. -/
theorem lookup?_of_search {cs : List Condition} {r : Except Error (List Handle)} {key : String}
    {paths : List String} (h : (search s cs).Goes m t r m')
    (hl : m.cache.lookup? key = some paths) : m'.cache.lookup? key = some paths := by
  rcases (course_of_goes h).cache with hc | ⟨_, _, -, -, -, hc⟩
  · rw [hc]
    exact hl
  · rw [hc]
    exact Cache.lookup?_store_of_some hl

/-- One operation of a run. -/
theorem lookup?_of_perform {op : Operation} {r : Except Error op.Value} {key : String}
    {paths : List String} (h : (op.perform s).Goes m t r m')
    (hl : m.cache.lookup? key = some paths) : m'.cache.lookup? key = some paths := by
  by_cases hs : ∃ cs, op = .search cs
  · obtain ⟨cs, rfl⟩ := hs
    exact lookup?_of_search h hl
  · rw [keeps_perform stable_cache (fun cs hc => hs ⟨cs, hc⟩) h]
    exact hl

/-- **What is remembered once is remembered for the rest of the run**, as it is. -/
theorem Run.lookup?_of_lookup? {ops : List Operation} {key : String} {paths : List String}
    (h : Run s m ops t m') (hl : m.cache.lookup? key = some paths) :
    m'.cache.lookup? key = some paths := by
  induction h with
  | nil => exact hl
  | snoc h hg ih => exact lookup?_of_perform hg ih

end RemoteSearch.Searcher
