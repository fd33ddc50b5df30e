import RemoteSearch.Proofs.Searcher.Run

/-!
# Searches from the cache

What a search gives, asks and changes when its result is remembered: the remembered paths, nothing
but the mounts if it needs them and does not know them, and one counter.
-/

namespace RemoteSearch.Searcher

open RemoteSearch.Action Execution

variable {s : Setup} {m m₁ m₂ : Memory} {t u : Exchanges} {cs : List Condition} {q : Query}
  {c : Compiled}

/-- A search whose result is remembered, and whose query is admitted, takes the way to the cache. -/
theorem goes_fromCache_of_lookup? {r : Except Error (List Handle)} {paths : List String}
    (h : (search s cs).Goes m t r m₁) (hq : Query.ofConditions cs = .ok q)
    (hc : s.platform.compile q = .ok c) (ha : Admits s m₁ q)
    (hl : m.cache.lookup? c.cacheKey = some paths) :
    ∃ u v m₂, t = u ++ v ∧
      (isAdmitted s q (q.normalizedRoot s.platform.delimiter)).Goes m u (.ok true) m₂ ∧
      (fromCache s paths).Goes m₂ v r m₁ := by
  unfold search at h
  rw [hq] at h
  rcases goes_ofResult_bind_iff.mp h with ⟨q', hq', h1⟩ | ⟨e, he, -, -, -⟩
  · cases hq'
    rcases goes_bind_iff.mp h1 with ⟨admitted, m₂, u, v, rfl, hadm, h2⟩ | ⟨e, -, hadm⟩
    · cases admitted with
      | false =>
        obtain ⟨-, -, rfl⟩ := goes_pure_iff.mp h2
        cases (admits_iff_of_goes hadm).mp ha
      | true =>
        rw [if_pos rfl, hc] at h2
        rcases goes_ofResult_bind_iff.mp h2 with ⟨c', hc', h3⟩ | ⟨e, he, -, -, -⟩
        · cases hc'
          have h4 := goes_get_bind_iff.mp h3
          rw [keeps_isAdmitted stable_cache hadm, hl] at h4
          exact ⟨u, v, m₂, rfl, hadm, h4⟩
        · cases he
    · cases (admits_iff_of_goes hadm).mp ha
  · cases he

/--
**A search whose result is remembered is a replay.** Once paths are in the cache under a key, every
later search of the run whose command has this key comes to an end, whoever answers. And if its type
of filesystem, where it has one, is admitted, it gives exactly these paths in their order. It calls
nothing but the listing of the mounts, and that only if it needs them and they are not known. It
counts as one hit, and changes no entry.
-/
theorem search_replays {ops : List Operation} {paths : List String} {key : String}
    (hstored : m.cache.lookup? key = some paths) (hrun : Run s m ops t m₁)
    (hq : Query.ofConditions cs = .ok q) (hc : s.platform.compile q = .ok c)
    (hkey : c.cacheKey = key) :
    (∀ b, ∃ u r m₂, (search s cs).Goes m₁ u r m₂ ∧ Follows b t u) ∧
      ∀ u r m₂, (search s cs).Goes m₁ u r m₂ → Admits s m₂ q →
        (∃ hs, r = .ok hs ∧ hs.map Handle.path = paths) ∧
          hostCalls u =
            (if q.fsType.isSome && m₁.mounts.isNone then
              [.execute s.platform.mountCommand (s.budgets .short)]
            else []) ∧
          m₂.counters = { m₁.counters with cacheHits := m₁.counters.cacheHits + 1 } ∧
          m₂.cache = m₁.cache ∧ m₂.cache.lookup? key = some paths := by
  subst hkey
  refine ⟨fun b => exists_goes b t _ m₁, fun u r m₂ hg ha => ?_⟩
  have hl : m₁.cache.lookup? c.cacheKey = some paths := hrun.lookup?_of_lookup? hstored
  obtain ⟨v, w, m₃, rfl, hadm, hf⟩ := goes_fromCache_of_lookup? hg hq hc ha hl
  obtain ⟨rfl, hpaths, rfl⟩ := goes_fromCache hf
  have hcache : m₃.cache = m₁.cache := keeps_isAdmitted stable_cache hadm
  have hcounters : m₃.counters = m₁.counters := keeps_isAdmitted stable_counters hadm
  refine ⟨hpaths, ?_, ?_, hcache, ?_⟩
  · rw [List.append_nil]
    exact hostCalls_isAdmitted hadm
  · show { m₃.counters with cacheHits := m₃.counters.cacheHits + 1 } = _
    rw [hcounters]
  · show m₃.cache.lookup? _ = _
    rw [hcache]
    exact hl

/-- A search below `/opt` on ext4, from a cache that has its key, after a handle was made. -/
theorem search_replays_on_linux :
    let s : Setup := { session := ⟨"host", '/', none⟩, platform := .unix (.ofKind .linux) }
    let q : Query := { root := "/opt", fsType := some "ext4" }
    let key := (Unix.compile (.ofKind .linux) q).cacheKey
    let m : Memory := { cache := ⟨[(key, ["/opt/a", "/opt/b"])]⟩, mounts := some [⟨"/", "ext4"⟩] }
    let m₁ : Memory := { m with records := #[none] }
    ∃ u r m₂, (search s [.root "/opt", .fsType "ext4"]).Goes m₁ u r m₂ ∧
      (∃ hs, r = .ok hs ∧ hs.map Handle.path = ["/opt/a", "/opt/b"]) ∧ hostCalls u = [] ∧
      m₂.counters.cacheHits = 1 ∧ m₂.cache = m.cache := by
  intro s q key m m₁
  have hq : Query.ofConditions [.root "/opt", .fsType "ext4"] = .ok q := rfl
  have hc : s.platform.compile q = .ok (Unix.compile (.ofKind .linux) q) := rfl
  have hl : m.cache.lookup? key = some ["/opt/a", "/opt/b"] := by simp [m, Cache.lookup?]
  have hadmits : s.platform.admits [⟨"/", "ext4"⟩] (q.normalizedRoot '/') "ext4" = true := by
    decide +kernel
  have hrun : Run s m [.handle "/opt/c" .readOnly] [] m₁ := by
    have hg : (Handle.make s "/opt/c" .readOnly none).Goes m [] (.ok _) m₁ :=
      goes_get_bind_iff.mpr (goes_modify_bind_iff.mpr (goes_pure_iff.mpr ⟨rfl, rfl, rfl⟩))
    exact Run.nil.snoc hg
  have hadm : (isAdmitted s q (q.normalizedRoot '/')).Goes m₁ [] (.ok true) m₁ := by
    rw [← hadmits]
    exact goes_isAdmitted_of_known rfl rfl
  obtain ⟨v, r, m₂, hf⟩ :
      ∃ v r m₂, (fromCache s ["/opt/a", "/opt/b"]).Goes m₁ v r m₂ := ⟨[], _, _, .done _⟩
  have hg : (search s [.root "/opt", .fsType "ext4"]).Goes m₁ ([] ++ v) r m₂ :=
    (Course.remembered hq hadm hc (hrun.lookup?_of_lookup? hl) hf).goes
  have hm₂ : m₂.mounts = some [⟨"/", "ext4"⟩] := by
    obtain ⟨-, -, rfl⟩ := goes_fromCache hf
    rfl
  have ha : Admits s m₂ q := by
    intro fsType hfs
    cases hfs
    exact ⟨_, hm₂, hadmits⟩
  obtain ⟨hpaths, hcalls, hcounters, hcache, -⟩ :=
    (search_replays hl hrun hq hc rfl).2 _ r m₂ hg ha
  exact ⟨_, r, m₂, hg, hpaths, hcalls, by rw [hcounters], hcache⟩

end RemoteSearch.Searcher
