import RemoteSearch.Proofs.Searcher.Preparation

/-!
# Searches that are known to find nothing

A search need not be run if no filesystem of the type that it asks for is below its root, or if its
root is not a directory. Then it is an empty result, for the price of finding that out.

* `isDenied_iff_of_goes`: what an admission that is denied says about the mounts.
* `rootAnswer_notMem_runSearch`: a search that runs does not look at its root again, so an answer
  about the root is the one that decided whether to run it.
* `empty_search_is_free`: what such a search gives, asks and leaves.
-/

namespace RemoteSearch.Searcher

open RemoteSearch.Action Execution Transfer

variable {s : Setup} {m m' : Memory} {t : Exchanges} {cs : List Condition} {q : Query}
  {c : Compiled}

/-- The mounts are known, and they have nothing of the type that a query asks for. -/
def IsDenied (s : Setup) (m : Memory) (q : Query) : Prop :=
  ∃ fsType l, q.fsType = some fsType ∧ m.mounts = some l ∧
    s.platform.admits l (q.normalizedRoot s.platform.delimiter) fsType = false

/-- **An admission is denied exactly if the table that is known after it denies the query.** -/
theorem isDenied_iff_of_goes {r : Except Error Bool}
    (h : (isAdmitted s q (q.normalizedRoot s.platform.delimiter)).Goes m t r m') :
    IsDenied s m' q ↔ r = .ok false := by
  rcases goes_isAdmitted h with ⟨hq, -, rfl, -⟩ | ⟨fsType, x, hq, h1, rfl⟩
  · simp [IsDenied, hq]
  · have hx := mounts_of_goes h1
    cases x with
    | error e => simp [IsDenied, hq, hx, Except.toOption, Except.map]
    | ok l => simp [IsDenied, hq, hx, Except.toOption, Except.map]

/-! ## Looks at the root -/

/-- The answer of the host to the question whether the root of a query is a directory. -/
def rootAnswer (s : Setup) (q : Query) (x : Except Error Bool) : Dialogue.Exchange Request.Reply :=
  ⟨.host (.isDirectory (q.normalizedRoot s.platform.delimiter) .readOnly), x⟩

theorem rootAnswer_notMem_prepare {x : Except Error Bool} {r : Except Error Unit}
    (h : (prepare s).Goes m t r m') : rootAnswer s q x ∉ t := by
  intro hx
  rcases goes_prepare h with ⟨rfl, -, -, -⟩ | ⟨name, source, -, -, rfl, -⟩
  · cases hx
  · cases List.mem_singleton.mp hx

theorem rootAnswer_notMem_bring {r : Route} {n : Nat} {trail : Trail} {command : String}
    {x : Except Error Bool} {brought : Except Error (Except Error (List UInt8))}
    (h : (bring r command).Goes (.fresh n) t brought trail) : rootAnswer s q x ∉ t := by
  intro hx
  rcases fails_of_bring h with ⟨e, -, -, hall⟩ | ⟨directory, raw, ran, packed, -, -, hall⟩
  · rcases hall _ hx with hm | he
    · exact hm
    · cases he
  · rcases hall _ hx with hm | he | he | he
    · exact hm
    · cases he
    · cases he
    · cases he

theorem rootAnswer_notMem_gather {command : String} {x : Except Error Bool}
    {r : Except Error Findings} (h : (gather s command).Goes m t r m') : rootAnswer s q x ∉ t := by
  obtain ⟨u, trail, brought, hb, -, ⟨e, -, rfl, -⟩ | ⟨content, now, -, rfl, -⟩⟩ := goes_gather h
  · exact rootAnswer_notMem_bring hb
  · intro hx
    rcases List.mem_append.mp hx with hx | hx
    · exact rootAnswer_notMem_bring hb hx
    · cases content with
      | error e => cases hx
      | ok file => cases List.mem_singleton.mp hx

/-- A search that runs asks no more about its root. -/
theorem rootAnswer_notMem_runSearch {x : Except Error Bool} {r : Except Error (List Handle)}
    (h : (runSearch s c).Goes m t r m') : rootAnswer s q x ∉ t := by
  rcases goes_runSearch h with ⟨e, hp, -⟩ | ⟨m₁, u, v, rfl, hp, hg⟩
  · exact rootAnswer_notMem_prepare hp
  · have hv : rootAnswer s q x ∉ v := by
      rcases hg with ⟨e, hg, -⟩ | ⟨f, m₂, hs, hg, -⟩
      · exact rootAnswer_notMem_gather hg
      · exact rootAnswer_notMem_gather hg
    intro hx
    rcases List.mem_append.mp hx with hx | hx
    · exact rootAnswer_notMem_prepare hp hx
    · exact hv hx

/-- Nor does it touch the mount table. -/
theorem mounts_of_runSearch {r : Except Error (List Handle)} (h : (runSearch s c).Goes m t r m') :
    m'.mounts = m.mounts := by
  have hprepare : ∀ {m₁ : Memory} {u : Exchanges} {r : Except Error Unit},
      (prepare s).Goes m u r m₁ → m₁.mounts = m.mounts := by
    intro m₁ u r hp
    rcases goes_prepare hp with ⟨-, -, rfl, -⟩ | ⟨name, source, -, -, -, rfl⟩
    · rfl
    · rfl
  rcases goes_runSearch h with ⟨e, hp, -⟩ | ⟨m₁, u, v, rfl, hp, hg⟩
  · exact hprepare hp
  · rcases hg with ⟨e, hg, -⟩ | ⟨f, m₂, hs, hg, -, -, rfl⟩
    · obtain ⟨-, -, -, -, rfl, -⟩ := goes_gather hg
      exact (hprepare hp : m₁.mounts = m.mounts)
    · obtain ⟨-, -, -, -, rfl, -⟩ := goes_gather hg
      exact (hprepare hp : m₁.mounts = m.mounts)

/-! ## Empty results -/

/--
A search with a query ends without a result. Before its last requests it has listed the mounts at
most, and all that it remembers is their table.
-/
structure EndsEmpty (s : Setup) (q : Query) (m : Memory) (last t : Exchanges)
    (r : Except Error (List Handle)) (m' : Memory) : Prop where
  result : r = .ok []
  exchange : ∃ u, MayList s m q u ∧ t = u ++ last
  calls : hostCalls t =
    (if q.fsType.isSome && m.mounts.isNone then
      [.execute s.platform.mountCommand (s.budgets .short)]
    else []) ++ hostCalls last
  cache : m'.cache = m.cache
  counters : m'.counters = m.counters
  memory : m' = { m with mounts := m'.mounts }

theorem endsEmpty_of_isAdmitted {root : String} {r : Except Error Bool} (last : Exchanges)
    (h : (isAdmitted s q root).Goes m t r m') :
    EndsEmpty s q m last (t ++ last) (.ok []) m' := by
  obtain ⟨hm, hlist⟩ := goes_isAdmitted_exchange h
  refine ⟨rfl, ⟨t, hlist, rfl⟩, ?_, ?_, ?_, hm⟩
  · rw [hostCalls_append, hostCalls_isAdmitted h]
  · rw [hm]
  · rw [hm]

/--
**A search that is known to find nothing costs nothing but finding that out.** Whatever has been
done with a searcher and whoever answers, a search comes to an end. If the mounts that are known
then have nothing of the type that it asks for, it is an empty result, also if the cache has another
one for it: it has listed the mounts at most. The same holds if its result is not remembered and the
host says that its root is not a directory; then that is the only other thing it has asked. In both
cases cache, counters and all else that is remembered stay as they are, but for the mount table.
-/
theorem empty_search_is_free (hq : Query.ofConditions cs = .ok q)
    (hc : s.platform.compile q = .ok c) :
    (∀ (b : Behaviour) (past : Exchanges) (m : Memory),
      ∃ t r m', (search s cs).Goes m t r m' ∧ Follows b past t) ∧
    ∀ m t r m', (search s cs).Goes m t r m' →
      (IsDenied s m' q → EndsEmpty s q m [] t r m') ∧
        (m.cache.lookup? c.cacheKey = none → rootAnswer s q (.ok false) ∈ t →
          EndsEmpty s q m [rootAnswer s q (.ok false)] t r m') := by
  refine ⟨fun b past m => exists_goes b past _ m, fun m t r m' h => ?_⟩
  cases course_of_goes h with
  | noQuery hq' =>
    rw [hq] at hq'
    cases hq'
  | unlisted hq' ha =>
    cases hq.symm.trans hq'
    refine ⟨fun hd => ?_, fun _ hx => absurd hx (notMem_of_isAdmitted ha)⟩
    cases (isDenied_iff_of_goes ha).mp hd
  | notAdmitted hq' ha =>
    cases hq.symm.trans hq'
    refine ⟨fun _ => ?_, fun _ hx => absurd hx (notMem_of_isAdmitted ha)⟩
    have hend := endsEmpty_of_isAdmitted [] ha
    rwa [List.append_nil] at hend
  | notCompiled hq' ha hc' =>
    cases hq.symm.trans hq'
    rw [hc] at hc'
    cases hc'
  | @remembered q' c' paths u v _ m₁ _ hq' ha hc' hl hf =>
    cases hq.symm.trans hq'
    cases hc.symm.trans hc'
    -- the mounts that are known at the end are those that have admitted the query
    obtain ⟨-, -, rfl⟩ := goes_fromCache hf
    refine ⟨fun hd => ?_, fun hn _ => ?_⟩
    · have hd₁ : IsDenied s m₁ q := hd
      cases (isDenied_iff_of_goes ha).mp hd₁
    · rw [keeps_isAdmitted stable_cache ha, hn] at hl
      cases hl
  | rootUnknown hq' ha hc' hl =>
    cases hq.symm.trans hq'
    refine ⟨fun hd => ?_, fun _ hx => ?_⟩
    · cases (isDenied_iff_of_goes ha).mp hd
    · rcases List.mem_append.mp hx with hx | hx
      · exact absurd hx (notMem_of_isAdmitted ha)
      · cases List.mem_singleton.mp hx
  | noDirectory hq' ha hc' hl =>
    cases hq.symm.trans hq'
    refine ⟨fun hd => ?_, fun _ _ => endsEmpty_of_isAdmitted _ ha⟩
    cases (isDenied_iff_of_goes ha).mp hd
  | @run q' c' u v _ m₁ _ hq' ha hc' hl hr =>
    cases hq.symm.trans hq'
    refine ⟨fun hd => ?_, fun _ hx => ?_⟩
    · have hmounts : m'.mounts = m₁.mounts := mounts_of_runSearch hr
      have hd₁ : IsDenied s m₁ q := by
        obtain ⟨fsType, l, hf, hm, hno⟩ := hd
        exact ⟨fsType, l, hf, hmounts ▸ hm, hno⟩
      cases (isDenied_iff_of_goes ha).mp hd₁
    · rcases List.mem_append.mp hx with hx | hx
      · exact absurd hx (notMem_of_isAdmitted ha)
      · rcases List.mem_cons.mp hx with hx | hx
        · cases hx
        · exact absurd hx (rootAnswer_notMem_runSearch hr)

/-- Below `/opt` there is nothing on nfs, whatever the cache says, and `/gone` is no directory. -/
theorem absent_type_and_missing_root_are_free :
    let s : Setup := { session := ⟨"host", '/', none⟩, platform := .unix (.ofKind .linux) }
    let key := (Unix.compile (.ofKind .linux) { root := "/opt", fsType := some "nfs" }).cacheKey
    let m : Memory := { cache := ⟨[(key, ["/opt/a"])]⟩ }
    (∃ t r m', (search s [.root "/opt", .fsType "nfs"]).Goes m t r m' ∧ r = .ok [] ∧
      hostCalls t = [.execute s.platform.mountCommand (s.budgets .short)] ∧
      m'.cache.lookup? key = some ["/opt/a"] ∧ m'.counters = {} ∧
      m'.mounts = some [⟨"/", "ext4"⟩]) ∧
    ∃ t r, (search s [.root "/gone"]).Goes m t r m ∧ r = .ok [] ∧
      hostCalls t = [.isDirectory "/gone" .readOnly] := by
  intro s key m
  constructor
  · let q : Query := { root := "/opt", fsType := some "nfs" }
    have hq : Query.ofConditions [.root "/opt", .fsType "nfs"] = .ok q := rfl
    have hc : s.platform.compile q = .ok (Unix.compile (.ofKind .linux) q) := rfl
    let reply : Except Error Outcome := .ok { stdout := "/dev/sda1 / ext4 rw 0 0\n" }
    have htable : tableOf s reply = .ok [⟨"/", "ext4"⟩] := congrArg Except.ok (by decide +kernel)
    have hno : s.platform.admits [⟨"/", "ext4"⟩] (q.normalizedRoot '/') "nfs" = false := by
      decide +kernel
    have hlist := goes_mounts_of_unknown (s := s) (m := m) rfl reply
    rw [htable] at hlist
    have ha : (isAdmitted s q (q.normalizedRoot '/')).Goes m (listingExchange s reply) (.ok false)
        { m with mounts := some [⟨"/", "ext4"⟩] } := by
      unfold isAdmitted
      simp only [← map_eq_pure_bind, q]
      exact goes_map_iff.mpr ⟨_, congrArg Except.ok hno.symm, hlist⟩
    have hg : (search s [.root "/opt", .fsType "nfs"]).Goes m (listingExchange s reply) (.ok [])
        { m with mounts := some [⟨"/", "ext4"⟩] } := Course.goes (.notAdmitted hq ha)
    have hend := ((empty_search_is_free hq hc).2 _ _ _ _ hg).1 ⟨_, _, rfl, rfl, hno⟩
    refine ⟨_, _, _, hg, hend.result, hend.calls, ?_, hend.counters, rfl⟩
    rw [hend.cache]
    simp [m, Cache.lookup?]
  · let q : Query := { root := "/gone" }
    have hq : Query.ofConditions [.root "/gone"] = .ok q := rfl
    have hc : s.platform.compile q = .ok (Unix.compile (.ofKind .linux) q) := rfl
    have hroot : q.normalizedRoot '/' = "/gone" := by decide +kernel
    have hl : m.cache.lookup? (Unix.compile (.ofKind .linux) q).cacheKey = none := by
      decide +kernel
    have ha : (isAdmitted s q (q.normalizedRoot '/')).Goes m [] (.ok true) m :=
      goes_pure_iff.mpr ⟨rfl, rfl, rfl⟩
    have hg : (search s [.root "/gone"]).Goes m [rootAnswer s q (.ok false)] (.ok []) m :=
      Course.goes (.noDirectory hq ha hc hl)
    have hend := ((empty_search_is_free hq hc).2 _ _ _ _ hg).2 hl (List.mem_singleton_self _)
    refine ⟨_, _, hg, hend.result, ?_⟩
    rw [hend.calls, ← hroot]
    rfl

end RemoteSearch.Searcher
