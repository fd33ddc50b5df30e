import RemoteSearch.Proofs.Searcher.Empty

/-!
# Searches that a platform cannot express

Conditions that make a query need not have a command: a helper cannot follow links, and cannot look
for them. Such a search is refused. What it asks for is looked at in a fixed order, though, and the
type of filesystem comes first: a search that no mount can satisfy is empty before anybody tries to
write its command.

* `isUnsupported_of_compile`: a query has a command, or one of its conditions is refused.
* `isAdmitted_of_known`: an admission that needs no listing asks nothing and remembers nothing.
* `goes_of_refused`: a refused search is its admission, and goes on with nothing.
* `EndsRefused`: what it gives, asks and leaves, in all cases.
-/

namespace RemoteSearch.Searcher

open RemoteSearch.Action Execution

variable {s : Setup} {m m' : Memory} {t : Exchanges} {cs : List Condition} {q : Query}
  {root : String} {e : Error}

theorem isUnsupported_of_compile {p : Platform} (hc : p.compile q = .error e) :
    e.isUnsupported = true := by
  cases p with
  | unix d => cases hc
  | windows =>
    have hw : Windows.compile q = .error e := hc
    unfold Windows.compile at hw
    split at hw
    · cases hw
      rfl
    · split at hw
      · cases hw
        rfl
      · cases hw

/-! ## Admissions without a listing -/

/-- An admission needs no listing if no type is asked for, or the mounts are known. -/
def NeedsNoListing (m : Memory) (q : Query) : Prop := q.fsType = none ∨ m.mounts.isSome

theorem isAdmitted_of_known {r : Except Error Bool} (hn : NeedsNoListing m q)
    (h : (isAdmitted s q root).Goes m t r m') : t = [] ∧ m' = m := by
  rcases goes_isAdmitted h with ⟨-, rfl, -, rfl⟩ | ⟨fsType, x, hq, h1, -⟩
  · exact ⟨rfl, rfl⟩
  · rcases goes_mounts h1 with ⟨l, -, rfl, -, rfl⟩ | ⟨hm, reply, -, -, -⟩
    · exact ⟨rfl, rfl⟩
    · -- without a table the listing is needed after all
      rcases hn with hn | hn
      · rw [hq] at hn
        cases hn
      · rw [hm] at hn
        cases hn

/-! ## Refused searches -/

/-- A refused search ends with its admission: what follows asks for a command, and there is none. -/
theorem goes_of_refused {r : Except Error (List Handle)} (hq : Query.ofConditions cs = .ok q)
    (hc : s.platform.compile q = .error e) (h : (search s cs).Goes m t r m') :
    ∃ x, (isAdmitted s q (q.normalizedRoot s.platform.delimiter)).Goes m t x m' ∧
      r = x.bind fun admitted => if admitted then .error e else .ok [] := by
  unfold search at h
  rw [hq] at h
  rcases goes_ofResult_bind_iff.mp h with ⟨q', hq', h1⟩ | ⟨e', he, -, -, -⟩
  · cases hq'
    rcases goes_bind_iff.mp h1 with ⟨admitted, m₁, u, v, rfl, ha, h2⟩ | ⟨e', rfl, ha⟩
    · cases admitted with
      | false =>
        rw [if_neg Bool.false_ne_true] at h2
        obtain ⟨rfl, rfl, rfl⟩ := goes_pure_iff.mp h2
        rw [List.append_nil]
        exact ⟨.ok false, ha, rfl⟩
      | true =>
        rw [if_pos rfl, hc] at h2
        rcases goes_ofResult_bind_iff.mp h2 with ⟨c, hc', -⟩ | ⟨e', he, rfl, rfl, rfl⟩
        · cases hc'
        · cases he
          rw [List.append_nil]
          exact ⟨.ok true, ha, rfl⟩
    · exact ⟨.error e', ha, rfl⟩
  · cases he

/-- How a search ends that the platform refuses with an error. -/
structure EndsRefused (s : Setup) (q : Query) (e : Error) (m : Memory) (t : Exchanges)
    (r : Except Error (List Handle)) (m' : Memory) : Prop where
  /-- The mounts are listed at most, and nothing else is asked. -/
  exchange : MayList s m q t
  calls : hostCalls t = [] ∨ hostCalls t = [.execute s.platform.mountCommand (s.budgets .short)]
  /-- All that is remembered is the mount table. -/
  memory : m' = { m with mounts := m'.mounts }
  cache : m'.cache = m.cache
  counters : m'.counters = m.counters
  /-- Nothing is asked or remembered if no type is asked for, or the mounts are known before. -/
  free : NeedsNoListing m q → t = [] ∧ m' = m
  refused : Admits s m' q → r = .error e
  /-- The type is looked at first. -/
  denied : IsDenied s m' q → r = .ok []
  /-- If the mounts are not known even then, any other error is that of their listing. -/
  unlisted : q.fsType.isSome → m'.mounts = none → r = .error e ∨
    ∃ reply error, t = listingExchange s reply ∧ tableOf s reply = .error error ∧ r = .error error

theorem endsRefused_of_isAdmitted {x : Except Error Bool}
    (h : (isAdmitted s q (q.normalizedRoot s.platform.delimiter)).Goes m t x m') :
    EndsRefused s q e m t (x.bind fun admitted => if admitted then .error e else .ok []) m' := by
  obtain ⟨hm, hlist⟩ := goes_isAdmitted_exchange h
  refine ⟨hlist, ?_, hm, keeps_isAdmitted stable_cache h, keeps_isAdmitted stable_counters h,
    fun hn => isAdmitted_of_known hn h, ?_, ?_, ?_⟩
  · rw [hostCalls_isAdmitted h]
    split
    · exact Or.inr rfl
    · exact Or.inl rfl
  · intro ha
    rw [(admits_iff_of_goes h).mp ha]
    rfl
  · intro hd
    rw [(isDenied_iff_of_goes h).mp hd]
    rfl
  · intro _ hnone
    cases x with
    | ok admitted =>
      cases admitted with
      | true => exact Or.inl rfl
      | false =>
        -- a denial is read off a table that is known
        obtain ⟨_, l, -, hl, -⟩ := (isDenied_iff_of_goes h).mpr rfl
        rw [hnone] at hl
        cases hl
    | error error =>
      obtain ⟨-, reply, ht, htable⟩ := goes_isAdmitted_error h
      exact Or.inr ⟨reply, error, ht, htable, rfl⟩

/--
**A refused search is free but for a listing of the mounts.** Whatever has been done with a searcher
and whoever answers, a search that the platform cannot express comes to an end. It asks for a
listing of the mounts at most, and that only if it names a type of filesystem and the mounts are not
known; but for the mount table, all that is remembered stays as it is. It is the refusal if it names
no type, or if the mounts that are known after it have something of the type. If they have nothing
of the type it is an empty result, since the type is looked at first. If they are not known even
then, it is the refusal or the error of their listing.
-/
theorem refused_search_is_free (hq : Query.ofConditions cs = .ok q)
    (hc : s.platform.compile q = .error e) :
    e.isUnsupported = true ∧
      (∀ (b : Behaviour) (past : Exchanges) (m : Memory),
        ∃ t r m', (search s cs).Goes m t r m' ∧ Follows b past t) ∧
      ∀ m t r m', (search s cs).Goes m t r m' → EndsRefused s q e m t r m' := by
  refine ⟨isUnsupported_of_compile hc, fun b past m => exists_goes b past _ m, ?_⟩
  intro m t r m' h
  obtain ⟨x, ha, rfl⟩ := goes_of_refused hq hc h
  exact endsRefused_of_isAdmitted ha

/-- A searcher for a Windows host. -/
def windowsSetup : Setup := { session := ⟨"host", '\\', none⟩, platform := .windows }

/-- A searcher that has been given its only mount, a fixed disk. -/
def fixedDisk : Memory := .initial (some [⟨"C:\\", "fixed"⟩]) 0

/-- A host that does not answer, and a machine at home without files. -/
def silence : Behaviour := fun _ request =>
  match request with
  | .host _ => .error (.io "no answer")
  | .home .clock => (0 : Int)
  | .home (.note ..) => ()
  | .home (.watch ..) => ()
  | .home (.unwatch _) => ()
  | .home (.readHere _) => .error "no file"
  | .home (.makeCopy _) => .error (.io "no file")
  | .home .dropCopy => ()

/-- Links cannot be followed there, and it costs nothing to say so. -/
theorem followed_links_are_refused :
    (search windowsSetup [.root "C:\\", .fsType "fixed", .followLinks true]).Goes fixedDisk []
      (.error (Windows.unsupported "following links")) fixedDisk := by
  let q : Query := { root := "C:\\", fsType := some "fixed", followLinks := true }
  have hq : Query.ofConditions [.root "C:\\", .fsType "fixed", .followLinks true] = .ok q := rfl
  have hc : windowsSetup.platform.compile q = .error (Windows.unsupported "following links") := rfl
  obtain ⟨-, hends, hall⟩ := refused_search_is_free hq hc
  obtain ⟨t, r, m', h, -⟩ := hends silence [] fixedDisk
  have hend := hall _ _ _ _ h
  obtain ⟨rfl, rfl⟩ := hend.free (Or.inr rfl)
  have hdisk : windowsSetup.platform.admits [⟨"C:\\", "fixed"⟩] (q.normalizedRoot '\\') "fixed" =
      true := by
    decide +kernel
  have hr : r = .error (Windows.unsupported "following links") := by
    refine hend.refused fun fsType hf => ?_
    cases hf
    exact ⟨_, rfl, hdisk⟩
  rw [← hr]
  exact h

/-- But a search on remote disks, of which there are none, is empty before it can be refused; and
while the mounts are not known, they are listed before any refusal. -/
theorem mounts_come_before_refusal :
    (∃ cs q e, Query.ofConditions cs = .ok q ∧ windowsSetup.platform.compile q = .error e ∧
      e.isUnsupported = true ∧ Run windowsSetup fixedDisk [] [] fixedDisk ∧
      (search windowsSetup cs).Goes fixedDisk [] (.ok []) fixedDisk) ∧
    ∃ cs q e t, Query.ofConditions cs = .ok q ∧ windowsSetup.platform.compile q = .error e ∧
      e.isUnsupported = true ∧ Run windowsSetup (.initial none 0) [] [] (.initial none 0) ∧
      (search windowsSetup cs).Goes (.initial none 0) t (.error e) fixedDisk ∧
      hostCalls t ≠ [] := by
  constructor
  · let q : Query := { root := "C:\\", fsType := some "remote", followLinks := true }
    have hq : Query.ofConditions [.root "C:\\", .fsType "remote", .followLinks true] = .ok q := rfl
    have hdisk : windowsSetup.platform.admits [⟨"C:\\", "fixed"⟩] (q.normalizedRoot '\\') "remote" =
        false := by
      decide +kernel
    refine ⟨_, q, _, hq, rfl, rfl, .nil, Course.goes (.notAdmitted hq ?_)⟩
    rw [← hdisk]
    exact goes_isAdmitted_of_known rfl rfl
  · let q : Query := { root := "C:\\", fsType := some "fixed", followLinks := true }
    have hq : Query.ofConditions [.root "C:\\", .fsType "fixed", .followLinks true] = .ok q := rfl
    have hdisk : windowsSetup.platform.admits [⟨"C:\\", "fixed"⟩] (q.normalizedRoot '\\') "fixed" =
        true := by
      decide +kernel
    have htable : tableOf windowsSetup (.ok { stdout := "C:\\ 3" }) = .ok [⟨"C:\\", "fixed"⟩] :=
      congrArg Except.ok (by decide +kernel)
    have hlist := goes_mounts_of_unknown (s := windowsSetup) (m := .initial none 0) rfl
      (.ok { stdout := "C:\\ 3" })
    rw [htable] at hlist
    have hadmitted : (isAdmitted windowsSetup q (q.normalizedRoot '\\')).Goes (.initial none 0)
        (listingExchange windowsSetup (.ok { stdout := "C:\\ 3" })) (.ok true) fixedDisk := by
      unfold isAdmitted
      simp only [← map_eq_pure_bind, q]
      exact goes_map_iff.mpr ⟨_, congrArg Except.ok hdisk.symm, hlist⟩
    refine ⟨_, q, _, _, hq, rfl, rfl, .nil, Course.goes (.notCompiled hq hadmitted rfl), ?_⟩
    rw [listingExchange, hostCalls_exchange]
    exact List.cons_ne_nil _ _

end RemoteSearch.Searcher
