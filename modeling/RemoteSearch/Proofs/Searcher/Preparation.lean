import RemoteSearch.Proofs.Searcher.Order

/-!
# Preparation of a searcher

Any operation first surveys the host, then is prepared if it needs the helper module, and then does
its work. A preparation that fails is the end of it, and the next operation tries again.

* `phased_perform`: every operation goes in these phases.
* `Phased.load_iff`, `Phased.refusal`: when the helper module is loaded, and what a refusal does.
* `Run.orderly`: a run is orderly, and the memory after it knows what has happened.
* `prepared_once`: the helper module and the mount table over whole runs.
-/

namespace RemoteSearch.Searcher

open RemoteSearch.Action Execution Transfer

variable {s : Setup} {given : Option (List Mount)} {m m' m₁ m₂ : Memory} {t u v w : Exchanges}
  {x : Dialogue.Exchange Request.Reply} {l : List Mount} {e : Error} {op : Operation}

/-! ## Phases of an operation -/

/-- What happens before an operation is prepared: the mounts are listed, or the host is asked
something else that no module is needed for. -/
structure Survey (s : Setup) (m : Memory) (t : Exchanges) (m' : Memory) : Prop where
  advances : ∀ given, Advances s given m t m'
  noLoad : ∀ x ∈ t, ¬IsLoad x.1
  noErrand : ∀ x ∈ t, ¬IsErrand s x.1
  helper : m'.helperLoaded = m.helperLoaded

theorem Survey.append (h : Survey s m t m₁) (h' : Survey s m₁ u m₂) : Survey s m (t ++ u) m₂ where
  advances given := (h.advances given).append (h'.advances given)
  noLoad := List.forall_mem_append.mpr ⟨h.noLoad, h'.noLoad⟩
  noErrand := List.forall_mem_append.mpr ⟨h.noErrand, h'.noErrand⟩
  helper := h'.helper.trans h.helper

theorem Survey.load_append (h : Survey s m t m₁) :
    (∃ x ∈ t ++ u, IsLoad x.1) ↔ ∃ x ∈ u, IsLoad x.1 := by
  constructor
  · rintro ⟨x, hx, hl⟩
    rcases List.mem_append.mp hx with hx | hx
    · exact absurd hl (h.noLoad x hx)
    · exact ⟨x, hx, hl⟩
  · rintro ⟨x, hx, hl⟩
    exact ⟨x, List.mem_append_right t hx, hl⟩

theorem IsWork.load_append (h : IsWork s u) :
    (∃ x ∈ t ++ u, IsLoad x.1) ↔ ∃ x ∈ t, IsLoad x.1 := by
  constructor
  · rintro ⟨x, hx, hl⟩
    rcases List.mem_append.mp hx with hx | hx
    · exact ⟨x, hx, hl⟩
    · exact absurd hl (h x hx).1
  · rintro ⟨x, hx, hl⟩
    exact ⟨x, List.mem_append_left u hx, hl⟩

/-- A call that is neither a load nor a command. -/
def IsLook : HostCall → Prop
  | .loadModule .. => False
  | .execute .. => False
  | _ => True

theorem survey_nil (hl : m'.helperLoaded = m.helperLoaded) (hm : m'.mounts = m.mounts) :
    Survey s m [] m' where
  advances given := by
    have hw : IsWork s [] := by
      intro x hx
      cases hx
    refine hw.advances ?_ hl hm
    rintro ⟨x, hx, -⟩
    cases hx
  noLoad x hx := by cases hx
  noErrand x hx := by cases hx
  helper := hl

theorem survey_look (c : HostCall) (answer : Except Error c.Value) (hc : IsLook c) :
    Survey s m [⟨.host c, answer⟩] m := by
  have hnone : ¬IsLoad (.host c) ∧ ¬IsListing s (.host c) ∧ ¬IsErrand s (.host c) := by
    cases c with
    | loadModule name source => exact absurd hc id
    | execute command budget => exact absurd hc id
    | _ => exact ⟨id, id, id⟩
  have hall : ∀ p : Request → Prop, ¬p (.host c) →
      ∀ x ∈ ([⟨.host c, answer⟩] : Exchanges), ¬p x.1 := by
    intro p hp x hx
    rw [List.mem_singleton.mp hx]
    exact hp
  refine ⟨fun given => ?_, hall _ hnone.1, hall _ hnone.2.2, rfl⟩
  have hw : IsWork s [⟨.host c, answer⟩] := fun x hx =>
    ⟨hall _ hnone.1 x hx, hall _ hnone.2.1 x hx⟩
  refine hw.advances ?_ rfl rfl
  rintro ⟨x, hx, he⟩
  exact absurd he (hall _ hnone.2.2 x hx)

theorem survey_mounts {r : Except Error (List Mount)} (h : (mounts s).Goes m t r m') :
    Survey s m t m' := by
  rcases goes_mounts h with ⟨l, -, rfl, -, rfl⟩ | ⟨hm, reply, rfl, rfl, rfl⟩
  · exact survey_nil rfl rfl
  · refine ⟨fun given => advances_listing hm reply, fun x hx => ?_, fun x hx => ?_, rfl⟩
    · rcases mem_exchange hx with hx | rfl
      · exact (hx.plain s).1.1
      · exact id
    · rcases mem_exchange hx with hx | rfl
      · exact (hx.plain s).2
      · exact fun he => he rfl

theorem survey_isAdmitted {q : Query} {root : String} {r : Except Error Bool}
    (h : (isAdmitted s q root).Goes m t r m') : Survey s m t m' := by
  rcases goes_isAdmitted h with ⟨-, rfl, -, rfl⟩ | ⟨fsType, x, -, h1, -⟩
  · exact survey_nil rfl rfl
  · exact survey_mounts h1

/-- How an operation goes: after a survey it has no need of the helper module, or is prepared, and
fails with that or goes on to its work. -/
inductive Phased (s : Setup) (m : Memory) (needed : Prop) {α : Type} :
    Exchanges → Except Error α → Memory → Prop where
  | unneeded {v : Exchanges} {r : Except Error α} {m' : Memory} (hn : ¬needed)
    (hv : Survey s m v m') : Phased s m needed v r m'
  | refused {v p : Exchanges} {e : Error} {m₁ m' : Memory} (hn : needed) (hv : Survey s m v m₁)
    (hp : (prepare s).Goes m₁ p (.error e) m') : Phased s m needed (v ++ p) (.error e) m'
  | prepared {v p w : Exchanges} {r : Except Error α} {m₁ m₂ m' : Memory} (hn : needed)
    (hv : Survey s m v m₁) (hp : (prepare s).Goes m₁ p (.ok ()) m₂) (hw : IsWork s w)
    (hl : m'.helperLoaded = m₂.helperLoaded) (hm : m'.mounts = m₂.mounts) :
    Phased s m needed (v ++ (p ++ w)) r m'

theorem isWork_gather {q : Query} {c : Compiled} {r : Except Error Findings}
    (hc : s.platform.compile q = .ok c) (h : (gather s c.command).Goes m t r m') :
    IsWork s t ∧ m'.helperLoaded = m.helperLoaded ∧ m'.mounts = m.mounts := by
  obtain ⟨u, trail, brought, hb, rfl, hway⟩ := goes_gather h
  have hu : IsWork s u := by
    rcases fails_of_bring hb with ⟨e, -, -, hall⟩ | ⟨directory, raw, ran, packed, -, -, hall⟩
    · intro x hx
      rcases hall x hx with hm | rfl
      · exact (hm.plain s).1
      · exact ⟨id, id⟩
    · intro x hx
      rcases hall x hx with hm | rfl | rfl | rfl
      · exact (hm.plain s).1
      · exact ⟨id, id⟩
      · exact ⟨id, search_ne_mountCommand hc raw⟩
      · exact ⟨id, compress_ne_mountCommand s.platform raw⟩
  refine ⟨?_, rfl, rfl⟩
  rcases hway with ⟨e, -, rfl, -⟩ | ⟨content, now, -, rfl, -⟩
  · exact hu
  · refine hu.append ?_
    cases content with
    | error e => exact fun x hx => by cases hx
    | ok file =>
      intro x hx
      rw [List.mem_singleton.mp hx]
      exact ⟨id, id⟩

theorem phased_runSearch {q : Query} {c : Compiled} {r : Except Error (List Handle)}
    (hc : s.platform.compile q = .ok c) (hv : Survey s m v m₁)
    (h : (runSearch s c).Goes m₁ t r m') {needed : Prop} (hn : needed) :
    Phased s m needed (v ++ t) r m' := by
  rcases goes_runSearch h with ⟨e, hp, rfl⟩ | ⟨m₂, p, w, rfl, hp, hg⟩
  · exact .refused hn hv hp
  · rcases hg with ⟨e, hg, rfl⟩ | ⟨f, m₃, hs, hg, rfl, -, rfl⟩
    · obtain ⟨hw, hl, hm⟩ := isWork_gather hc hg
      exact .prepared hn hv hp hw hl hm
    · obtain ⟨hw, hl, hm⟩ := isWork_gather hc hg
      exact .prepared hn hv hp hw hl hm

/-- An operation comes to where it needs the helper module: a search whose root has turned out to
be a directory, or the look at a file whose record is not remembered. -/
def NeedsHelper (m : Memory) (t : Exchanges) : Operation → Prop
  | .search _ => ∃ path mode, ⟨.host (.isDirectory path mode), .ok true⟩ ∈ t
  | .metadata h => h.mode.remembers = false ∨ m.record? h.place = none
  | _ => False

/-- An admission asks for no directory, so only what follows it tells whether there is one. -/
theorem notMem_of_isAdmitted {q : Query} {root path : String} {mode : AccessMode}
    {answer : Except Error Bool} {r : Except Error Bool}
    (ha : (isAdmitted s q root).Goes m t r m') :
    ⟨.host (.isDirectory path mode), answer⟩ ∉ t := by
  intro hx
  rcases (goes_isAdmitted_exchange ha).2 with rfl | ⟨-, -, reply, rfl⟩
  · cases hx
  · rcases mem_exchange hx with hm | he
    · exact hm
    · cases he

section

variable {q : Query} {root : String} {cs : List Condition} {r : Except Error (List Handle)}

/-- A search that ends with its admission has not come to where it needs the helper module. -/
theorem phased_of_isAdmitted {admitted : Except Error Bool}
    (ha : (isAdmitted s q root).Goes m t admitted m') :
    Phased s m (NeedsHelper m t (.search cs)) t r m' := by
  refine .unneeded ?_ (survey_isAdmitted ha)
  rintro ⟨path, mode, hx⟩
  exact notMem_of_isAdmitted ha hx

theorem phased_of_look {path : String} {mode : AccessMode} {answer : Except Error Bool}
    (ha : (isAdmitted s q root).Goes m t (.ok true) m') (hno : answer ≠ .ok true) :
    Phased s m (NeedsHelper m (t ++ [⟨.host (.isDirectory path mode), answer⟩]) (.search cs))
      (t ++ [⟨.host (.isDirectory path mode), answer⟩]) r m' := by
  refine .unneeded ?_ ((survey_isAdmitted ha).append
    (survey_look (.isDirectory path mode) answer trivial))
  rintro ⟨path', mode', hx⟩
  rcases List.mem_append.mp hx with hx | hx
  · exact notMem_of_isAdmitted ha hx
  · cases List.mem_singleton.mp hx
    exact hno rfl

theorem phased_search (h : (search s cs).Goes m t r m') :
    Phased s m (NeedsHelper m t (.search cs)) t r m' := by
  cases course_of_goes h with
  | noQuery hq =>
    refine .unneeded ?_ (survey_nil rfl rfl)
    rintro ⟨path, mode, hx⟩
    cases hx
  | unlisted hq ha => exact phased_of_isAdmitted ha
  | notAdmitted hq ha => exact phased_of_isAdmitted ha
  | notCompiled hq ha hc => exact phased_of_isAdmitted ha
  | remembered hq ha hc hl hf =>
    obtain ⟨rfl, -, rfl⟩ := goes_fromCache hf
    refine .unneeded ?_ ((survey_isAdmitted ha).append (survey_nil rfl rfl))
    rintro ⟨path, mode, hx⟩
    rw [List.append_nil] at hx
    exact notMem_of_isAdmitted ha hx
  | rootUnknown hq ha hc hl => exact phased_of_look ha nofun
  | noDirectory hq ha hc hl => exact phased_of_look ha nofun
  | @run q c t u r m₁ m₂ hq ha hc hl hr =>
    -- the only course on which the root is a directory
    have hv := (survey_isAdmitted ha).append (survey_look
      (.isDirectory (q.normalizedRoot s.platform.delimiter) .readOnly) (.ok true) trivial)
    have hneeded : NeedsHelper m (t ++ ⟨.host (.isDirectory
        (q.normalizedRoot s.platform.delimiter) .readOnly), .ok true⟩ :: u) (.search cs) :=
      ⟨_, _, List.mem_append_right _ List.mem_cons_self⟩
    have hphased := phased_runSearch hc hv hr hneeded
    rwa [List.append_assoc, List.singleton_append] at hphased

end

theorem goes_lookUp {h : Handle} {r : Except Error Metadata} (hg : (h.lookUp s).Goes m t r m') :
    (∃ e, (prepare s).Goes m t (.error e) m' ∧ r = .error e) ∨
      ∃ p w, t = p ++ w ∧ (prepare s).Goes m p (.ok ()) m' ∧ IsWork s w := by
  unfold Handle.lookUp at hg
  rcases goes_bind_iff.mp hg with ⟨_, m₁, p, w, rfl, hp, h1⟩ | ⟨e, rfl, hp⟩
  · -- the command and the look at the clock leave the memory alone
    have hwork : ∀ reply,
        IsWork s (exchange s.budgets (s.platform.statCommand h.path) .short reply) := by
      intro reply x hx
      rcases mem_exchange hx with hm | rfl
      · exact (hm.plain s).1
      · exact ⟨id, stat_ne_mountCommand s.platform h.path⟩
    rcases goes_bind_iff.mp h1 with ⟨output, m₂, a, b, rfl, hr, h2⟩ | ⟨e, rfl, hr⟩
    · obtain ⟨reply, rfl, -, hm₂⟩ := goes_run_iff.mp hr
      have hclock : IsWork s b ∧ m' = m₂ := by
        rcases goes_bind_iff.mp h2 with ⟨now, m₃, c, d, rfl, hc, h3⟩ | ⟨e, rfl, hc⟩
        · obtain ⟨ms, n, rfl, h4⟩ := goes_home_bind_iff.mp hc
          obtain ⟨rfl, -, rfl⟩ := goes_pure_iff.mp h4
          have hend : d = [] ∧ m' = m₃ := by
            split at h3
            · obtain ⟨hd, -, hm⟩ := goes_pure_iff.mp h3
              exact ⟨hd, hm⟩
            · obtain ⟨hd, -, hm⟩ := goes_throw_iff.mp h3
              exact ⟨hd, hm⟩
            · obtain ⟨hd, -, hm⟩ := goes_throw_iff.mp h3
              exact ⟨hd, hm⟩
          obtain ⟨rfl, hm⟩ := hend
          refine ⟨fun x hx => ?_, hm⟩
          rw [List.mem_singleton.mp hx]
          exact ⟨id, id⟩
        · obtain ⟨ms, n, -, h4⟩ := goes_home_bind_iff.mp hc
          obtain ⟨-, hn, -⟩ := goes_pure_iff.mp h4
          cases hn
      rw [hclock.2, hm₂]
      exact Or.inr ⟨p, _, rfl, hp, (hwork reply).append hclock.1⟩
    · obtain ⟨reply, rfl, -, rfl⟩ := goes_run_iff.mp hr
      exact Or.inr ⟨p, _, rfl, hp, hwork reply⟩
  · exact Or.inl ⟨e, hp, rfl⟩

/-- A file that is looked up needs the helper module, whatever is done with its record. -/
theorem phased_lookUp {h : Handle} {α : Type} {r : Except Error Metadata} {r' : Except Error α}
    {needed : Prop} (hn : needed) (hg : (h.lookUp s).Goes m t r m₁)
    (he : ∀ e, r = .error e → r' = .error e ∧ m' = m₁)
    (hl : m'.helperLoaded = m₁.helperLoaded) (hm : m'.mounts = m₁.mounts) :
    Phased s m needed t r' m' := by
  rcases goes_lookUp hg with ⟨e, hp, hr⟩ | ⟨p, w, rfl, hp, hw⟩
  · obtain ⟨rfl, rfl⟩ := he e hr
    exact .refused hn (survey_nil rfl rfl) hp
  · exact .prepared hn (survey_nil rfl rfl) hp hw hl hm

theorem goes_remembered {h : Handle} {r : Except Error (Option Metadata)}
    (hg : h.remembered.Goes m t r m') : t = [] ∧ r = .ok (m.record? h.place) ∧ m' = m := by
  unfold Handle.remembered at hg
  have h1 := goes_get_bind_iff.mp hg
  exact goes_pure_iff.mp h1

theorem phased_metadata {h : Handle} {r : Except Error Metadata}
    (hg : (h.metadata s).Goes m t r m') : Phased s m (NeedsHelper m t (.metadata h)) t r m' := by
  unfold Handle.metadata at hg
  by_cases hr : h.mode.remembers = true
  · rw [if_pos hr] at hg
    rcases goes_bind_iff.mp hg with ⟨known, m₁, u, w, rfl, h1, h2⟩ | ⟨e, rfl, h1⟩
    · obtain ⟨rfl, hk, rfl⟩ := goes_remembered h1
      cases hk
      rw [List.nil_append]
      cases hk : m₁.record? h.place with
      | some record =>
        rw [hk] at h2
        obtain ⟨rfl, -, rfl⟩ := goes_pure_iff.mp h2
        refine .unneeded ?_ (survey_nil rfl rfl)
        rintro (hno | hno)
        · rw [hr] at hno
          cases hno
        · rw [hk] at hno
          cases hno
      | none =>
        rw [hk] at h2
        rcases goes_bind_iff.mp h2 with ⟨record, m₂, u, w, rfl, h3, h4⟩ | ⟨e, rfl, h3⟩
        · have h5 := goes_modify_bind_iff.mp h4
          obtain ⟨rfl, -, rfl⟩ := goes_pure_iff.mp h5
          rw [List.append_nil]
          exact phased_lookUp (Or.inr hk) h3 (fun e he => by cases he) rfl rfl
        · exact phased_lookUp (Or.inr hk) h3 (fun e' he => ⟨he, rfl⟩) rfl rfl
    · obtain ⟨-, hk, -⟩ := goes_remembered h1
      cases hk
  · rw [if_neg hr] at hg
    exact phased_lookUp (Or.inl (by simpa using hr)) hg (fun e he => ⟨he, rfl⟩) rfl rfl

/-- **Every operation goes in these phases.** -/
theorem phased_perform {r : Except Error op.Value} (h : (op.perform s).Goes m t r m') :
    Phased s m (NeedsHelper m t op) t r m' := by
  have hcall : ∀ {c : HostCall} {r : Except Error c.Value},
      (call c : Action Memory c.Value).Goes m t r m' → IsLook c → Survey s m t m' := by
    intro c r hg hc
    obtain ⟨rfl, rfl⟩ := goes_call_iff.mp hg
    exact survey_look c r hc
  cases op with
  | search cs => exact phased_search h
  | metadata hd => exact phased_metadata h
  | mounts => exact .unneeded id (survey_mounts h)
  | mountsMatching pattern wanted =>
    have hg : (mountsMatching s pattern wanted).Goes m t r m' := h
    unfold mountsMatching at hg
    rw [← map_eq_pure_bind] at hg
    obtain ⟨x, -, h1⟩ := goes_map_iff.mp hg
    exact .unneeded id (survey_mounts h1)
  | handle path mode =>
    have hg : (Handle.make s path mode none).Goes m t r m' := h
    have h1 := goes_modify_bind_iff.mp (goes_get_bind_iff.mp hg)
    obtain ⟨rfl, -, rfl⟩ := goes_pure_iff.mp h1
    exact .unneeded id (survey_nil rfl rfl)
  | remembered hd =>
    obtain ⟨rfl, -, rfl⟩ := goes_remembered h
    exact .unneeded id (survey_nil rfl rfl)
  | isPresent hd => exact .unneeded id (hcall h trivial)
  | isDirectory hd => exact .unneeded id (hcall h trivial)
  | length hd => exact .unneeded id (hcall h trivial)
  | read hd => exact .unneeded id (hcall h trivial)
  | delete hd =>
    have hg : hd.delete.Goes m t r m' := h
    unfold Handle.delete at hg
    refine .unneeded id ?_
    by_cases hw : hd.mode.isWritable = true
    · rw [if_pos hw] at hg
      exact hcall hg trivial
    · rw [if_neg hw] at hg
      obtain ⟨rfl, -, rfl⟩ := goes_throw_iff.mp hg
      exact survey_nil rfl rfl
  | cached key =>
    have hg : (Searcher.cached key).Goes m t r m' := h
    have h1 := goes_get_bind_iff.mp hg
    obtain ⟨rfl, -, rfl⟩ := goes_ofResult_iff.mp h1
    exact .unneeded id (survey_nil rfl rfl)

/-! ## What the phases come to -/

theorem helperLoaded_of_prepare (h : (prepare s).Goes m t (.ok ()) m')
    (hs : s.platform.helper?.isSome) : m'.helperLoaded = true := by
  rcases goes_prepare h with ⟨-, -, rfl, hl⟩ | ⟨name, source, -, -, -, rfl⟩
  · exact hl hs
  · rfl

theorem load_iff_of_prepare {r : Except Error Unit} (h : (prepare s).Goes m t r m') :
    (∃ x ∈ t, IsLoad x.1) ↔ s.platform.helper?.isSome ∧ m.helperLoaded = false := by
  rcases goes_prepare h with ⟨rfl, -, -, hl⟩ | ⟨name, source, hp, hl, rfl, -⟩
  · refine iff_of_false ?_ ?_
    · rintro ⟨x, hx, -⟩
      cases hx
    · rintro ⟨hs, hno⟩
      rw [hl hs] at hno
      cases hno
  · refine iff_of_true ⟨_, List.mem_singleton_self _, trivial⟩ ⟨?_, hl⟩
    rw [hp]
    rfl

theorem noErrand_of_prepare {r : Except Error Unit} (h : (prepare s).Goes m t r m') :
    ∀ x ∈ t, ¬IsErrand s x.1 := by
  intro x hx
  rcases goes_prepare h with ⟨rfl, -, -, -⟩ | ⟨name, source, -, -, rfl, -⟩
  · cases hx
  · rw [List.mem_singleton.mp hx]
    exact id

namespace Phased

variable {α : Type} {needed : Prop} {r : Except Error α}

theorem advances (h : Phased s m needed t r m') : Advances s given m t m' := by
  cases h with
  | unneeded hn hv => exact hv.advances given
  | refused hn hv hp => exact (hv.advances given).append (advances_prepare hp)
  | @prepared v p w r m₁ m₂ m' hn hv hp hw hl hm =>
    have hwork : Advances s given m₂ w m' :=
      hw.advances (fun _ => helperLoaded_of_prepare hp) hl hm
    exact (hv.advances given).append ((advances_prepare hp).append hwork)

/-- The helper module is loaded exactly if it is needed and has not been loaded before. -/
theorem load_iff (h : Phased s m needed t r m') :
    (∃ x ∈ t, IsLoad x.1) ↔ s.platform.helper?.isSome ∧ m.helperLoaded = false ∧ needed := by
  cases h with
  | unneeded hn hv =>
    refine iff_of_false ?_ fun h => hn h.2.2
    rintro ⟨x, hx, hl⟩
    exact hv.noLoad x hx hl
  | @refused v p e m₁ m' hn hv hp =>
    rw [hv.load_append, load_iff_of_prepare hp, hv.helper, ← and_assoc, and_iff_left hn]
  | @prepared v p w r m₁ m₂ m' hn hv hp hw hl hm =>
    rw [hv.load_append, hw.load_append, load_iff_of_prepare hp, hv.helper, ← and_assoc,
      and_iff_left hn]

/-- A load that fails is the end: its error is the result, and no errand is sent. -/
theorem refusal {name source : String} (h : Phased s m needed t r m')
    (hx : ⟨.host (.loadModule name source), .error e⟩ ∈ t) :
    r = .error e ∧ ∀ x ∈ t, ¬IsErrand s x.1 := by
  cases h with
  | unneeded hn hv => exact absurd trivial (hv.noLoad _ hx)
  | refused hn hv hp =>
    refine ⟨?_, List.forall_mem_append.mpr ⟨hv.noErrand, noErrand_of_prepare hp⟩⟩
    rcases List.mem_append.mp hx with hx | hx
    · exact absurd trivial (hv.noLoad _ hx)
    · rcases goes_prepare hp with ⟨-, hr, -, -⟩ | ⟨name', source', -, -, rfl, -⟩
      · cases hr
      · cases List.mem_singleton.mp hx
        rfl
  | prepared hn hv hp hw hl hm =>
    rcases List.mem_append.mp hx with hx | hx
    · exact absurd trivial (hv.noLoad _ hx)
    · rcases List.mem_append.mp hx with hx | hx
      · rcases goes_prepare hp with ⟨rfl, -, -, -⟩ | ⟨name', source', -, -, rfl, -⟩
        · cases hx
        · cases List.mem_singleton.mp hx
      · exact absurd trivial (hw _ hx).1

end Phased

/-! ## Runs -/

/-- Every use of the mounts asks nothing, and gives a table or goes by it. -/
structure Sees (s : Setup) (m : Memory) (l : List Mount) : Prop where
  table : ∀ u r m', (mounts s).Goes m u r m' → u = [] ∧ r = .ok l
  matching : ∀ pattern wanted u r m', (mountsMatching s pattern wanted).Goes m u r m' →
    u = [] ∧ r = .ok (l.filter fun x => pattern.found x.fsType == wanted)
  admission : ∀ (q : Query) root fsType u r m', q.fsType = some fsType →
    (isAdmitted s q root).Goes m u r m' → u = [] ∧ r = .ok (s.platform.admits l root fsType)

theorem sees_of_mounts (hm : m.mounts = some l) : Sees s m l := by
  have hmounts : ∀ u r m', (mounts s).Goes m u r m' → u = [] ∧ r = .ok l := by
    intro u r m' h
    rcases goes_mounts h with ⟨l', hl, rfl, rfl, -⟩ | ⟨hno, -⟩
    · rw [hm] at hl
      cases hl
      exact ⟨rfl, rfl⟩
    · rw [hm] at hno
      cases hno
  refine ⟨hmounts, ?_, ?_⟩
  · intro pattern wanted u r m' h
    unfold mountsMatching at h
    rw [← map_eq_pure_bind] at h
    obtain ⟨x, rfl, h1⟩ := goes_map_iff.mp h
    obtain ⟨rfl, rfl⟩ := hmounts u x m' h1
    exact ⟨rfl, rfl⟩
  · intro q root fsType u r m' hq h
    rcases goes_isAdmitted h with ⟨hno, -⟩ | ⟨fsType', x, hq', h1, rfl⟩
    · rw [hq] at hno
      cases hno
    · rw [hq] at hq'
      cases hq'
      obtain ⟨rfl, rfl⟩ := hmounts u x m' h1
      exact ⟨rfl, rfl⟩

/-- **A run is orderly, and the memory after it knows what has happened.** -/
theorem Run.orderly {ops : List Operation} {lastStamp : Nat}
    (h : Run s (.initial given lastStamp) ops t m) :
    Orderly s given [] t ∧ Remembers s given t m := by
  -- each operation advances from a memory that knows what the ones before it have done
  induction h with
  | nil => exact ⟨trivial, remembers_initial given lastStamp⟩
  | @snoc ops op t u m₁ m₂ r h hg ih =>
    obtain ⟨ho, hr⟩ := ih
    obtain ⟨ho', hr'⟩ := (phased_perform hg).advances t hr
    exact ⟨orderly_append_iff.mpr ⟨ho, ho'⟩, hr'⟩

theorem Orderly.inOrder (h : Orderly s given [] (u ++ x :: v)) : InOrder s given u x.1 :=
  (orderly_append_iff.mp h).2.1

/-- The commands of searches and of looks at files. -/
inductive IsHelped (s : Setup) : String → Prop where
  | search {q : Query} {c : Compiled} (hc : s.platform.compile q = .ok c) (raw : String) :
    IsHelped s (s.platform.shell.redirect c.command raw)
  | stat (path : String) : IsHelped s (s.platform.statCommand path)

theorem ne_mountCommand_of_isHelped {command : String} (h : IsHelped s command) :
    command ≠ s.platform.mountCommand := by
  cases h with
  | search hc raw => exact search_ne_mountCommand hc raw
  | stat path => exact stat_ne_mountCommand s.platform path

/--
**The helper module is loaded once, and the mounts are listed once.** In any run of a searcher,
whoever answers, every request is in order: a load comes only where none has succeeded before, the
commands of searches and of looks at files come only after one that has, and a listing comes only
while no table is known. On a Unix host nothing is ever loaded, and mounts that are given are never
listed. Whatever is done next loads the module exactly if it needs it and it is not loaded; if that
fails, its error is the result and no command goes out. And once a table is known, every use of the
mounts goes by that table.
-/
theorem prepared_once {ops : List Operation} {lastStamp : Nat}
    (h : Run s (.initial given lastStamp) ops t m) :
    (∀ a x b, t = a ++ x :: b → InOrder s given a x.1) ∧
    (∀ command, IsHelped s command → command ≠ s.platform.mountCommand) ∧
    (∀ d, s.platform = .unix d → ∀ x ∈ t, ¬IsLoad x.1) ∧
    (∀ l, given = some l → ∀ x ∈ t, ¬IsListing s x.1) ∧
    (∀ (op : Operation) (u : Exchanges) (r : Except Error op.Value) (m' : Memory),
      (op.perform s).Goes m u r m' →
        ((∃ x ∈ u, IsLoad x.1) ↔
          s.platform.helper?.isSome ∧ ¬HelperLoaded t ∧ NeedsHelper m u op) ∧
        ∀ name source e, ⟨.host (.loadModule name source), .error e⟩ ∈ u →
          r = .error e ∧ ∀ x ∈ u, ¬IsErrand s x.1) ∧
    ∀ l, TableKnown s given t l → Sees s m l := by
  obtain ⟨ho, hr⟩ := h.orderly
  have horder : ∀ a x b, t = a ++ x :: b → InOrder s given a x.1 := by
    rintro a x b rfl
    exact ho.inOrder
  refine ⟨horder, fun command => ne_mountCommand_of_isHelped, ?_, ?_, ?_, ?_⟩
  · -- a load is in order only where the platform has a helper module
    intro d hd x hx hload
    obtain ⟨a, b, hab⟩ := List.append_of_mem hx
    obtain ⟨name, source, hrequest⟩ := exists_of_isLoad hload
    have hin := horder a x b hab
    rw [hrequest, InOrder, hd] at hin
    cases hin.1
  · intro l hl x hx hlisting
    obtain ⟨a, b, hab⟩ := List.append_of_mem hx
    obtain ⟨budget, hrequest⟩ := exists_of_isListing hlisting
    have hin := horder a x b hab
    rw [hrequest, InOrder, if_pos rfl] at hin
    exact hin l (Or.inl hl)
  · intro op u r m' hg
    have hphased := phased_perform hg
    refine ⟨?_, fun name source e hx => hphased.refusal hx⟩
    rw [hphased.load_iff, ← hr.helper, Bool.not_eq_true]
  · intro l hl
    exact sees_of_mounts ((hr.table l).mpr hl)

/-! ### A load that is refused -/

/-- A searcher for a host with a helper module, on which nothing is remembered about a file. -/
def helpedSetup : Setup := { session := ⟨"host", '\\', none⟩, platform := .windows }

/-- A file on it whose record is asked for anew each time. -/
def volatileFile : Handle := ⟨"host", "C:\\x", .noCache, 0⟩

/-- The mounts that its searcher has been given. -/
def givenMounts : List Mount := [⟨"C:\\", "fixed"⟩]

/-- The load that the host refuses. -/
def refusedLoad : Exchanges :=
  [⟨.host (.loadModule Windows.helperName Windows.helperSource), .error (.io "refused")⟩]

theorem goes_refusedLoad :
    ((Operation.metadata volatileFile).perform helpedSetup).Goes (.initial (some givenMounts) 0)
      refusedLoad (.error (.io "refused")) (.initial (some givenMounts) 0) := by
  show (volatileFile.metadata helpedSetup).Goes _ _ _ _
  have hprepare : (prepare helpedSetup).Goes (.initial (some givenMounts) 0) refusedLoad
      (.error (.io "refused")) (.initial (some givenMounts) 0) := by
    unfold prepare
    exact goes_get_bind_iff.mpr (goes_call_bind_iff.mpr (Or.inr ⟨_, rfl, rfl, rfl⟩))
  unfold Handle.metadata
  rw [if_neg (by decide)]
  exact goes_bind_iff.mpr (Or.inr ⟨_, rfl, hprepare⟩)

theorem refused_load_is_tried_again :
    Run helpedSetup (.initial (some givenMounts) 0) [.metadata volatileFile] refusedLoad
        (.initial (some givenMounts) 0) ∧
      (∀ u r m', ((Operation.metadata volatileFile).perform helpedSetup).Goes
        (.initial (some givenMounts) 0) u r m' → ∃ x ∈ u, IsLoad x.1) ∧
      Sees helpedSetup (.initial (some givenMounts) 0) givenMounts := by
  have hrun := Run.snoc .nil goes_refusedLoad
  obtain ⟨-, -, -, -, hnext, hsees⟩ := prepared_once hrun
  refine ⟨hrun, fun u r m' hg => (hnext _ u r m' hg).1.mpr ⟨rfl, ?_, Or.inl rfl⟩,
    hsees givenMounts (Or.inl rfl)⟩
  rintro ⟨name, source, hx⟩
  cases List.mem_singleton.mp hx

end RemoteSearch.Searcher
