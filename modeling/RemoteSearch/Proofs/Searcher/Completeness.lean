import RemoteSearch.Proofs.Searcher.Run

/-!
# Completeness of stored results

What is in the cache was found by a search that lost nothing: its command and the compression were
answered, the compressed file was seen and read to its end, and all lines were made into records.

* `ReadToEnd` spells out the exchange of such a search, and where the paths that it stores come
  from.
* `Stores.readToEnd`: a search that stores anything is of this form.
* `IsSetback` is an answer on the way that loses something; none is in such an exchange.
-/

namespace RemoteSearch.Searcher

open RemoteSearch.Action Execution Transfer
open Calendar (Instant)

variable {s : Setup} {m m' : Memory} {t u : Exchanges} {cs : List Condition} {key : String}
  {paths : List String}

/-! ## Reading all records -/

/-- Records read one after another, until no line is left for one. -/
inductive Reads (p : Platform) (now : Instant) :
    List String → List (Except RecordError Metadata) → Prop where
  | stop {l : List String} (h : p.readRecord now l = none) : Reads p now l []
  | next {l rest : List String} {r : Except RecordError Metadata}
      {rs : List (Except RecordError Metadata)} (h : p.readRecord now l = some (r, rest))
      (hr : Reads p now rest rs) : Reads p now l (r :: rs)

/-- The list of all records is what comes from reading them one after another. -/
theorem reads_readRecords (p : Platform) (now : Instant) (l : List String) :
    Reads p now l (p.readRecords now l) := by
  fun_induction Platform.readRecords p now l with
  | case1 l h => exact .stop h
  | case2 l r rest h _ ih => exact .next h ih

/-- The compressed file holds its output in one piece. -/
def IsWhole (bytes : List UInt8) : Prop := ∃ lines, LineSequence.ofFile? bytes = some ⟨lines, false⟩

/-! ## Searches that read to the end -/

/--
The exchange of a search that reads the output of its command to the end, with its key and the
paths of its records, in the order in which they are read.
-/
inductive ReadToEnd (s : Setup) (cs : List Condition) :
    Exchanges → String → List String → Prop where
  | intro {q : Query} {c : Compiled} {admission preparation cleanup : Exchanges}
      {directory raw : String} {stamped now : Int} {ran packed : Except Error Outcome}
      {bytes : List UInt8} {copied : Bool} {lines : List String}
      {results : List (Except RecordError Metadata)}
      (hq : Query.ofConditions cs = .ok q) (hc : s.platform.compile q = .ok c)
      (hadmission : admission = [] ∨
        ∃ reply, IsAnswered reply ∧ admission = listingExchange s reply)
      (hpreparation : preparation = [] ∨
        ∃ name source, preparation = [⟨.host (.loadModule name source), .ok ()⟩])
      (hran : IsAnswered ran) (hpacked : IsAnswered packed)
      (hcleanup : Discards [compressedName raw] cleanup)
      (hlines : LineSequence.ofFile? bytes = some ⟨lines, false⟩)
      (hresults : Reads s.platform (.ofMillis now) lines results) :
      ReadToEnd s cs
        (admission ++
          ⟨.host (.isDirectory (q.normalizedRoot s.platform.delimiter) .readOnly), .ok true⟩ ::
          (preparation ++
            (fullExchange s.route c.command directory raw stamped ran packed bytes ++
              (cleanup ++ dropExchange copied) ++ [⟨.home .clock, now⟩])))
        c.cacheKey ((results.filterMap Except.toOption).map Metadata.path)

/-- Complete findings come from a whole file. -/
theorem findings_complete {now : Int} {content : Except Error (List UInt8)}
    (h : (findingsOf s now content).complete = true) :
    ∃ bytes lines, content = .ok bytes ∧ LineSequence.ofFile? bytes = some ⟨lines, false⟩ ∧
      (findingsOf s now content).records =
        (s.platform.readRecords (.ofMillis now) lines).filterMap Except.toOption := by
  cases content with
  | error e => cases h
  | ok bytes =>
    simp only [findingsOf, Findings.ofFile] at h ⊢
    cases hl : LineSequence.ofFile? bytes with
    | none =>
      rw [hl] at h
      cases h
    | some l =>
      obtain ⟨lines, failed⟩ := l
      rw [hl] at h
      cases failed with
      | true => cases h
      | false => exact ⟨bytes, lines, rfl, hl, rfl⟩

/-- **A search that stores anything has read its output to the end.** -/
theorem Stores.readToEnd (h : Stores s cs m t key paths m') : ReadToEnd s cs t key paths := by
  cases h with
  | @intro q c f t u v m₁ m₂ m₃ hq hc ha hp hg hf =>
    have hadmission : t = [] ∨ ∃ reply, IsAnswered reply ∧ t = listingExchange s reply := by
      rcases goes_isAdmitted ha with ⟨-, rfl, -, -⟩ | ⟨fsType, x, -, h1, hx⟩
      · exact Or.inl rfl
      · rcases goes_mounts h1 with ⟨l, -, rfl, -, -⟩ | ⟨-, reply, rfl, hl, -⟩
        · exact Or.inl rfl
        · cases x with
          | error e => cases hx
          | ok l => exact Or.inr ⟨reply, isAnswered_of_tableOf hl.symm, rfl⟩
    have hpreparation : u = [] ∨
        ∃ name source, u = [⟨.host (.loadModule name source), .ok ()⟩] := by
      rcases goes_prepare hp with ⟨rfl, -, -, -⟩ | ⟨name, source, -, -, rfl, -⟩
      · exact Or.inl rfl
      · exact Or.inr ⟨name, source, rfl⟩
    obtain ⟨w, trail, brought, hb, -, ⟨e, -, -, he⟩ | ⟨content, now, rfl, rfl, hf'⟩⟩ :=
      goes_gather hg
    · cases he
    · cases hf'
      obtain ⟨bytes, lines, rfl, hlines, hrecords⟩ := findings_complete hf
      obtain ⟨directory, stamped, ran, packed, cleanup, hran, hpacked, hcleanup, rfl⟩ :=
        goes_bring_ok hb
      rw [Findings.paths, hrecords]
      exact .intro hq hc hadmission hpreparation hran hpacked hcleanup hlines
        (reads_readRecords _ _ _)

/-! ## Setbacks -/

/-- An answer with which something is lost, or with which there is nothing to find. -/
def IsSetback : Dialogue.Exchange Request.Reply → Prop
  | ⟨.host (.isDirectory ..), x⟩ => x ≠ .ok true
  | ⟨.host (.execute ..), x⟩ => ¬IsAnswered x
  | ⟨.host (.read ..), x⟩ => ∀ bytes, x = .ok ⟨bytes, none⟩ → ¬IsWhole bytes
  | ⟨.home (.readHere _), x⟩ => ∀ bytes, x = .ok bytes → ¬IsWhole bytes
  | ⟨.home (.makeCopy _), x⟩ => x ≠ .ok ()
  | _ => False

section Parts

variable {budgets : Budgets} {tier : Tier} {command raw path : String} {r : Route}
  {reply ran packed : Except Error Outcome} {bytes : List UInt8} {now : Int}

/-- Whether a part of an exchange has neither setbacks nor looks for files. -/
def IsSmooth (t : Exchanges) : Prop := (∀ e ∈ t, ¬IsSetback e) ∧ IsBlind t

theorem IsSmooth.append (ht : IsSmooth t) (hu : IsSmooth u) : IsSmooth (t ++ u) := by
  refine ⟨fun e he => ?_, ht.2.append hu.2⟩
  rcases List.mem_append.mp he with h | h
  · exact ht.1 e h
  · exact hu.1 e h

theorem isSmooth_exchange (h : IsAnswered reply) :
    IsSmooth (exchange budgets command tier reply) := by
  refine ⟨?_, isBlind_exchange⟩
  obtain ⟨o, rfl, ho⟩ := h
  have hr : IsAnswered (.ok o) := ⟨o, rfl, ho⟩
  simp [exchange, timeoutNote, ho, IsSetback, hr]

theorem isSmooth_diagnosticsNote : IsSmooth (diagnosticsNote reply) := by
  refine ⟨?_, isBlind_diagnosticsNote⟩
  unfold diagnosticsNote
  split
  · split <;> simp [IsSetback]
  · simp

theorem isSmooth_captureExchange (h : IsAnswered reply) :
    IsSmooth (captureExchange r command raw now reply) := by
  have hbegin : IsSmooth [⟨.home .clock, now⟩,
      ⟨.home (.watch raw r.config.watchInterval), ()⟩] := by
    simp [IsSmooth, IsBlind, isLook, IsSetback]
  have hend : IsSmooth [⟨.home (.unwatch r.config.watchJoin), ()⟩] := by
    simp [IsSmooth, IsBlind, isLook, IsSetback]
  exact hbegin.append (((isSmooth_exchange h).append isSmooth_diagnosticsNote).append hend)

theorem not_isSetback_of_readExchange (h : IsWhole bytes) :
    ∀ e ∈ readExchange r path bytes, ¬IsSetback e := by
  unfold readExchange
  split <;> simp [IsSetback, h]

theorem not_isSetback_of_dropExchange (copied : Bool) :
    ∀ e ∈ dropExchange copied, ¬IsSetback e := by
  unfold dropExchange
  split <;> simp [IsSetback]

/-- A cleanup only looks and deletes. -/
theorem not_isSetback_of_discards {l : List String} (h : Discards l t) :
    ∀ e ∈ t, ¬IsSetback e := by
  induction h with
  | nil => simp
  | gone h ih => simpa [IsSetback] using ih
  | deleted hs x h ih => simpa [IsSetback] using ih

/-- What comes after a smooth part and a file that is seen may look for files again. -/
theorem IsSmooth.append_seen (path : String) (ht : IsSmooth t) (hu : ∀ e ∈ u, ¬IsSetback e) :
    (∀ e ∈ t ++ look path (.ok true) :: u, ¬IsSetback e) ∧
      (t ++ look path (.ok true) :: u).find? isLook = some (look path (.ok true)) := by
  refine ⟨fun e he => ?_, ?_⟩
  · rcases List.mem_append.mp he with h | h
    · exact ht.1 e h
    · rcases List.mem_cons.mp h with rfl | h
      · simp [look, IsSetback]
      · exact hu e h
  · have hnone : t.find? isLook = none := by
      rw [List.find?_eq_none]
      intro e he
      simp [ht.2 e he]
    rw [List.find?_append, hnone]
    rfl

end Parts

/-- **Nothing is lost on the way of a search that reads to the end**, and its file is seen. -/
theorem ReadToEnd.no_setback (h : ReadToEnd s cs u key paths) :
    (∀ e ∈ u, ¬IsSetback e) ∧ ∃ path, u.find? isLook = some (look path (.ok true)) := by
  cases h with
  | @intro q c admission preparation cleanup directory raw stamped now ran packed bytes copied lines
      results hq hc hadmission hpreparation hran hpacked hcleanup hlines hresults =>
    have h1 : IsSmooth admission := by
      rcases hadmission with rfl | ⟨reply, hr, rfl⟩
      · simp [IsSmooth, IsBlind]
      · exact isSmooth_exchange hr
    have h2 : IsSmooth [⟨.host (.isDirectory (q.normalizedRoot s.platform.delimiter) .readOnly),
        .ok true⟩] := by
      simp [IsSmooth, IsBlind, isLook, IsSetback]
    have h3 : IsSmooth preparation := by
      rcases hpreparation with rfl | ⟨name, source, rfl⟩ <;>
        simp [IsSmooth, IsBlind, isLook, IsSetback]
    have h4 : IsSmooth [⟨.host .tempDir, .ok directory⟩] := by
      simp [IsSmooth, IsBlind, isLook, IsSetback]
    have h5 : IsSmooth (captureExchange s.route c.command raw stamped ran) :=
      isSmooth_captureExchange hran
    have h6 : IsSmooth (exchange s.route.budgets (s.route.shell.compress raw) .medium packed) :=
      isSmooth_exchange hpacked
    have hafter : ∀ e ∈ readExchange s.route (compressedName raw) bytes ++
        (cleanup ++ dropExchange copied ++ [⟨.home .clock, now⟩]), ¬IsSetback e := by
      intro e he
      rcases List.mem_append.mp he with h | h
      · exact not_isSetback_of_readExchange ⟨lines, hlines⟩ e h
      · rcases List.mem_append.mp h with h | h
        · rcases List.mem_append.mp h with h | h
          · exact not_isSetback_of_discards hcleanup e h
          · exact not_isSetback_of_dropExchange copied e h
        · cases List.mem_singleton.mp h
          simp [IsSetback]
    have hbefore := h1.append (h2.append (h3.append (h4.append (h5.append h6))))
    obtain ⟨hall, hseen⟩ := hbefore.append_seen (compressedName raw) hafter
    simp only [fullExchange, look, List.append_assoc, List.cons_append, List.nil_append] at hall hseen ⊢
    exact ⟨hall, _, hseen⟩

/-! ## The cache of a run -/

/--
The entry was written by a search of a run, between the operations before and after it: the search
gave the paths, read them to the end, and nothing was stored under the key before.
-/
def WrittenInRun (s : Setup) (m₀ : Memory) (ops : List Operation) (t : Exchanges) (m : Memory)
    (key : String) (paths : List String) : Prop :=
  ∃ before cs after u v w m₁ m₂ hs,
    ops = before ++ .search cs :: after ∧ t = u ++ (v ++ w) ∧
      Run s m₀ before u m₁ ∧ (search s cs).Goes m₁ v (.ok hs) m₂ ∧ Run s m₂ after w m ∧
      ReadToEnd s cs v key paths ∧ hs.map Handle.path = paths ∧
      m₁.cache.lookup? key = none ∧ m₂.cache = m₁.cache.store key paths

/-- A search that fails, finds nothing from the start, or loses something on the way. -/
inductive Thwarted (s : Setup) (cs : List Condition) (m' : Memory) (u : Exchanges)
    (r : Except Error (List Handle)) : Prop where
  | failed {e : Error} (h : r = .error e)
  /-- The type of filesystem is not admitted. -/
  | refused {q : Query} (hq : Query.ofConditions cs = .ok q) (h : ¬Admits s m' q)
  | setback {e : Dialogue.Exchange Request.Reply} (he : e ∈ u) (h : IsSetback e)
  /-- The first file that is looked for is not seen. -/
  | unseen {path : String} {mode : AccessMode} {seen : Except Error Bool}
      (h : u.find? isLook = some ⟨.host (.isPresent path mode), seen⟩) (hs : seen ≠ .ok true)

theorem WrittenInRun.snoc {m₀ : Memory} {ops : List Operation} {op : Operation}
    {r : Except Error op.Value} (h : WrittenInRun s m₀ ops t m key paths)
    (hg : (op.perform s).Goes m u r m') :
    WrittenInRun s m₀ (ops ++ [op]) (t ++ u) m' key paths := by
  obtain ⟨before, cs, after, u', v, w, m₁, m₂, hs, rfl, rfl, h1, h2, h3, h4⟩ := h
  exact ⟨before, cs, after ++ [op], u', v, w ++ u, m₁, m₂, hs, by simp, by simp, h1, h2,
    h3.snoc hg, h4⟩

/-- What is new in a cache after storing. -/
theorem mem_store {cache : Cache} {k : String} {p : List String}
    (h : (key, paths) ∈ (cache.store k p).entries) :
    (key, paths) ∈ cache.entries ∨ (key = k ∧ paths = p) := by
  unfold Cache.store at h
  split at h
  · exact Or.inl h
  · simpa using h

/-- Every entry of a cache that was empty at first was written in the run. -/
theorem Run.written {m₀ : Memory} {ops : List Operation} (h : Run s m₀ ops t m)
    (h₀ : m₀.cache.entries = []) (he : (key, paths) ∈ m.cache.entries) :
    WrittenInRun s m₀ ops t m key paths := by
  induction h with
  | nil => simp [h₀] at he
  | @snoc ops op t u m₁ m₂ r h hg ih =>
    by_cases hs : ∃ cs, op = .search cs
    · obtain ⟨cs, rfl⟩ := hs
      rcases (course_of_goes hg).cache with hc | ⟨hs, k, rfl, hstores, hl, hc⟩
      · rw [hc] at he
        exact (ih he).snoc hg
      · rw [hc] at he
        rcases mem_store he with he | ⟨rfl, rfl⟩
        · exact (ih he).snoc hg
        · exact ⟨ops, cs, [], t, u, [], m₁, m₂, hs, rfl, by simp, h, hg, .nil,
            hstores.readToEnd, rfl, hl, hc⟩
    · rw [keeps_perform stable_cache (fun cs hc => hs ⟨cs, hc⟩) hg] at he
      exact (ih he).snoc hg

/-- A search that stores anything was admitted. -/
theorem Stores.admits {q : Query} (h : Stores s cs m t key paths m')
    (hq : Query.ofConditions cs = .ok q) : Admits s m' q := by
  cases h with
  | @intro q' c f t u v m₁ m₂ m₃ hq' hc ha hp hg hf =>
    rw [hq] at hq'
    cases hq'
    have h1 : m₂.mounts = m₁.mounts := by
      rcases goes_prepare hp with ⟨-, -, rfl, -⟩ | ⟨name, source, -, -, -, rfl⟩ <;> rfl
    have h2 : m₃.mounts = m₂.mounts := by
      obtain ⟨w, trail, brought, -, rfl, -⟩ := goes_gather hg
      rfl
    intro fsType hfs
    obtain ⟨l, hl, hadmits⟩ := (admits_iff_of_goes ha).mpr rfl fsType hfs
    exact ⟨l, (h2.trans h1).trans hl, hadmits⟩

/--
**Only complete results are stored.** After every run of a new searcher, whatever was answered,
each entry of the cache was written by a search of the run that read its output to the end. And a
search that is thwarted in any way leaves the cache as it was.
-/
theorem only_complete_results_are_stored {mounts : Option (List Mount)} {lastStamp : Nat}
    {ops : List Operation} (h : Run s (.initial mounts lastStamp) ops t m) :
    (∀ key paths, (key, paths) ∈ m.cache.entries →
        WrittenInRun s (.initial mounts lastStamp) ops t m key paths) ∧
      ∀ cs u r m', (search s cs).Goes m u r m' → Thwarted s cs m' u r → m'.cache = m.cache := by
  refine ⟨fun key paths he => h.written rfl he, fun cs u r m' hg ht => ?_⟩
  rcases (course_of_goes hg).cache with hc | ⟨hs, key, rfl, hstores, -, -⟩
  · exact hc
  · obtain ⟨hset, path, hseen⟩ := hstores.readToEnd.no_setback
    cases ht with
    | failed h => cases h
    | refused hq h => exact absurd (hstores.admits hq) h
    | setback he h => exact absurd h (hset _ he)
    | unseen h hs =>
      rw [hseen] at h
      cases h
      exact absurd rfl hs

/-- A search of one file on AIX, whose output lies at home and is stored in the compressed file. -/
theorem complete_result_is_stored_on_aix :
    let s : Setup := { session := ⟨"localhost", '/', none⟩, platform := .unix (.ofKind .aix) }
    let q : Query := { root := "/" }
    let key := (Unix.compile (.ofKind .aix) q).cacheKey
    ∃ t m, Run s (.initial none 0) [.search [.root "/"]] t m ∧ m.cache.entries = [(key, ["/a"])] ∧
      WrittenInRun s (.initial none 0) [.search [.root "/"]] t m key ["/a"] := by
  intro s q key
  let file : List UInt8 :=
    [31, 139, 8, 0, 0, 0, 0, 0, 0, 255, 1, 33, 0, 222, 255, 45, 114, 119, 45, 114,
        45, 45, 114, 45, 45, 32, 49, 32, 48, 32, 48, 32, 53, 32, 74, 97, 110, 32, 50,
        32, 50, 48, 50, 52, 32, 47, 97, 10, 224, 242, 217, 201, 33, 0, 0, 0]
  have hlines : LineSequence.ofFile? file =
      some ⟨["-rw-r--r-- 1 0 0 5 Jan 2 2024 /a"], false⟩ := by decide +kernel
  have hfile : findingsOf s 0 (.ok file) =
      .ofLines s.platform (.ofMillis 0) ⟨["-rw-r--r-- 1 0 0 5 Jan 2 2024 /a"], false⟩ := by
    simp [findingsOf, Findings.ofFile, hlines]
  have hpaths : (findingsOf s 0 (.ok file)).paths = ["/a"] := by
    rw [hfile]
    decide +kernel
  have hcomplete : (findingsOf s 0 (.ok file)).complete = true := by rw [hfile]; rfl
  let c := Unix.compile (.ofKind .aix) q
  let m₀ : Memory := .initial none 0
  let raw := rawPath s.route "/tmp" 1
  let cleanup : Exchanges := [⟨.host (.isPresent (compressedName raw) .readVolatile), .ok true⟩,
    ⟨.host (.delete (compressedName raw)), .ok ()⟩]
  have hg : (gather s c.command).Goes m₀
      (fullExchange s.route c.command "/tmp" raw 1 (.ok {}) (.ok {}) file ++
        (cleanup ++ [⟨.home .clock, 0⟩]))
      (.ok (findingsOf s 0 (.ok file))) (m₀.afterCommand 1) := by
    show Dialogue.Goes _ _ _
    iterate 13 refine Dialogue.Goes.ask ?_
    exact .done _
  have hprepare : (prepare s).Goes m₀ [] (.ok ()) m₀ := .done _
  obtain ⟨hs, hr⟩ : ∃ hs, (runSearch s c).Goes m₀ _ (.ok hs) _ := exists_goes_runSearch hprepare hg
  have hadm : (isAdmitted s q (q.normalizedRoot '/')).Goes m₀ [] (.ok true) m₀ := .done _
  have hrun : Run s m₀ [.search [.root "/"]] _ _ :=
    Run.nil.snoc (Course.run (q := q) (c := c) rfl hadm rfl rfl hr).goes
  have hentries : ((m₀.afterCommand 1).afterFindings key (findingsOf s 0 (.ok file))).cache.entries =
      [(key, ["/a"])] := by
    simp only [Memory.afterFindings, hcomplete, if_true, hpaths]
    rfl
  refine ⟨_, _, hrun, hentries, ?_⟩
  refine (only_complete_results_are_stored hrun).1 key ["/a"] ?_
  rw [hentries]
  exact List.mem_singleton.mpr rfl

end RemoteSearch.Searcher
