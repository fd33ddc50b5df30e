import RemoteSearch.Proofs.Searcher.Leftovers
import RemoteSearch.Proofs.Searcher.Run
import RemoteSearch.Proofs.Windows.CacheKey

/-!
# Failures of searches

When a search is an error, and when it is a result, however small.

* `IsFatal` are the answers on which a search ends with an error. Answers to the compression, to
  looks for files, to reading and to deletions are not among them.
* `Failure` are all reasons for an error: conditions that are rejected, or a fatal answer.
* `search_fails_iff`: there are no others, and once the command is answered there is none at all.
-/

namespace RemoteSearch.Searcher

open RemoteSearch.Action Execution Transfer

variable {s : Setup} {m m' : Memory} {t u : Exchanges} {cs : List Condition} {q : Query}
  {c : Compiled} {e : Error} {x : Dialogue.Exchange Request.Reply} {command raw : String}
  {reply : Except Error Outcome}

/-! ## Telling commands apart

Two letters tell searches from all other commands.
-/

/-- The two letters that searches begin with. -/
def searchLetters : Platform → List Char
  | .unix _ => ['f', 'i']
  | .windows => ['F', 'i']

/-- The two letters that compressions begin with. -/
def packLetters : Platform → List Char
  | .unix _ => ['g', 'z']
  | .windows => ['G', 'z']

/-- What a command begins with, it begins with when its output goes to a file. -/
theorem prefix_redirect (sh : Shell) (command path : String) :
    command.toList <+: (sh.redirect command path).toList := by
  have hs : ∀ text : String, toString text = text := fun _ => rfl
  cases sh <;>
    simp only [Shell.redirect, hs, String.toList_append, List.append_assoc, List.prefix_append]

theorem prefix_render_fixed (sh : Shell) (text : String) (l : List Piece) :
    text.toList <+: (sh.render (.fixed text :: l)).toList := by
  show _ <+: (text ++ sh.render l).toList
  rw [String.toList_append]
  exact List.prefix_append _ _

theorem prefix_unix_command (d : Unix.Dialect) (q : Query) :
    ['f', 'i'] <+: (Unix.compile d q).command.toList := by
  have hhead : ∃ l, Unix.searchPieces d q = .fixed "find" :: l := by
    unfold Unix.searchPieces Unix.findPaths
    split
    split <;> exact ⟨_, rfl⟩
  obtain ⟨l, hl⟩ := hhead
  have hfind : ['f', 'i'] <+: "find".toList := by decide
  show _ <+: (Shell.posix.render (Unix.searchPieces d q)).toList
  rw [hl]
  exact hfind.trans (prefix_render_fixed _ _ _)

theorem prefix_windows_command (q : Query) :
    ['F', 'i'] <+: (Windows.compiled q).command.toList := by
  have hhead : ∃ text l, Windows.searchPieces q = .fixed text :: l ∧
      (text = "Find-Files -Path " ∨ text = "Find-Directories -Path ") := by
    unfold Windows.searchPieces Windows.findObjects
    split
    · exact ⟨_, _, rfl, Or.inr rfl⟩
    · exact ⟨_, _, rfl, Or.inl rfl⟩
    · exact ⟨_, _, rfl, Or.inr rfl⟩
    · exact ⟨_, _, rfl, Or.inr rfl⟩
    · exact ⟨_, _, rfl, Or.inr rfl⟩
    · exact ⟨_, _, rfl, Or.inl rfl⟩
  obtain ⟨text, l, hl, ht⟩ := hhead
  have hfind : ['F', 'i'] <+: text.toList := by
    rcases ht with rfl | rfl <;> decide
  show _ <+: (Shell.powershell.render (Windows.searchPieces q)).toList
  rw [hl]
  exact hfind.trans (prefix_render_fixed _ _ _)

theorem prefix_search (hc : s.platform.compile q = .ok c) (path : String) :
    searchLetters s.platform <+: (s.platform.shell.redirect c.command path).toList := by
  have hcommand : searchLetters s.platform <+: c.command.toList := by
    cases hp : s.platform with
    | unix d =>
      rw [hp] at hc
      cases hc
      exact prefix_unix_command d q
    | windows =>
      rw [hp] at hc
      obtain ⟨-, -, rfl⟩ := Windows.compile_eq_ok_iff.mp hc
      exact prefix_windows_command q
  exact hcommand.trans (prefix_redirect _ _ _)

theorem prefix_compress (p : Platform) (path : String) :
    packLetters p <+: (p.shell.compress path).toList := by
  have hs : ∀ text : String, toString text = text := fun _ => rfl
  cases p with
  | unix d =>
    have hfirst : ['g', 'z'] <+: "gzip -f ".toList := by decide
    show ['g', 'z'] <+: (Shell.posix.compress path).toList
    simp only [Shell.compress, hs, String.toList_append]
    exact hfirst.trans (List.prefix_append _ _)
  | windows =>
    have hfirst : ['G', 'z'] <+: "Gzip-File ".toList := by decide
    show ['G', 'z'] <+: (Shell.powershell.compress path).toList
    simp only [Shell.compress, hs, String.toList_append]
    exact hfirst.trans (List.prefix_append _ _)

theorem not_prefix_mountCommand (p : Platform) :
    ¬searchLetters p <+: p.mountCommand.toList ∧ ¬packLetters p <+: p.mountCommand.toList := by
  cases p with
  | windows => exact ⟨by decide, by decide⟩
  | unix d =>
    obtain ⟨k, native⟩ := d
    cases k <;> cases native <;> exact ⟨by decide, by decide⟩

theorem search_ne_mountCommand (hc : s.platform.compile q = .ok c) (path : String) :
    s.platform.shell.redirect c.command path ≠ s.platform.mountCommand := by
  intro h
  exact (not_prefix_mountCommand s.platform).1 (h ▸ prefix_search hc path)

theorem compress_ne_mountCommand (p : Platform) (path : String) :
    p.shell.compress path ≠ p.mountCommand := by
  intro h
  exact (not_prefix_mountCommand p).2 (h ▸ prefix_compress p path)

/-- No search is a compression. -/
theorem search_ne_compress (hc : s.platform.compile q = .ok c) (path file : String) :
    s.platform.shell.redirect c.command path ≠ s.platform.shell.compress file := by
  intro h
  have hsearch := prefix_search hc path
  rw [h] at hsearch
  have hpack := prefix_compress s.platform file
  have hletters : searchLetters s.platform = packLetters s.platform := by
    have hlength : (searchLetters s.platform).length = (packLetters s.platform).length := by
      cases s.platform <;> rfl
    exact (List.prefix_of_prefix_length_le hsearch hpack hlength.le).eq_of_length hlength
  cases hp : s.platform <;> rw [hp] at hletters <;> cases hletters

/-! ## Fatal answers -/

/-- Whether an answer ends a search with an error. -/
def IsFatal (s : Setup) (cs : List Condition) (x : Dialogue.Exchange Request.Reply) (e : Error) :
    Prop :=
  match x with
  | ⟨.host (.execute command _), reply⟩ =>
    (command = s.platform.mountCommand ∧ tableOf s reply = .error e) ∨
      ∃ q c raw, Query.ofConditions cs = .ok q ∧ s.platform.compile q = .ok c ∧
        command = s.platform.shell.redirect c.command raw ∧ verdict command reply = .error e
  | ⟨.host (.isDirectory path _), answer⟩ =>
    answer = .error e ∧
      ∃ q, Query.ofConditions cs = .ok q ∧ path = q.normalizedRoot s.platform.delimiter
  | ⟨.host (.loadModule _ _), answer⟩ => answer = .error e
  | ⟨.host .tempDir, answer⟩ => answer = .error e
  | _ => False

/-- The reasons for a search to be an error; `m'` is the memory after it. -/
inductive Failure (s : Setup) (cs : List Condition) (m' : Memory) (u : Exchanges) (e : Error) :
    Prop where
  /-- The conditions make no query. -/
  | noQuery (hq : Query.ofConditions cs = .error e)
  /-- The platform cannot express the query. -/
  | notCompiled {q : Query} (hq : Query.ofConditions cs = .ok q) (ha : Admits s m' q)
      (hc : s.platform.compile q = .error e)
  /-- The mounts, the root, the helper module, the place for output or the command itself. -/
  | answer {x : Dialogue.Exchange Request.Reply} (hx : x ∈ u) (hf : IsFatal s cs x e)

/-- An exchange in which the command of a search gets a reply. -/
def IsSearchReply (s : Setup) (cs : List Condition) (x : Dialogue.Exchange Request.Reply)
    (reply : Except Error Outcome) : Prop :=
  ∃ q c raw budget, Query.ofConditions cs = .ok q ∧ s.platform.compile q = .ok c ∧
    x = ⟨.host (.execute (s.platform.shell.redirect c.command raw) budget), reply⟩

/-- An exchange with no fatal answer. -/
def IsHarmless (s : Setup) (cs : List Condition) (t : Exchanges) : Prop :=
  ∀ x ∈ t, ∀ e, ¬IsFatal s cs x e

/-- An exchange in which the command of a search is not answered. -/
def IsUnanswered (s : Setup) (cs : List Condition) (t : Exchanges) : Prop :=
  ∀ x ∈ t, ∀ reply, IsSearchReply s cs x reply → ¬IsAnswered reply

/-- An exchange that ends a search with an error, before its command is answered. -/
def IsEnd (s : Setup) (cs : List Condition) (t : Exchanges) (e : Error) : Prop :=
  (∃ x ∈ t, IsFatal s cs x e) ∧ IsUnanswered s cs t

theorem IsHarmless.append (ht : IsHarmless s cs t) (hu : IsHarmless s cs u) :
    IsHarmless s cs (t ++ u) := by
  intro x hx
  rcases List.mem_append.mp hx with h | h
  · exact ht x h
  · exact hu x h

theorem IsUnanswered.append (ht : IsUnanswered s cs t) (hu : IsUnanswered s cs u) :
    IsUnanswered s cs (t ++ u) := by
  intro x hx
  rcases List.mem_append.mp hx with h | h
  · exact ht x h
  · exact hu x h

theorem IsEnd.prepend (hu : IsEnd s cs u e) (ht : IsUnanswered s cs t) : IsEnd s cs (t ++ u) e := by
  obtain ⟨⟨x, hx, hf⟩, hu⟩ := hu
  exact ⟨⟨x, List.mem_append_right t hx, hf⟩, ht.append hu⟩

/-! ### Requests that do not matter -/

/-- Requests at home, and all on the host that a search makes about its files. -/
def IsMinor : Request → Prop
  | .home _ => True
  | .host (.isPresent ..) => True
  | .host (.read ..) => True
  | .host (.delete _) => True
  | _ => False

theorem not_isFatal_of_isMinor (h : IsMinor x.1) : ¬IsFatal s cs x e := by
  obtain ⟨request, answer⟩ := x
  match request, answer, h with
  | .home _, _, _ => exact id
  | .host (.isPresent ..), _, _ => exact id
  | .host (.read ..), _, _ => exact id
  | .host (.delete _), _, _ => exact id

theorem not_isSearchReply_of_isMinor (h : IsMinor x.1) : ¬IsSearchReply s cs x reply := by
  rintro ⟨q, c, raw, budget, -, -, rfl⟩
  exact h

theorem isMinor_of_isReading {path : String} {request : Request} (h : IsReading path request) :
    IsMinor request := by
  cases request with
  | home c => trivial
  | host c =>
    obtain rfl : c = .read path .readOnly := h
    trivial

theorem isMinor_of_discards {l : List String} (h : Discards l t) : ∀ x ∈ t, IsMinor x.1 := by
  induction h with
  | nil => simp
  | gone h ih =>
    rintro x (_ | ⟨_, hx⟩)
    · trivial
    · exact ih x hx
  | deleted hs y h ih =>
    rintro x (_ | ⟨_, _ | ⟨_, hx⟩⟩)
    · trivial
    · trivial
    · exact ih x hx

/-- Besides its call, a command only writes lines of the log. -/
theorem mem_exchange {budgets : Budgets} {tier : Tier}
    (hx : x ∈ exchange budgets command tier reply) :
    IsMinor x.1 ∨ x = ⟨.host (.execute command (budgets tier)), reply⟩ := by
  have hnote : ∀ x ∈ timeoutNote command reply, IsMinor x.1 := by
    cases reply with
    | error e => simp [timeoutNote]
    | ok o => cases h : o.timedOut <;> simp [timeoutNote, h, IsMinor]
  rcases List.mem_cons.mp hx with rfl | hx
  · exact Or.inl trivial
  · rcases List.mem_cons.mp hx with rfl | hx
    · exact Or.inr rfl
    · exact Or.inl (hnote x hx)

theorem mem_captureExchange {r : Route} {now : Int}
    (hx : x ∈ captureExchange r command raw now reply) :
    IsMinor x.1 ∨
      x = ⟨.host (.execute (r.shell.redirect command raw) (r.budgets .extraLong)), reply⟩ := by
  have hnote : ∀ x ∈ diagnosticsNote reply, IsMinor x.1 := by
    unfold diagnosticsNote
    split
    · split <;> simp [IsMinor]
    · simp
  rcases List.mem_cons.mp hx with rfl | hx
  · exact Or.inl trivial
  rcases List.mem_cons.mp hx with rfl | hx
  · exact Or.inl trivial
  rcases List.mem_append.mp hx with hx | hx
  · rcases List.mem_append.mp hx with hx | hx
    · exact mem_exchange hx
    · exact Or.inl (hnote x hx)
  · rw [List.mem_singleton.mp hx]
    exact Or.inl trivial

theorem call_mem_captureExchange {r : Route} {now : Int} :
    ⟨.host (.execute (r.shell.redirect command raw) (r.budgets .extraLong)), reply⟩ ∈
      captureExchange r command raw now reply := by
  simp [captureExchange, exchange]

theorem mem_fetch {r : Route} {a b : Trail} {res : Except Error (List UInt8)}
    (h : (fetch r raw).Goes a t res b) :
    ∃ packed, ∀ x ∈ t,
      IsMinor x.1 ∨ x = ⟨.host (.execute (r.shell.compress raw) (r.budgets .medium)), packed⟩ := by
  obtain ⟨packed, z, rfl, hway⟩ := goes_fetch h
  have hz : ∀ x ∈ z, IsMinor x.1 := by
    rcases hway with ⟨-, rfl, -⟩ | ⟨-, seen, w, rfl, ⟨-, rfl, -⟩ | ⟨-, -, hw, -⟩⟩
    · simp
    · simp [IsMinor]
    · rintro x (_ | ⟨_, hx⟩)
      · trivial
      · exact isMinor_of_isReading (hw x hx)
  refine ⟨packed, fun x hx => ?_⟩
  rcases List.mem_append.mp hx with hx | hx
  · exact mem_exchange hx
  · exact Or.inl (hz x hx)

/--
**How a transfer fails**: there is no place for the output, or the command has a failure as its
verdict. Whatever is wrong after that is told in its result.
-/
theorem fails_of_bring {r : Route} {n : Nat} {trail : Trail}
    {brought : Except Error (Except Error (List UInt8))}
    (h : (bring r command).Goes (.fresh n) t brought trail) :
    (∃ e, brought = .error e ∧ ⟨.host .tempDir, .error e⟩ ∈ t ∧
      ∀ x ∈ t, IsMinor x.1 ∨ x = ⟨.host .tempDir, .error e⟩) ∨
    ∃ directory raw ran packed,
      (∀ e, brought = .error e ↔ verdict (r.shell.redirect command raw) ran = .error e) ∧
      ⟨.host (.execute (r.shell.redirect command raw) (r.budgets .extraLong)), ran⟩ ∈ t ∧
      ∀ x ∈ t, IsMinor x.1 ∨ x = ⟨.host .tempDir, .ok directory⟩ ∨
        x = ⟨.host (.execute (r.shell.redirect command raw) (r.budgets .extraLong)), ran⟩ ∨
        x = ⟨.host (.execute (r.shell.compress raw) (r.budgets .medium)), packed⟩ := by
  obtain ⟨u, v, hv, rfl, hway⟩ := goes_bring h
  have hclean : ∀ x ∈ v ++ dropExchange trail.copied, IsMinor x.1 := by
    intro x hx
    rcases List.mem_append.mp hx with hx | hx
    · exact isMinor_of_discards hv x hx
    · unfold dropExchange at hx
      split at hx
      · rw [List.mem_singleton.mp hx]
        trivial
      · cases hx
  -- only the capture of the output can end a transfer; what is fetched is told in its result
  rcases hway with ⟨e, hcap, rfl⟩ | ⟨raw, s₁, a, b, y, rfl, hcap, hfetch, rfl⟩
  · rcases goes_capture hcap with ⟨e, rfl, he, -⟩ | ⟨directory, now, ran, rfl, hran, -⟩
    · cases he
      refine Or.inl ⟨_, rfl, by simp, fun x hx => ?_⟩
      rcases List.mem_append.mp hx with hx | hx
      · exact Or.inr (List.mem_singleton.mp hx)
      · exact Or.inl (hclean x hx)
    · refine Or.inr ⟨directory, rawPath r directory (nextStamp (Trail.fresh n).lastStamp now), ran,
        ran, fun e' => ?_, ?_, fun x hx => ?_⟩
      · cases hv : verdict (r.shell.redirect command
            (rawPath r directory (nextStamp (Trail.fresh n).lastStamp now))) ran with
        | ok o =>
          rw [hv] at hran
          cases hran
        | error e =>
          rw [hv] at hran
          cases hran
          simp
      · simp [call_mem_captureExchange]
      · rcases List.mem_append.mp hx with hx | hx
        · rcases List.mem_cons.mp hx with rfl | hx
          · exact Or.inr (Or.inl rfl)
          · exact (mem_captureExchange hx).imp_right fun h => Or.inr (Or.inl h)
        · exact Or.inl (hclean x hx)
  · rcases goes_capture hcap with ⟨e, -, he, -⟩ | ⟨directory, now, ran, rfl, hran, -⟩
    · cases he
    · obtain ⟨⟨o, ho⟩, -, rfl⟩ := map_verdict_eq_ok hran.symm
      obtain ⟨packed, hpacked⟩ := mem_fetch hfetch
      refine Or.inr ⟨directory, _, ran, packed, fun e => ?_, ?_, fun x hx => ?_⟩
      · rw [verdict_eq_ok_iff.mpr ho]
        simp
      · simp [call_mem_captureExchange]
      · rcases List.mem_append.mp hx with hx | hx
        · rcases List.mem_append.mp hx with hx | hx
          · rcases List.mem_cons.mp hx with rfl | hx
            · exact Or.inr (Or.inl rfl)
            · exact (mem_captureExchange hx).imp_right fun h => Or.inr (Or.inl h)
          · exact (hpacked x hx).imp_right fun h => Or.inr (Or.inr h)
        · exact Or.inl (hclean x hx)

/-! ### Commands -/

/-- A command that is answered has no failure as its verdict, and only such a one. -/
theorem not_isAnswered_of_verdict (h : verdict command reply = .error e) : ¬IsAnswered reply := by
  rintro ⟨o, ho⟩
  rw [verdict_eq_ok_iff.mpr ho] at h
  cases h

theorem reply_of_isSearchReply {budget : Nat} {ran : Except Error Outcome}
    (h : IsSearchReply s cs ⟨.host (.execute command budget), ran⟩ reply) :
    reply = ran ∧ ∃ q c raw, s.platform.compile q = .ok c ∧
      command = s.platform.shell.redirect c.command raw := by
  obtain ⟨q, c, raw, budget', -, hc, hx⟩ := h
  cases hx
  exact ⟨rfl, q, c, raw, hc, rfl⟩

theorem isFatal_search_iff {budget : Nat} (hq : Query.ofConditions cs = .ok q)
    (hc : s.platform.compile q = .ok c) :
    IsFatal s cs ⟨.host (.execute (s.platform.shell.redirect c.command raw) budget), reply⟩ e ↔
      verdict (s.platform.shell.redirect c.command raw) reply = .error e := by
  constructor
  · rintro (⟨hm, -⟩ | ⟨-, -, -, -, -, -, hv⟩)
    · exact absurd hm (search_ne_mountCommand hc raw)
    · exact hv
  · intro hv
    exact Or.inr ⟨q, c, raw, hq, hc, rfl, hv⟩

theorem not_isFatal_pack {budget : Nat} :
    ¬IsFatal s cs ⟨.host (.execute (s.platform.shell.compress raw) budget), reply⟩ e := by
  rintro (⟨hm, -⟩ | ⟨q, c, file, -, hc, hs, -⟩)
  · exact compress_ne_mountCommand s.platform raw hm
  · exact search_ne_compress hc file raw hs.symm

theorem isFatal_listing_iff {budget : Nat} :
    IsFatal s cs ⟨.host (.execute s.platform.mountCommand budget), reply⟩ e ↔
      tableOf s reply = .error e := by
  constructor
  · rintro (⟨-, ht⟩ | ⟨q, c, file, -, hc, hs, -⟩)
    · exact ht
    · exact absurd hs.symm (search_ne_mountCommand hc file)
  · intro ht
    exact Or.inl ⟨rfl, ht⟩

/-! ## Phases of a search

Each phase either ends the search with an error, or has no fatal answer.
-/

theorem outcome_isAdmitted (cs : List Condition) {root : String} {r : Except Error Bool}
    (h : (isAdmitted s q root).Goes m t r m') :
    IsUnanswered s cs t ∧ (∀ b, r = .ok b → IsHarmless s cs t) ∧
      ∀ e, r = .error e → ∃ x ∈ t, IsFatal s cs x e := by
  rcases goes_isAdmitted h with ⟨-, rfl, rfl, -⟩ | ⟨fsType, y, -, h1, rfl⟩
  · exact ⟨by simp [IsUnanswered], by simp [IsHarmless], by simp⟩
  · rcases goes_mounts h1 with ⟨l, -, rfl, rfl, -⟩ | ⟨-, reply, rfl, rfl, -⟩
    · exact ⟨by simp [IsUnanswered], by simp [IsHarmless], by simp [Except.map]⟩
    · refine ⟨fun x hx reply' hr => ?_, fun b hb x hx e hf => ?_, fun e he => ?_⟩
      · rcases mem_exchange hx with hx | rfl
        · exact absurd hr (not_isSearchReply_of_isMinor hx)
        · obtain ⟨-, q', c', raw, hc, hm⟩ := reply_of_isSearchReply hr
          exact absurd hm.symm (search_ne_mountCommand hc raw)
      · rcases mem_exchange hx with hx | rfl
        · exact not_isFatal_of_isMinor hx hf
        · rw [isFatal_listing_iff.mp hf] at hb
          cases hb
      · refine ⟨_, List.mem_cons_of_mem _ List.mem_cons_self, isFatal_listing_iff.mpr ?_⟩
        cases ht : tableOf s reply with
        | ok l =>
          rw [ht] at he
          cases he
        | error e' =>
          rw [ht] at he
          cases he
          rfl

theorem outcome_prepare (cs : List Condition) {r : Except Error Unit}
    (h : (prepare s).Goes m t r m') :
    IsUnanswered s cs t ∧ (r = .ok () → IsHarmless s cs t) ∧
      ∀ e, r = .error e → ∃ x ∈ t, IsFatal s cs x e := by
  rcases goes_prepare h with ⟨rfl, rfl, -, -⟩ | ⟨name, source, -, -, rfl, -⟩
  · exact ⟨by simp [IsUnanswered], by simp [IsHarmless], by simp⟩
  · refine ⟨fun x hx reply hr => ?_, ?_, ?_⟩
    · rw [List.mem_singleton.mp hx] at hr
      obtain ⟨q, c, raw, budget, -, -, hr⟩ := hr
      cases hr
    · rintro rfl x hx e hf
      rw [List.mem_singleton.mp hx] at hf
      cases hf
    · rintro e rfl
      exact ⟨_, List.mem_singleton_self _, rfl⟩

theorem outcome_bring (hq : Query.ofConditions cs = .ok q) (hc : s.platform.compile q = .ok c)
    {n : Nat} {trail : Trail} {brought : Except Error (Except Error (List UInt8))}
    (h : (bring s.route c.command).Goes (.fresh n) t brought trail) :
    (∀ y, brought = .ok y → IsHarmless s cs t) ∧ ∀ e, brought = .error e → IsEnd s cs t e := by
  rcases fails_of_bring h with ⟨e, rfl, hmem, hall⟩ | ⟨directory, raw, ran, packed, hv, hmem, hall⟩
  · refine ⟨by simp, fun e' he => ?_⟩
    cases he
    refine ⟨⟨_, hmem, rfl⟩, fun x hx reply hr => ?_⟩
    rcases hall x hx with hx | rfl
    · exact absurd hr (not_isSearchReply_of_isMinor hx)
    · obtain ⟨q', c', raw, budget, -, -, hr⟩ := hr
      cases hr
  · refine ⟨fun y hy x hx e hf => ?_, fun e he => ?_⟩
    · rcases hall x hx with hx | rfl | rfl | rfl
      · exact not_isFatal_of_isMinor hx hf
      · cases hf
      · have he : brought = .error e := (hv e).mpr ((isFatal_search_iff hq hc).mp hf)
        rw [hy] at he
        cases he
      · exact not_isFatal_pack hf
    · have hran : verdict (s.route.shell.redirect c.command raw) ran = .error e := (hv e).mp he
      refine ⟨⟨_, hmem, (isFatal_search_iff hq hc).mpr hran⟩, fun x hx reply hr => ?_⟩
      rcases hall x hx with hx | rfl | rfl | rfl
      · exact absurd hr (not_isSearchReply_of_isMinor hx)
      · obtain ⟨q', c', raw, budget, -, -, hr⟩ := hr
        cases hr
      · obtain ⟨rfl, -⟩ := reply_of_isSearchReply hr
        exact not_isAnswered_of_verdict hran
      · obtain ⟨-, q', c', file, hc', hs⟩ := reply_of_isSearchReply hr
        exact absurd hs.symm (search_ne_compress hc' file raw)

/-- **What comes after the command does not matter**: it is the command that a search fails with. -/
theorem outcome_gather (hq : Query.ofConditions cs = .ok q) (hc : s.platform.compile q = .ok c)
    {r : Except Error Findings} (h : (gather s c.command).Goes m t r m') :
    (∀ f, r = .ok f → IsHarmless s cs t) ∧ ∀ e, r = .error e → IsEnd s cs t e := by
  obtain ⟨u, trail, brought, hb, -, hway⟩ := goes_gather h
  obtain ⟨hok, herror⟩ := outcome_bring hq hc hb
  rcases hway with ⟨e, rfl, rfl, rfl⟩ | ⟨content, now, rfl, rfl, rfl⟩
  · refine ⟨by simp, fun e' he => ?_⟩
    cases he
    exact herror e rfl
  · refine ⟨fun f _ => (hok content rfl).append fun x hx e => ?_, by simp⟩
    have hminor : IsMinor x.1 := by
      cases content with
      | ok file =>
        rw [List.mem_singleton.mp hx]
        trivial
      | error e => cases hx
    exact not_isFatal_of_isMinor hminor

theorem outcome_runSearch (hq : Query.ofConditions cs = .ok q) (hc : s.platform.compile q = .ok c)
    {r : Except Error (List Handle)} (h : (runSearch s c).Goes m t r m') :
    (∀ hs, r = .ok hs → IsHarmless s cs t) ∧ ∀ e, r = .error e → IsEnd s cs t e := by
  rcases goes_runSearch h with ⟨e, hp, rfl⟩ | ⟨m₁, u, v, rfl, hp, hg⟩
  · obtain ⟨hu, -, hfatal⟩ := outcome_prepare cs hp
    refine ⟨by simp, fun e' he => ?_⟩
    cases he
    exact ⟨hfatal e rfl, hu⟩
  · obtain ⟨hu, hharmless, -⟩ := outcome_prepare cs hp
    rcases hg with ⟨e, hg, rfl⟩ | ⟨f, m₂, hs, hg, rfl, -, -⟩
    · refine ⟨by simp, fun e' he => ?_⟩
      cases he
      exact ((outcome_gather hq hc hg).2 e rfl).prepend hu
    · exact ⟨fun _ _ => (hharmless rfl).append ((outcome_gather hq hc hg).1 f rfl), by simp⟩

/-! ## Whole searches -/

theorem not_failure (hq : Query.ofConditions cs = .ok q)
    (hc : Admits s m' q → ∃ c, s.platform.compile q = .ok c) (hu : IsHarmless s cs u) :
    ¬Failure s cs m' u e := by
  rintro (hq' | ⟨hq', ha, hc'⟩ | ⟨hx, hf⟩)
  · rw [hq] at hq'
    cases hq'
  · rw [hq] at hq'
    cases hq'
    obtain ⟨c, hc⟩ := hc ha
    rw [hc] at hc'
    cases hc'
  · exact hu _ hx e hf

theorem isUnanswered_isDirectory (path : String) (answer : Except Error Bool) :
    IsUnanswered s cs [⟨.host (.isDirectory path .readOnly), answer⟩] := by
  intro x hx reply hr
  rw [List.mem_singleton.mp hx] at hr
  obtain ⟨q, c, raw, budget, -, -, hr⟩ := hr
  cases hr

theorem isHarmless_isDirectory (path : String) (b : Bool) :
    IsHarmless s cs [⟨.host (.isDirectory path .readOnly), .ok b⟩] := by
  intro x hx e hf
  rw [List.mem_singleton.mp hx] at hf
  cases hf.1

/-- **A search ends with an error exactly for one of the reasons**, and then its command is not
answered. -/
theorem failure_of_course {r : Except Error (List Handle)} (h : Course s cs m u r m') :
    (∀ e, r = .error e → Failure s cs m' u e ∧ IsUnanswered s cs u) ∧
      ∀ hs, r = .ok hs → ∀ e, ¬Failure s cs m' u e := by
  cases h with
  | noQuery hq =>
    refine ⟨fun e he => ?_, by simp⟩
    cases he
    exact ⟨.noQuery hq, by simp [IsUnanswered]⟩
  | unlisted hq ha =>
    obtain ⟨hu, -, hfatal⟩ := outcome_isAdmitted cs ha
    refine ⟨fun e he => ?_, by simp⟩
    cases he
    obtain ⟨x, hx, hf⟩ := hfatal _ rfl
    exact ⟨.answer hx hf, hu⟩
  | notAdmitted hq ha =>
    refine ⟨by simp, fun hs _ e => not_failure hq (fun hadmits => ?_) ?_⟩
    · cases (admits_iff_of_goes ha).mp hadmits
    · exact (outcome_isAdmitted cs ha).2.1 _ rfl
  | notCompiled hq ha hc =>
    refine ⟨fun e he => ?_, by simp⟩
    cases he
    exact ⟨.notCompiled hq ((admits_iff_of_goes ha).mpr rfl) hc, (outcome_isAdmitted cs ha).1⟩
  | @remembered q c paths t u r m₁ m₂ hq ha hc hl hf =>
    obtain ⟨rfl, ⟨hs, rfl, -⟩, -⟩ := goes_fromCache hf
    rw [List.append_nil]
    refine ⟨by simp, fun hs _ e => not_failure hq (fun _ => ⟨c, hc⟩) ?_⟩
    exact (outcome_isAdmitted cs ha).2.1 _ rfl
  | rootUnknown hq ha hc hl =>
    refine ⟨fun e he => ?_, by simp⟩
    cases he
    refine ⟨.answer (List.mem_append_right _ List.mem_cons_self) ⟨rfl, _, hq, rfl⟩, ?_⟩
    exact (outcome_isAdmitted cs ha).1.append (isUnanswered_isDirectory _ _)
  | noDirectory hq ha hc hl =>
    refine ⟨by simp, fun hs _ e => not_failure hq (fun _ => ⟨_, hc⟩) ?_⟩
    exact ((outcome_isAdmitted cs ha).2.1 _ rfl).append (isHarmless_isDirectory _ _)
  | @run q c t u r m₁ m₂ hq ha hc hl hr =>
    obtain ⟨hu, hharmless, -⟩ := outcome_isAdmitted cs ha
    obtain ⟨hok, herror⟩ := outcome_runSearch hq hc hr
    refine ⟨fun e he => ?_, fun hs he e => not_failure hq (fun _ => ⟨c, hc⟩) ?_⟩
    · have hend := ((herror e he).prepend (isUnanswered_isDirectory
        (q.normalizedRoot s.platform.delimiter) (.ok true))).prepend hu
      obtain ⟨⟨x, hx, hf⟩, hunanswered⟩ := hend
      exact ⟨.answer hx hf, hunanswered⟩
    · exact (hharmless true rfl).append ((isHarmless_isDirectory _ true).append (hok hs he))

/-! ### Counters -/

/-- As many searches have been cleaned up after as have come to their command. -/
def IsBalanced (m : Memory) : Prop := m.counters.executions = m.counters.cleanups

theorem isBalanced_gather {r : Except Error Findings} (h : (gather s command).Goes m t r m')
    (hm : IsBalanced m) : IsBalanced m' := by
  obtain ⟨u, trail, brought, -, rfl, -⟩ := goes_gather h
  exact congrArg (· + 1) hm

theorem IsBalanced.of_counters (hm : IsBalanced m) (h : m'.counters = m.counters) :
    IsBalanced m' := by
  unfold IsBalanced
  rw [h]
  exact hm

theorem Course.isBalanced {r : Except Error (List Handle)} (h : Course s cs m u r m')
    (hm : IsBalanced m) : IsBalanced m' := by
  cases h with
  | noQuery hq => exact hm
  | unlisted hq ha => exact hm.of_counters (keeps_isAdmitted stable_counters ha)
  | notAdmitted hq ha => exact hm.of_counters (keeps_isAdmitted stable_counters ha)
  | notCompiled hq ha hc => exact hm.of_counters (keeps_isAdmitted stable_counters ha)
  | @remembered q c paths t u r m₁ m₂ hq ha hc hl hf =>
    have hm₁ : IsBalanced m₁ := hm.of_counters (keeps_isAdmitted stable_counters ha)
    obtain ⟨-, -, rfl⟩ := goes_fromCache hf
    exact hm₁
  | rootUnknown hq ha hc hl => exact hm.of_counters (keeps_isAdmitted stable_counters ha)
  | noDirectory hq ha hc hl => exact hm.of_counters (keeps_isAdmitted stable_counters ha)
  | @run q c t u r m₁ m₂ hq ha hc hl hr =>
    have hm₁ : IsBalanced m₁ := hm.of_counters (keeps_isAdmitted stable_counters ha)
    rcases goes_runSearch hr with
      ⟨e, hp, -⟩ | ⟨m₃, v, w, -, hp, ⟨e, hg, -⟩ | ⟨f, m₄, hs, hg, -, -, rfl⟩⟩
    · exact hm₁.of_counters (keeps_prepare stable_counters hp)
    · exact isBalanced_gather hg (hm₁.of_counters (keeps_prepare stable_counters hp))
    · have hm₄ : IsBalanced m₄ :=
        isBalanced_gather hg (hm₁.of_counters (keeps_prepare stable_counters hp))
      exact hm₄

/-- One operation of a run. -/
theorem isBalanced_perform {op : Operation} {r : Except Error op.Value}
    (h : (op.perform s).Goes m t r m') (hm : IsBalanced m) : IsBalanced m' := by
  by_cases hs : ∃ cs, op = .search cs
  · obtain ⟨cs, rfl⟩ := hs
    exact (course_of_goes h).isBalanced hm
  · exact hm.of_counters (keeps_perform stable_counters (fun cs hc => hs ⟨cs, hc⟩) h)

theorem Run.isBalanced {ops : List Operation} (h : Run s m ops t m') (hm : IsBalanced m) :
    IsBalanced m' := by
  induction h with
  | nil => exact hm
  | snoc h hg ih => exact isBalanced_perform hg ih

/--
**When a search is an error.** Whatever has been done with a searcher and whoever answers, a search
comes to an end. It is an error exactly if its conditions are rejected, the mounts cannot be listed,
the host does not tell whether the root is a directory, the helper module cannot be loaded, there is
no place for the output, or the command itself fails or is given up. Once the command is answered in
time the search is a result, whatever happens to its output. And before and after every search, as
many have been cleaned up after as have come to their command.
-/
theorem search_fails_iff {mounts : Option (List Mount)} {lastStamp : Nat} {ops : List Operation}
    (cs : List Condition) (h : Run s (.initial mounts lastStamp) ops t m) :
    m.counters.executions = m.counters.cleanups ∧
      (∀ b : Behaviour, ∃ u r m', (search s cs).Goes m u r m' ∧ Follows b t u) ∧
        ∀ u r m', (search s cs).Goes m u r m' →
          (∀ e, r = .error e → Failure s cs m' u e) ∧
            (∀ hs, r = .ok hs → ∀ e, ¬Failure s cs m' u e) ∧
              (∀ x ∈ u, ∀ reply, IsSearchReply s cs x reply → IsAnswered reply →
                ∃ hs, r = .ok hs) ∧
                m'.counters.executions = m'.counters.cleanups := by
  have hm : IsBalanced m := h.isBalanced rfl
  refine ⟨hm, fun b => exists_goes b t _ m, fun u r m' hg => ?_⟩
  have hcourse : Course s cs m u r m' := course_of_goes hg
  obtain ⟨herror, hok⟩ := failure_of_course hcourse
  refine ⟨fun e he => (herror e he).1, hok, fun x hx reply hr ha => ?_, hcourse.isBalanced hm⟩
  cases r with
  | ok hs => exact ⟨hs, rfl⟩
  | error e => exact absurd ha ((herror e rfl).2 x hx reply hr)

/-- A compression that fails and a file that cannot be read leave a search without an error. -/
theorem search_survives_its_output :
    ∃ m', Run someSetup (.initial none 0) [] [] (.initial none 0) ∧
      (search someSetup [.root "/"]).Goes (.initial none 0) (someCapture ++ someFetch) (.ok []) m' ∧
      (∀ e, ¬Failure someSetup [.root "/"] m' (someCapture ++ someFetch) e) ∧
      m'.counters.executions = m'.counters.cleanups := by
  obtain ⟨m', hg⟩ := goes_someFetch
  have hrun : Run someSetup (.initial none 0) [] [] (.initial none 0) := .nil
  obtain ⟨-, hok, -, hbalanced⟩ := (search_fails_iff [.root "/"] hrun).2.2 _ _ _ hg
  exact ⟨m', hrun, hg, hok [] rfl, hbalanced⟩

end RemoteSearch.Searcher
