import RemoteSearch.Proofs.Execution
import RemoteSearch.Transfer.Basic

/-!
# Courses of transfers

How far a transfer comes, and what it has asked and recorded by then. There is one lemma for each
phase, and every phase has its own ways to fail:

* `goes_capture`: the directory is not known, or the command is run and gets a reply.
* `goes_fetch`: the compression gets no answer, the compressed file is not seen, or it is read.
* `goes_bring`: both phases, as far as they come, and then the cleanup.
-/

namespace RemoteSearch.Transfer

open RemoteSearch.Action Execution

variable {r : Route} {command raw path : String} {s s' : Trail} {t : Exchanges}

/-- The path of the file that a transfer captures output in. -/
def rawPath (r : Route) (directory : String) (stamp : Nat) : String :=
  rawName (closeDirectory r.session.delimiter directory) r.config.tempName stamp

/-- The exchange of a capture once the directory is known. -/
def captureExchange (r : Route) (command raw : String) (now : Int)
    (reply : Except Error Outcome) : Exchanges :=
  ⟨.home .clock, now⟩ :: ⟨.home (.watch raw r.config.watchInterval), ()⟩ ::
    (exchange r.budgets (r.shell.redirect command raw) .extraLong reply ++ diagnosticsNote reply ++
      [⟨.home (.unwatch r.config.watchJoin), ()⟩])

theorem goes_takeStamp {res : Except Error Nat} (h : takeStamp.Goes s t res s') :
    ∃ now : Int, t = [⟨.home .clock, now⟩] ∧ res = .ok (nextStamp s.lastStamp now) ∧
      s' = { s with lastStamp := nextStamp s.lastStamp now } := by
  unfold takeStamp at h
  obtain ⟨now, u, rfl, h1⟩ := goes_home_bind_iff.mp h
  have h2 := goes_modify_bind_iff.mp (goes_get_bind_iff.mp h1)
  obtain ⟨rfl, rfl, rfl⟩ := goes_pure_iff.mp h2
  exact ⟨now, rfl, rfl, rfl⟩

/-- **A capture records its file before the command starts**, and returns what becomes of it. -/
theorem goes_capture {res : Except Error String} (h : (capture r command).Goes s t res s') :
    (∃ e, t = [⟨.host .tempDir, .error e⟩] ∧ res = .error e ∧ s' = s) ∨
      ∃ directory now reply,
        let stamp := nextStamp s.lastStamp now
        let raw := rawPath r directory stamp
        t = ⟨.host .tempDir, .ok directory⟩ :: captureExchange r command raw now reply ∧
          res = (verdict (r.shell.redirect command raw) reply).map (fun _ => raw) ∧
          s' = { s with lastStamp := stamp, raw := some raw } := by
  unfold capture at h
  rcases goes_call_bind_iff.mp h with ⟨directory, u, rfl, h1⟩ | ⟨e, rfl, rfl, rfl⟩
  · rcases goes_bind_iff.mp h1 with ⟨stamp, s₁, u, w, rfl, h2, h3⟩ | ⟨e, rfl, h2⟩
    · obtain ⟨now, rfl, hs, rfl⟩ := goes_takeStamp h2
      cases hs
      obtain ⟨-, w, rfl, h4⟩ := goes_home_bind_iff.mp (goes_modify_bind_iff.mp h3)
      obtain ⟨ran, s₂, u, w, rfl, h5, h6⟩ := goes_result_bind_iff.mp h4
      obtain ⟨reply, rfl, rfl, rfl⟩ := goes_runInto_iff.mp h5
      obtain ⟨-, w, rfl, h7⟩ := goes_home_bind_iff.mp h6
      refine Or.inr ⟨directory, now, reply, ?_⟩
      rw [← map_eq_pure_bind] at h7
      obtain ⟨x, rfl, h8⟩ := goes_map_iff.mp h7
      obtain ⟨rfl, rfl, rfl⟩ := goes_ofResult_iff.mp h8
      refine ⟨by simp [captureExchange, rawPath], ?_, rfl⟩
      rw [rawPath]
      cases verdict _ reply <;> rfl
    · obtain ⟨now, -, hs, -⟩ := goes_takeStamp h2
      cases hs
  · exact Or.inl ⟨e, rfl, rfl, rfl⟩

/-! ## Looks for files -/

/-- A look of a transfer for a file, with its answer. -/
def look (path : String) (seen : Except Error Bool) : Dialogue.Exchange Request.Reply :=
  ⟨.host (.isPresent path .readVolatile), seen⟩

/-- Whether a file is looked for. -/
def isLook : Dialogue.Exchange Request.Reply → Bool
  | ⟨.host (.isPresent ..), _⟩ => true
  | _ => false

/-- An exchange without a look for a file. -/
def IsBlind (t : Exchanges) : Prop := ∀ e ∈ t, isLook e = false

theorem IsBlind.append {u : Exchanges} (ht : IsBlind t) (hu : IsBlind u) : IsBlind (t ++ u) := by
  intro e he
  rcases List.mem_append.mp he with h | h
  · exact ht e h
  · exact hu e h

theorem isBlind_exchange {budgets : Budgets} {tier : Tier} {reply : Except Error Outcome} :
    IsBlind (exchange budgets command tier reply) := by
  cases reply with
  | error e => simp [IsBlind, exchange, timeoutNote, isLook]
  | ok o => cases h : o.timedOut <;> simp [IsBlind, exchange, timeoutNote, isLook, h]

theorem isBlind_diagnosticsNote {reply : Except Error Outcome} :
    IsBlind (diagnosticsNote reply) := by
  unfold diagnosticsNote
  split
  · split <;> simp [IsBlind, isLook]
  · simp [IsBlind]

theorem isBlind_captureExchange {now : Int} {reply : Except Error Outcome} :
    IsBlind (captureExchange r command raw now reply) := by
  have hbegin : IsBlind [⟨.home .clock, now⟩, ⟨.home (.watch raw r.config.watchInterval), ()⟩] := by
    simp [IsBlind, isLook]
  have hend : IsBlind [⟨.home (.unwatch r.config.watchJoin), ()⟩] := by simp [IsBlind, isLook]
  exact hbegin.append ((isBlind_exchange.append isBlind_diagnosticsNote).append hend)

/-! ## Reading the compressed file -/

/-- The exchange in which a compressed file is read to its end. -/
def readExchange (r : Route) (path : String) (bytes : List UInt8) : Exchanges :=
  if r.session.isLocal then [⟨.home (.readHere path), .ok bytes⟩]
  else
    [⟨.home (.makeCopy (copyDirectory r)), .ok ()⟩, ⟨.host (.read path .readOnly), .ok ⟨bytes, none⟩⟩]

/-- Requests that only read a file. -/
def IsReading (path : String) : Request → Prop
  | .host c => c = .read path .readOnly
  | .home c => c = .readHere path ∨ ∃ directory, c = .makeCopy directory

theorem goes_readHere {res : Except Error (List UInt8)} (h : (readHere path).Goes s t res s') :
    ∃ x, t = [⟨.home (.readHere path), x⟩] ∧ s' = s ∧ ∀ b, res = .ok b → x = .ok b := by
  unfold readHere at h
  obtain ⟨x, u, rfl, h1⟩ := goes_home_bind_iff.mp h
  cases x with
  | ok b =>
    obtain ⟨rfl, rfl, rfl⟩ := goes_pure_iff.mp h1
    exact ⟨.ok b, rfl, rfl, fun _ hb => by cases hb; rfl⟩
  | error e =>
    obtain ⟨rfl, rfl, rfl⟩ := goes_throw_iff.mp h1
    exact ⟨.error e, rfl, rfl, fun _ hb => by cases hb⟩

theorem goes_copyHere {res : Except Error (List UInt8)} (h : (copyHere r path).Goes s t res s') :
    s' = { s with copied := s'.copied } ∧ (∀ e ∈ t, IsReading path e.1) ∧
      ∀ b, res = .ok b →
        t = [⟨.home (.makeCopy (copyDirectory r)), .ok ()⟩,
          ⟨.host (.read path .readOnly), .ok ⟨b, none⟩⟩] := by
  unfold copyHere at h
  obtain ⟨made, u, rfl, h1⟩ := goes_home_bind_iff.mp h
  rcases goes_ofResult_bind_iff.mp h1 with ⟨-, rfl, h2⟩ | ⟨e, rfl, rfl, rfl, rfl⟩
  · rcases goes_call_bind_iff.mp (goes_modify_bind_iff.mp h2) with ⟨content, w, rfl, h3⟩ |
      ⟨e, rfl, rfl, rfl⟩
    · obtain ⟨bytes, failure⟩ := content
      cases failure with
      | none =>
        obtain ⟨rfl, rfl, rfl⟩ := goes_pure_iff.mp h3
        exact ⟨rfl, by simp [IsReading], fun _ hb => by cases hb; rfl⟩
      | some reason =>
        obtain ⟨rfl, rfl, rfl⟩ := goes_throw_iff.mp h3
        exact ⟨rfl, by simp [IsReading], fun _ hb => by cases hb⟩
    · exact ⟨rfl, by simp [IsReading], fun _ hb => by cases hb⟩
  · exact ⟨rfl, by simp [IsReading], fun _ hb => by cases hb⟩

/-- Reading changes nothing in the records but whether there is a copy. -/
theorem goes_read {res : Except Error (List UInt8)}
    (h : (if r.session.isLocal then readHere path else copyHere r path).Goes s t res s') :
    s' = { s with copied := s'.copied } ∧ (∀ e ∈ t, IsReading path e.1) ∧
      ∀ b, res = .ok b → t = readExchange r path b := by
  unfold readExchange
  by_cases hl : r.session.isLocal = true
  · rw [if_pos hl] at h
    obtain ⟨x, rfl, rfl, hx⟩ := goes_readHere h
    refine ⟨rfl, by simp [IsReading], fun b hb => ?_⟩
    rw [if_pos hl, hx b hb]
  · rw [if_neg hl] at h
    obtain ⟨hs, ht, hb⟩ := goes_copyHere h
    refine ⟨hs, ht, fun b hr => ?_⟩
    rw [if_neg hl, hb b hr]

/-! ## Fetching -/

/--
**A fetch forgets the raw file only when the compression is answered and its file is seen.** In
every other case it fails with both files on record.
-/
theorem goes_fetch {res : Except Error (List UInt8)} (h : (fetch r raw).Goes s t res s') :
    ∃ reply u,
      t = exchange r.budgets (r.shell.compress raw) .medium reply ++ u ∧
      ((¬IsAnswered reply ∧ u = [] ∧ (∃ e, res = .error e) ∧
          s' = { s with compressed := some (compressedName raw) }) ∨
        (IsAnswered reply ∧ ∃ seen w,
          u = ⟨.host (.isPresent (compressedName raw) .readVolatile), seen⟩ :: w ∧
          ((seen ≠ .ok true ∧ w = [] ∧ (∃ e, res = .error e) ∧
              s' = { s with compressed := some (compressedName raw) }) ∨
            (seen = .ok true ∧
              s' = { s with raw := none, compressed := some (compressedName raw),
                            copied := s'.copied } ∧
              (∀ e ∈ w, IsReading (compressedName raw) e.1) ∧
              ∀ b, res = .ok b → w = readExchange r (compressedName raw) b)))) := by
  unfold fetch at h
  rcases goes_bind_iff.mp (goes_modify_bind_iff.mp h) with
    ⟨o, s₁, u, w, rfl, h1, h2⟩ | ⟨e, rfl, h1⟩
  · obtain ⟨reply, rfl, hv, rfl⟩ := goes_run_iff.mp h1
    obtain ⟨ha, -⟩ := map_verdict_eq_ok hv.symm
    refine ⟨reply, w, rfl, Or.inr ⟨ha, ?_⟩⟩
    rcases goes_call_bind_iff.mp h2 with ⟨seen, w, rfl, h3⟩ | ⟨e, rfl, rfl, rfl⟩
    · refine ⟨.ok seen, w, rfl, ?_⟩
      cases seen with
      | true =>
        rw [if_pos rfl] at h3
        obtain ⟨hs, hw, hb⟩ := goes_read (goes_modify_bind_iff.mp h3)
        exact Or.inr ⟨rfl, hs, hw, hb⟩
      | false =>
        rw [if_neg Bool.false_ne_true] at h3
        obtain ⟨rfl, rfl, rfl⟩ := goes_throw_iff.mp h3
        exact Or.inl ⟨by simp, rfl, ⟨_, rfl⟩, rfl⟩
    · exact ⟨.error e, [], rfl, Or.inl ⟨by simp, rfl, ⟨e, rfl⟩, rfl⟩⟩
  · obtain ⟨reply, rfl, hv, rfl⟩ := goes_run_iff.mp h1
    exact ⟨reply, [], by simp, Or.inl ⟨map_verdict_eq_error hv.symm, rfl, ⟨e, rfl⟩, rfl⟩⟩

/-! ## Cleaning up -/

/--
The exchanges in which files are discarded one after another. A file is deleted unless the host
denies that it is there; what the host answers to the deletion does not matter.
-/
inductive Discards : List String → Exchanges → Prop where
  | nil : Discards [] []
  | gone {path : String} {l : List String} {t : Exchanges} (h : Discards l t) :
      Discards (path :: l) (⟨.host (.isPresent path .readVolatile), .ok false⟩ :: t)
  | deleted {path : String} {l : List String} {t : Exchanges} {seen : Except Error Bool}
      (hs : seen ≠ .ok false) (x : Except Error Unit) (h : Discards l t) :
      Discards (path :: l)
        (⟨.host (.isPresent path .readVolatile), seen⟩ :: ⟨.host (.delete path), x⟩ :: t)

theorem goes_discard {res : Except Error Unit} (h : (discard path).Goes s t res s') :
    res = .ok () ∧ s' = s ∧
      (t = [⟨.host (.isPresent path .readVolatile), .ok false⟩] ∨
        ∃ seen x, seen ≠ .ok false ∧
          t = [⟨.host (.isPresent path .readVolatile), seen⟩, ⟨.host (.delete path), x⟩]) := by
  unfold discard at h
  obtain ⟨seen, s₁, u, w, rfl, h1, h2⟩ := goes_result_bind_iff.mp h
  obtain ⟨rfl, rfl⟩ := goes_call_iff.mp h1
  by_cases hs : seen = .ok false
  · subst hs
    obtain ⟨rfl, rfl, rfl⟩ := goes_pure_iff.mp h2
    exact ⟨rfl, rfl, Or.inl rfl⟩
  · have hm : ((call (.delete path)).result >>= fun _ => pure () : Action Trail Unit).Goes
        s₁ w res s' := by
      match seen, hs, h2 with
      | .ok true, _, h2 => exact h2
      | .error e, _, h2 => exact h2
    obtain ⟨x, s₂, u, w, rfl, h3, h4⟩ := goes_result_bind_iff.mp hm
    obtain ⟨rfl, rfl⟩ := goes_call_iff.mp h3
    obtain ⟨rfl, rfl, rfl⟩ := goes_pure_iff.mp h4
    exact ⟨rfl, rfl, Or.inr ⟨seen, x, hs, rfl⟩⟩

theorem goes_forM_discard {l : List String} {res : Except Error Unit}
    (h : (l.forM discard).Goes s t res s') : res = .ok () ∧ s' = s ∧ Discards l t := by
  induction l generalizing s t with
  | nil =>
    obtain ⟨rfl, rfl, rfl⟩ := goes_pure_iff.mp h
    exact ⟨rfl, rfl, .nil⟩
  | cons p l ih =>
    have hb : (discard p >>= fun _ => l.forM discard).Goes s t res s' := h
    rcases goes_bind_iff.mp hb with ⟨_, s₁, u, w, rfl, h1, h2⟩ | ⟨e, rfl, h1⟩
    · obtain ⟨-, rfl, hu⟩ := goes_discard h1
      obtain ⟨rfl, rfl, hd⟩ := ih h2
      refine ⟨rfl, rfl, ?_⟩
      rcases hu with rfl | ⟨seen, x, hs, rfl⟩
      · exact .gone hd
      · exact .deleted hs x hd
    · obtain ⟨hr, -, -⟩ := goes_discard h1
      cases hr

/-- The request that removes the local copy, if there is one. -/
def dropExchange (copied : Bool) : Exchanges := if copied then [⟨.home .dropCopy, ()⟩] else []

/-- **A cleanup never fails**, and asks about every file on record. -/
theorem goes_cleanUp {res : Except Error Unit} (h : cleanUp.Goes s t res s') :
    res = .ok () ∧ s' = s ∧ ∃ u, Discards s.files u ∧ t = u ++ dropExchange s.copied := by
  unfold cleanUp at h
  rcases goes_bind_iff.mp (goes_get_bind_iff.mp h) with ⟨_, s₁, u, w, rfl, h1, h2⟩ | ⟨e, rfl, h1⟩
  · obtain ⟨-, rfl, hd⟩ := goes_forM_discard h1
    unfold dropExchange
    by_cases hc : s₁.copied = true
    · rw [if_pos hc] at h2 ⊢
      obtain ⟨-, rfl, rfl, rfl⟩ := goes_home_iff.mp h2
      exact ⟨rfl, rfl, u, hd, rfl⟩
    · rw [if_neg hc] at h2 ⊢
      obtain ⟨rfl, rfl, rfl⟩ := goes_pure_iff.mp h2
      exact ⟨rfl, rfl, u, hd, rfl⟩
  · obtain ⟨hr, -, -⟩ := goes_forM_discard h1
    cases hr

/-! ## The whole transfer -/

/-- **A transfer cleans up whatever came before**, and its result is that of the last phase. -/
theorem goes_bring {res : Except Error (Except Error (List UInt8))}
    (h : (bring r command).Goes s t res s') :
    ∃ u v, Discards s'.files v ∧ t = u ++ (v ++ dropExchange s'.copied) ∧
      ((∃ e, (capture r command).Goes s u (.error e) s' ∧ res = .error e) ∨
        ∃ raw s₁ a b x, u = a ++ b ∧ (capture r command).Goes s a (.ok raw) s₁ ∧
          (fetch r raw).Goes s₁ b x s' ∧ res = .ok x) := by
  unfold bring at h
  obtain ⟨brought, s₁, u, w, rfl, h1, h2⟩ := goes_result_bind_iff.mp h
  rcases goes_bind_iff.mp h2 with ⟨_, s₂, v, w, rfl, h3, h4⟩ | ⟨e, rfl, h3⟩
  · obtain ⟨-, rfl, v, hv, rfl⟩ := goes_cleanUp h3
    obtain ⟨rfl, rfl, rfl⟩ := goes_ofResult_iff.mp h4
    refine ⟨u, v, hv, by simp, ?_⟩
    rcases goes_bind_iff.mp h1 with ⟨raw, s₁, a, b, rfl, h5, h6⟩ | ⟨e, rfl, h5⟩
    · obtain ⟨x, rfl, h7⟩ := goes_result_iff.mp h6
      exact Or.inr ⟨raw, s₁, a, b, x, rfl, h5, h7, rfl⟩
    · exact Or.inl ⟨e, h5, rfl⟩
  · obtain ⟨hr, -, -⟩ := goes_cleanUp h3
    cases hr

/-- The exchange of a transfer that brings its output home, before the cleanup. -/
def fullExchange (r : Route) (command directory raw : String) (now : Int)
    (ran packed : Except Error Outcome) (bytes : List UInt8) : Exchanges :=
  ⟨.host .tempDir, .ok directory⟩ ::
    (captureExchange r command raw now ran ++
      exchange r.budgets (r.shell.compress raw) .medium packed ++
      ⟨.host (.isPresent (compressedName raw) .readVolatile), .ok true⟩ ::
        readExchange r (compressedName raw) bytes)

/--
**Output comes home only if nothing fails on the way**: both commands are answered, the compressed
file is seen, and it is read to its end. Then it is the only file that is left to discard.
-/
theorem goes_bring_ok {bytes : List UInt8} (h : (bring r command).Goes s t (.ok (.ok bytes)) s') :
    ∃ directory now ran packed v,
      let raw := rawPath r directory (nextStamp s.lastStamp now)
      IsAnswered ran ∧ IsAnswered packed ∧ Discards [compressedName raw] v ∧
        t = fullExchange r command directory raw now ran packed bytes ++
          (v ++ dropExchange s'.copied) := by
  obtain ⟨u, v, hv, rfl, ⟨e, -, he⟩ | ⟨raw, s₁, a, b, x, rfl, hcap, hfetch, hx⟩⟩ := goes_bring h
  · cases he
  · cases hx
    rcases goes_capture hcap with ⟨e, -, he, -⟩ | ⟨directory, now, ran, rfl, hran, rfl⟩
    · cases he
    · obtain ⟨hr, -, hraw⟩ := map_verdict_eq_ok hran.symm
      subst hraw
      obtain ⟨packed, w, rfl, ⟨-, -, ⟨e, he⟩, -⟩ | ⟨hp, seen, z, rfl, hz⟩⟩ := goes_fetch hfetch
      · cases he
      · rcases hz with ⟨-, -, ⟨e, he⟩, -⟩ | ⟨rfl, hs, -, hbytes⟩
        · cases he
        · have hfiles : s'.files = [compressedName
              (rawPath r directory (nextStamp s.lastStamp now))] := by
            rw [hs]
            rfl
          rw [hfiles] at hv
          rw [hbytes bytes rfl]
          exact ⟨directory, now, ran, packed, v, hr, hp, hv, by simp [fullExchange]⟩

end RemoteSearch.Transfer
