import RemoteSearch.Proofs.Action
import RemoteSearch.Session.Execution

/-!
# Courses of commands

A command makes one call. What it comes to depends on the reply alone: `verdict` is the result, and
`exchange` the requests around the call, which are lines of the log. A command never touches the
memory.
-/

namespace RemoteSearch.Execution

open Text RemoteSearch.Action

variable {σ : Type} {s s' : σ} {t : Exchanges} {budgets : Budgets} {command : String} {tier : Tier}

/-- What a reply to a command is taken for: giving up is an error. -/
def verdict (command : String) : Except Error Outcome → Except Error Outcome
  | .ok o =>
    if o.timedOut then .error (.exec (.timeout command (1000 * o.duration) o.stdout)) else .ok o
  | .error e => .error e

/-- A command is answered when it ends before its time is up, with whatever exit code. -/
def IsAnswered (reply : Except Error Outcome) : Prop := ∃ o, reply = .ok o ∧ o.timedOut = false

/-- The line of the log for a command that is given up. -/
def timeoutNote (command : String) : Except Error Outcome → Exchanges
  | .ok o =>
    if o.timedOut then [⟨.home (.note "command timed out" (excerpt command)), ()⟩] else []
  | .error _ => []

/-- The exchange of a command that gets a reply. -/
def exchange (budgets : Budgets) (command : String) (tier : Tier)
    (reply : Except Error Outcome) : Exchanges :=
  ⟨.home (.note "executing" (excerpt command)), ()⟩ ::
    ⟨.host (.execute command (budgets tier)), reply⟩ :: timeoutNote command reply

/-- The line of the log for a command that writes diagnostics. -/
def diagnosticsNote : Except Error Outcome → Exchanges
  | .ok o =>
    if !o.timedOut && !allBlank o.stderr then
      [⟨.home (.note "search wrote diagnostics" (excerpt (trimmed o.stderr))), ()⟩]
    else []
  | .error _ => []

@[simp] theorem hostCalls_exchange (reply : Except Error Outcome) :
    hostCalls (exchange budgets command tier reply) = [.execute command (budgets tier)] := by
  cases reply with
  | error e => rfl
  | ok o => cases h : o.timedOut <;> simp [exchange, timeoutNote, h]

theorem verdict_eq_ok_iff {reply : Except Error Outcome} {o : Outcome} :
    verdict command reply = .ok o ↔ reply = .ok o ∧ o.timedOut = false := by
  cases reply with
  | error e => simp [verdict]
  | ok o' =>
    by_cases h : o'.timedOut = true
    · simp only [verdict, h, if_true, Except.ok.injEq, reduceCtorEq, false_iff, not_and]
      rintro rfl
      simp [h]
    · simp only [verdict, h, Bool.false_eq_true, if_false, Except.ok.injEq]
      constructor
      · rintro rfl
        exact ⟨rfl, by simpa using h⟩
      · exact And.left

/-- What is made of a success comes from a command that is answered. -/
theorem map_verdict_eq_ok {α : Type} {f : Outcome → α} {b : α} {reply : Except Error Outcome}
    (h : (verdict command reply).map f = .ok b) : IsAnswered reply ∧ ∃ o, f o = b := by
  cases hv : verdict command reply with
  | ok o =>
    rw [hv] at h
    cases h
    exact ⟨⟨o, verdict_eq_ok_iff.mp hv⟩, o, rfl⟩
  | error e =>
    rw [hv] at h
    cases h

/-- A command that is answered has no failure as its verdict. -/
theorem map_verdict_eq_error {α : Type} {f : Outcome → α} {e : Error}
    {reply : Except Error Outcome} (h : (verdict command reply).map f = .error e) :
    ¬IsAnswered reply := by
  rintro ⟨o, ho⟩
  rw [verdict_eq_ok_iff.mpr ho] at h
  cases h

/-- **A command is one call, and its verdict follows from the reply.** -/
theorem goes_execute_iff {r : Except Error Outcome} :
    (execute budgets command tier : Action σ Outcome).Goes s t r s' ↔
      ∃ reply, t = exchange budgets command tier reply ∧ r = verdict command reply ∧ s' = s := by
  unfold execute note
  constructor
  · intro h
    obtain ⟨-, u, rfl, h1⟩ := goes_home_bind_iff.mp h
    rcases goes_call_bind_iff.mp h1 with ⟨o, u, rfl, h2⟩ | ⟨e, rfl, rfl, rfl⟩
    · refine ⟨.ok o, ?_⟩
      by_cases ho : o.timedOut = true
      · rw [if_pos ho] at h2
        obtain ⟨-, u, rfl, h3⟩ := goes_home_bind_iff.mp h2
        obtain ⟨rfl, rfl, rfl⟩ := goes_throw_iff.mp h3
        simp [exchange, timeoutNote, verdict, ho]
      · rw [if_neg ho] at h2
        obtain ⟨rfl, rfl, rfl⟩ := goes_pure_iff.mp h2
        simp [exchange, timeoutNote, verdict, ho]
    · exact ⟨.error e, rfl, rfl, rfl⟩
  · rintro ⟨reply, rfl, rfl, rfl⟩
    refine goes_home_bind_iff.mpr ⟨(), _, rfl, goes_call_bind_iff.mpr ?_⟩
    cases reply with
    | error e => exact Or.inr ⟨e, rfl, rfl, rfl⟩
    | ok o =>
      refine Or.inl ⟨o, _, rfl, ?_⟩
      by_cases ho : o.timedOut = true
      · rw [if_pos ho]
        refine goes_home_bind_iff.mpr ⟨(), [], by simp [timeoutNote, ho], ?_⟩
        exact goes_throw_iff.mpr ⟨rfl, by simp [verdict, ho], rfl⟩
      · rw [if_neg ho]
        exact goes_pure_iff.mpr ⟨by simp [timeoutNote, ho], by simp [verdict, ho], rfl⟩

theorem keeps_execute {ρ : Type} {view : σ → ρ} :
    (execute budgets command tier : Action σ Outcome).Keeps view := by
  intro s t r s' h
  obtain ⟨reply, -, -, rfl⟩ := goes_execute_iff.mp h
  rfl

/-- A command that is run for what it writes. -/
theorem goes_run_iff {r : Except Error String} :
    (run budgets command tier : Action σ String).Goes s t r s' ↔
      ∃ reply, t = exchange budgets command tier reply ∧
        r = (verdict command reply).map Outcome.stdout ∧ s' = s := by
  unfold run
  rw [← map_eq_pure_bind, goes_map_iff]
  constructor
  · rintro ⟨x, rfl, h⟩
    obtain ⟨reply, rfl, rfl, rfl⟩ := goes_execute_iff.mp h
    exact ⟨reply, rfl, rfl, rfl⟩
  · rintro ⟨reply, rfl, rfl, rfl⟩
    exact ⟨_, rfl, goes_execute_iff.mpr ⟨reply, rfl, rfl, rfl⟩⟩

theorem keeps_run {ρ : Type} {view : σ → ρ} :
    (run budgets command tier : Action σ String).Keeps view :=
  keeps_execute.bind fun o => keeps_pure o.stdout

/-- A command whose output goes to a file. -/
theorem goes_runInto_iff {shell : Shell} {path : String} {r : Except Error Unit} :
    (runInto budgets shell command path tier : Action σ Unit).Goes s t r s' ↔
      ∃ reply,
        t = exchange budgets (shell.redirect command path) tier reply ++ diagnosticsNote reply ∧
        r = (verdict (shell.redirect command path) reply).map (fun _ => ()) ∧ s' = s := by
  unfold runInto
  rw [goes_bind_iff]
  simp only [goes_execute_iff]
  constructor
  · rintro (⟨o, s₁, u, w, rfl, ⟨reply, rfl, hv, rfl⟩, h⟩ | ⟨e, rfl, ⟨reply, rfl, hv, rfl⟩⟩)
    · obtain ⟨rfl, ho⟩ := verdict_eq_ok_iff.mp hv.symm
      refine ⟨.ok o, ?_⟩
      by_cases hb : allBlank o.stderr = true
      · simp only [hb] at h
        obtain ⟨rfl, rfl, rfl⟩ := goes_pure_iff.mp h
        simp [diagnosticsNote, hb, verdict, ho, Except.map]
      · simp only [hb] at h
        obtain ⟨-, rfl, rfl, rfl⟩ := goes_home_iff.mp h
        simp [diagnosticsNote, hb, verdict, ho, Except.map]
    · refine ⟨reply, ?_, by rw [← hv]; rfl, rfl⟩
      cases reply with
      | error e' => simp [diagnosticsNote]
      | ok o =>
        cases ho : o.timedOut with
        | true => simp [diagnosticsNote, ho]
        | false => simp [verdict, ho] at hv
  · rintro ⟨reply, rfl, rfl, rfl⟩
    cases reply with
    | error e => exact Or.inr ⟨e, rfl, .error e, by simp [diagnosticsNote], rfl, rfl⟩
    | ok o =>
      by_cases ho : o.timedOut = true
      · exact Or.inr ⟨_, by simp [verdict, ho, Except.map]; rfl, .ok o,
          by simp [diagnosticsNote, ho], by simp [verdict, ho], rfl⟩
      · refine Or.inl ⟨o, s', _, _, rfl, ⟨.ok o, rfl, by simp [verdict, ho], rfl⟩, ?_⟩
        by_cases hb : allBlank o.stderr = true
        · simp [diagnosticsNote, hb, verdict, ho, Except.map]
        · rw [if_pos (by simpa using hb)]
          exact goes_home_iff.mpr ⟨(), by simp [diagnosticsNote, hb, ho],
            by simp [verdict, ho, Except.map], rfl⟩

end RemoteSearch.Execution
