import RemoteSearch.Session.Action

/-!
# Courses of actions

An action has many courses, one for every way in which its requests can be answered. `Action.Goes`
relates an action and the memory it begins with to one of them: the exchange, the result, and the
memory after it.

* `exists_goes`: whoever answers, every action comes to an end.
* `goes_bind_iff` and the laws beside it take the course of a composed action apart.
* `Keeps` is the frame: what an action leaves as it is in every course. Its laws follow the way the
  action is composed, so that a frame is proved without looking at any exchange.
-/

namespace RemoteSearch

/-- An exchange with the outside: requests with their answers, oldest first. -/
abbrev Exchanges : Type := List (Dialogue.Exchange Request.Reply)

/-! ### Calls of an exchange -/

@[simp] theorem hostCalls_nil : hostCalls [] = [] := rfl

@[simp] theorem hostCalls_append (t u : Exchanges) :
    hostCalls (t ++ u) = hostCalls t ++ hostCalls u := List.filterMap_append

@[simp] theorem hostCalls_host (c : HostCall) (x : Except Error c.Value) (t : Exchanges) :
    hostCalls (⟨.host c, x⟩ :: t) = c :: hostCalls t := rfl

@[simp] theorem hostCalls_home (c : HomeCall) (x : c.Answer) (t : Exchanges) :
    hostCalls (⟨.home c, x⟩ :: t) = hostCalls t := rfl

/-! ### Behaviours -/

/-- What the outside answers to a request, which may depend on everything before it. -/
abbrev Behaviour : Type := Exchanges → (q : Request) → q.Reply

/-- The answers of an exchange that comes after another are those of a behaviour. -/
def Follows (b : Behaviour) (past : Exchanges) : Exchanges → Prop
  | [] => True
  | e :: t => e.2 = b past e.1 ∧ Follows b (past ++ [e]) t

theorem exists_goes_of_talk {α : Type} (b : Behaviour) (d : Talk α) (past : Exchanges) :
    ∃ t a, Dialogue.Goes d t a ∧ Follows b past t := by
  induction d generalizing past with
  | done a => exact ⟨[], a, .done a, trivial⟩
  | ask q next ih =>
    obtain ⟨t, a, hg, hf⟩ := ih (b past q) (past ++ [⟨q, b past q⟩])
    exact ⟨⟨q, b past q⟩ :: t, a, .ask hg, rfl, hf⟩

namespace Action

variable {σ τ ρ α β : Type}

/-- The action can go from one memory to another with an exchange and a result. -/
def Goes (a : Action σ α) (s : σ) (t : Exchanges) (r : Except Error α) (s' : σ) : Prop :=
  Dialogue.Goes (a.start s) t (r, s')

/-- **Whoever answers, an action comes to an end.** -/
theorem exists_goes (b : Behaviour) (past : Exchanges) (a : Action σ α) (s : σ) :
    ∃ t r s', a.Goes s t r s' ∧ Follows b past t := by
  obtain ⟨t, ⟨r, s'⟩, hg, hf⟩ := exists_goes_of_talk b (a.start s) past
  exact ⟨t, r, s', hg, hf⟩

section Laws

variable {s s' : σ} {t : Exchanges}

@[simp] theorem goes_pure_iff {a : α} {r : Except Error α} :
    (pure a : Action σ α).Goes s t r s' ↔ t = [] ∧ r = .ok a ∧ s' = s := by
  simp [Goes, Dialogue.goes_done_iff]

@[simp] theorem goes_throw_iff {e : Error} {r : Except Error α} :
    (throw e : Action σ α).Goes s t r s' ↔ t = [] ∧ r = .error e ∧ s' = s := by
  simp [Goes, Dialogue.goes_done_iff]

@[simp] theorem goes_get_iff {r : Except Error σ} :
    (get : Action σ σ).Goes s t r s' ↔ t = [] ∧ r = .ok s ∧ s' = s := by
  simp [Goes, Dialogue.goes_done_iff]

@[simp] theorem goes_modify_iff {f : σ → σ} {r : Except Error Unit} :
    (modify f : Action σ Unit).Goes s t r s' ↔ t = [] ∧ r = .ok () ∧ s' = f s := by
  simp [Goes, Dialogue.goes_done_iff]

@[simp] theorem goes_ofResult_iff {x r : Except Error α} :
    (ofResult x : Action σ α).Goes s t r s' ↔ t = [] ∧ r = x ∧ s' = s := by
  simp [Goes, Dialogue.goes_done_iff]

@[simp] theorem goes_home_iff {c : HomeCall} {r : Except Error c.Answer} :
    (home c : Action σ c.Answer).Goes s t r s' ↔
      ∃ x, t = [⟨.home c, x⟩] ∧ r = .ok x ∧ s' = s := by
  simp only [Goes, start_home, Dialogue.goes_ask_iff, Dialogue.goes_done_iff, Prod.mk.injEq]
  constructor
  · rintro ⟨x, u, rfl, rfl, hr, hs⟩
    exact ⟨x, rfl, hr, hs⟩
  · rintro ⟨x, rfl, hr, hs⟩
    exact ⟨x, [], rfl, rfl, hr, hs⟩

@[simp] theorem goes_call_iff {c : HostCall} {r : Except Error c.Value} :
    (call c : Action σ c.Value).Goes s t r s' ↔ t = [⟨.host c, r⟩] ∧ s' = s := by
  simp only [Goes, start_call, Dialogue.goes_ask_iff, Dialogue.goes_done_iff, Prod.mk.injEq]
  constructor
  · rintro ⟨x, u, rfl, rfl, rfl, rfl⟩
    exact ⟨rfl, rfl⟩
  · rintro ⟨rfl, rfl⟩
    exact ⟨r, [], rfl, rfl, rfl, rfl⟩

/--
**The course of two actions, one after the other.** Either both have a course, or the first fails
and the second never begins.
-/
theorem goes_bind_iff {a : Action σ α} {f : α → Action σ β} {r : Except Error β} :
    (a >>= f).Goes s t r s' ↔
      (∃ v s₁ u w, t = u ++ w ∧ a.Goes s u (.ok v) s₁ ∧ (f v).Goes s₁ w r s') ∨
        ∃ e, r = .error e ∧ a.Goes s t (.error e) s' := by
  simp only [Goes, start_bind, Dialogue.goes_bind_iff]
  constructor
  · rintro ⟨⟨x, s₁⟩, u, w, rfl, h1, h2⟩
    cases x with
    | ok v => exact Or.inl ⟨v, s₁, u, w, rfl, h1, h2⟩
    | error e =>
      obtain ⟨rfl, he⟩ := Dialogue.goes_done_iff.mp h2
      obtain ⟨rfl, rfl⟩ := Prod.mk.inj he
      exact Or.inr ⟨e, rfl, by simpa using h1⟩
  · rintro (⟨v, s₁, u, w, rfl, h1, h2⟩ | ⟨e, rfl, h⟩)
    · exact ⟨(.ok v, s₁), u, w, rfl, h1, h2⟩
    · exact ⟨(.error e, s'), t, [], by simp, h, .done _⟩

theorem goes_map_iff {a : Action σ α} {f : α → β} {r : Except Error β} :
    (f <$> a).Goes s t r s' ↔ ∃ x, r = x.map f ∧ a.Goes s t x s' := by
  rw [map_eq_pure_bind, goes_bind_iff]
  constructor
  · rintro (⟨v, s₁, u, w, rfl, h1, h2⟩ | ⟨e, rfl, h⟩)
    · obtain ⟨rfl, rfl, rfl⟩ := goes_pure_iff.mp h2
      exact ⟨.ok v, rfl, by simpa using h1⟩
    · exact ⟨.error e, rfl, h⟩
  · rintro ⟨x, rfl, h⟩
    cases x with
    | ok v => exact Or.inl ⟨v, s', t, [], by simp, h, by simp [Except.map]⟩
    | error e => exact Or.inr ⟨e, rfl, h⟩

@[simp] theorem goes_result_iff {a : Action σ α} {r : Except Error (Except Error α)} :
    a.result.Goes s t r s' ↔ ∃ x, r = .ok x ∧ a.Goes s t x s' := by
  simp only [Goes, start_result, Dialogue.goes_bind_iff, Dialogue.goes_done_iff]
  constructor
  · rintro ⟨⟨x, s₁⟩, u, w, rfl, h, rfl, he⟩
    obtain ⟨rfl, rfl⟩ := Prod.mk.inj he
    exact ⟨x, rfl, by simpa using h⟩
  · rintro ⟨x, rfl, h⟩
    exact ⟨(x, s'), t, [], by simp, h, rfl, rfl⟩

@[simp] theorem goes_onPart_iff {part : σ → τ} {put : τ → σ → σ} {a : Action τ α}
    {r : Except Error α} :
    (onPart part put a).Goes s t r s' ↔ ∃ p, s' = put p s ∧ a.Goes (part s) t r p := by
  simp only [Goes, start_onPart, Dialogue.goes_bind_iff, Dialogue.goes_done_iff]
  constructor
  · rintro ⟨⟨x, p⟩, u, w, rfl, h, rfl, he⟩
    obtain ⟨rfl, rfl⟩ := Prod.mk.inj he
    exact ⟨p, rfl, by simpa using h⟩
  · rintro ⟨p, rfl, h⟩
    exact ⟨(r, p), t, [], by simp, h, rfl, rfl⟩

/-! ### First steps

What is left of a course after a first step that is known.
-/

theorem goes_get_bind_iff {f : σ → Action σ β} {r : Except Error β} :
    (get >>= f : Action σ β).Goes s t r s' ↔ (f s).Goes s t r s' := by
  rw [goes_bind_iff]
  constructor
  · rintro (⟨v, s₁, u, w, rfl, h1, h2⟩ | ⟨e, rfl, h⟩)
    · obtain ⟨rfl, hv, rfl⟩ := goes_get_iff.mp h1
      cases hv
      exact h2
    · simp at h
  · intro h
    exact Or.inl ⟨s, s, [], t, rfl, goes_get_iff.mpr ⟨rfl, rfl, rfl⟩, h⟩

theorem goes_modify_bind_iff {g : σ → σ} {f : Unit → Action σ β} {r : Except Error β} :
    (modify g >>= f : Action σ β).Goes s t r s' ↔ (f ()).Goes (g s) t r s' := by
  rw [goes_bind_iff]
  constructor
  · rintro (⟨v, s₁, u, w, rfl, h1, h2⟩ | ⟨e, rfl, h⟩)
    · obtain ⟨rfl, -, rfl⟩ := goes_modify_iff.mp h1
      exact h2
    · simp at h
  · intro h
    exact Or.inl ⟨(), g s, [], t, rfl, goes_modify_iff.mpr ⟨rfl, rfl, rfl⟩, h⟩

theorem goes_home_bind_iff {c : HomeCall} {f : c.Answer → Action σ β} {r : Except Error β} :
    (home c >>= f).Goes s t r s' ↔ ∃ x u, t = ⟨.home c, x⟩ :: u ∧ (f x).Goes s u r s' := by
  rw [goes_bind_iff]
  constructor
  · rintro (⟨v, s₁, u, w, rfl, h1, h2⟩ | ⟨e, rfl, h⟩)
    · obtain ⟨x, rfl, hv, rfl⟩ := goes_home_iff.mp h1
      cases hv
      exact ⟨v, w, rfl, h2⟩
    · simp at h
  · rintro ⟨x, u, rfl, h⟩
    exact Or.inl ⟨x, s, [_], u, rfl, goes_home_iff.mpr ⟨x, rfl, rfl, rfl⟩, h⟩

theorem goes_call_bind_iff {c : HostCall} {f : c.Value → Action σ β} {r : Except Error β} :
    (call c >>= f).Goes s t r s' ↔
      (∃ v u, t = ⟨.host c, .ok v⟩ :: u ∧ (f v).Goes s u r s') ∨
        ∃ e, t = [⟨.host c, .error e⟩] ∧ r = .error e ∧ s' = s := by
  rw [goes_bind_iff]
  constructor
  · rintro (⟨v, s₁, u, w, rfl, h1, h2⟩ | ⟨e, rfl, h⟩)
    · obtain ⟨rfl, rfl⟩ := goes_call_iff.mp h1
      exact Or.inl ⟨v, w, rfl, h2⟩
    · obtain ⟨rfl, rfl⟩ := goes_call_iff.mp h
      exact Or.inr ⟨e, rfl, rfl, rfl⟩
  · rintro (⟨v, u, rfl, h⟩ | ⟨e, rfl, rfl, rfl⟩)
    · exact Or.inl ⟨v, s, [_], u, rfl, goes_call_iff.mpr ⟨rfl, rfl⟩, h⟩
    · exact Or.inr ⟨e, rfl, goes_call_iff.mpr ⟨rfl, rfl⟩⟩

theorem goes_ofResult_bind_iff {x : Except Error α} {f : α → Action σ β} {r : Except Error β} :
    (ofResult x >>= f : Action σ β).Goes s t r s' ↔
      (∃ v, x = .ok v ∧ (f v).Goes s t r s') ∨
        ∃ e, x = .error e ∧ t = [] ∧ r = .error e ∧ s' = s := by
  rw [goes_bind_iff]
  constructor
  · rintro (⟨v, s₁, u, w, rfl, h1, h2⟩ | ⟨e, rfl, h⟩)
    · obtain ⟨rfl, rfl, rfl⟩ := goes_ofResult_iff.mp h1
      exact Or.inl ⟨v, rfl, h2⟩
    · obtain ⟨rfl, rfl, rfl⟩ := goes_ofResult_iff.mp h
      exact Or.inr ⟨e, rfl, rfl, rfl, rfl⟩
  · rintro (⟨v, rfl, h⟩ | ⟨e, rfl, rfl, rfl, rfl⟩)
    · exact Or.inl ⟨v, s, [], t, rfl, goes_ofResult_iff.mpr ⟨rfl, rfl, rfl⟩, h⟩
    · exact Or.inr ⟨e, rfl, goes_ofResult_iff.mpr ⟨rfl, rfl, rfl⟩⟩

/-- What follows a caught failure follows a success as well. -/
theorem goes_result_bind_iff {a : Action σ α} {f : Except Error α → Action σ β}
    {r : Except Error β} :
    (a.result >>= f).Goes s t r s' ↔
      ∃ x s₁ u w, t = u ++ w ∧ a.Goes s u x s₁ ∧ (f x).Goes s₁ w r s' := by
  rw [goes_bind_iff]
  constructor
  · rintro (⟨v, s₁, u, w, rfl, h1, h2⟩ | ⟨e, rfl, h⟩)
    · obtain ⟨x, hx, h⟩ := goes_result_iff.mp h1
      cases hx
      exact ⟨v, s₁, u, w, rfl, h, h2⟩
    · obtain ⟨x, hx, -⟩ := goes_result_iff.mp h
      cases hx
  · rintro ⟨x, s₁, u, w, rfl, h1, h2⟩
    exact Or.inl ⟨x, s₁, u, w, rfl, goes_result_iff.mpr ⟨x, rfl, h1⟩, h2⟩

end Laws

/-! ## Frames -/

/-- Whatever the answers, the action leaves this part of the memory as it is. -/
def Keeps (view : σ → ρ) (a : Action σ α) : Prop :=
  ∀ ⦃s t r s'⦄, a.Goes s t r s' → view s' = view s

section Frames

variable {view : σ → ρ}

theorem keeps_pure (a : α) : (pure a : Action σ α).Keeps view := by
  intro s t r s' h
  obtain ⟨-, -, rfl⟩ := goes_pure_iff.mp h
  rfl

theorem keeps_throw (e : Error) : (throw e : Action σ α).Keeps view := by
  intro s t r s' h
  obtain ⟨-, -, rfl⟩ := goes_throw_iff.mp h
  rfl

theorem keeps_get : (get : Action σ σ).Keeps view := by
  intro s t r s' h
  obtain ⟨-, -, rfl⟩ := goes_get_iff.mp h
  rfl

theorem keeps_modify {f : σ → σ} (hf : ∀ s, view (f s) = view s) :
    (modify f : Action σ Unit).Keeps view := by
  intro s t r s' h
  obtain ⟨-, -, rfl⟩ := goes_modify_iff.mp h
  exact hf s

theorem keeps_ofResult (x : Except Error α) : (ofResult x : Action σ α).Keeps view := by
  intro s t r s' h
  obtain ⟨-, -, rfl⟩ := goes_ofResult_iff.mp h
  rfl

theorem keeps_home (c : HomeCall) : (home c : Action σ c.Answer).Keeps view := by
  intro s t r s' h
  obtain ⟨-, -, -, rfl⟩ := goes_home_iff.mp h
  rfl

theorem keeps_call (c : HostCall) : (call c : Action σ c.Value).Keeps view := by
  intro s t r s' h
  obtain ⟨-, rfl⟩ := goes_call_iff.mp h
  rfl

/-- A frame goes through a composition. -/
theorem Keeps.bind {a : Action σ α} {f : α → Action σ β} (ha : a.Keeps view)
    (hf : ∀ v, (f v).Keeps view) : (a >>= f).Keeps view := by
  intro s t r s' h
  rcases goes_bind_iff.mp h with ⟨v, s₁, u, w, -, h1, h2⟩ | ⟨e, -, h⟩
  · exact (hf v h2).trans (ha h1)
  · exact ha h

theorem Keeps.map {a : Action σ α} {f : α → β} (ha : a.Keeps view) : (f <$> a).Keeps view := by
  rw [map_eq_pure_bind]
  exact ha.bind fun v => keeps_pure (f v)

theorem Keeps.result {a : Action σ α} (ha : a.Keeps view) : a.result.Keeps view := by
  intro s t r s' h
  obtain ⟨x, -, h⟩ := goes_result_iff.mp h
  exact ha h

theorem keeps_ite {c : Prop} [Decidable c] {a b : Action σ α} (ha : a.Keeps view)
    (hb : b.Keeps view) : (if c then a else b).Keeps view := by
  split
  · exact ha
  · exact hb

end Frames

end Action

end RemoteSearch
