/-!
# Dialogues

A computation that asks questions and goes on from the answers, kept apart from whoever answers. A
dialogue is a tree: what is asked next depends on all answers so far, and every chain of answers
comes to an end.

The same dialogue can be run against anything that answers (`run`), and spoken about for all
answers at once: `Goes` relates it to each exchange of questions and answers that it may have.
-/

namespace RemoteSearch

/-- A computation that asks questions; `Reply q` is what an answer to `q` can be. -/
inductive Dialogue {Q : Type} (Reply : Q → Type) (α : Type) where
  | done (a : α)
  | ask (q : Q) (next : Reply q → Dialogue Reply α)

namespace Dialogue

variable {Q : Type} {Reply : Q → Type} {α β γ : Type}

/-- Goes on with another dialogue when the first is done. -/
def bind : Dialogue Reply α → (α → Dialogue Reply β) → Dialogue Reply β
  | done a, f => f a
  | ask q next, f => ask q fun r => (next r).bind f

instance : Monad (Dialogue Reply) where
  pure := done
  bind := bind

/-- One question, and its answer. -/
def question (q : Q) : Dialogue Reply (Reply q) := ask q done

@[simp] theorem pure_eq_done (a : α) : (pure a : Dialogue Reply α) = done a := rfl

@[simp] theorem done_bind (a : α) (f : α → Dialogue Reply β) : (done a >>= f) = f a := rfl

@[simp] theorem ask_bind (q : Q) (next : Reply q → Dialogue Reply α) (f : α → Dialogue Reply β) :
    (ask q next >>= f) = ask q fun r => next r >>= f := rfl

@[simp] theorem question_bind (q : Q) (f : Reply q → Dialogue Reply β) :
    (question q >>= f) = ask q f := rfl

theorem bind_done (d : Dialogue Reply α) : d >>= done = d := by
  induction d with
  | done a => rfl
  | ask q next ih => simp [ih]

theorem bind_bind (d : Dialogue Reply α) (f : α → Dialogue Reply β) (g : β → Dialogue Reply γ) :
    d >>= f >>= g = d >>= fun a => f a >>= g := by
  induction d with
  | done a => rfl
  | ask q next ih => simp [ih]

instance : LawfulMonad (Dialogue Reply) :=
  LawfulMonad.mk' (Dialogue Reply) bind_done (fun _ _ => rfl) bind_bind

/-- Runs a dialogue against something that answers. -/
def run {m : Type → Type} [Monad m] (answer : (q : Q) → m (Reply q)) : Dialogue Reply α → m α
  | done a => pure a
  | ask q next => do (next (← answer q)).run answer

/-! ## Exchanges -/

/-- A question with an answer to it. -/
abbrev Exchange (Reply : Q → Type) : Type := (q : Q) × Reply q

/-- The dialogue comes to `a` when its questions are answered as in the list. -/
inductive Goes : Dialogue Reply α → List (Exchange Reply) → α → Prop where
  | done (a : α) : Goes (done a) [] a
  | ask {q : Q} {next : Reply q → Dialogue Reply α} {r : Reply q} {t : List (Exchange Reply)}
      {a : α} (h : Goes (next r) t a) : Goes (ask q next) (⟨q, r⟩ :: t) a

theorem goes_done_iff {a b : α} {t : List (Exchange Reply)} :
    Goes (done a) t b ↔ t = [] ∧ b = a := by
  constructor
  · intro h
    cases h
    exact ⟨rfl, rfl⟩
  · rintro ⟨rfl, rfl⟩
    exact .done _

theorem goes_ask_iff {q : Q} {next : Reply q → Dialogue Reply α} {t : List (Exchange Reply)}
    {a : α} : Goes (ask q next) t a ↔ ∃ r t', t = ⟨q, r⟩ :: t' ∧ Goes (next r) t' a := by
  constructor
  · intro h
    cases h with
    | ask h => exact ⟨_, _, rfl, h⟩
  · rintro ⟨r, t', rfl, h⟩
    exact .ask h

/-- **An exchange of two dialogues, one after the other, falls into an exchange of each.** -/
theorem goes_bind_iff {d : Dialogue Reply α} {f : α → Dialogue Reply β}
    {t : List (Exchange Reply)} {b : β} :
    Goes (d >>= f) t b ↔ ∃ a u v, t = u ++ v ∧ Goes d u a ∧ Goes (f a) v b := by
  induction d generalizing t with
  | done a =>
    constructor
    · intro h
      exact ⟨a, [], t, rfl, .done a, h⟩
    · rintro ⟨a', u, v, rfl, h1, h2⟩
      obtain ⟨rfl, rfl⟩ := goes_done_iff.mp h1
      exact h2
  | ask q next ih =>
    rw [ask_bind, goes_ask_iff]
    constructor
    · rintro ⟨r, t', rfl, h⟩
      obtain ⟨a, u, v, rfl, h1, h2⟩ := (ih r).mp h
      exact ⟨a, ⟨q, r⟩ :: u, v, rfl, .ask h1, h2⟩
    · rintro ⟨a, u, v, rfl, h1, h2⟩
      obtain ⟨r, u', rfl, h1'⟩ := goes_ask_iff.mp h1
      exact ⟨r, u' ++ v, rfl, (ih r).mpr ⟨a, u', v, rfl, h1', h2⟩⟩

end Dialogue

end RemoteSearch
