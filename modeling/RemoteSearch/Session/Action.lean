import RemoteSearch.Session.Request

/-!
# Actions

Dialogues with the outside that can fail, and that keep a memory. What has been remembered stays
remembered when a later step fails.
-/

namespace RemoteSearch

/-- A dialogue with a memory of type `σ`, which it keeps also when it fails. -/
abbrev Action (σ α : Type) : Type := ExceptT Error (StateT σ Talk) α

namespace Action

variable {σ τ α β : Type}

/-- The dialogue of an action that begins with a memory: its result, and the memory after it. -/
def start (a : Action σ α) (s : σ) : Talk (Except Error α × σ) := StateT.run a.run s

/-- The action with a dialogue. -/
def ofTalk (f : σ → Talk (Except Error α × σ)) : Action σ α := ExceptT.mk f

/-- A request at home. -/
def home (c : HomeCall) : Action σ c.Answer :=
  ofTalk fun s => do
    let r ← request (.home c)
    pure (.ok r, s)

/-- A call on the host. -/
def call (c : HostCall) : Action σ c.Value :=
  ofTalk fun s => do
    let r ← request (.host c)
    pure (r, s)

/-- A result that is known already. -/
def ofResult (r : Except Error α) : Action σ α := ofTalk fun s => pure (r, s)

/-- The result of an action, whether it fails or not. -/
def result (a : Action σ α) : Action σ (Except Error α) :=
  ofTalk fun s => do
    let (r, s') ← a.start s
    pure (.ok r, s')

/-- An action on a part of the memory. -/
def onPart (part : σ → τ) (put : τ → σ → σ) (a : Action τ α) : Action σ α :=
  ofTalk fun s => do
    let (r, t) ← a.start (part s)
    pure (r, put t s)

/-! ## Dialogues of composed actions -/

@[simp] theorem start_ofTalk (f : σ → Talk (Except Error α × σ)) (s : σ) :
    (ofTalk f).start s = f s := rfl

@[simp] theorem start_pure (a : α) (s : σ) :
    (pure a : Action σ α).start s = .done (.ok a, s) := rfl

@[simp] theorem start_throw (e : Error) (s : σ) :
    (throw e : Action σ α).start s = .done (.error e, s) := rfl

@[simp] theorem start_bind (a : Action σ α) (f : α → Action σ β) (s : σ) :
    (a >>= f).start s = a.start s >>= fun p =>
      match p.1 with
      | .ok v => (f v).start p.2
      | .error e => .done (.error e, p.2) := by
  show (a.start s >>= fun p => _) = _
  congr 1
  funext p
  obtain ⟨r, s'⟩ := p
  cases r <;> rfl

@[simp] theorem start_get (s : σ) : (get : Action σ σ).start s = .done (.ok s, s) := rfl

@[simp] theorem start_modify (f : σ → σ) (s : σ) :
    (modify f : Action σ Unit).start s = .done (.ok (), f s) := rfl

@[simp] theorem start_home (c : HomeCall) (s : σ) :
    (home c : Action σ c.Answer).start s = .ask (.home c) fun r => .done (.ok r, s) := rfl

@[simp] theorem start_call (c : HostCall) (s : σ) :
    (call c : Action σ c.Value).start s = .ask (.host c) fun r => .done (r, s) := rfl

@[simp] theorem start_ofResult (r : Except Error α) (s : σ) :
    (ofResult r : Action σ α).start s = .done (r, s) := rfl

@[simp] theorem start_result (a : Action σ α) (s : σ) :
    a.result.start s = a.start s >>= fun p => .done (.ok p.1, p.2) := rfl

@[simp] theorem start_onPart (part : σ → τ) (put : τ → σ → σ) (a : Action τ α) (s : σ) :
    (onPart part put a).start s = a.start (part s) >>= fun p => .done (p.1, put p.2 s) := rfl

end Action

end RemoteSearch
