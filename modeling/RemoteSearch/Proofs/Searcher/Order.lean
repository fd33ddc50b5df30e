import RemoteSearch.Proofs.Searcher.Failure

/-!
# The order of requests

Two things are fetched from the host when they are first needed, and then remembered: the helper
module, for commands that call into it, and the mount table. So what may be requested depends on
what an exchange has shown before.

* `InOrder` is what may be requested after an exchange; in an `Orderly` one every request is.
* `Remembers` is the invariant: the memory knows what the exchange shows, and nothing else.
* `Advances` is a step that keeps both. Steps follow one another by `Advances.append`, and there is
  one for each kind: work (`IsWork.advances`), a listing and a preparation.
-/

namespace RemoteSearch.Searcher

open RemoteSearch.Action Execution Transfer

variable {s : Setup} {given : Option (List Mount)} {m m' m₁ m₂ : Memory} {past t u : Exchanges}
  {x : Dialogue.Exchange Request.Reply} {l : List Mount}

/-! ## Kinds of requests -/

/-- A request to load a module. -/
def IsLoad : Request → Prop
  | .host (.loadModule ..) => True
  | _ => False

/-- A command that lists the mounts. -/
def IsListing (s : Setup) : Request → Prop
  | .host (.execute command _) => command = s.platform.mountCommand
  | _ => False

/-- Any other command. -/
def IsErrand (s : Setup) : Request → Prop
  | .host (.execute command _) => command ≠ s.platform.mountCommand
  | _ => False

theorem exists_of_isLoad {request : Request} (h : IsLoad request) :
    ∃ name source, request = .host (.loadModule name source) := by
  cases request with
  | home c => exact absurd h id
  | host c =>
    cases c with
    | loadModule name source => exact ⟨name, source, rfl⟩
    | _ => exact absurd h id

theorem exists_of_isListing {request : Request} (h : IsListing s request) :
    ∃ budget, request = .host (.execute s.platform.mountCommand budget) := by
  cases request with
  | home c => exact absurd h id
  | host c =>
    cases c with
    | execute command budget =>
      obtain rfl : command = s.platform.mountCommand := h
      exact ⟨budget, rfl⟩
    | _ => exact absurd h id

theorem stat_ne_mountCommand (p : Platform) (path : String) :
    p.statCommand path ≠ p.mountCommand := by
  -- the two differ before the path comes
  cases p with
  | unix d =>
    have hfirst : ['l'] <+: d.listCommand.toList ∧ ¬['l'] <+: d.mountCommand.toList := by
      obtain ⟨k, native⟩ := d
      cases k <;> cases native <;> exact ⟨by decide, by decide⟩
    intro h
    refine hfirst.2 ?_
    show ['l'] <+: (Platform.mountCommand (.unix d)).toList
    rw [← h]
    exact hfirst.1.trans (prefix_render_fixed .posix d.listCommand _)
  | windows =>
    have hfirst : ['G', 'e', 't', '-', 'I'] <+: "Get-Item -LiteralPath ".toList := by decide
    intro h
    have hmount : ¬['G', 'e', 't', '-', 'I'] <+: Windows.mountCommand.toList := by decide
    refine hmount ?_
    show ['G', 'e', 't', '-', 'I'] <+: (Platform.mountCommand .windows).toList
    rw [← h]
    exact hfirst.trans (prefix_render_fixed .powershell _ _)

/-! ## What an exchange shows -/

/-- A module has been loaded. -/
def HelperLoaded (t : Exchanges) : Prop :=
  ∃ name source, ⟨.host (.loadModule name source), .ok ()⟩ ∈ t

/-- The mounts are a table that has been given, or the one of a listing. -/
def TableKnown (s : Setup) (given : Option (List Mount)) (t : Exchanges) (l : List Mount) : Prop :=
  given = some l ∨
    ∃ budget reply, ⟨.host (.execute s.platform.mountCommand budget), reply⟩ ∈ t ∧
      tableOf s reply = .ok l

theorem helperLoaded_append : HelperLoaded (t ++ u) ↔ HelperLoaded t ∨ HelperLoaded u := by
  simp only [HelperLoaded, List.mem_append, exists_or]

theorem tableKnown_append :
    TableKnown s given (t ++ u) l ↔ TableKnown s given t l ∨ TableKnown s none u l := by
  simp only [TableKnown, List.mem_append, or_and_right, exists_or, reduceCtorEq, false_or, or_assoc]

/-- A request that may be made after an exchange. The helper module is loaded until that has
succeeded, and the mounts are listed until their table is known. Whatever else is run may call into
the helper module, which has to be loaded. -/
def InOrder (s : Setup) (given : Option (List Mount)) (past : Exchanges) : Request → Prop
  | .host (.loadModule name source) =>
    s.platform.helper? = some (name, source) ∧ ¬HelperLoaded past
  | .host (.execute command _) =>
    if command = s.platform.mountCommand then ∀ l, ¬TableKnown s given past l
    else s.platform.helper?.isSome → HelperLoaded past
  | _ => True

/-- Every request is in order after those before it. -/
def Orderly (s : Setup) (given : Option (List Mount)) (past : Exchanges) : Exchanges → Prop
  | [] => True
  | x :: t => InOrder s given past x.1 ∧ Orderly s given (past ++ [x]) t

theorem orderly_append_iff :
    Orderly s given past (t ++ u) ↔ Orderly s given past t ∧ Orderly s given (past ++ t) u := by
  induction t generalizing past with
  | nil => simp [Orderly]
  | cons x t ih => simp [Orderly, ih, and_assoc]

/-- The memory knows what the exchange so far shows. -/
structure Remembers (s : Setup) (given : Option (List Mount)) (past : Exchanges) (m : Memory) :
    Prop where
  helper : m.helperLoaded = true ↔ HelperLoaded past
  table : ∀ l, m.mounts = some l ↔ TableKnown s given past l

theorem remembers_initial (given : Option (List Mount)) (lastStamp : Nat) :
    Remembers s given [] (.initial given lastStamp) where
  helper := by simp [Memory.initial, HelperLoaded]
  table l := by simp [Memory.initial, TableKnown]

/-! ## Steps that keep order -/

/-- From a memory that knows what has happened, an exchange is in order, and is known after it. -/
def Advances (s : Setup) (given : Option (List Mount)) (m : Memory) (t : Exchanges) (m' : Memory) :
    Prop :=
  ∀ past, Remembers s given past m →
    Orderly s given past t ∧ Remembers s given (past ++ t) m'

theorem Advances.append (h : Advances s given m t m₁) (h' : Advances s given m₁ u m₂) :
    Advances s given m (t ++ u) m₂ := by
  intro past hr
  obtain ⟨ho, hr₁⟩ := h past hr
  obtain ⟨ho', hr₂⟩ := h' (past ++ t) hr₁
  rw [List.append_assoc] at hr₂
  exact ⟨orderly_append_iff.mpr ⟨ho, ho'⟩, hr₂⟩

/-- Requests that neither load a module nor list the mounts. -/
def IsWork (s : Setup) (t : Exchanges) : Prop := ∀ x ∈ t, ¬IsLoad x.1 ∧ ¬IsListing s x.1

theorem IsWork.append (ht : IsWork s t) (hu : IsWork s u) : IsWork s (t ++ u) := by
  intro x hx
  rcases List.mem_append.mp hx with hx | hx
  · exact ht x hx
  · exact hu x hx

theorem IsWork.not_helperLoaded (h : IsWork s t) : ¬HelperLoaded t := by
  rintro ⟨name, source, hx⟩
  exact (h _ hx).1 trivial

theorem IsWork.not_tableKnown (h : IsWork s t) : ¬TableKnown s none t l := by
  rintro (hn | ⟨budget, reply, hx, -⟩)
  · cases hn
  · exact (h _ hx).2 rfl

theorem inOrder_of_isErrand {request : Request} (hload : ¬IsLoad request)
    (hlisting : ¬IsListing s request)
    (hh : IsErrand s request → s.platform.helper?.isSome → HelperLoaded past) :
    InOrder s given past request := by
  cases request with
  | home c => trivial
  | host c =>
    cases c with
    | loadModule name source => exact absurd trivial hload
    | execute command budget =>
      have hc : command ≠ s.platform.mountCommand := hlisting
      rw [InOrder, if_neg hc]
      exact hh hc
    | _ => trivial

theorem IsWork.orderly (h : IsWork s t)
    (hh : (∃ x ∈ t, IsErrand s x.1) → s.platform.helper?.isSome → HelperLoaded past) :
    Orderly s given past t := by
  -- what is loaded before an errand is still loaded one request later
  induction t generalizing past with
  | nil => trivial
  | cons x t ih =>
    obtain ⟨hx, ht⟩ := List.forall_mem_cons.mp h
    refine ⟨inOrder_of_isErrand hx.1 hx.2 fun he => hh ⟨x, List.mem_cons_self, he⟩, ih ht ?_⟩
    rintro ⟨y, hy, he⟩ hs
    exact helperLoaded_append.mpr (Or.inl (hh ⟨y, List.mem_cons_of_mem x hy, he⟩ hs))

/-- Work is in order once the helper module is loaded, and shows nothing new. -/
theorem IsWork.advances (h : IsWork s t)
    (hh : (∃ x ∈ t, IsErrand s x.1) → s.platform.helper?.isSome → m.helperLoaded = true)
    (hl : m'.helperLoaded = m.helperLoaded) (hm : m'.mounts = m.mounts) :
    Advances s given m t m' := by
  intro past hr
  refine ⟨h.orderly fun he hs => hr.helper.mp (hh he hs), ?_, fun l => ?_⟩
  · rw [hl, helperLoaded_append, hr.helper]
    exact (or_iff_left h.not_helperLoaded).symm
  · rw [hm, tableKnown_append, hr.table]
    exact (or_iff_left h.not_tableKnown).symm

theorem IsMinor.plain (s : Setup) {request : Request} (h : IsMinor request) :
    (¬IsLoad request ∧ ¬IsListing s request) ∧ ¬IsErrand s request := by
  match request, h with
  | .home _, _ => exact ⟨⟨id, id⟩, id⟩
  | .host (.isPresent ..), _ => exact ⟨⟨id, id⟩, id⟩
  | .host (.read ..), _ => exact ⟨⟨id, id⟩, id⟩
  | .host (.delete _), _ => exact ⟨⟨id, id⟩, id⟩

theorem advances_of_isMinor (h : ∀ x ∈ t, IsMinor x.1) : Advances s given m t m := by
  have hw : IsWork s t := fun x hx => ((h x hx).plain s).1
  refine hw.advances ?_ rfl rfl
  rintro ⟨x, hx, he⟩
  exact absurd he ((h x hx).plain s).2

/-- A reply to the mount command is in order while no table is known, and it gives the table. -/
theorem advances_reply (hm : m.mounts = none) (budget : Nat) (reply : Except Error Outcome) :
    Advances s given m [⟨.host (.execute s.platform.mountCommand budget), reply⟩]
      { m with mounts := (tableOf s reply).toOption } := by
  intro past hr
  have hunknown : ∀ l, ¬TableKnown s given past l := by
    intro l hk
    rw [(hr.table l).mpr hk] at hm
    cases hm
  have hload : ¬HelperLoaded [⟨.host (.execute s.platform.mountCommand budget), reply⟩] := by
    rintro ⟨name, source, hx⟩
    cases List.mem_singleton.mp hx
  refine ⟨⟨?_, trivial⟩, ?_, fun l => ?_⟩
  · rw [InOrder, if_pos rfl]
    exact hunknown
  · rw [helperLoaded_append, or_iff_left hload]
    exact hr.helper
  · rw [tableKnown_append, or_iff_right (hunknown l)]
    constructor
    · intro hl
      refine Or.inr ⟨budget, reply, List.mem_singleton_self _, ?_⟩
      cases ht : tableOf s reply with
      | ok l' =>
        rw [ht] at hl
        cases hl
        rfl
      | error e =>
        rw [ht] at hl
        cases hl
    · rintro (hn | ⟨budget', reply', hx, ht⟩)
      · cases hn
      · cases List.mem_singleton.mp hx
        simp only [ht]
        rfl

theorem advances_listing (hm : m.mounts = none) (reply : Except Error Outcome) :
    Advances s given m (listingExchange s reply)
      { m with mounts := (tableOf s reply).toOption } := by
  -- around the call there are lines of the log only
  have hbefore : ∀ x ∈ ([⟨.home (.note "executing" (Text.excerpt s.platform.mountCommand)), ()⟩] :
      Exchanges), IsMinor x.1 := by
    intro x hx
    rw [List.mem_singleton.mp hx]
    trivial
  have hafter : ∀ x ∈ timeoutNote s.platform.mountCommand reply, IsMinor x.1 := by
    intro x hx
    unfold timeoutNote at hx
    split at hx
    · split at hx
      · rw [List.mem_singleton.mp hx]
        trivial
      · cases hx
    · cases hx
  exact (advances_of_isMinor hbefore).append
    ((advances_reply hm _ reply).append (advances_of_isMinor hafter))

theorem advances_prepare {r : Except Error Unit} (h : (prepare s).Goes m t r m') :
    Advances s given m t m' := by
  rcases goes_prepare h with ⟨rfl, -, rfl, -⟩ | ⟨name, source, hp, hl, rfl, rfl⟩
  · intro past hr
    rw [List.append_nil]
    exact ⟨trivial, hr⟩
  · -- a load is tried only where none has succeeded, and this one is remembered if it does
    intro past hr
    have hno : ¬HelperLoaded past := by
      intro hk
      rw [hr.helper.mpr hk] at hl
      cases hl
    refine ⟨⟨⟨hp, hno⟩, trivial⟩, ?_, fun l => ?_⟩
    · rw [helperLoaded_append, or_iff_right hno]
      cases r with
      | ok _ => exact ⟨fun _ => ⟨name, source, List.mem_singleton_self _⟩, fun _ => rfl⟩
      | error e =>
        refine iff_of_false (fun hf => by cases hf) ?_
        rintro ⟨name', source', hx⟩
        cases List.mem_singleton.mp hx
    · have hnone : ¬TableKnown s none [⟨.host (.loadModule name source), r⟩] l := by
        rintro (hn | ⟨budget, reply, hx, -⟩)
        · cases hn
        · cases List.mem_singleton.mp hx
      rw [tableKnown_append, or_iff_left hnone]
      exact hr.table l

end RemoteSearch.Searcher
