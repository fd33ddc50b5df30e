import Mathlib.Data.Set.Insert
import RemoteSearch.Proofs.Transfer.Course

/-!
# Files that are left on the host

What a search leaves of its two files on the host, the captured one and the compressed one. The host
tells the truth about files and deletes what it is asked to delete, but commands may do to files
whatever they like: `Holds` follows the files through an exchange.

The cleanup forgets about the captured file as soon as the compressed one is seen, and never looks
for the compressed file when the search itself was not answered. `Ending.left_iff` says that files
are left in these two cases only, and exactly if they are there.
-/

namespace RemoteSearch.Transfer

open RemoteSearch.Action Execution

variable {F G H : Set String} {t u : Exchanges} {raw : String} {l : List String}

/-! ## Truthful hosts -/

/-- Whether files on a truthful host can go from one set to another with a request. -/
def Becomes (F : Set String) (e : Dialogue.Exchange Request.Reply) (G : Set String) : Prop :=
  match e with
  | ⟨.host (.execute ..), _⟩ => True
  | ⟨.host (.delete path), _⟩ => G = F \ {path}
  | ⟨.host (.isPresent path _), x⟩ => G = F ∧ ∀ b, x = .ok b → (b = true ↔ path ∈ F)
  | _ => G = F

/-- Whether files on a truthful host can go from one set to another with an exchange. -/
def Holds (F : Set String) : Exchanges → Set String → Prop
  | [], H => H = F
  | e :: t, H => ∃ G, Becomes F e G ∧ Holds G t H

theorem Holds.cons {e : Dialogue.Exchange Request.Reply} (he : Becomes F e G) (h : Holds G t H) :
    Holds F (e :: t) H := ⟨G, he, h⟩

theorem holds_append_iff : Holds F (t ++ u) H ↔ ∃ G, Holds F t G ∧ Holds G u H := by
  induction t generalizing F with
  | nil =>
    constructor
    · intro h
      exact ⟨F, rfl, h⟩
    · rintro ⟨G, rfl, h⟩
      exact h
  | cons e t ih =>
    constructor
    · rintro ⟨F', he, h⟩
      obtain ⟨G, h1, h2⟩ := ih.mp h
      exact ⟨G, ⟨F', he, h1⟩, h2⟩
    · rintro ⟨G, ⟨F', he, h1⟩, h2⟩
      exact ⟨F', he, ih.mpr ⟨G, h1, h2⟩⟩

/-- Requests that leave files as they are. -/
def IsQuiet : Request → Prop
  | .host (.execute ..) => False
  | .host (.delete _) => False
  | _ => True

theorem eq_of_quiet (h : Holds F t H) (ht : ∀ e ∈ t, IsQuiet e.1) : H = F := by
  induction t generalizing F with
  | nil => exact h
  | cons e t ih =>
    obtain ⟨G, he, h⟩ := h
    have hH : H = G := ih h fun e he => ht e (List.mem_cons_of_mem _ he)
    have hG : G = F := by
      have hq := ht e List.mem_cons_self
      obtain ⟨q, x⟩ := e
      match q, x, he, hq with
      | .home _, _, he, _ => exact he
      | .host .tempDir, _, he, _ => exact he
      | .host (.loadModule ..), _, he, _ => exact he
      | .host (.isPresent ..), _, he, _ => exact he.1
      | .host (.length ..), _, he, _ => exact he
      | .host (.isDirectory ..), _, he, _ => exact he
      | .host (.read ..), _, he, _ => exact he
    exact hH.trans hG

theorem isQuiet_of_isReading {path : String} {q : Request} (h : IsReading path q) : IsQuiet q := by
  cases q with
  | home c => trivial
  | host c =>
    obtain rfl : c = .read path .readOnly := h
    trivial

/-- **Discarded files are gone**, and all others stay as they are. -/
theorem mem_iff_of_discards (hd : Discards l t) (h : Holds F t H) (p : String) :
    p ∈ H ↔ p ∈ F ∧ p ∉ l := by
  induction hd generalizing F with
  | nil =>
    obtain rfl : H = F := h
    simp
  | @gone path l t hd ih =>
    obtain ⟨G, ⟨rfl, hpath⟩, h⟩ := h
    have hn : path ∉ G := fun hp => by simpa using (hpath false rfl).mpr hp
    rw [ih h, List.mem_cons, not_or]
    constructor
    · rintro ⟨hp, hl⟩
      exact ⟨hp, fun he => hn (he ▸ hp), hl⟩
    · rintro ⟨hp, -, hl⟩
      exact ⟨hp, hl⟩
  | @deleted path l t seen hs x hd ih =>
    obtain ⟨G, ⟨rfl, -⟩, G', hG', h⟩ := h
    obtain rfl : G' = G \ {path} := hG'
    rw [ih h, List.mem_cons, not_or]
    constructor
    · rintro ⟨⟨hp, hne⟩, hl⟩
      exact ⟨hp, hne, hl⟩
    · rintro ⟨hp, hne, hl⟩
      exact ⟨⟨hp, hne⟩, hl⟩

/-! ## From the first look on -/

/-- The exchange before the first look. -/
def beforeLook (t : Exchanges) : Exchanges := t.takeWhile fun e => !isLook e

/-- The exchange from the first look on. -/
def fromLook (t : Exchanges) : Exchanges := t.dropWhile fun e => !isLook e

theorem path_eq_of_look_eq {p q : String} {x y : Except Error Bool} (h : look p x = look q y) :
    p = q := by
  cases h
  rfl

theorem compressedName_ne (raw : String) : compressedName raw ≠ raw := by
  intro h
  have hl : (compressedName raw).length = raw.length := by rw [h]
  simp [compressedName] at hl

/-- An exchange that neither changes files nor looks for them. -/
def IsIdle (t : Exchanges) : Prop := ∀ e ∈ t, IsQuiet e.1 ∧ isLook e = false

/--
How an exchange goes on from the first look, once output was captured: what is asked until the
cleanup, the files that the cleanup discards, and requests that do not matter.
-/
inductive Ending (raw : String) : Exchanges → Prop where
  /-- The command was not answered: the compressed file is not on record. -/
  | unanswered {v w : Exchanges} (hv : Discards [raw] v) (hw : IsIdle w) :
      Ending raw (v ++ w)
  /-- The compression was not answered. -/
  | unpacked {v w : Exchanges} (hv : Discards [raw, compressedName raw] v) (hw : IsIdle w) :
      Ending raw (v ++ w)
  /-- The compressed file was not seen. -/
  | unseen {v w : Exchanges} {seen : Except Error Bool} (hs : seen ≠ .ok true)
      (hv : Discards [raw, compressedName raw] v) (hw : IsIdle w) :
      Ending raw (look (compressedName raw) seen :: (v ++ w))
  /-- The compressed file was seen: the captured file is not on record any more. -/
  | seen {u v w : Exchanges} (hu : ∀ e ∈ u, IsReading (compressedName raw) e.1)
      (hv : Discards [compressedName raw] v) (hw : IsIdle w) :
      Ending raw (look (compressedName raw) (.ok true) :: (u ++ (v ++ w)))

/-- From the first look on there is a look at first. -/
theorem Ending.head?_isLook (h : Ending raw t) : ∃ e, t.head? = some e ∧ isLook e = true := by
  have hd : ∀ {path : String} {l : List String} {v w : Exchanges}, Discards (path :: l) v →
      ∃ e, (v ++ w).head? = some e ∧ isLook e = true := by
    intro path l v w hv
    cases hv with
    | gone h => exact ⟨_, rfl, rfl⟩
    | deleted hs x h => exact ⟨_, rfl, rfl⟩
  cases h with
  | unanswered hv hw => exact hd hv
  | unpacked hv hw => exact hd hv
  | unseen hs hv hw => exact ⟨_, rfl, rfl⟩
  | seen hu hv hw => exact ⟨_, rfl, rfl⟩

/--
What is wrong with the files when the first look begins: the captured file is there, but is not
looked for, because the compressed one is seen; or the compressed one is, and is never looked for.
-/
def Slips (raw : String) (G : Set String) (t : Exchanges) : Prop :=
  (raw ∈ G ∧ t.head? = some (look (compressedName raw) (.ok true))) ∨
    (compressedName raw ∈ G ∧ ∀ seen, look (compressedName raw) seen ∉ t)

/-- Every file that is discarded is looked for. -/
theorem exists_look_of_discards (h : Discards l t) {p : String} (hp : p ∈ l) :
    ∃ seen, look p seen ∈ t := by
  induction h with
  | nil => cases hp
  | gone h ih =>
    rcases List.mem_cons.mp hp with rfl | hp
    · exact ⟨_, List.mem_cons_self⟩
    · obtain ⟨seen, hs⟩ := ih hp
      exact ⟨seen, List.mem_cons_of_mem _ hs⟩
  | deleted hs x h ih =>
    rcases List.mem_cons.mp hp with rfl | hp
    · exact ⟨_, List.mem_cons_self⟩
    · obtain ⟨seen, hs⟩ := ih hp
      exact ⟨seen, List.mem_cons_of_mem _ (List.mem_cons_of_mem _ hs)⟩

/-- Only files that are discarded are looked for. -/
theorem mem_of_look_mem (h : Discards l t) {p : String} {seen : Except Error Bool}
    (hp : look p seen ∈ t) : p ∈ l := by
  induction h with
  | nil => cases hp
  | gone h ih =>
    rcases List.mem_cons.mp hp with he | hp
    · cases he
      exact List.mem_cons_self
    · exact List.mem_cons_of_mem _ (ih hp)
  | deleted hs x h ih =>
    rcases List.mem_cons.mp hp with he | hp
    · cases he
      exact List.mem_cons_self
    · rcases List.mem_cons.mp hp with he | hp
      · cases he
      · exact List.mem_cons_of_mem _ (ih hp)

/-- A cleanup begins with a look for its first file. -/
theorem head?_of_discards {path p : String} {x : Except Error Bool} (h : Discards (path :: l) t)
    (hp : (t ++ u).head? = some (look p x)) : p = path := by
  cases h with
  | gone h => exact (path_eq_of_look_eq (Option.some.inj hp)).symm
  | deleted hs x h => exact (path_eq_of_look_eq (Option.some.inj hp)).symm

/-- An idle part that comes after a cleanup adds no look. -/
theorem look_mem_append_idle {v w : Exchanges} (hw : IsIdle w) {p : String}
    {seen : Except Error Bool} : look p seen ∈ v ++ w ↔ look p seen ∈ v := by
  rw [List.mem_append]
  constructor
  · rintro (h | h)
    · exact h
    · cases (hw _ h).2
  · exact Or.inl

/-- Discarding and then idling leaves all other files. -/
theorem mem_iff_of_discards_append {v w : Exchanges} (hv : Discards l v) (hw : IsIdle w)
    (h : Holds F (v ++ w) H) (p : String) : p ∈ H ↔ p ∈ F ∧ p ∉ l := by
  obtain ⟨G, h1, h2⟩ := holds_append_iff.mp h
  rw [eq_of_quiet h2 fun e he => (hw e he).1]
  exact mem_iff_of_discards hv h1 p

theorem holds_look {path : String} {seen : Except Error Bool} (h : Holds F (look path seen :: t) H) :
    Holds F t H := by
  obtain ⟨G, ⟨rfl, -⟩, h⟩ := h
  exact h

/--
**What is left was there when the first look began**, and slipped from the records.
-/
theorem Ending.left_iff (he : Ending raw t) (h : Holds G t H) :
    (raw ∈ H ∨ compressedName raw ∈ H) ↔ Slips raw G t := by
  have hne := compressedName_ne raw
  cases he with
  | @unanswered v w hv hw =>
    have hgone := mem_iff_of_discards_append hv hw h
    constructor
    · rintro (hr | hc)
      · exact absurd List.mem_cons_self ((hgone raw).mp hr).2
      · refine Or.inr ⟨((hgone _).mp hc).1, fun seen hm => ?_⟩
        rw [look_mem_append_idle hw] at hm
        exact hne (List.mem_singleton.mp (mem_of_look_mem hv hm))
    · rintro (⟨-, hh⟩ | ⟨hc, -⟩)
      · exact absurd (head?_of_discards hv hh) hne
      · exact Or.inr ((hgone _).mpr ⟨hc, fun hm => hne (List.mem_singleton.mp hm)⟩)
  | @unpacked v w hv hw =>
    have hgone := mem_iff_of_discards_append hv hw h
    constructor
    · rintro (hr | hc)
      · exact absurd (by simp) ((hgone _).mp hr).2
      · exact absurd (by simp) ((hgone _).mp hc).2
    · rintro (⟨-, hh⟩ | ⟨-, hn⟩)
      · exact absurd (head?_of_discards hv hh) hne
      · obtain ⟨seen, hm⟩ := exists_look_of_discards hv (List.mem_cons_of_mem raw List.mem_cons_self)
        exact absurd (List.mem_append_left w hm) (hn seen)
  | @unseen v w seen hs hv hw =>
    have hgone := mem_iff_of_discards_append hv hw (holds_look h)
    constructor
    · rintro (hr | hc)
      · exact absurd (by simp) ((hgone _).mp hr).2
      · exact absurd (by simp) ((hgone _).mp hc).2
    · rintro (⟨-, hh⟩ | ⟨-, hn⟩)
      · cases hh
        exact absurd rfl hs
      · exact absurd List.mem_cons_self (hn seen)
  | @seen u v w hu hv hw =>
    obtain ⟨G', h1, h2⟩ := holds_append_iff.mp (holds_look h)
    obtain rfl : G' = G := eq_of_quiet h1 fun e he => isQuiet_of_isReading (hu e he)
    have hgone := mem_iff_of_discards_append hv hw h2
    constructor
    · rintro (hr | hc)
      · exact Or.inl ⟨((hgone _).mp hr).1, rfl⟩
      · exact absurd List.mem_cons_self ((hgone _).mp hc).2
    · rintro (⟨hr, -⟩ | ⟨-, hn⟩)
      · exact Or.inl ((hgone _).mpr ⟨hr, fun hm => hne (List.mem_singleton.mp hm).symm⟩)
      · exact absurd List.mem_cons_self (hn _)

/-! ## Up to the first look -/

/-- The file in which output is captured, as the exchange shows by watching it. -/
def captured (t : Exchanges) : Option String :=
  t.findSome? fun e =>
    match e.1 with
    | .home (.watch path _) => some path
    | _ => none

theorem captured_append_of_none (h : captured t = none) : captured (t ++ u) = captured u := by
  unfold captured at h ⊢
  rw [List.findSome?_append, h]
  rfl

theorem captured_append_of_some (h : captured t = some raw) : captured (t ++ u) = some raw := by
  unfold captured at h ⊢
  rw [List.findSome?_append, h]
  rfl

theorem captured_exchange {budgets : Budgets} {tier : Tier} {command : String}
    {reply : Except Error Outcome} : captured (exchange budgets command tier reply) = none := by
  cases reply with
  | error e => rfl
  | ok o => cases h : o.timedOut <;> simp [captured, exchange, timeoutNote, h]

theorem isBlind_tempDir (directory : String) :
    IsBlind [⟨.host .tempDir, .ok directory⟩] := by
  simp [IsBlind, isLook]

theorem isIdle_dropExchange (copied : Bool) : IsIdle (dropExchange copied) := by
  cases copied <;> simp [IsIdle, dropExchange, IsQuiet, isLook]

theorem IsIdle.append {v w : Exchanges} (hv : IsIdle v) (hw : IsIdle w) : IsIdle (v ++ w) := by
  intro e he
  rcases List.mem_append.mp he with h | h
  · exact hv e h
  · exact hw e h

theorem Ending.append (h : Ending raw t) (hu : IsIdle u) : Ending raw (t ++ u) := by
  cases h with
  | unanswered hv hw =>
    rw [List.append_assoc]
    exact .unanswered hv (hw.append hu)
  | unpacked hv hw =>
    rw [List.append_assoc]
    exact .unpacked hv (hw.append hu)
  | unseen hs hv hw =>
    rw [List.cons_append, List.append_assoc]
    exact .unseen hs hv (hw.append hu)
  | seen hr hv hw =>
    rw [List.cons_append, List.append_assoc, List.append_assoc]
    exact .seen hr hv (hw.append hu)

/-- A fetch looks for nothing before it goes on in one of three ways. -/
theorem ending_of_fetch {r : Route} {s s' : Trail} {res : Except Error (List UInt8)}
    {v w : Exchanges} (h : (fetch r raw).Goes s t res s') (hraw : s.raw = some raw)
    (hv : Discards s'.files v) (hw : IsIdle w) :
    ∃ a b, t ++ (v ++ w) = a ++ b ∧ IsBlind a ∧ Ending raw b := by
  obtain ⟨packed, z, rfl, hway⟩ := goes_fetch h
  refine ⟨_, z ++ (v ++ w), List.append_assoc _ _ _, isBlind_exchange, ?_⟩
  rcases hway with ⟨-, rfl, -, rfl⟩ | ⟨-, seen, z, rfl, ⟨hs, rfl, -, rfl⟩ | ⟨rfl, hs', hz, -⟩⟩
  · have hv' : Discards [raw, compressedName raw] v := by simpa [Trail.files, hraw] using hv
    show Ending raw (v ++ w)
    exact .unpacked hv' hw
  · have hv' : Discards [raw, compressedName raw] v := by simpa [Trail.files, hraw] using hv
    show Ending raw (look _ seen :: (v ++ w))
    exact .unseen hs hv' hw
  · have hv' : Discards [compressedName raw] v := by
      rw [hs'] at hv
      simpa [Trail.files] using hv
    exact .seen hz hv' hw

/-- **A transfer that captures output goes on in one of the four ways.** -/
theorem ending_of_bring {r : Route} {command : String} {n : Nat} {s' : Trail}
    {res : Except Error (Except Error (List UInt8))}
    (h : (bring r command).Goes (.fresh n) t res s') :
    captured t = none ∨
      ∃ raw a b, t = a ++ b ∧ captured a = some raw ∧ IsBlind a ∧ Ending raw b := by
  obtain ⟨u, v, hv, rfl, ⟨e, hcap, -⟩ | ⟨raw, s₁, a, b, x, rfl, hcap, hfetch, -⟩⟩ := goes_bring h
  · rcases goes_capture hcap with ⟨e, rfl, -, rfl⟩ | ⟨directory, now, ran, rfl, hran, rfl⟩
    · cases hv
      exact Or.inl rfl
    · refine Or.inr ⟨_, _, _, rfl, rfl, ?_, .unanswered hv (isIdle_dropExchange _)⟩
      exact (isBlind_tempDir directory).append isBlind_captureExchange
  · rcases goes_capture hcap with ⟨e, -, he, -⟩ | ⟨directory, now, ran, rfl, hran, rfl⟩
    · cases he
    · obtain ⟨-, -, hraw⟩ := map_verdict_eq_ok hran.symm
      subst hraw
      obtain ⟨c, d, hcd, hc, hd⟩ := ending_of_fetch hfetch rfl hv (isIdle_dropExchange _)
      have hcapture : IsBlind (⟨.host .tempDir, .ok directory⟩ :: captureExchange r command
          (rawPath r directory (nextStamp (Trail.fresh n).lastStamp now)) now ran) :=
        (isBlind_tempDir directory).append isBlind_captureExchange
      refine Or.inr ⟨_, _, d, ?_, captured_append_of_some rfl, hcapture.append hc, hd⟩
      rw [List.append_assoc, hcd, List.append_assoc]

end RemoteSearch.Transfer
