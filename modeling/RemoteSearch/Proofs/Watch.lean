import RemoteSearch.Proofs.Action
import RemoteSearch.Watch.Timeline

/-!
# What a watch asks and reports

A watch asks about its file and about nothing else, and what it has reported is the running maximum
of the lengths it was told. Both hold of every exchange, and so of a watch that is stopped after any
number of looks.

* `goes_follow_succ_iff`: one look of a watch, and whether it goes on after it.
* `endsAs_of_goes`: how a watch ends, and what it has reported by then.
* `goes_sooner`: how far it has come before.
* `inTurn_looksFrom`: the looks of a timeline come one after another, and only the last can end it.
* `Timeline.goes_follow`: so they are the looks of a watch.
* `watch_only_observes`: all of this of a watch and of its timeline.
-/

namespace RemoteSearch.Watch

variable {path : String} {n : Nat} {p q : Progress} {t : Exchanges} {ending : Ending} {a : Look}

/-! ## Reports -/

namespace Progress

/-- The reports after some sizes, shown one after another. -/
def after (p : Progress) (sizes : List Nat) : Progress := sizes.foldl report p

theorem after_cons (p : Progress) (n : Nat) (l : List Nat) :
    p.after (n :: l) = (p.report n).after l := rfl

theorem after_append (p : Progress) (a b : List Nat) : p.after (a ++ b) = (p.after a).after b :=
  List.foldl_append

/-- What has been reported stays reported. -/
theorem suffix_report (p : Progress) (n : Nat) : p.reports <:+ (p.report n).reports := by
  unfold report
  split
  · exact List.suffix_cons n p.reports
  · exact List.suffix_rfl

theorem suffix_after (p : Progress) (l : List Nat) : p.reports <:+ (p.after l).reports := by
  induction l generalizing p with
  | nil => exact List.suffix_rfl
  | cons n l ih => exact (p.suffix_report n).trans (ih (p.report n))

/-- The last report is the largest size so far. -/
theorem size_after (p : Progress) (l : List Nat) : (p.after l).size = l.foldl max p.size := by
  induction l generalizing p with
  | nil => rfl
  | cons n l ih => rw [after_cons, ih, size_report, List.foldl_cons]

/-- Each report is larger than the one before; the latest stands first. -/
def IsIncreasing (p : Progress) : Prop := p.reports.Pairwise (· > ·)

theorem IsIncreasing.le_size {m : Nat} (h : p.IsIncreasing) (hm : m ∈ p.reports) : m ≤ p.size := by
  obtain ⟨reports⟩ := p
  cases reports with
  | nil => cases hm
  | cons last earlier =>
    rcases List.mem_cons.mp hm with rfl | hm
    · exact Nat.le_refl _
    · exact Nat.le_of_lt ((List.pairwise_cons.mp h).1 m hm)

theorem IsIncreasing.report (h : p.IsIncreasing) (n : Nat) : (p.report n).IsIncreasing := by
  unfold Progress.report
  split
  · next hn =>
    refine List.pairwise_cons.mpr ⟨fun m hm => ?_, h⟩
    have := h.le_size hm
    show m < n
    omega
  · exact h

theorem IsIncreasing.after (h : p.IsIncreasing) (l : List Nat) : (p.after l).IsIncreasing := by
  induction l generalizing p with
  | nil => exact h
  | cons n l ih => exact ih (h.report n)

end Progress

/-! ## One look -/

/-- The question whether the file is there, with its answer. -/
def presence (path : String) (present : Except Error Bool) : Dialogue.Exchange Request.Reply :=
  ⟨.host (.isPresent path .readVolatile), present⟩

/-- The question how long the file is, with its answer. -/
def measure (path : String) (length : Except Error Nat) : Dialogue.Exchange Request.Reply :=
  ⟨.host (.length path .readVolatile), length⟩

/-- The ways in which a look can go: its exchange, and what it shows. -/
inductive Shows (path : String) : Exchanges → Look → Prop where
  | unseen (e : Error) : Shows path [presence path (.error e)] (.failed e.message)
  | gone : Shows path [presence path (.ok false)] .gone
  | unmeasured (e : Error) :
      Shows path [presence path (.ok true), measure path (.error e)] (.failed e.message)
  | size (m : Nat) : Shows path [presence path (.ok true), measure path (.ok m)] (.size m)

theorem goes_look_iff : (look path).Goes t a ↔ Shows path t a := by
  unfold look
  rw [Dialogue.question_bind, Dialogue.goes_ask_iff]
  constructor
  · rintro ⟨present, u, rfl, h⟩
    rcases present with e | _ | _
    · obtain ⟨rfl, rfl⟩ := Dialogue.goes_done_iff.mp h
      exact .unseen e
    · obtain ⟨rfl, rfl⟩ := Dialogue.goes_done_iff.mp h
      exact .gone
    · obtain ⟨length, v, rfl, hlength⟩ := Dialogue.goes_ask_iff.mp h
      obtain ⟨rfl, rfl⟩ := Dialogue.goes_done_iff.mp hlength
      rcases length with e | m
      · exact .unmeasured e
      · exact .size m
  · intro h
    cases h with
    | unseen e => exact ⟨.error e, [], rfl, .done _⟩
    | gone => exact ⟨.ok false, [], rfl, .done _⟩
    | unmeasured e => exact ⟨.ok true, _, rfl, .ask (.done _)⟩
    | size m => exact ⟨.ok true, _, rfl, .ask (.done _)⟩

/-- **A watch goes on after a look that shows a size**, and ends with any other look. -/
theorem goes_follow_succ_iff : (follow path (n + 1) p).Goes t (ending, q) ↔
    (∃ m u, t = presence path (.ok true) :: measure path (.ok m) :: u ∧
      (follow path n (p.report m)).Goes u (ending, q)) ∨
    ∃ a, Shows path t a ∧ a.ending? = some ending ∧ q = p := by
  rw [follow, Dialogue.goes_bind_iff]
  constructor
  · rintro ⟨a, u, v, rfl, hl, h⟩
    have hs := goes_look_iff.mp hl
    cases a with
    | size m =>
      cases hs
      exact Or.inl ⟨m, v, rfl, h⟩
    | gone =>
      obtain ⟨rfl, he⟩ := Dialogue.goes_done_iff.mp h
      cases he
      rw [List.append_nil]
      exact Or.inr ⟨.gone, hs, rfl, rfl⟩
    | failed message =>
      obtain ⟨rfl, he⟩ := Dialogue.goes_done_iff.mp h
      cases he
      rw [List.append_nil]
      exact Or.inr ⟨.failed message, hs, rfl, rfl⟩
  · rintro (⟨m, u, rfl, h⟩ | ⟨a, hs, he, rfl⟩)
    · exact ⟨.size m, _, u, rfl, goes_look_iff.mpr (.size m), h⟩
    · refine ⟨a, t, [], (List.append_nil t).symm, goes_look_iff.mpr hs, ?_⟩
      cases a with
      | size m => cases he
      | gone => cases he; exact .done _
      | failed message => cases he; exact .done _

/-! ## Whole watches -/

/-- The lengths that are told in an exchange, in order. -/
def lengthsIn (t : Exchanges) : List Nat :=
  t.filterMap fun e =>
    match e with
    | ⟨.host (.length _ _), .ok n⟩ => some n
    | _ => none

/-- An answer with which a watch goes on: the file is there, or has a length. -/
inductive IsCalm (path : String) : Dialogue.Exchange Request.Reply → Prop where
  | present : IsCalm path (presence path (.ok true))
  | length (n : Nat) : IsCalm path (measure path (.ok n))

/-- An answer with which a watch ends, and how. -/
inductive Closes (path : String) : Dialogue.Exchange Request.Reply → Ending → Prop where
  | gone : Closes path (presence path (.ok false)) .vanished
  | unseen (e : Error) : Closes path (presence path (.error e)) (.failed e.message)
  | unmeasured (e : Error) : Closes path (measure path (.error e)) (.failed e.message)

/-- How a watch ends: as the first answer says with which it does not go on, after which nothing is
asked any more, or by being stopped if there is none. -/
inductive EndsAs (path : String) : Exchanges → Ending → Prop where
  | stopped {t : Exchanges} (h : ∀ x ∈ t, IsCalm path x) : EndsAs path t .stopped
  | closed {u : Exchanges} {x : Dialogue.Exchange Request.Reply} {ending : Ending}
      (h : ∀ x ∈ u, IsCalm path x) (hc : Closes path x ending) : EndsAs path (u ++ [x]) ending

theorem EndsAs.cons {x : Dialogue.Exchange Request.Reply} (hx : IsCalm path x)
    (h : EndsAs path t ending) : EndsAs path (x :: t) ending := by
  cases h with
  | stopped h => exact .stopped (List.forall_mem_cons.mpr ⟨hx, h⟩)
  | closed h hc =>
    rw [← List.cons_append]
    exact .closed (List.forall_mem_cons.mpr ⟨hx, h⟩) hc

theorem endsAs_of_shows (hs : Shows path t a) (he : a.ending? = some ending) :
    EndsAs path t ending ∧ lengthsIn t = [] := by
  cases hs with
  | unseen e =>
    cases he
    exact ⟨.closed (u := []) (List.forall_mem_nil _) (.unseen e), rfl⟩
  | gone =>
    cases he
    exact ⟨.closed (u := []) (List.forall_mem_nil _) .gone, rfl⟩
  | unmeasured e =>
    cases he
    exact ⟨.closed (u := [_]) (List.forall_mem_singleton.mpr .present) (.unmeasured e), rfl⟩
  | size m => cases he

/-- **How a watch ends, and what it has reported by then.** -/
theorem endsAs_of_goes (h : (follow path n p).Goes t (ending, q)) :
    EndsAs path t ending ∧ q = p.after (lengthsIn t) := by
  -- the reports so far are a parameter of the watch, so the induction is for all of them
  induction n generalizing p t with
  | zero =>
    obtain ⟨rfl, he⟩ := Dialogue.goes_done_iff.mp h
    cases he
    exact ⟨.stopped (List.forall_mem_nil _), rfl⟩
  | succ n ih =>
    rcases goes_follow_succ_iff.mp h with ⟨m, u, rfl, hrest⟩ | ⟨a, hs, he, rfl⟩
    · obtain ⟨hends, rfl⟩ := ih hrest
      exact ⟨.cons .present (.cons (.length m) hends), rfl⟩
    · obtain ⟨hends, hl⟩ := endsAs_of_shows hs he
      rw [hl]
      exact ⟨hends, rfl⟩

/-- A watch that is stopped sooner goes through a first part of the same exchange. -/
theorem goes_sooner {k : Nat} (hk : k ≤ n) (h : (follow path n p).Goes t (ending, q)) :
    ∃ u e s, u <+: t ∧ s.reports <:+ q.reports ∧ (follow path k p).Goes u (e, s) := by
  induction n generalizing k p t with
  | zero =>
    obtain rfl : k = 0 := Nat.le_zero.mp hk
    exact ⟨t, ending, q, List.prefix_rfl, List.suffix_rfl, h⟩
  | succ n ih =>
    cases k with
    | zero =>
      rw [(endsAs_of_goes h).2]
      exact ⟨[], .stopped, p, List.nil_prefix, p.suffix_after _, .done _⟩
    | succ k =>
      rcases goes_follow_succ_iff.mp h with ⟨m, u, rfl, hrest⟩ | ⟨a, hs, he, rfl⟩
      · obtain ⟨v, e, s, hv, hreports, hgoes⟩ := ih (Nat.le_of_succ_le_succ hk) hrest
        refine ⟨_, e, s, ?_, hreports, goes_follow_succ_iff.mpr (Or.inl ⟨m, v, rfl, hgoes⟩)⟩
        exact List.cons_prefix_cons.mpr ⟨rfl, List.cons_prefix_cons.mpr ⟨rfl, hv⟩⟩
      · exact ⟨t, ending, q, List.prefix_rfl, List.suffix_rfl,
          goes_follow_succ_iff.mpr (Or.inr ⟨a, hs, he, rfl⟩)⟩

/-! ## Timelines -/

/-- An exchange in which a look shows what it shows. -/
def Look.exchange (path : String) : Look → Exchanges
  | size m => [presence path (.ok true), measure path (.ok m)]
  | gone => [presence path (.ok false)]
  | failed message => [presence path (.error (.generic message))]

theorem Look.shows (path : String) (a : Look) : Shows path (a.exchange path) a := by
  cases a with
  | size m => exact .size m
  | gone => exact .gone
  | failed message => exact .unseen (.generic message)

/-- **Looks of which only the last one can end a watch are those of a watch.** -/
theorem goes_follow_of_looks (path : String) (p : Progress) {looks : List Look}
    (h : looks.Pairwise fun a _ => a.ending? = none) :
    (follow path looks.length p).Goes (looks.flatMap (Look.exchange path))
      ((looks.findSome? Look.ending?).getD .stopped, p.after (looks.filterMap Look.size?)) := by
  induction looks generalizing p with
  | nil => exact .done _
  | cons a looks ih =>
    obtain ⟨ha, hlooks⟩ := List.pairwise_cons.mp h
    refine goes_follow_succ_iff.mpr ?_
    cases hend : a.ending? with
    | none =>
      cases a with
      | size m => exact Or.inl ⟨m, _, rfl, ih (p.report m) hlooks⟩
      | gone => cases hend
      | failed message => cases hend
    | some ending =>
      -- there is no look after this one
      cases looks with
      | nil =>
        refine Or.inr ⟨a, ?_, ?_, ?_⟩
        · rw [List.flatMap_singleton]
          exact a.shows path
        · rw [List.findSome?_singleton, hend]
          rfl
        · cases a with
          | size m => cases hend
          | gone => rfl
          | failed message => rfl
      | cons b looks =>
        rw [ha b List.mem_cons_self] at hend
        cases hend

/-- The first look does not end the watch, and ends no later than the second. -/
def InTurn (a b : Timed) : Prop := a.look.ending? = none ∧ a.ended ≤ b.ended

/-- **Looks come one after another**, and none after one that ends the watch. -/
theorem inTurn_looksFrom (interval stop : Nat) (probe : Nat → Probe) (n due ready : Nat) :
    (looksFrom interval stop probe n due ready).Pairwise InTurn ∧
      ∀ x ∈ looksFrom interval stop probe n due ready, ready ≤ x.ended := by
  fun_induction looksFrom interval stop probe n due ready with
  | case1 n due ready began hb p ended next ih =>
    have hended : ready ≤ ended := by
      show ready ≤ max due ready + p.delay
      omega
    split
    · next hn =>
      obtain ⟨hturn, hlate⟩ := ih hn
      refine ⟨List.pairwise_cons.mpr ⟨fun x hx => ⟨hn.2, hlate x hx⟩, hturn⟩, ?_⟩
      exact List.forall_mem_cons.mpr ⟨hended, fun x hx => Nat.le_trans hended (hlate x hx)⟩
    · exact ⟨List.pairwise_singleton _ _, List.forall_mem_singleton.mpr hended⟩
  | case2 n due ready began hb => exact ⟨.nil, List.forall_mem_nil _⟩

/-- The looks that have ended before a time are the first ones. -/
theorem filter_ended_isPrefix {looks : List Timed} (h : looks.Pairwise InTurn) (time : Nat) :
    looks.filter (·.ended < time) <+: looks := by
  induction looks with
  | nil => exact List.prefix_rfl
  | cons x looks ih =>
    obtain ⟨hx, hlooks⟩ := List.pairwise_cons.mp h
    by_cases ht : x.ended < time
    · rw [List.filter_cons_of_pos (by simpa using ht)]
      exact List.cons_prefix_cons.mpr ⟨rfl, ih hlooks⟩
    · have hnone : (x :: looks).filter (·.ended < time) = [] := by
        refine List.filter_eq_nil_iff.mpr (List.forall_mem_cons.mpr ⟨by simpa using ht, ?_⟩)
        intro y hy
        have := (hx y hy).2
        simp only [decide_eq_true_eq]
        omega
      rw [hnone]
      exact List.nil_prefix

/-- The exchange of looks, one after another. -/
def exchangeOf (path : String) (looks : List Timed) : Exchanges :=
  looks.flatMap fun x => x.look.exchange path

/-- What looks report, one after another. -/
def progressOf (looks : List Timed) : Progress :=
  Progress.after {} (looks.filterMap fun x => x.look.size?)

theorem goes_follow_of_inTurn (path : String) {looks : List Timed} (h : looks.Pairwise InTurn) :
    (follow path looks.length {}).Goes (exchangeOf path looks)
      ((looks.findSome? fun x => x.look.ending?).getD .stopped, progressOf looks) := by
  have hlooks : (looks.map (·.look)).Pairwise fun a _ => a.ending? = none :=
    List.pairwise_map.mpr (h.imp fun hab => hab.1)
  have hgoes := goes_follow_of_looks path {} hlooks
  rw [List.length_map, List.flatMap_map, List.findSome?_map, List.filterMap_map] at hgoes
  exact hgoes

/-- What the first looks ask and report comes first. -/
theorem firstLooks (path : String) {first looks : List Timed} (h : first <+: looks) :
    exchangeOf path first <+: exchangeOf path looks ∧
      (progressOf first).reports <:+ (progressOf looks).reports := by
  obtain ⟨rest, rfl⟩ := h
  unfold exchangeOf progressOf
  rw [List.flatMap_append, List.filterMap_append, Progress.after_append]
  exact ⟨List.prefix_append _ _, Progress.suffix_after _ _⟩

theorem Timeline.ends_snd (line : Timeline) :
    line.ends.2 = (line.looks.findSome? fun x => x.look.ending?).getD .stopped := by
  unfold Timeline.ends
  split
  · next e he => rw [he]; rfl
  · next he => rw [he]; rfl

/-- **The looks of a timeline are those of a watch**, and before any time its first looks are. -/
theorem Timeline.goes_follow (path : String) (line : Timeline) (h : line.looks.Pairwise InTurn) :
    ∃ t p, (follow path line.looks.length {}).Goes t (line.ends.2, p) ∧
      ∀ time, ∃ u e, u <+: t ∧ (line.progressBefore time).reports <:+ p.reports ∧
        (follow path (line.looks.countP (·.ended < time)) {}).Goes u
          (e, line.progressBefore time) := by
  refine ⟨exchangeOf path line.looks, progressOf line.looks, ?_, fun time => ?_⟩
  · rw [ends_snd]
    exact goes_follow_of_inTurn path h
  · have hfirst := filter_ended_isPrefix h time
    obtain ⟨hasked, hreports⟩ := firstLooks path hfirst
    have hgoes := goes_follow_of_inTurn path (h.sublist hfirst.sublist)
    rw [← List.countP_eq_length_filter] at hgoes
    exact ⟨_, _, hasked, hreports, hgoes⟩

/-! ## Watches observe -/

/-- What holds of a watch of so many looks at most: of its exchange, its end and its reports. -/
structure Observes (path : String) (n : Nat) (t : Exchanges) (ending : Ending) (p : Progress) :
    Prop where
  /-- Each report is larger than the one before. -/
  isIncreasing : p.IsIncreasing
  /-- The last report is the largest length that was told, zero before any. -/
  size_eq : p.size = (lengthsIn t).foldl max 0
  /-- Only the file is asked about, and nothing after the answer that ends the watch. -/
  endsAs : EndsAs path t ending
  /-- Stopped after any smaller number of looks, it would have come as far in the same exchange. -/
  sooner : ∀ k ≤ n, ∃ u e s, u <+: t ∧ s.reports <:+ p.reports ∧ (follow path k {}).Goes u (e, s)

/--
**A watch only observes, and reports the running maximum.** Whatever is answered, and after however
many looks it is stopped: it asks whether its file is there and how long it is, and nothing else;
its reports increase, and the last is the largest length so far; it ends with the first answer that
the file is gone or that the question has failed, asks nothing after that, and is stopped if there
is no such answer. The looks of every timeline are those of such a watch, and what has been reported
at any time is what the watch reports that is stopped after the looks so far.
-/
theorem watch_only_observes (path : String) :
    (∀ n t ending p, (follow path n {}).Goes t (ending, p) → Observes path n t ending p) ∧
      ∀ interval probe stop limit, ∃ t p,
        let line := Timeline.make interval probe stop limit
        (follow path line.looks.length {}).Goes t (line.ends.2, p) ∧
          ∀ time, ∃ u e, u <+: t ∧ (line.progressBefore time).reports <:+ p.reports ∧
            (follow path (line.looks.countP (·.ended < time)) {}).Goes u
              (e, line.progressBefore time) := by
  constructor
  · intro n t ending p h
    obtain ⟨hends, rfl⟩ := endsAs_of_goes h
    have hnone : Progress.IsIncreasing {} := .nil
    exact ⟨hnone.after _, Progress.size_after _ _, hends, fun k hk => goes_sooner hk h⟩
  · intro interval probe stop limit
    have hturn := (inTurn_looksFrom interval stop probe 0 interval 0).1
    exact (Timeline.make interval probe stop limit).goes_follow path hturn

/-- A file that shrinks, grows and is gone is watched until then. -/
theorem shrunken_file_is_observed :
    let t := [presence "/f" (.ok true), measure "/f" (.ok 3), presence "/f" (.ok true),
      measure "/f" (.ok 1), presence "/f" (.ok true), measure "/f" (.ok 7),
      presence "/f" (.ok false)]
    (follow "/f" 9 {}).Goes t (.vanished, ⟨[7, 3]⟩) ∧
      Observes "/f" 9 t .vanished ⟨[7, 3]⟩ ∧ lengthsIn t = [3, 1, 7] := by
  intro t
  have hgoes : (follow "/f" 9 {}).Goes t (.vanished, ⟨[7, 3]⟩) := by
    iterate 7 refine Dialogue.Goes.ask ?_
    exact .done _
  exact ⟨hgoes, (watch_only_observes "/f").1 9 t _ _ hgoes, rfl⟩

end RemoteSearch.Watch
