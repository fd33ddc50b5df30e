import RemoteSearch.Proofs.Searcher.Completeness
import RemoteSearch.Proofs.Transfer.Lines
import RemoteSearch.Proofs.Windows.Blocks

/-!
# Searches whose output breaks off

When the output of a search fails after some of its bytes, the search finds the first records of
what it would have found, and remembers nothing. A record that the break goes through is a complaint
at most, never another record.

* `readRecord_append`: more lines change a record only if it is the one that the lines break off.
* `records_append`: so the records of some lines are the first records of more lines.
-/

namespace RemoteSearch.Platform

open Calendar (Instant)

variable {p : Platform} {now : Instant} {l rest : List String} {r : Except RecordError Metadata}

theorem readLineRecord_more {style : Unix.DateStyle}
    (h : readLineRecord style now l = some (r, rest)) (more : List String) :
    readLineRecord style now (l ++ more) = some (r, rest ++ more) := by
  induction l with
  | nil => cases h
  | cons line l ih =>
    rw [readLineRecord] at h
    rw [List.cons_append, readLineRecord]
    split at h
    · next hb => rw [if_pos hb, ih h]
    · next hb =>
      obtain ⟨rfl, rfl⟩ := Prod.mk.inj (Option.some.inj h)
      rw [if_neg hb]

/-- **More lines leave a record alone**, unless the lines so far break it off. -/
theorem readRecord_append (h : p.readRecord now l = some (r, rest)) (more : List String) :
    p.readRecord now (l ++ more) = some (r, rest ++ more) ∨ ((∃ e, r = .error e) ∧ rest = []) := by
  cases p with
  | unix d => exact Or.inl (readLineRecord_more h more)
  | windows => exact Windows.readRecord_more h more

theorem readRecords_nil (p : Platform) (now : Instant) : p.readRecords now [] = [] := by
  rw [readRecords.eq_def]
  split
  · rfl
  · next he => cases p <;> cases he

/-- **The records of some lines are the first records of more lines.** -/
theorem records_append (p : Platform) (now : Instant) (l more : List String) :
    (p.readRecords now l).filterMap Except.toOption <+:
      (p.readRecords now (l ++ more)).filterMap Except.toOption := by
  fun_induction readRecords p now l with
  | case1 l h => exact List.nil_prefix
  | case2 l r rest h _ ih =>
    rcases readRecord_append h more with hm | ⟨⟨e, rfl⟩, rfl⟩
    · rw [readRecords_of_some hm]
      cases r with
      | error e => exact ih
      | ok record => exact List.cons_prefix_cons.mpr ⟨rfl, ih⟩
    · -- the last record is broken off: only a complaint comes of it, and no line is left
      rw [readRecords_nil]
      exact List.nil_prefix

end RemoteSearch.Platform

namespace RemoteSearch.Searcher

open RemoteSearch.Action Transfer Text
open Calendar (Instant)

/-! ## Findings of a delivery -/

/-- The findings of delivered bytes; there are none if the delivery fails too early. -/
def Findings.ofDelivery (p : Platform) (now : Instant) (d : Delivery) : Findings :=
  match LineSequence.ofDelivery? d with
  | some l => ofLines p now l
  | none => {}

/-- The findings of a file are those of what it delivers. -/
theorem Findings.ofFile_eq (p : Platform) (now : Instant) (file : List UInt8) :
    ofFile p now file = ofDelivery p now (Gzip.expand ⟨file.toArray⟩) := rfl

section Delivered

variable {p : Platform} {now : Instant} {a b : List UInt8} {reason : String}

/-- A delivery that fails is never complete. -/
theorem not_complete_of_broken :
    (Findings.ofDelivery p now ⟨a, some reason⟩).complete = false := by
  by_cases h : a.length < sampleSize
  · rw [Findings.ofDelivery, ofDelivery?_early reason h]
  · rw [Findings.ofDelivery, ofDelivery?_broken reason (Nat.not_lt.mp h)]
    rfl

/-- The records of a broken delivery are the first records of the whole one. -/
theorem records_prefix_of_broken (h : a <+: b) :
    (Findings.ofDelivery p now ⟨a, some reason⟩).records <+:
      (Findings.ofDelivery p now ⟨b, none⟩).records := by
  by_cases ha : a.length < sampleSize
  · rw [Findings.ofDelivery, ofDelivery?_early reason ha]
    exact List.nil_prefix
  · have ha : sampleSize ≤ a.length := Nat.not_lt.mp ha
    obtain ⟨more, hmore⟩ := closedLines_textOf_mono ha h
    rw [Findings.ofDelivery, ofDelivery?_broken reason ha, Findings.ofDelivery, ofDelivery?_whole,
      ← hmore, List.map_append]
    exact p.records_append now _ _

end Delivered

/-! ## Searches -/

variable {s : Setup} {m m' : Memory} {t : Exchanges} {cs : List Condition}
  {r : Except Error (List Handle)} {file : List UInt8} {e : Dialogue.Exchange Request.Reply}

/-- Whether an exchange hands over the compressed output of a search. -/
def Brings (file : List UInt8) : Dialogue.Exchange Request.Reply → Prop
  | ⟨.host (.read ..), x⟩ => x = .ok ⟨file, none⟩
  | ⟨.home (.readHere _), x⟩ => x = .ok file
  | _ => False

/-- A transfer that goes to its end hands over the output, from this machine or from another. -/
theorem exists_brings_fullExchange {route : Route} {command directory raw : String} {stamped : Int}
    {ran packed : Except Error Outcome} :
    ∃ e ∈ fullExchange route command directory raw stamped ran packed file, Brings file e := by
  have hread : ∃ e ∈ readExchange route (compressedName raw) file, Brings file e := by
    unfold readExchange
    split
    · exact ⟨_, List.mem_singleton.mpr rfl, rfl⟩
    · exact ⟨_, List.mem_cons_of_mem _ (List.mem_singleton.mpr rfl), rfl⟩
  obtain ⟨e, he, hb⟩ := hread
  exact ⟨e, List.mem_cons_of_mem _ (List.mem_append_right _ (List.mem_cons_of_mem _ he)), hb⟩

/-- A file whose content breaks off is not whole. -/
theorem not_isWhole_of_broken {a : List UInt8} {reason : String}
    (h : Gzip.expand ⟨file.toArray⟩ = ⟨a, some reason⟩) : ¬IsWhole file := by
  rintro ⟨lines, hl⟩
  rw [LineSequence.ofFile?, h] at hl
  by_cases ha : a.length < sampleSize
  · rw [ofDelivery?_early reason ha] at hl
    cases hl
  · rw [ofDelivery?_broken reason (Nat.not_lt.mp ha)] at hl
    cases hl

theorem isSetback_of_brings (hb : Brings file e) (hw : ¬IsWhole file) : IsSetback e := by
  unfold Brings at hb
  split at hb
  · intro bytes hx
    obtain rfl : file = bytes := by simpa [hb] using hx
    exact hw
  · intro bytes hx
    obtain rfl : file = bytes := by simpa [hb] using hx
    exact hw
  · exact hb.elim

/-- A search that meets a setback leaves the cache as it was. -/
theorem cache_eq_of_setback (hg : (search s cs).Goes m t r m') (he : e ∈ t) (hs : IsSetback e) :
    m'.cache = m.cache := by
  rcases (course_of_goes hg).cache with hc | ⟨hs', key, rfl, hstores, -, -⟩
  · exact hc
  · exact absurd hs (hstores.readToEnd.no_setback.1 e he)

/--
**A broken stream yields a prefix.** Reading fails after the first `n` bytes of a stream `b`. Then
the findings are incomplete, and a search that is brought such a file leaves the cache as it was.
If `n` is at least 512, the lines are just those of the text of the `n` bytes that end in a line
feed; they are the first lines of the unbroken stream, and the records its first records. For a
smaller `n` there are no records.
-/
theorem broken_stream_is_cut_short (s : Setup) (now : Instant) {b : List UInt8} {n : Nat}
    (hn : n ≤ b.length) (reason : String) :
    let broken : Delivery := ⟨b.take n, some reason⟩
    let found := Findings.ofDelivery s.platform now broken
    found.complete = false ∧
      (∀ file, Gzip.expand ⟨file.toArray⟩ = broken →
        Findings.ofFile s.platform now file = found ∧
          ∀ cs m t r m' e, (search s cs).Goes m t r m' → e ∈ t → Brings file e →
            m'.cache = m.cache) ∧
      (n < 512 → found.records = []) ∧
      (512 ≤ n → ∃ closed rest more,
        IsDivided (textOf (b.take n)) closed rest ∧
        LineSequence.ofDelivery? broken =
          some ⟨closed.map fun line => String.ofList (chomp line), true⟩ ∧
        LineSequence.ofDelivery? ⟨b, none⟩ =
          some ⟨(closed.map fun line => String.ofList (chomp line)) ++ more, false⟩ ∧
        found.records <+: (Findings.ofDelivery s.platform now ⟨b, none⟩).records) := by
  have hlength : (b.take n).length = n := List.length_take_of_le hn
  have hsize : sampleSize = 512 := rfl
  refine ⟨not_complete_of_broken, ?_, ?_, ?_⟩
  · intro file hfile
    refine ⟨by rw [Findings.ofFile_eq, hfile], fun cs m t r m' e hg he hb => ?_⟩
    exact cache_eq_of_setback hg he (isSetback_of_brings hb (not_isWhole_of_broken hfile))
  · intro hsmall
    rw [Findings.ofDelivery, ofDelivery?_early reason (by omega)]
  · intro hlarge
    have hsample : sampleSize ≤ (b.take n).length := by omega
    obtain ⟨closed, rest, hd⟩ := exists_isDivided (textOf (b.take n))
    obtain ⟨more, hmore⟩ := closedLines_textOf_mono hsample (List.take_prefix n b)
    rw [hd.closedLines_eq] at hmore
    refine ⟨closed, rest, more.map String.ofList, hd, ?_, ?_,
      records_prefix_of_broken (List.take_prefix n b)⟩
    · rw [ofDelivery?_broken reason hsample, hd.closedLines_eq, List.map_map]
      rfl
    · rw [ofDelivery?_whole, ← hmore, List.map_append, List.map_map]
      rfl

/--
A stream of twenty records that breaks in the sixteenth gives fifteen, and a search whose file has
only its head leaves the cache empty.
-/
theorem sixteenth_record_is_lost_on_aix :
    let s : Setup := { session := ⟨"localhost", '/', none⟩, platform := .unix (.ofKind .aix) }
    let b := (List.replicate 20 (Utf8.encodeString "-rw-r--r-- 1 0 0 5 Jan 2 2024 /a\n")).flatten
    let found := Findings.ofDelivery s.platform (.ofMillis 0) ⟨b.take 520, some "reset"⟩
    let whole := Findings.ofDelivery s.platform (.ofMillis 0) ⟨b, none⟩
    found.complete = false ∧ found.paths = List.replicate 15 "/a" ∧
      found.records <+: whole.records ∧
      ∃ t r m e, (search s [.root "/"]).Goes (.initial none 0) t r m ∧ e ∈ t ∧
        Brings Gzip.plainHead e ∧ m.cache.entries = [] := by
  intro s b found whole
  have hlate : 520 ≤ b.length := by decide +kernel
  obtain ⟨hincomplete, -, -, hlines⟩ :=
    broken_stream_is_cut_short s (.ofMillis 0) hlate "reset"
  obtain ⟨closed, rest, more, -, -, -, hrecords⟩ := hlines (by decide)
  refine ⟨hincomplete, by decide +kernel, hrecords, ?_⟩
  -- the search is played through to the transfer of the file, and to its cleanup
  let q : Query := { root := "/" }
  let c := Unix.compile (.ofKind .aix) q
  let m₀ : Memory := .initial none 0
  let raw := rawPath s.route "/tmp" 1
  let cleanup : Exchanges := [⟨.host (.isPresent (compressedName raw) .readVolatile), .ok true⟩,
    ⟨.host (.delete (compressedName raw)), .ok ()⟩]
  have hg : (gather s c.command).Goes m₀
      (fullExchange s.route c.command "/tmp" raw 1 (.ok {}) (.ok {}) Gzip.plainHead ++
        (cleanup ++ [⟨.home .clock, 0⟩]))
      (.ok (findingsOf s 0 (.ok Gzip.plainHead))) (m₀.afterCommand 1) := by
    show Dialogue.Goes _ _ _
    iterate 13 refine Dialogue.Goes.ask ?_
    exact .done _
  have hprepare : (prepare s).Goes m₀ [] (.ok ()) m₀ := .done _
  obtain ⟨hs, hr⟩ : ∃ hs, (runSearch s c).Goes m₀ _ (.ok hs) _ := exists_goes_runSearch hprepare hg
  have hadm : (isAdmitted s q (q.normalizedRoot '/')).Goes m₀ [] (.ok true) m₀ := .done _
  have hsearch : (search s [.root "/"]).Goes m₀ _ _ _ :=
    (Course.run (q := q) (c := c) rfl hadm rfl rfl hr).goes
  have hfile : Gzip.expand ⟨Gzip.plainHead.toArray⟩ =
      ⟨b.take 0, some "corrupt deflate stream"⟩ := by decide +kernel
  obtain ⟨e, he, hb⟩ : ∃ e ∈ fullExchange s.route c.command "/tmp" raw 1 (.ok {}) (.ok {})
      Gzip.plainHead, Brings Gzip.plainHead e := exists_brings_fullExchange
  have hmem := List.mem_append_right ([] : Exchanges) (List.mem_cons_of_mem
    ⟨.host (.isDirectory (q.normalizedRoot '/') .readOnly), .ok true⟩
    (List.mem_append_right ([] : Exchanges)
      (List.mem_append_left (cleanup ++ [⟨.home .clock, 0⟩]) he)))
  obtain ⟨-, hfiles, -⟩ := broken_stream_is_cut_short s (.ofMillis 0) (Nat.zero_le b.length)
    "corrupt deflate stream"
  have hcache := (hfiles _ hfile).2 _ _ _ _ _ e hsearch hmem hb
  exact ⟨_, _, _, e, hsearch, hmem, hb, congrArg Cache.entries hcache⟩

end RemoteSearch.Searcher
