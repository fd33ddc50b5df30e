import RemoteSearch.Proofs.Metadata
import RemoteSearch.Proofs.Text.Encoding
import RemoteSearch.Proofs.Unix.Listing

/-!
# Modes read back from listings

A listing shows the twelve bits of a mode by nine characters: a right to execute and the special bit
beside it share one, a small letter if both are set and a capital if only the special bit is. What
is read from these characters takes each of the letters for a right to execute, so that a mode is
read back exactly if its special bits stand beside rights to execute only (`mode_reads_back_iff`).

* `mode_of_text`: the bits that are read from the characters of a mode.
* `permissions_of_readClean`: the permissions of a record are the nine bytes after the first
  character of its line, whatever else stands there.
-/

namespace RemoteSearch

open Text

/-! ## Modes -/

namespace Mode

variable {m : Mode}

/-- Whether each special bit stands beside a right to execute. -/
structure SpecialsExecute (m : Mode) : Prop where
  user : m.setUid = true → m.userExec = true
  group : m.setGid = true → m.groupExec = true
  others : m.sticky = true → m.otherExec = true

/-- The mode with a right to execute beside each special bit. -/
def withRights (m : Mode) : Mode :=
  { m with
    userExec := m.userExec || m.setUid
    groupExec := m.groupExec || m.setGid
    otherExec := m.otherExec || m.sticky }

/-- Nothing is added exactly if these rights are there. -/
theorem withRights_eq_iff : m.withRights = m ↔ m.SpecialsExecute := by
  have himp : ∀ a b : Bool, (a || b) = a ↔ (b = true → a = true) := by decide
  constructor
  · intro h
    exact
      { user := (himp _ _).mp (congrArg userExec h)
        group := (himp _ _).mp (congrArg groupExec h)
        others := (himp _ _).mp (congrArg otherExec h) }
  · intro h
    rw [withRights, (himp _ _).mpr h.user, (himp _ _).mpr h.group, (himp _ _).mpr h.others]

theorem show1_beq {c : Char} (hc : (c == '-') = false) (b : Bool) : (show1 c b == c) = b := by
  cases b with
  | true => exact beq_self_eq_true c
  | false => rw [show1, if_neg Bool.false_ne_true, BEq.comm, hc]

/-- The characters of a mode are ASCII. -/
theorem isAscii_of_mem_text : ∀ c ∈ m.text, c.toNat < 128 := by
  have hshow : ∀ b, ∀ c ∈ ['r', 'w'], (show1 c b).toNat < 128 := by
    intro b
    cases b <;> simp [show1]
  have hexec : ∀ exec special, (showExec 's' 'S' exec special).toNat < 128 ∧
      (showExec 't' 'T' exec special).toNat < 128 := by
    intro exec special
    cases exec <;> cases special <;> decide
  intro c hc
  simp only [text, List.mem_cons, List.not_mem_nil, or_false] at hc
  rcases hc with rfl | rfl | rfl | rfl | rfl | rfl | rfl | rfl | rfl
  · exact hshow _ _ (by simp)
  · exact hshow _ _ (by simp)
  · exact (hexec _ _).1
  · exact hshow _ _ (by simp)
  · exact hshow _ _ (by simp)
  · exact (hexec _ _).1
  · exact hshow _ _ (by simp)
  · exact hshow _ _ (by simp)
  · exact (hexec _ _).2

/-- The last character of a mode is no end of a line. -/
theorem exists_text_eq_append (m : Mode) :
    ∃ front c, m.text = front ++ [c] ∧ c ≠ '\n' ∧ c ≠ '\r' := by
  have hexec : ∀ exec special,
      showExec 't' 'T' exec special ≠ '\n' ∧ showExec 't' 'T' exec special ≠ '\r' := by
    decide
  exact ⟨m.text.dropLast, showExec 't' 'T' m.otherExec m.sticky, rfl, hexec _ _⟩

end Mode

/-! ## Bytes -/

namespace Permissions

variable {p : Permissions} {m : Mode}

/-- In ASCII texts bytes are characters. -/
theorem byteIs_of_isAscii (h : ∀ c ∈ p.text, c.toNat < 128) (i : Nat) {c : Char}
    (hc : c.toNat < 128) : p.byteIs i c = (p.text[i]? == some c) := by
  rw [byteIs, Utf8.encode_of_isAscii h, List.getElem?_map]
  cases hi : p.text[i]? with
  | none => rfl
  | some d => exact Utf8.beq_of_isAscii (h d (List.mem_of_getElem? hi)) hc

/-- **What is read from the characters of a mode**: its bits, and a right for each special bit. -/
theorem mode_of_text (h : p.text = m.text) : p.mode = m.withRights := by
  have hascii : ∀ c ∈ p.text, c.toNat < 128 := h ▸ Mode.isAscii_of_mem_text
  have hbyte : ∀ i c, c.toNat < 128 → p.byteIs i c = (m.text[i]? == some c) := by
    intro i c hc
    rw [byteIs_of_isAscii hascii i hc, h]
  have hexec : ∀ exec special, (!(Mode.showExec 's' 'S' exec special == '-')) = (exec || special) ∧
      (!(Mode.showExec 't' 'T' exec special == '-')) = (exec || special) := by decide
  have hspecial : ∀ exec special,
      (Mode.showExec 's' 'S' exec special == 's' || Mode.showExec 's' 'S' exec special == 'S') =
          special ∧
        (Mode.showExec 't' 'T' exec special == 't' || Mode.showExec 't' 'T' exec special == 'T') =
          special := by
    decide
  simp [mode, hbyte, Mode.text, Mode.withRights, Mode.show1_beq, hexec, hspecial]

end Permissions

/-! ## Lines -/

namespace Unix

variable {style : DateStyle} {now : Calendar.Instant} {r : Metadata} {c : Char} {m : Mode}
  {line text rest : List Char}

theorem text_of_ofText? {p : Permissions} (h : Permissions.ofText? text = some p) :
    p.text = text := by
  unfold Permissions.ofText? at h
  split at h
  · cases h
    rfl
  · cases h

/-- **The permissions of a record are the nine bytes after the first character of its line.** -/
theorem permissions_of_readClean (h : readClean style now line = .ok r) :
    ∃ a text rest, r.unix = some a ∧ Utf8.splitAtByte 9 line.tail = some (text, rest) ∧
      a.permissions.text = text := by
  obtain ⟨p⟩ := parts_of_readClean h
  exact ⟨p.attributes, p.text, p.after, congrArg Metadata.unix p.record_eq, p.splitAt_eq,
    text_of_ofText? p.permissions_eq⟩

/-- What is cleaned off the end of a line stands after its mode. -/
theorem chomp_text_append (m : Mode) (c : Char) (rest : List Char) :
    chomp (c :: (m.text ++ rest)) = c :: (m.text ++ chomp rest) := by
  obtain ⟨front, last, htext, hlast⟩ := m.exists_text_eq_append
  rw [htext, List.append_assoc, List.append_assoc]
  exact chomp_append_cons (c :: front) rest hlast

/-- The mode of a record is that of its line, with a right for each special bit. -/
theorem mode_of_readLine {line : String} (hline : line.toList = c :: (m.text ++ rest))
    (h : readLine style now line = .ok r) :
    ∃ a, r.unix = some a ∧ a.permissions.mode = m.withRights := by
  rw [readLine, hline, chomp_text_append] at h
  obtain ⟨a, text, rest', ha, hsplit, htext⟩ := permissions_of_readClean h
  have hsize : Utf8.size m.text = 9 := Utf8.size_of_isAscii Mode.isAscii_of_mem_text
  rw [List.tail_cons, ← hsize, Utf8.splitAtByte_append] at hsplit
  cases hsplit
  exact ⟨a, ha, Permissions.mode_of_text htext⟩

/--
**A mode is read back from a line exactly if its special bits stand beside rights to execute.**
Whatever comes before and after the characters of the mode, a record that is read from the line has
the mode with a right to execute for each special bit, so that a special bit of its own is read
together with a right that is not there.
-/
theorem mode_reads_back_iff {line : String} (hline : line.toList = c :: (m.text ++ rest))
    (h : readLine style now line = .ok r) :
    ∃ a, r.unix = some a ∧ a.permissions.mode = m.withRights ∧
      (a.permissions.mode = m ↔ m.SpecialsExecute) := by
  obtain ⟨a, ha, hmode⟩ := mode_of_readLine hline h
  exact ⟨a, ha, hmode, by rw [hmode, Mode.withRights_eq_iff]⟩

/-- A program that runs as its owner, in a style without seconds. -/
theorem special_program_reads_back :
    let m := Mode.ofNat 0o5755
    let line := "-rwsr-xr-t  1 0 0 1 Mar 14 2019 /f"
    line.toList = '-' :: (m.text ++ "  1 0 0 1 Mar 14 2019 /f".toList) ∧
      ∃ r a, readLine .abbreviated ⟨0, 0⟩ line = .ok r ∧ r.unix = some a ∧
        a.permissions.mode = m := by
  intro m line
  have hline : line.toList = '-' :: (m.text ++ "  1 0 0 1 Mar 14 2019 /f".toList) := by
    decide +kernel
  have hok : (readLine .abbreviated ⟨0, 0⟩ line).isOk = true := by decide +kernel
  obtain ⟨r, hr⟩ := exists_ok_of_isOk hok
  obtain ⟨a, ha, -, hiff⟩ := mode_reads_back_iff hline hr
  exact ⟨hline, r, a, hr, ha, hiff.mpr ⟨by decide, by decide, by decide⟩⟩

/-- A file that would run as its owner if it could be run is read as one that can. -/
theorem idle_special_reads_as_executable :
    let m := Mode.ofNat 0o4644
    let line := "-rwSr--r--  1 0 0 1 Mar 14 2019 /f"
    line.toList = '-' :: (m.text ++ "  1 0 0 1 Mar 14 2019 /f".toList) ∧
      ∃ r a, readLine .abbreviated ⟨0, 0⟩ line = .ok r ∧ r.unix = some a ∧
        a.permissions.mode.userExec = true ∧ m.userExec = false := by
  intro m line
  have hline : line.toList = '-' :: (m.text ++ "  1 0 0 1 Mar 14 2019 /f".toList) := by
    decide +kernel
  have hok : (readLine .abbreviated ⟨0, 0⟩ line).isOk = true := by decide +kernel
  obtain ⟨r, hr⟩ := exists_ok_of_isOk hok
  obtain ⟨a, ha, hmode⟩ := mode_of_readLine hline hr
  exact ⟨hline, r, a, hr, ha, by rw [hmode]; rfl, rfl⟩

end Unix

end RemoteSearch
