/-!
# UTF-8

A decoder that takes one byte at a time and never fails: bytes that cannot be part of a character
are shown as U+FFFD, one for each maximal start of a character that is broken off. Because it is a
machine over single bytes, decoding the parts of a stream in turn is decoding the whole stream.

## States

The machine stands between characters, or holds the bits of a character that still needs some
continuation bytes together with the range allowed for the next one. The range of the second byte
excludes overlong forms, surrogates and code points above U+10FFFF, so a completed character is
always a Unicode scalar value.
-/

namespace RemoteSearch.Text.Utf8

/-- The sign that stands for undecodable bytes. -/
def replacement : Char := '\uFFFD'

/-- Where the decoder stands between two bytes. -/
inductive State where
  /-- Between two characters. -/
  | start
  /-- Inside a character: bits so far, bytes still needed, bounds of the next byte. -/
  | inside (bits : Nat) (needed : Nat) (low high : Nat)
  deriving Repr, DecidableEq, Inhabited

/-- The step on a byte that begins a character, `none` if no character begins with it. -/
def begin? (b : Nat) : Option (State × List Char) :=
  if b < 0x80 then some (.start, [Char.ofNat b])
  else if 0xC2 ≤ b ∧ b ≤ 0xDF then some (.inside (b - 0xC0) 1 0x80 0xBF, [])
  else if b = 0xE0 then some (.inside 0 2 0xA0 0xBF, [])
  else if b = 0xED then some (.inside 0xD 2 0x80 0x9F, [])
  else if 0xE1 ≤ b ∧ b ≤ 0xEF then some (.inside (b - 0xE0) 2 0x80 0xBF, [])
  else if b = 0xF0 then some (.inside 0 3 0x90 0xBF, [])
  else if 0xF1 ≤ b ∧ b ≤ 0xF3 then some (.inside (b - 0xF0) 3 0x80 0xBF, [])
  else if b = 0xF4 then some (.inside 4 3 0x80 0x8F, [])
  else none

/-- The step on a byte that goes on with the character in hand, `none` if it cannot. -/
def continue? (s : State) (b : Nat) : Option (State × List Char) :=
  match s with
  | .start => begin? b
  | .inside bits needed low high =>
    if low ≤ b ∧ b ≤ high then
      let bits := bits * 64 + (b - 0x80)
      some (if needed ≤ 1 then (.start, [Char.ofNat bits])
        else (.inside bits (needed - 1) 0x80 0xBF, []))
    else none

/--
The step on any byte: the next state and the characters it completes. A byte that does not fit
replaces what was in hand and is then looked at as the beginning of a character.
-/
def step (s : State) (byte : UInt8) : State × List Char :=
  match continue? s byte.toNat with
  | some r => r
  | none =>
    match s with
    | .start => (.start, [replacement])
    | .inside .. =>
      match begin? byte.toNat with
      | some (s, out) => (s, replacement :: out)
      | none => (.start, [replacement, replacement])

/-- What is shown for a character that the end of the stream breaks off. -/
def flush : State → List Char
  | .start => []
  | .inside .. => [replacement]

/-- The state and the characters after a run of bytes. -/
def run (s : State) (bytes : List UInt8) : State × List Char :=
  let (s, out) := bytes.foldl
    (fun (s, out) b =>
      let (s, cs) := step s b
      (s, cs.foldl (fun acc c => c :: acc) out)) (s, [])
  (s, out.reverse)

/-- The text of a whole stream, undecodable bytes replaced. -/
def decode (bytes : List UInt8) : List Char :=
  let (s, out) := run .start bytes
  out ++ flush s

/-- The text of a stream, as a string. -/
def decodeString (bytes : List UInt8) : String := String.ofList (decode bytes)

/-! ## Strict decoding -/

/-- Strict decoding from a state on, with the characters so far in reverse. -/
def decodeFrom? (s : State) (out : List Char) : List UInt8 → Option (List Char)
  | [] => if s = .start then some out.reverse else none
  | b :: r =>
    match continue? s b.toNat with
    | some (s, cs) => decodeFrom? s (cs ++ out) r
    | none => none

/-- The text of a stream in which every byte belongs to a character, `none` for any other. -/
def decode? (bytes : List UInt8) : Option (List Char) := decodeFrom? .start [] bytes

/-! ## Encoding -/

/-- The bytes of one character. -/
def encodeChar (c : Char) : List UInt8 :=
  let n := c.toNat
  if n < 0x80 then [n.toUInt8]
  else if n < 0x800 then [(0xC0 + n / 64).toUInt8, (0x80 + n % 64).toUInt8]
  else if n < 0x10000 then
    [(0xE0 + n / 4096).toUInt8, (0x80 + n / 64 % 64).toUInt8, (0x80 + n % 64).toUInt8]
  else
    [(0xF0 + n / 262144).toUInt8, (0x80 + n / 4096 % 64).toUInt8, (0x80 + n / 64 % 64).toUInt8,
      (0x80 + n % 64).toUInt8]

/-- The bytes of a text. -/
def encode (l : List Char) : List UInt8 := l.flatMap encodeChar

/-- The bytes of a string. -/
def encodeString (s : String) : List UInt8 := encode s.toList

/-- The number of bytes a character takes. -/
def charSize (c : Char) : Nat := (encodeChar c).length

/-- A character has one to four bytes. -/
theorem charSize_mem (c : Char) : 1 ≤ charSize c ∧ charSize c ≤ 4 := by
  unfold charSize encodeChar
  dsimp only
  split
  · exact ⟨by simp, by simp⟩
  · split
    · exact ⟨by simp, by simp⟩
    · split
      · exact ⟨by simp, by simp⟩
      · exact ⟨by simp, by simp⟩

/-- The number of bytes a text takes. -/
def size (l : List Char) : Nat := l.foldr (fun c n => charSize c + n) 0

theorem size_cons (c : Char) (l : List Char) : size (c :: l) = charSize c + size l := rfl

theorem size_append (a b : List Char) : size (a ++ b) = size a + size b := by
  induction a with
  | nil => simp [size]
  | cons c a ih => rw [List.cons_append, size_cons, size_cons, ih, Nat.add_assoc]

/-! ## Cutting by bytes -/

/--
Divides a text after exactly `n` bytes. `none` when the text is shorter or when a character
straddles the boundary.
-/
def splitAtByte (n : Nat) (l : List Char) : Option (List Char × List Char) :=
  match n, l with
  | 0, l => some ([], l)
  | _ + 1, [] => none
  | n + 1, c :: r =>
    if charSize c ≤ n + 1 then
      (splitAtByte (n + 1 - charSize c) r).map fun (a, b) => (c :: a, b)
    else none
termination_by structural l

/-- Both parts together are the text. -/
theorem append_of_splitAtByte {n : Nat} {l a b : List Char}
    (h : splitAtByte n l = some (a, b)) : a ++ b = l := by
  induction l generalizing n a b with
  | nil => cases n <;> simp_all [splitAtByte]
  | cons c r ih =>
    cases n with
    | zero => simp_all [splitAtByte]
    | succ n =>
      simp only [splitAtByte] at h
      split at h
      · obtain ⟨⟨x, y⟩, hxy, he⟩ := Option.map_eq_some_iff.1 h
        simp only [Prod.mk.injEq] at he
        obtain ⟨rfl, rfl⟩ := he
        simp [ih hxy]
      · simp at h

/-- The first part has exactly the bytes asked for. -/
theorem size_of_splitAtByte {n : Nat} {l a b : List Char}
    (h : splitAtByte n l = some (a, b)) : size a = n := by
  induction l generalizing n a b with
  | nil => cases n <;> simp_all [splitAtByte, size]
  | cons c r ih =>
    cases n with
    | zero => simp_all [splitAtByte, size]
    | succ n =>
      simp only [splitAtByte] at h
      split at h
      · obtain ⟨⟨x, y⟩, hxy, he⟩ := Option.map_eq_some_iff.1 h
        simp only [Prod.mk.injEq] at he
        obtain ⟨rfl, rfl⟩ := he
        have := ih hxy
        simp only [size, List.foldr_cons] at this ⊢
        omega
      · simp at h

/-- A text is divided after as many bytes as its first part has. -/
theorem splitAtByte_append (a b : List Char) : splitAtByte (size a) (a ++ b) = some (a, b) := by
  induction a with
  | nil => cases b <;> rfl
  | cons c a ih =>
    have hpos := (charSize_mem c).1
    have hsize : size (c :: a) = size a + (charSize c - 1) + 1 := by
      rw [size_cons]
      omega
    have hrest : size a + (charSize c - 1) + 1 - charSize c = size a := by omega
    rw [hsize, List.cons_append, splitAtByte, if_pos (by omega), hrest, ih]
    rfl

theorem splitAtByte_eq_some_iff {n : Nat} {l a b : List Char} :
    splitAtByte n l = some (a, b) ↔ a ++ b = l ∧ size a = n := by
  constructor
  · intro h
    exact ⟨append_of_splitAtByte h, size_of_splitAtByte h⟩
  · rintro ⟨rfl, rfl⟩
    exact splitAtByte_append a b

end RemoteSearch.Text.Utf8
