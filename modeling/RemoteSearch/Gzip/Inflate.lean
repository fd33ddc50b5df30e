import RemoteSearch.Gzip.Code

/-!
# Inflation

The decompression of a stream of blocks that are stored, or coded with a fixed code, or with a code
of their own. References reach back at most 32 KiB, and before the start of the output there are
zeros.

Output is handed on in portions: a portion ends where a piece of 32 KiB of the file is used up, and
where a window of 32 KiB of output is full, unless it would be shorter than 8 KiB there, in which
case it runs on. When the stream turns out to be corrupt, the portion in the making is lost. When
the stream merely ends too early, all that could be decoded is kept.

## Termination

Every symbol and every block takes at least one bit, so the loops run down to the end of the input;
copying is counted by the bytes that are left to copy.
-/

namespace RemoteSearch.Gzip

/-- The size of the pieces in which the file is read. -/
def pieceSize : Nat := 32768

/-- How much output is asked for at a time. -/
def demandSize : Nat := 8192

/-- How far back references reach, and how much output is decoded at a time. -/
def windowSize : Nat := 32768

/-- Decoded bytes, how many of them have been handed on, and the piece of the file in use. -/
structure Output where
  bytes : ByteArray := .empty
  handedOn : Nat := 0
  piece : Nat := 0

namespace Output

/-- Notes that the bits before `pos` have been used. -/
def touch (o : Output) (pos : Nat) : Output :=
  let piece := (pos - 1) / (8 * pieceSize)
  if o.piece < piece then { o with handedOn := o.bytes.size, piece } else o

/-- Where the portion in the making begins once the next byte has been added. -/
def startFor (size handedOn : Nat) : Nat :=
  if size % windowSize = 0 ∧ (handedOn = size ∨ demandSize ≤ size - handedOn) then size
  else handedOn

/-- Adds a byte. -/
def push (o : Output) (b : UInt8) : Output :=
  let ⟨bytes, handedOn, piece⟩ := o
  let handedOn := startFor bytes.size handedOn
  ⟨bytes.push b, handedOn, piece⟩

/-- Adds `n` bytes that repeat what stands `distance` bytes back. -/
def copy (distance : Nat) : Nat → Output → Output
  | 0, o => o
  | n + 1, o =>
    let b := if distance ≤ o.bytes.size then o.bytes.get! (o.bytes.size - distance) else 0
    copy distance n (o.push b)

/-- Adds `n` bytes of the input, as many as there are. -/
def store (input : ByteArray) (start : Nat) : Nat → Output → Output
  | 0, o => o
  | n + 1, o =>
    if h : start < input.size then
      store input (start + 1) n ((o.touch (8 * (start + 1))).push input[start])
    else o

end Output

/-- The end of decoding: where it ended, and what there is. -/
inductive Ended where
  | complete (pos : Nat) (output : Output)
  | exhausted (output : Output)
  | corrupt (output : Output)

/-- A block that could be decoded, or the end of decoding. -/
abbrev Step := Except Ended (Nat × Output)

/-- The end of decoding for a reason. -/
def stopped (output : Output) : Stop → Ended
  | .exhausted => .exhausted output
  | .corrupt pos => .corrupt (output.touch pos)

/-- The shortest length and the extra bits of the symbols from 257 on. -/
def lengthTable : Array (Nat × Nat) := #[
  (3, 0), (4, 0), (5, 0), (6, 0), (7, 0), (8, 0), (9, 0), (10, 0), (11, 1), (13, 1), (15, 1),
  (17, 1), (19, 2), (23, 2), (27, 2), (31, 2), (35, 3), (43, 3), (51, 3), (59, 3), (67, 4),
  (83, 4), (99, 4), (115, 4), (131, 5), (163, 5), (195, 5), (227, 5), (258, 0)]

/-- The shortest distance and the extra bits of the symbols for distances. -/
def distanceTable : Array (Nat × Nat) := #[
  (1, 0), (2, 0), (3, 0), (4, 0), (5, 1), (7, 1), (9, 2), (13, 2), (17, 3), (25, 3), (33, 4),
  (49, 4), (65, 5), (97, 5), (129, 6), (193, 6), (257, 7), (385, 7), (513, 8), (769, 8), (1025, 9),
  (1537, 9), (2049, 10), (3073, 10), (4097, 11), (6145, 11), (8193, 12), (12289, 12), (16385, 13),
  (24577, 13)]

/-- A number given by a row of a table and extra bits, and the position after these. -/
def tableValue (table : Array (Nat × Nat)) (symbol : Nat) (input : ByteArray) (pos : Nat) :
    Except Stop (Nat × Nat) :=
  match table[symbol]? with
  | none => .error (.corrupt pos)
  | some (base, extra) => (bits input pos extra).map fun n => (base + n, pos + extra)

/-- Length and distance of a reference whose first symbol has been read. -/
def reference (distances : Code) (symbol : Nat) (input : ByteArray) (pos : Nat) :
    Except Stop (Nat × Nat × Nat) := do
  let (length, pos) ← tableValue lengthTable (symbol - 257) input pos
  let (symbol, pos) ← distances.read input pos
  let (distance, pos) ← tableValue distanceTable symbol input pos
  .ok (length, distance, pos)

set_option maxRecDepth 2000 in
/-- Decodes the symbols of a block, to its end. -/
def symbols (input : ByteArray) (literals distances : Code) (pos : Nat) (output : Output) : Step :=
  match literals.read input pos with
  | .error e => .error (stopped output e)
  | .ok (symbol, next) =>
    -- 256 ends the block, smaller symbols are bytes, larger ones begin a reference
    if symbol = 256 then .ok (next, output.touch next)
    else if _h : next ≤ pos ∨ 8 * input.size < next then .error (.corrupt output)
    else if symbol < 256 then
      symbols input literals distances next ((output.touch next).push symbol.toUInt8)
    else
      match reference distances symbol input next with
      | .error e => .error (stopped output e)
      | .ok (length, distance, last) =>
        if _h' : last < next ∨ 8 * input.size < last then .error (.corrupt output)
        else
          symbols input literals distances last ((output.touch last).copy distance length)
termination_by 8 * input.size - pos
decreasing_by
  · omega
  · omega

/-- The code for literals that blocks without a code of their own use. -/
def fixedLiterals : Code :=
  (Code.ofLengths? (List.replicate 144 8 ++ List.replicate 112 9 ++ List.replicate 24 7 ++
    List.replicate 8 8)).getD default

/-- The code for distances that such blocks use. -/
def fixedDistances : Code := (Code.ofLengths? (List.replicate 32 5)).getD default

/-- The order in which the lengths of the code for lengths are given. -/
def lengthOrder : List Nat :=
  [16, 17, 18, 0, 8, 7, 9, 6, 10, 5, 11, 4, 12, 3, 13, 2, 14, 1, 15]

/-- The next `n` numbers of three bits. -/
def threeBits (input : ByteArray) (pos : Nat) : Nat → Except Stop (List Nat)
  | 0 => .ok []
  | n + 1 => do
    let x ← bits input pos 3
    let xs ← threeBits input (pos + 3) n
    .ok (x :: xs)

/-- The code for lengths, given the number of its lengths that are written out. -/
def lengthCode (input : ByteArray) (pos n : Nat) : Except Stop Code := do
  let given ← threeBits input pos n
  let table := lengthOrder.zip given
  match Code.ofLengths? ((List.range 19).map fun i => (table.lookup i).getD 0) with
  | some c => .ok c
  | none => .error (.corrupt (pos + 3 * n))

/-- What a symbol for lengths stands for: lengths, and the position after its extra bits. -/
def lengthRun (input : ByteArray) (symbol pos : Nat) (sofar : List Nat) :
    Except Stop (List Nat × Nat) :=
  -- 16 repeats the last length; 17 and 18 stand for runs of zeros
  if symbol < 16 then .ok ([symbol], pos)
  else if symbol = 16 then
    match sofar with
    | [] => .error (.corrupt pos)
    | last :: _ => (bits input pos 2).map fun n => (List.replicate (3 + n) last, pos + 2)
  else if symbol = 17 then (bits input pos 3).map fun n => (List.replicate (3 + n) 0, pos + 3)
  else (bits input pos 7).map fun n => (List.replicate (11 + n) 0, pos + 7)

/-- Reads `missing` lengths onto those read so far, which come last first. -/
def readLengths (input : ByteArray) (c : Code) (pos missing : Nat) (sofar : List Nat) :
    Except Stop (List Nat × Nat) :=
  if missing = 0 then .ok (sofar.reverse, pos)
  else do
    let (symbol, pos) ← c.read input pos
    let (run, pos) ← lengthRun input symbol pos sofar
    if _h : run.length = 0 ∨ missing < run.length then .error (.corrupt pos)
    else readLengths input c pos (missing - run.length) (run.reverse ++ sofar)
termination_by missing

/-- Reads the codes of a block that brings its own, and the position after them. -/
def ownCodes (input : ByteArray) (pos : Nat) : Except Stop (Code × Code × Nat) := do
  let literals := 257 + (← bits input pos 5)
  let distances := 1 + (← bits input (pos + 5) 5)
  let given := 4 + (← bits input (pos + 10) 4)
  if 286 < literals ∨ 30 < distances then .error (.corrupt (pos + 14))
  else
    let c ← lengthCode input (pos + 14) given
    let (lengths, pos) ← readLengths input c (pos + 14 + 3 * given) (literals + distances) []
    match Code.ofLengths? (lengths.take literals), Code.ofLengths? (lengths.drop literals) with
    | some l, some d => .ok (l, d, pos)
    | _, _ => .error (.corrupt pos)

/-- The length of a stored block and the byte after its head, which gives the length twice. -/
def storedLength (input : ByteArray) (pos : Nat) : Except Stop (Nat × Nat) := do
  let start := (pos + 7) / 8
  let length ← bits input (8 * start) 16
  let inverse ← bits input (8 * start + 16) 16
  if length + inverse = 65535 then .ok (length, start + 4) else .error (.corrupt (8 * start + 32))

/-- Decodes a block of the given kind. -/
def block (input : ByteArray) (kind pos : Nat) (output : Output) : Step :=
  match kind with
  | 0 =>
    match storedLength input pos with
    | .error e => .error (stopped output e)
    | .ok (length, start) =>
      -- whatever the input still has is handed on, also when it is too short
      let output := Output.store input start length (output.touch (8 * start))
      if start + length ≤ input.size then .ok (8 * (start + length), output)
      else .error (.exhausted output)
  | 1 => symbols input fixedLiterals fixedDistances pos output
  | 2 =>
    match ownCodes input pos with
    | .error e => .error (stopped output e)
    | .ok (literals, distances, pos) => symbols input literals distances pos output
  | _ => .error (.corrupt (output.touch pos))

/-- Decodes blocks until the last one is done. -/
def inflateFrom (input : ByteArray) (pos : Nat) (output : Output) : Ended :=
  match bits input pos 1, bits input (pos + 1) 2 with
  | .ok final, .ok kind =>
    match block input kind (pos + 3) output with
    | .error e => e
    | .ok (next, output) =>
      if final = 1 then .complete next output
      else if _h : next ≤ pos ∨ 8 * input.size < next then .corrupt output
      else inflateFrom input next output
  | _, _ => .exhausted output
termination_by 8 * input.size - pos

/-- Decodes the stream of blocks that begins at a byte of the input. -/
def inflate (input : ByteArray) (start : Nat) : Ended :=
  inflateFrom input (8 * start) { piece := (start - 1) / pieceSize }

end RemoteSearch.Gzip
