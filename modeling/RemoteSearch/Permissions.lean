import RemoteSearch.Text.Utf8

/-!
# Permissions

The nine characters by which a Unix host shows who may do what with a file, and the twelve bits of
a mode that are read off them.

The nine characters are counted in bytes, so a text with characters outside ASCII can be taken for
permissions too; no bit is read from such a character but that something stands there.
-/

namespace RemoteSearch

open Text

/-- The bits of a file mode. -/
structure Mode where
  userRead : Bool
  userWrite : Bool
  userExec : Bool
  setUid : Bool
  groupRead : Bool
  groupWrite : Bool
  groupExec : Bool
  setGid : Bool
  otherRead : Bool
  otherWrite : Bool
  otherExec : Bool
  sticky : Bool
  deriving Repr, DecidableEq, Inhabited

namespace Mode

/-- The bits in order, three of access and one of speciality for user, group and others. -/
def bits (m : Mode) : List Bool :=
  [m.userRead, m.userWrite, m.userExec, m.setUid, m.groupRead, m.groupWrite, m.groupExec, m.setGid,
    m.otherRead, m.otherWrite, m.otherExec, m.sticky]

/-- The mode with a number, as written in octal: four digits, of which the first is special. -/
def ofNat (n : Nat) : Mode where
  userRead := n.testBit 8
  userWrite := n.testBit 7
  userExec := n.testBit 6
  setUid := n.testBit 11
  groupRead := n.testBit 5
  groupWrite := n.testBit 4
  groupExec := n.testBit 3
  setGid := n.testBit 10
  otherRead := n.testBit 2
  otherWrite := n.testBit 1
  otherExec := n.testBit 0
  sticky := n.testBit 9

/-- A character that stands for a bit, or a dash. -/
def show1 (c : Char) (b : Bool) : Char := if b then c else '-'

/--
The character for the right to execute together with a special bit: the special character in lower
case if both are set, in upper case if only the special bit is.
-/
def showExec (lower upper : Char) (exec special : Bool) : Char :=
  match exec, special with
  | true, true => lower
  | false, true => upper
  | true, false => 'x'
  | false, false => '-'

/-- The nine characters by which a listing shows a mode. -/
def text (m : Mode) : List Char :=
  [show1 'r' m.userRead, show1 'w' m.userWrite, showExec 's' 'S' m.userExec m.setUid,
    show1 'r' m.groupRead, show1 'w' m.groupWrite, showExec 's' 'S' m.groupExec m.setGid,
    show1 'r' m.otherRead, show1 'w' m.otherWrite, showExec 't' 'T' m.otherExec m.sticky]

end Mode

/-- A permission text: nine bytes of whole characters. -/
structure Permissions where
  text : List Char
  size_eq : Utf8.size text = 9
  deriving Repr, DecidableEq

namespace Permissions

/-- The permissions written by a text, if it has nine bytes. -/
def ofText? (l : List Char) : Option Permissions :=
  if h : Utf8.size l = 9 then some ⟨l, h⟩ else none

/-- The permissions written by a string, if it has nine bytes. -/
def ofString? (s : String) : Option Permissions := ofText? s.toList

/-- Whether the byte at a place is that of an ASCII character. -/
def byteIs (p : Permissions) (i : Nat) (c : Char) : Bool :=
  (Utf8.encode p.text)[i]? == some c.toNat.toUInt8

/--
The mode bits that the text shows. A right to execute is there whenever its place is no dash; the
special bits are there for the special characters of either case.
-/
def mode (p : Permissions) : Mode where
  userRead := p.byteIs 0 'r'
  userWrite := p.byteIs 1 'w'
  userExec := !p.byteIs 2 '-'
  setUid := p.byteIs 2 's' || p.byteIs 2 'S'
  groupRead := p.byteIs 3 'r'
  groupWrite := p.byteIs 4 'w'
  groupExec := !p.byteIs 5 '-'
  setGid := p.byteIs 5 's' || p.byteIs 5 'S'
  otherRead := p.byteIs 6 'r'
  otherWrite := p.byteIs 7 'w'
  otherExec := !p.byteIs 8 '-'
  sticky := p.byteIs 8 't' || p.byteIs 8 'T'

end Permissions

end RemoteSearch
