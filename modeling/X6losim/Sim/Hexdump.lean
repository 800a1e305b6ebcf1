import X6losim.Lib.Bytes
import X6losim.Lib.Exec
import X6losim.Stop

/-!
# The hexdump of the log

`_xlog_log_hexdump` logs the bytes of a buffer in rows of sixteen cells.  The text of a row is made
in two buffers, one for the hexadecimal digits and one for the characters.
-/

open Bytes

namespace X6losim

/-- `HEXDUMP_BYTES_PER_LINE`. -/
def hexdumpBytesPerLine : Nat := 16

/-- `HEXDUMP_MAX_HEX_LENGTH`. -/
def hexdumpMaxHexLength : Nat := 80

/-- A character as a byte. -/
def charByte (c : Char) : UInt8 := c.toNat.toUInt8

/-- The digit that `%X` prints for a number below sixteen. -/
def hexDigit (n : Nat) : UInt8 :=
  if n < 10 then charByte '0' + n.toUInt8 else charByte 'A' + (n - 10).toUInt8

/-- The two digits that `%02X` prints for a byte. -/
def hexDigits (b : UInt8) : List UInt8 := [hexDigit (b.toNat / 16), hexDigit (b.toNat % 16)]

/-- The two dots in a cell without a byte. -/
def dots : List UInt8 := [charByte '.', charByte '.']

/-- A byte is shown as a character.  As a `char` a byte from 128 on is negative, and none is. -/
def Printable (b : UInt8) : Prop := charByte ' ' ≤ b ∧ b ≤ charByte '~'

instance (b : UInt8) : Decidable (Printable b) := inferInstanceAs (Decidable (_ ∧ _))

/-- The character that is shown for a byte. -/
def shownChar (b : UInt8) : UInt8 := if Printable b then b else charByte '.'

/-- The buffers that `malloc` gives for a hexdump, with what happens to be in them. -/
structure HexdumpBuffers where
  hexBuff : List UInt8
  charBuff : List UInt8
  length_hexBuff : hexBuff.length = hexdumpMaxHexLength + 1
  length_charBuff : charBuff.length = hexdumpBytesPerLine + 1

/-- A row that is logged: its address, the text of its cells and its characters. -/
structure HexdumpRow where
  rowStartAddr : UInt64
  hex : List UInt8
  chars : List UInt8
deriving DecidableEq, Repr

/-- The variables of a hexdump, the pointers by their offsets, and the rows logged so far. -/
structure Hexdump where
  hexBuff : List UInt8
  charBuff : List UInt8
  hexWr : Nat
  dump : Nat
  rowStartAddr : UInt64
  column : Nat
  rows : List HexdumpRow
deriving DecidableEq, Repr

/-- A part of a hexdump. -/
abbrev HexdumpProg := EStateM Stop Hexdump

/-- `sprintf` to where the next cell is written, with the NUL at the end, and the pointer moved
behind the text. -/
def sprintfHex (text : List UInt8) : HexdumpProg Unit := do
  let s ← get
  let hexBuff ← Exec.ofExcept (Bytes.write .outOfBounds s.hexBuff s.hexWr (text ++ [0]))
  modify fun s => { s with hexBuff, hexWr := s.hexWr + text.length }

/-- The assignment of an element of the character buffer. -/
def setChar (i : Nat) (c : UInt8) : HexdumpProg Unit := do
  let s ← get
  let charBuff ← Exec.ofExcept (Bytes.write .outOfBounds s.charBuff i [c])
  modify fun s => { s with charBuff }

/-- The string at the beginning of a buffer, up to its NUL. -/
def readString (buf : List UInt8) : Except Stop (List UInt8) :=
  if 0 ∈ buf then .ok (buf.takeWhile (fun b => b ≠ 0)) else .error .outOfBounds

/-- The end of a row: both buffers are terminated, and the row is logged. -/
def logRow : HexdumpProg Unit := do
  let s ← get
  let hexBuff ← Exec.ofExcept (Bytes.write .outOfBounds s.hexBuff hexdumpMaxHexLength [0])
  let charBuff ← Exec.ofExcept (Bytes.write .outOfBounds s.charBuff hexdumpBytesPerLine [0])
  let hex ← Exec.ofExcept (readString hexBuff)
  let chars ← Exec.ofExcept (readString charBuff)
  modify fun s => { s with hexBuff, charBuff, rows := s.rows ++ [⟨s.rowStartAddr, hex, chars⟩] }

/-- The lead in, for a number of cells. -/
def leadIn : Nat → HexdumpProg Unit
  | 0 => return
  | cells + 1 => do
      sprintfHex (dots ++ [charByte ' '])
      let s ← get
      setChar s.column (charByte ' ')
      modify fun s => { s with column := s.column + 1 }
      leadIn cells

/-- The loop over the bytes that are left. -/
def dumpBytes (startAddr : List UInt8) : Nat → HexdumpProg Unit
  | 0 => return
  | bytesLeft + 1 => do
      let s ← get
      let b ← Exec.ofExcept (Bytes.read .outOfBounds startAddr s.dump 1)
      let b := b.headD 0
      sprintfHex (hexDigits b ++ [charByte ' '])
      setChar s.column (shownChar b)
      modify fun s => { s with dump := s.dump + 1, column := s.column + 1 }
      let s ← get
      if hexdumpBytesPerLine ≤ s.column then
        logRow
        modify fun s => { s with
          rowStartAddr := s.rowStartAddr + hexdumpBytesPerLine.toUInt64
          hexWr := 0
          column := 0 }
      dumpBytes startAddr bytesLeft

/-- The lead out, from a column on. -/
def leadOut (i : Nat) : HexdumpProg Unit := do
  if i < hexdumpBytesPerLine then
    sprintfHex (dots ++ [charByte ' '])
    setChar i (charByte ' ')
    leadOut (i + 1)
termination_by hexdumpBytesPerLine - i

/-- `_xlog_log_hexdump` for the bytes at an address. -/
def xlogLogHexdump (buffers : HexdumpBuffers) (loglevel pri : Int) (startAddr : List UInt8)
    (dumpByteLen : UInt16) (printAddress : UInt64) : EStateM.Result Stop Hexdump Unit :=
  let prog : HexdumpProg Unit := do
    if pri ≤ loglevel then
      leadIn (printAddress.toNat % hexdumpBytesPerLine)
      dumpBytes startAddr dumpByteLen.toNat
      let s ← get
      if s.column ≠ 0 then
        leadOut s.column
        logRow
  prog {
    hexBuff := buffers.hexBuff
    charBuff := buffers.charBuff
    hexWr := 0
    dump := 0
    rowStartAddr := printAddress &&& ~~~(hexdumpBytesPerLine.toUInt64 - 1)
    column := 0
    rows := [] }

/-! ### Faithful rows -/

/-- The cells of a row: three characters each, of which the last is a blank. -/
def HexdumpRow.cells (row : HexdumpRow) : List (List UInt8) := cellsOf row.hex
where
  cellsOf : List UInt8 → List (List UInt8)
    | a :: b :: _ :: text => [a, b] :: cellsOf text
    | _ => []

/-- The rows show the bytes at an address: each has sixteen cells and as many characters, the cells
without dots have the digits of the bytes in their order, and a byte is in the row and the column of
its address, and is its character when it can be shown. -/
structure Shows (printAddress : UInt64) (bytes : List UInt8) (rows : List HexdumpRow) : Prop where
  cells : ∀ row ∈ rows, row.cells.length = 16 ∧ row.chars.length = 16 ∧
    row.hex = row.cells.flatMap fun cell => cell ++ [charByte ' ']
  digits : (rows.flatMap HexdumpRow.cells).filter (fun cell => cell ≠ dots) = bytes.map hexDigits
  place : ∀ row ∈ rows, ∀ c cell, row.cells[c]? = some cell → cell ≠ dots →
    ∃ i b, bytes[i]? = some b ∧ printAddress.toNat + i = row.rowStartAddr.toNat + c ∧
      cell = hexDigits b ∧ (Printable b → row.chars[c]? = some b)

end X6losim
