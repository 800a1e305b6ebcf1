import Mathlib.Data.List.Induction
import X6losim.Lib.Rows
import X6losim.Sim.Hexdump
import X6losim.Sim.Node

/-!
# What a hexdump shows

A hexdump fills rows of cells: first those of the lead in, then one for each byte, and then those of
the lead out.  Its buffers hold the text of the row that is being filled, and the rows before it
have been logged.
-/

open Bytes

namespace X6losim

/-- A cell, with a byte or without one. -/
abbrev Cell := Option UInt8

/-- The two characters of a cell. -/
def Cell.digits : Cell → List UInt8
  | none => dots
  | some b => hexDigits b

/-- The character that is shown for a cell. -/
def Cell.shown : Cell → UInt8
  | none => charByte ' '
  | some b => shownChar b

/-- The text of a row of cells. -/
def rowText (row : List Cell) : List UInt8 := row.flatMap fun cell => cell.digits ++ [charByte ' ']

/-- The rows of a hexdump that are logged for rows of cells, from an address on. -/
def logged (base : UInt64) (rows : List (List Cell)) : List HexdumpRow :=
  rows.mapIdx fun k row =>
    ⟨base + (hexdumpBytesPerLine * k).toUInt64, rowText row, row.map Cell.shown⟩

/-- The hex buffer begins with the text of a row, and the text is terminated. -/
def HexLine (row : List Cell) (hexBuff : List UInt8) : Prop :=
  ∃ rest, hexBuff = rowText row ++ rest ∧
    rest.length + 3 * row.length = hexdumpMaxHexLength + 1 ∧ (row ≠ [] → rest.head? = some 0)

/-- The character buffer begins with the characters of a row. -/
def CharLine (row : List Cell) (charBuff : List UInt8) : Prop :=
  ∃ rest, charBuff = row.map Cell.shown ++ rest ∧
    rest.length + row.length = hexdumpBytesPerLine + 1

/-- The buffers begin with a row, and the next cell is written behind it. -/
structure Line (row : List Cell) (s : Hexdump) : Prop where
  hexBuff : HexLine row s.hexBuff
  charBuff : CharLine row s.charBuff
  hexWr : s.hexWr = 3 * row.length

/-- A hexdump has filled rows of cells: the full ones are logged, and the last is in the buffers. -/
structure Filled (base : UInt64) (t : Rows Cell hexdumpBytesPerLine) (s : Hexdump) : Prop where
  line : Line t.row s
  column : s.column = t.row.length
  rows : s.rows = logged base t.full
  rowStartAddr : s.rowStartAddr = base + (hexdumpBytesPerLine * t.full.length).toUInt64

variable {row : List Cell} {s : Hexdump} {cell : Cell} {base : UInt64}
  {t : Rows Cell hexdumpBytesPerLine}

theorem logged_append (base : UInt64) (rows : List (List Cell)) (row : List Cell) :
  logged base (rows ++ [row]) = logged base rows ++
    [⟨base + (hexdumpBytesPerLine * rows.length).toUInt64, rowText row, row.map Cell.shown⟩]
  := by
  simp [logged, List.mapIdx_append]

/-! ### Digits and characters -/

theorem hexDigit_ne {n : Nat} (h : n < 16) :
  hexDigit n ≠ 0 ∧ hexDigit n ≠ charByte '.'
  := by
  have hall : ∀ n < 16, hexDigit n ≠ 0 ∧ hexDigit n ≠ charByte '.' := by decide
  apply hall n h

theorem hexDigits_ne (b : UInt8) :
  hexDigits b ≠ dots ∧ ∀ d ∈ hexDigits b, d ≠ 0
  := by
  have hlt := b.toNat_lt
  have hhigh := hexDigit_ne (n := b.toNat / 16) (by omega)
  have hlow := hexDigit_ne (n := b.toNat % 16) (by omega)
  constructor
  · intro heq
    apply hhigh.2
    apply (List.cons.inj heq).1
  · simp [hexDigits, hhigh.1, hlow.1]

theorem Cell.shown_ne (cell : Cell) :
  cell.shown ≠ 0
  := by
  cases cell with
  | none => decide
  | some b =>
      simp only [Cell.shown, shownChar]
      split
      · next h =>
          rintro rfl
          revert h
          decide
      · decide

theorem Cell.length_digits (cell : Cell) :
  cell.digits.length = 2
  := by
  cases cell <;> rfl

theorem length_rowText (row : List Cell) :
  (rowText row).length = 3 * row.length
  := by
  induction row with
  | nil => rfl
  | cons cell row ih =>
      simp only [rowText, List.flatMap_cons, List.length_append, cell.length_digits,
        List.length_cons, List.length_nil] at ih ⊢
      omega

theorem rowText_ne (row : List Cell) :
  ∀ c ∈ rowText row, c ≠ 0
  := by
  intro c hc
  obtain ⟨cell, -, hc⟩ := List.mem_flatMap.mp hc
  rcases List.mem_append.mp hc with hc | hc
  · cases cell with
    | none =>
        have hdot : c = charByte '.' := by simpa [Cell.digits, dots] using hc
        rw [hdot]
        decide
    | some b => apply (hexDigits_ne b).2 c hc
  · rw [List.mem_singleton.mp hc]
    decide

/-- A string ends before its NUL. -/
theorem readString_append {l rest : List UInt8} (hl : ∀ c ∈ l, c ≠ 0) :
  readString (l ++ 0 :: rest) = .ok l
  := by
  rw [readString, if_pos (by simp), List.takeWhile_append_of_pos (by simpa using hl)]
  simp

/-! ### Writing a row -/

/-- The text of a cell is written behind those of its row. -/
theorem Line.sprintfHex (h : Line row s) (hlt : row.length < hexdumpBytesPerLine) (cell : Cell) :
  ∃ hexBuff, HexLine (row ++ [cell]) hexBuff ∧
    X6losim.sprintfHex (cell.digits ++ [charByte ' ']) s
      = .ok () { s with hexBuff, hexWr := 3 * (row ++ [cell]).length }
  := by
  obtain ⟨rest, hhex, hlength, -⟩ := h.hexBuff
  have htext : (cell.digits ++ [charByte ' ']).length = 3 := by
    rw [List.length_append, cell.length_digits]
    rfl
  simp only [hexdumpBytesPerLine, hexdumpMaxHexLength] at hlt hlength
  have hroom : (cell.digits ++ [charByte ' '] ++ [0]).length ≤ rest.length := by
    rw [List.length_append, htext, List.length_singleton]
    omega
  have hwrite : Bytes.write Stop.outOfBounds s.hexBuff s.hexWr
        (cell.digits ++ [charByte ' '] ++ [0])
      = .ok (rowText (row ++ [cell]) ++ (0 :: rest.drop 4)) := by
    rw [hhex, h.hexWr, ← length_rowText, Bytes.write_behind _ _ hroom, List.length_append, htext]
    simp [rowText]
  refine ⟨rowText (row ++ [cell]) ++ (0 :: rest.drop 4), ⟨0 :: rest.drop 4, rfl, ?_, ?_⟩, ?_⟩
  · simp only [List.length_cons, List.length_drop, List.length_append, List.length_nil]
    simp only [List.length_append, htext, List.length_singleton] at hroom
    simp only [hexdumpMaxHexLength]
    omega
  · intro _
    rfl
  · have hnext : s.hexWr + 3 = 3 * (row ++ [cell]).length := by
      rw [h.hexWr, List.length_append, List.length_singleton, Nat.mul_add]
    rw [← hnext]
    simp only [X6losim.sprintfHex, Exec.bind_apply, Exec.get_apply, hwrite, Exec.ofExcept_ok,
      Exec.modify_apply, htext]

/-- The character of a cell is written behind those of its row. -/
theorem CharLine.setChar (h : CharLine row s.charBuff) (hlt : row.length < hexdumpBytesPerLine)
    (cell : Cell) :
  ∃ charBuff, CharLine (row ++ [cell]) charBuff ∧
    X6losim.setChar row.length cell.shown s = .ok () { s with charBuff }
  := by
  obtain ⟨rest, hchar, hlength⟩ := h
  have hroom : [cell.shown].length ≤ rest.length := by
    rw [List.length_singleton]
    omega
  have hwrite : Bytes.write Stop.outOfBounds s.charBuff row.length [cell.shown]
      = .ok ((row ++ [cell]).map Cell.shown ++ rest.drop 1) := by
    have hlast : row.length = (row.map Cell.shown).length := (List.length_map _).symm
    rw [hchar, hlast, Bytes.write_behind _ _ hroom]
    simp
  refine ⟨(row ++ [cell]).map Cell.shown ++ rest.drop 1, ⟨rest.drop 1, rfl, ?_⟩, ?_⟩
  · rw [List.length_singleton] at hroom
    rw [List.length_drop, List.length_append, List.length_singleton]
    omega
  · simp only [X6losim.setChar, Exec.bind_apply, Exec.get_apply, hwrite, Exec.ofExcept_ok,
      Exec.modify_apply]

/-- A cell is written behind those of its row. -/
theorem Line.put (h : Line row s) (hlt : row.length < hexdumpBytesPerLine) (cell : Cell) :
  ∃ hexBuff charBuff hexWr, Line (row ++ [cell]) { s with hexBuff, charBuff, hexWr } ∧
    X6losim.sprintfHex (cell.digits ++ [charByte ' ']) s = .ok () { s with hexBuff, hexWr } ∧
    X6losim.setChar row.length cell.shown { s with hexBuff, hexWr }
      = .ok () { s with hexBuff, charBuff, hexWr }
  := by
  obtain ⟨hexBuff, hhex, hsprintf⟩ := h.sprintfHex hlt cell
  obtain ⟨charBuff, hchar, hset⟩ := CharLine.setChar
    (s := { s with hexBuff, hexWr := 3 * (row ++ [cell]).length }) h.charBuff hlt cell
  exact ⟨hexBuff, charBuff, _, ⟨hhex, hchar, rfl⟩, hsprintf, hset⟩

/-- The text of a full row is the string in the hex buffer when this is terminated. -/
theorem HexLine.terminated {buf : List UInt8} (h : HexLine row buf)
    (hfull : row.length = hexdumpBytesPerLine) :
  ∃ buf', Bytes.write Stop.outOfBounds buf hexdumpMaxHexLength [0] = .ok buf' ∧
    buf'.length = hexdumpMaxHexLength + 1 ∧ readString buf' = .ok (rowText row)
  := by
  obtain ⟨rest, rfl, hlength, hnul⟩ := h
  have hne : row ≠ [] := by
    rintro rfl
    cases hfull
  obtain ⟨rest, rfl⟩ : ∃ l, rest = 0 :: l := by
    cases rest with
    | nil => cases hnul hne
    | cons c l => exact ⟨l, by rw [Option.some.inj (hnul hne)]⟩
  simp only [hexdumpBytesPerLine, hexdumpMaxHexLength, List.length_cons] at hlength hfull
  -- The NUL at the end of the text stays: the one that is written is behind it.
  have hsplit : rowText row ++ 0 :: rest = (rowText row ++ 0 :: rest.take 31) ++ rest.drop 31 := by
    rw [List.append_assoc, List.cons_append, List.take_append_drop]
  have hstart : (rowText row ++ 0 :: rest.take 31).length = hexdumpMaxHexLength := by
    rw [List.length_append, length_rowText, List.length_cons, List.length_take, hfull,
      hexdumpMaxHexLength]
    omega
  have hroom : [(0 : UInt8)].length ≤ (rest.drop 31).length := by
    rw [List.length_singleton, List.length_drop]
    omega
  have hwrite := Bytes.write_behind Stop.outOfBounds (rowText row ++ 0 :: rest.take 31) hroom
  rw [← hsplit, hstart] at hwrite
  refine ⟨_, hwrite, ?_, ?_⟩
  · rw [Bytes.length_of_write hwrite, List.length_append, length_rowText, List.length_cons, hfull,
      hexdumpMaxHexLength]
    omega
  · rw [List.append_assoc, List.cons_append]
    apply readString_append (rowText_ne row)

/-- The characters of a full row are the string in the character buffer when this is terminated. -/
theorem CharLine.terminated {buf : List UInt8} (h : CharLine row buf)
    (hfull : row.length = hexdumpBytesPerLine) :
  ∃ buf', Bytes.write Stop.outOfBounds buf hexdumpBytesPerLine [0] = .ok buf' ∧
    buf'.length = hexdumpBytesPerLine + 1 ∧ readString buf' = .ok (row.map Cell.shown)
  := by
  obtain ⟨rest, rfl, hlength⟩ := h
  have hroom : [(0 : UInt8)].length ≤ rest.length := by
    rw [List.length_singleton]
    omega
  have hwrite := Bytes.write_behind Stop.outOfBounds (row.map Cell.shown) hroom
  rw [List.length_map, hfull] at hwrite
  refine ⟨_, hwrite, ?_, ?_⟩
  · rw [Bytes.length_of_write hwrite, List.length_append, List.length_map]
    omega
  · apply readString_append
    intro c hc
    obtain ⟨cell, -, rfl⟩ := List.mem_map.mp hc
    apply cell.shown_ne

/-- A row that is full is logged with its text and its characters. -/
theorem Line.logRow (h : Line row s) (hfull : row.length = hexdumpBytesPerLine) :
  ∃ hexBuff charBuff, hexBuff.length = hexdumpMaxHexLength + 1 ∧
    charBuff.length = hexdumpBytesPerLine + 1 ∧
    X6losim.logRow s = .ok () { s with
      hexBuff
      charBuff
      rows := s.rows ++ [⟨s.rowStartAddr, rowText row, row.map Cell.shown⟩] }
  := by
  obtain ⟨hexBuff, hhexWrite, hhexLength, hhex⟩ := h.hexBuff.terminated hfull
  obtain ⟨charBuff, hcharWrite, hcharLength, hchar⟩ := h.charBuff.terminated hfull
  refine ⟨hexBuff, charBuff, hhexLength, hcharLength, ?_⟩
  simp only [X6losim.logRow, Exec.bind_apply, Exec.get_apply, hhexWrite, hcharWrite,
    Exec.ofExcept_ok, hhex, hchar, Exec.modify_apply]

/-! ### The loops -/

/-- The buffers of a hexdump begin with the row without a cell. -/
theorem Line.nil (hhex : s.hexBuff.length = hexdumpMaxHexLength + 1)
    (hchar : s.charBuff.length = hexdumpBytesPerLine + 1) (hwr : s.hexWr = 0) :
  Line [] s
  where
  hexBuff := ⟨s.hexBuff, rfl, hhex, fun h => absurd rfl h⟩
  charBuff := ⟨s.charBuff, rfl, hchar⟩
  hexWr := hwr

/-- A cell that does not complete its row has been written. -/
theorem Filled.push_short {s' : Hexdump} (h : Filled base t s)
    (hlt : t.row.length + 1 < hexdumpBytesPerLine) (hline : Line (t.row ++ [cell]) s')
    (hcolumn : s'.column = s.column + 1) (hrows : s'.rows = s.rows)
    (haddress : s'.rowStartAddr = s.rowStartAddr) :
  Filled base (t.push cell) s'
  := by
  obtain ⟨hfull, hrow⟩ := Rows.push_short (a := cell) hlt
  constructor
  · rw [hrow]
    apply hline
  · rw [hcolumn, h.column, hrow, List.length_append, List.length_singleton]
  · rw [hrows, h.rows, hfull]
  · rw [haddress, h.rowStartAddr, hfull]

/-- A cell that completes its row has been written, and the row logged. -/
theorem Filled.push_full {s' : Hexdump} (h : Filled base t s)
    (hge : hexdumpBytesPerLine ≤ t.row.length + 1) (hline : Line [] s') (hcolumn : s'.column = 0)
    (hrows : s'.rows = s.rows ++
      [⟨s.rowStartAddr, rowText (t.row ++ [cell]), (t.row ++ [cell]).map Cell.shown⟩])
    (haddress : s'.rowStartAddr = s.rowStartAddr + hexdumpBytesPerLine.toUInt64) :
  Filled base (t.push cell) s'
  := by
  obtain ⟨hfull, hrow⟩ := Rows.push_full (a := cell) hge
  constructor
  · rw [hrow]
    apply hline
  · rw [hcolumn, hrow, List.length_nil]
  · rw [hrows, h.rows, h.rowStartAddr, hfull, logged_append]
  · rw [haddress, h.rowStartAddr, hfull, List.length_append, List.length_singleton,
      UInt64.add_assoc, Nat.mul_succ]
    simp [Nat.toUInt64]

/-- The lead in fills cells of the first row. -/
theorem leadIn_filled {cells : Nat} (h : Filled base t s)
    (hlt : t.row.length + cells < hexdumpBytesPerLine) :
  ∃ s', leadIn cells s = .ok () s' ∧ s'.dump = s.dump ∧
    Filled base (t.append (List.replicate cells none)) s'
  := by
  induction cells generalizing t s with
  | zero => exact ⟨s, rfl, rfl, h⟩
  | succ cells ih =>
      obtain ⟨hexBuff, charBuff, hexWr, hline, hsprintf, hset⟩ := h.line.put (by omega) none
      have hnext : Filled base (t.push none)
          { s with hexBuff, charBuff, hexWr, column := s.column + 1 } :=
        h.push_short (by omega) ⟨hline.hexBuff, hline.charBuff, hline.hexWr⟩ rfl rfl rfl
      have hshorter : (t.push none).row.length + cells < hexdumpBytesPerLine := by
        rw [(Rows.push_short (by omega)).2, List.length_append, List.length_singleton]
        omega
      obtain ⟨s', hrest, hdump, hfilled⟩ := ih hnext hshorter
      refine ⟨s', ?_, hdump, hfilled⟩
      rw [← h.column] at hset
      simp only [Cell.digits, Cell.shown] at hsprintf hset
      simp only [leadIn, Exec.bind_apply, hsprintf, Exec.get_apply, hset, Exec.modify_apply]
      apply hrest

/-- A byte fills a cell, and a row that is full is logged. -/
theorem dumpBytes_succ {startAddr : List UInt8} {b : UInt8} (h : Filled base t s)
    (hb : startAddr[s.dump]? = some b) (bytesLeft : Nat) :
  ∃ s', dumpBytes startAddr (bytesLeft + 1) s = dumpBytes startAddr bytesLeft s' ∧
    s'.dump = s.dump + 1 ∧ Filled base (t.push (some b)) s'
  := by
  obtain ⟨hexBuff, charBuff, hexWr, hline, hsprintf, hset⟩ := h.line.put t.length_row (some b)
  have hread : Bytes.read Stop.outOfBounds startAddr s.dump 1 = .ok [b] := by
    obtain ⟨hlt, -⟩ := List.getElem?_eq_some_iff.mp hb
    rw [Bytes.read_ok _ hlt, List.take_one, List.head?_drop, hb]
    rfl
  rw [← h.column] at hset
  simp only [Cell.digits, Cell.shown] at hsprintf hset
  have hline' : Line (t.row ++ [some b])
      { s with hexBuff, charBuff, hexWr, dump := s.dump + 1, column := s.column + 1 } :=
    ⟨hline.hexBuff, hline.charBuff, hline.hexWr⟩
  rcases Nat.lt_or_ge (t.row.length + 1) hexdumpBytesPerLine with hlt | hge
  · have hmore : ¬ hexdumpBytesPerLine ≤ s.column + 1 := by
      rw [h.column]
      omega
    refine ⟨{ s with hexBuff, charBuff, hexWr, dump := s.dump + 1, column := s.column + 1 }, ?_,
      rfl, h.push_short hlt hline' rfl rfl rfl⟩
    simp only [dumpBytes, Exec.bind_apply, Exec.get_apply, hread, Exec.ofExcept_ok,
      List.headD_cons, hsprintf, hset, Exec.modify_apply, if_neg hmore]
  · have hover : hexdumpBytesPerLine ≤ s.column + 1 := by
      rw [h.column]
      apply hge
    have hlength : (t.row ++ [some b]).length = hexdumpBytesPerLine := by
      have hshort := t.length_row
      rw [List.length_append, List.length_singleton]
      omega
    obtain ⟨hexBuff', charBuff', hhexLength, hcharLength, hlog⟩ := hline'.logRow hlength
    refine ⟨{ s with
      hexBuff := hexBuff', charBuff := charBuff', hexWr := 0, dump := s.dump + 1, column := 0,
      rowStartAddr := s.rowStartAddr + hexdumpBytesPerLine.toUInt64,
      rows := s.rows ++
        [⟨s.rowStartAddr, rowText (t.row ++ [some b]), (t.row ++ [some b]).map Cell.shown⟩] }, ?_,
      rfl, h.push_full hge (Line.nil hhexLength hcharLength rfl) rfl rfl rfl⟩
    simp only [dumpBytes, Exec.bind_apply, Exec.get_apply, hread, Exec.ofExcept_ok,
      List.headD_cons, hsprintf, hset, Exec.modify_apply, if_pos hover, hlog]

/-- The loop fills a cell for each byte that is left. -/
theorem dumpBytes_filled {startAddr : List UInt8} {bytesLeft : Nat} (h : Filled base t s)
    (hlength : s.dump + bytesLeft = startAddr.length) :
  ∃ s', dumpBytes startAddr bytesLeft s = .ok () s' ∧
    Filled base (t.append ((startAddr.drop s.dump).map some)) s'
  := by
  induction bytesLeft generalizing t s with
  | zero =>
      refine ⟨s, rfl, ?_⟩
      rw [List.drop_of_length_le (by omega)]
      apply h
  | succ bytesLeft ih =>
      have hlt : s.dump < startAddr.length := by omega
      obtain ⟨s₁, hfirst, hdump, hfilled⟩ :=
        dumpBytes_succ h (List.getElem?_eq_getElem hlt) bytesLeft
      obtain ⟨s', hrest, hfilled'⟩ := ih hfilled (by omega)
      refine ⟨s', hfirst.trans hrest, ?_⟩
      rw [List.drop_eq_getElem_cons hlt, ← hdump]
      apply hfilled'

/-- The lead out fills the cells of a row that are missing. -/
theorem leadOut_line (h : Line row s) (hle : row.length ≤ hexdumpBytesPerLine) :
  ∃ hexBuff charBuff hexWr, leadOut row.length s = .ok () { s with hexBuff, charBuff, hexWr } ∧
    Line (row ++ List.replicate (hexdumpBytesPerLine - row.length) none)
      { s with hexBuff, charBuff, hexWr }
  := by
  induction hmissing : hexdumpBytesPerLine - row.length generalizing row s with
  | zero =>
      have hdone : ¬ row.length < hexdumpBytesPerLine := by omega
      refine ⟨s.hexBuff, s.charBuff, s.hexWr, ?_, ?_⟩
      · rw [leadOut, if_neg hdone]
        rfl
      · rw [List.replicate_zero, List.append_nil]
        apply h
  | succ missing ih =>
      have hlt : row.length < hexdumpBytesPerLine := by omega
      obtain ⟨hexBuff, charBuff, hexWr, hline, hsprintf, hset⟩ := h.put hlt none
      have hlength : (row ++ [(none : Cell)]).length = row.length + 1 := List.length_append
      obtain ⟨hexBuff', charBuff', hexWr', hrest, hline'⟩ :=
        ih hline (by omega) (by rw [hlength]; omega)
      refine ⟨hexBuff', charBuff', hexWr', ?_, ?_⟩
      · simp only [Cell.digits, Cell.shown] at hsprintf hset
        rw [hlength] at hrest
        rw [leadOut, if_pos hlt]
        simp only [Exec.bind_apply, hsprintf, hset]
        apply hrest
      · rw [List.replicate_succ, ← List.singleton_append, ← List.append_assoc]
        apply hline'

/-- At the end a row that is not yet full is filled up and logged. -/
theorem dumpEnd_logged (h : Filled base t s) :
  ∃ s', (do
      let s ← get
      if s.column ≠ 0 then
        leadOut s.column
        X6losim.logRow : HexdumpProg Unit) s = .ok () s' ∧
    s'.rows = logged base (t.fill none)
  := by
  by_cases hrow : t.row = []
  · have hcolumn : ¬ s.column ≠ 0 := by
      rw [h.column, hrow]
      simp
    refine ⟨s, ?_, ?_⟩
    · simp only [Exec.bind_apply, Exec.get_apply, if_neg hcolumn, Exec.pure_apply]
    · rw [h.rows, Rows.fill, if_pos hrow]
  · have hcolumn : s.column ≠ 0 := by
      rw [h.column, ne_eq, List.length_eq_zero_iff]
      apply hrow
    obtain ⟨hexBuff, charBuff, hexWr, hleadOut, hline⟩ :=
      leadOut_line h.line (Nat.le_of_lt t.length_row)
    have hfull : (t.row ++ List.replicate (hexdumpBytesPerLine - t.row.length) none).length
        = hexdumpBytesPerLine := by
      have hshort := t.length_row
      rw [List.length_append, List.length_replicate]
      omega
    obtain ⟨hexBuff', charBuff', -, -, hlog⟩ := hline.logRow hfull
    rw [← h.column] at hleadOut
    refine ⟨_, Eq.trans ?_ hlog, ?_⟩
    · simp only [Exec.bind_apply, Exec.get_apply, if_pos hcolumn, hleadOut]
    · rw [Rows.fill, if_neg hrow, logged_append, h.rows, h.rowStartAddr]

/-! ### The dump -/

/-- The cells of a hexdump: those of the lead in, and one for each byte. -/
def dumpCells (printAddress : UInt64) (bytes : List UInt8) : Rows Cell hexdumpBytesPerLine :=
  ((Rows.empty (by decide)).append
    (List.replicate (printAddress.toNat % hexdumpBytesPerLine) none)).append (bytes.map some)

/-- The address of the first row of a hexdump. -/
def dumpBase (printAddress : UInt64) : UInt64 :=
  printAddress &&& ~~~(hexdumpBytesPerLine.toUInt64 - 1)

theorem entries_dumpCells (printAddress : UInt64) (bytes : List UInt8) :
  (dumpCells printAddress bytes).entries
    = List.replicate (printAddress.toNat % hexdumpBytesPerLine) none ++ bytes.map some
  := by
  simp [dumpCells]

/-- A hexdump stays in its buffers and logs its cells, with the last row filled up. -/
theorem xlogLogHexdump_logged (buffers : HexdumpBuffers) {loglevel pri : Int}
    {startAddr : List UInt8} {dumpByteLen : UInt16} (printAddress : UInt64) (hpri : pri ≤ loglevel)
    (hlength : startAddr.length = dumpByteLen.toNat) :
  ∃ s, xlogLogHexdump buffers loglevel pri startAddr dumpByteLen printAddress = .ok () s ∧
    s.rows = logged (dumpBase printAddress) ((dumpCells printAddress startAddr).fill none)
  := by
  obtain ⟨hexBuff, charBuff, hhexLength, hcharLength⟩ := buffers
  have hstart : Filled (dumpBase printAddress) (Rows.empty (by decide)) {
      hexBuff, charBuff, hexWr := 0, dump := 0, rowStartAddr := dumpBase printAddress, column := 0,
      rows := [] } := by
    refine ⟨Line.nil hhexLength hcharLength rfl, rfl, rfl, ?_⟩
    simp [Rows.empty, Nat.toUInt64]
  have hfirst : ([] : List Cell).length + printAddress.toNat % hexdumpBytesPerLine
      < hexdumpBytesPerLine := by
    rw [List.length_nil, Nat.zero_add]
    apply Nat.mod_lt
    decide
  obtain ⟨s₁, hleadIn, hdump, hfilled⟩ := leadIn_filled hstart hfirst
  have hleft : s₁.dump + dumpByteLen.toNat = startAddr.length := by
    rw [hdump, hlength, Nat.zero_add]
  obtain ⟨s₂, hbytes, hfilled'⟩ := dumpBytes_filled hfilled hleft
  rw [hdump, List.drop_zero] at hfilled'
  obtain ⟨s', hend, hrows⟩ := dumpEnd_logged hfilled'
  refine ⟨s', ?_, hrows⟩
  simp only [xlogLogHexdump, if_pos hpri, Exec.bind_apply]
  simp only [dumpBase] at hleadIn
  rw [hleadIn]
  simp only [hbytes]
  apply hend

/-! ### The rows that are logged -/

/-- The low bits of an address are masked out. -/
theorem toNat_dumpBase (printAddress : UInt64) :
  (dumpBase printAddress).toNat + printAddress.toNat % hexdumpBytesPerLine = printAddress.toNat
  := by
  have hlt := printAddress.toNat_lt
  have hmask : ~~~(hexdumpBytesPerLine.toUInt64 - 1) = 0xFFFFFFFFFFFFFFF0 := rfl
  have hand : printAddress.toNat &&& (2 ^ 60 - 1) * 2 ^ 4 = printAddress.toNat / 2 ^ 4 * 2 ^ 4 := by
    have hdiv : printAddress.toNat / 2 ^ 4 < 2 ^ 60 := by omega
    rw [← Nat.and_two_pow_sub_one_of_lt_two_pow hdiv]
    apply Nat.eq_of_testBit_eq
    intro i
    rw [Nat.testBit_and, Nat.testBit_mul_two_pow, Nat.testBit_mul_two_pow, Nat.testBit_and,
      Nat.testBit_div_two_pow]
    by_cases hi : 4 ≤ i
    · rw [Nat.sub_add_cancel hi]
      simp [hi]
    · simp [hi]
  rw [dumpBase, hmask, UInt64.toNat_and]
  change (printAddress.toNat &&& (2 ^ 60 - 1) * 2 ^ 4) + _ = _
  rw [hand, hexdumpBytesPerLine]
  omega

theorem cellsOf_rowText (row : List Cell) :
  HexdumpRow.cells.cellsOf (rowText row) = row.map Cell.digits
  := by
  induction row with
  | nil => rfl
  | cons cell row ih =>
      rw [List.map_cons, ← ih]
      cases cell with
      | none => rfl
      | some b => rfl

theorem mem_logged {rows : List (List Cell)} {r : HexdumpRow} (h : r ∈ logged base rows) :
  ∃ k row, rows[k]? = some row ∧
    r = ⟨base + (hexdumpBytesPerLine * k).toUInt64, rowText row, row.map Cell.shown⟩
  := by
  obtain ⟨k, hk, rfl⟩ := List.mem_mapIdx.mp h
  exact ⟨k, rows[k], List.getElem?_eq_getElem hk, rfl⟩

theorem flatMap_cells_logged (base : UInt64) (rows : List (List Cell)) :
  (logged base rows).flatMap HexdumpRow.cells = rows.flatten.map Cell.digits
  := by
  induction rows using List.reverseRecOn with
  | nil => rfl
  | append_singleton rows row ih =>
      rw [logged_append, List.flatMap_append, ih, List.flatten_append, List.map_append]
      simp [HexdumpRow.cells, cellsOf_rowText]

/-- The cells without dots are those with a byte. -/
theorem Cell.eq_some_of_digits {cell : Cell} (h : cell.digits ≠ dots) :
  ∃ b, cell = some b
  := by
  cases cell with
  | none => apply absurd rfl h
  | some b => exact ⟨b, rfl⟩

theorem filter_digits (before behind : Nat) (bytes : List UInt8) :
  ((List.replicate before none ++ bytes.map some ++ List.replicate behind none).map
    Cell.digits).filter (fun cell => cell ≠ dots) = bytes.map hexDigits
  := by
  have hdots : ∀ n, ((List.replicate n (none : Cell)).map Cell.digits).filter
      (fun cell => cell ≠ dots) = [] := by
    intro n
    simp [Cell.digits]
  have hbytes : ((bytes.map some).map Cell.digits).filter (fun cell => cell ≠ dots)
      = bytes.map hexDigits := by
    rw [List.map_map, List.filter_eq_self.mpr]
    · rfl
    · intro cell hcell
      obtain ⟨b, -, rfl⟩ := List.mem_map.mp hcell
      apply decide_eq_true (hexDigits_ne b).1
  rw [List.map_append, List.map_append, List.filter_append, List.filter_append, hdots, hdots,
    hbytes, List.nil_append, List.append_nil]

/-- A byte among the cells is the one as far behind the lead in. -/
theorem getElem?_cells {before behind j : Nat} {bytes : List UInt8} {b : UInt8}
    (h : (List.replicate before none ++ bytes.map some ++ List.replicate behind none)[j]?
      = some (some b)) :
  ∃ i, j = before + i ∧ bytes[i]? = some b
  := by
  rw [List.append_assoc, List.getElem?_append, List.getElem?_append, List.length_replicate,
    List.length_map] at h
  split at h
  · simp [List.getElem?_replicate] at h
  · next hbefore =>
      split at h
      · refine ⟨j - before, by omega, ?_⟩
        simpa using h
      · simp [List.getElem?_replicate] at h

/-- Rows of cells with bytes in their order are logged as rows that show the bytes. -/
theorem shows_logged {printAddress : UInt64} {bytes : List UInt8} {rows : List (List Cell)}
    {behind : Nat} (hwidth : ∀ row ∈ rows, row.length = hexdumpBytesPerLine)
    (hcells : rows.flatten = List.replicate (printAddress.toNat % hexdumpBytesPerLine) none ++
      bytes.map some ++ List.replicate behind none)
    (hwrap : printAddress.toNat + bytes.length ≤ 2 ^ 64) :
  Shows printAddress bytes (logged (dumpBase printAddress) rows)
  where
  cells := by
    intro r hr
    obtain ⟨k, row, hk, rfl⟩ := mem_logged hr
    have hlength : row.length = 16 := hwidth row (List.mem_of_getElem? hk)
    simp only [HexdumpRow.cells, cellsOf_rowText, List.length_map, hlength, true_and]
    rw [rowText, List.flatMap_map]
  digits := by
    rw [flatMap_cells_logged, hcells, filter_digits]
  place := by
    intro r hr c text htext hnot
    obtain ⟨k, row, hk, rfl⟩ := mem_logged hr
    simp only [HexdumpRow.cells, cellsOf_rowText] at htext
    rw [List.getElem?_map, Option.map_eq_some_iff] at htext
    obtain ⟨cell, hcell, rfl⟩ := htext
    obtain ⟨b, rfl⟩ := Cell.eq_some_of_digits hnot
    have hc : c < hexdumpBytesPerLine := by
      obtain ⟨hlt, -⟩ := List.getElem?_eq_some_iff.mp hcell
      rw [hwidth row (List.mem_of_getElem? hk)] at hlt
      apply hlt
    have hplace := Rows.getElem?_flatten hwidth hk hc
    rw [hcells, hcell] at hplace
    obtain ⟨i, hi, hb⟩ := getElem?_cells hplace
    have hbase := toNat_dumpBase printAddress
    have haddress : (dumpBase printAddress + (hexdumpBytesPerLine * k).toUInt64).toNat
        = (dumpBase printAddress).toNat + hexdumpBytesPerLine * k := by
      obtain ⟨hlt, -⟩ := List.getElem?_eq_some_iff.mp hb
      rw [UInt64.toNat_add, Nat.toUInt64, UInt64.toNat_ofNat']
      omega
    refine ⟨i, b, hb, ?_, rfl, ?_⟩
    · simp only [haddress]
      omega
    · intro hprintable
      simp only [List.getElem?_map, hcell, Option.map_some, Cell.shown, shownChar,
        if_pos hprintable]

theorem shows_dumpCells {printAddress : UInt64} {bytes : List UInt8}
    (hwrap : printAddress.toNat + bytes.length ≤ 2 ^ 64) :
  Shows printAddress bytes (logged (dumpBase printAddress)
    ((dumpCells printAddress bytes).fill none))
  := by
  obtain ⟨behind, hcells⟩ := (dumpCells printAddress bytes).flatten_fill none
  rw [entries_dumpCells] at hcells
  apply shows_logged (fun row => Rows.length_of_mem_fill) hcells hwrap

/-! ### Faithful rows -/

/-- A hexdump stays in its buffers, and the rows that it logs show the bytes at the address. -/
theorem xlogLogHexdump_shows (buffers : HexdumpBuffers) {loglevel pri : Int}
    {startAddr : List UInt8} {dumpByteLen : UInt16} {printAddress : UInt64} (hpri : pri ≤ loglevel)
    (hlength : startAddr.length = dumpByteLen.toNat)
    (hwrap : printAddress.toNat + startAddr.length ≤ 2 ^ 64) :
  ∃ s, xlogLogHexdump buffers loglevel pri startAddr dumpByteLen printAddress = .ok () s ∧
    Shows printAddress startAddr s.rows
  := by
  obtain ⟨s, hdump, hrows⟩ := xlogLogHexdump_logged buffers printAddress hpri hlength
  refine ⟨s, hdump, ?_⟩
  rw [hrows]
  apply shows_dumpCells hwrap

/-- Buffers with nothing but zeros. -/
def zeroBuffers : HexdumpBuffers where
  hexBuff := List.replicate 81 0
  charBuff := List.replicate 17 0
  length_hexBuff := rfl
  length_charBuff := rfl

/-- Three bytes of which two are in the next row. -/
theorem xlogLogHexdump_shows_three :
  ∃ s, xlogLogHexdump zeroBuffers 7 7 [0x41, 0x00, 0x7F] 3 0x100F = .ok () s ∧
    Shows 0x100F [0x41, 0x00, 0x7F] s.rows
  := xlogLogHexdump_shows zeroBuffers (by decide) (by decide) (by decide)

/-! ### Packets -/

/-- The frame of a packet has as many bytes as its header says, which fits in two bytes. -/
theorem NetSimPacket.length_pktbuf {host : ByteOrder} {pkt : NetSimPacket} {bytes : List UInt8}
    (h : pkt.pktbuf host = .ok bytes) :
  pkt.pktbufSize host = .ok bytes.length ∧ bytes.length < 2 ^ 16
  := by
  rw [NetSimPacket.pktbuf, NetSimPacket.pktbufSize] at h
  rw [NetSimPacket.pktbufSize]
  by_cases hlen : DataInd.psduLen.offset + DataInd.psduLen.size ≤ pkt.pktBuffer.length
  · have hsize := ofBE_lt (DataInd.psduLen.bytes pkt.pktBuffer)
    rw [Field.length_bytes hlen] at hsize
    rw [Field.readNet_ok host hlen] at h ⊢
    simp only [bind, Except.bind, Bytes.read] at h
    split at h
    · next hfits =>
        have hlength : bytes.length = DataInd.psduLen.value pkt.pktBuffer := by
          rw [← Except.ok.inj h, List.length_take, List.length_drop]
          omega
        rw [hlength]
        exact ⟨rfl, hsize⟩
    · cases h
  · rw [Field.readNet_outside host (lt_of_not_ge hlen)] at h
    cases h

/-- The hexdump that is logged of a packet when it is transmitted shows the bytes of its frame. -/
theorem NetSimPacket.hexdump_shows {host : ByteOrder} {pkt : NetSimPacket} {bytes : List UInt8}
    (hbytes : pkt.pktbuf host = .ok bytes) (buffers : HexdumpBuffers) {loglevel pri : Int}
    {printAddress : UInt64} (hpri : pri ≤ loglevel)
    (hwrap : printAddress.toNat + bytes.length ≤ 2 ^ 64) :
  ∃ size s, pkt.pktbufSize host = .ok size ∧
    xlogLogHexdump buffers loglevel pri bytes size.toUInt16 printAddress = .ok () s ∧
    Shows printAddress bytes s.rows
  := by
  obtain ⟨hsize, hlt⟩ := NetSimPacket.length_pktbuf hbytes
  have hlength : bytes.length = bytes.length.toUInt16.toNat := by
    rw [Nat.toUInt16, UInt16.toNat_ofNat', Nat.mod_eq_of_lt hlt]
  obtain ⟨s, hdump, hrows⟩ := xlogLogHexdump_logged buffers printAddress hpri hlength
  refine ⟨bytes.length, s, hsize, hdump, ?_⟩
  rw [hrows]
  apply shows_dumpCells hwrap

end X6losim
