import FlowMeter.Proofs.EventText
import FlowMeter.Proofs.Faultless

/-!
# A dump in lines and groups

A dump is written byte by byte: the offset of a byte decides which marks stand around its digits. The same text
is laid out in lines of 32 bytes, and each line in groups of four: the offsets stand in front of a line and `0x`
in front of a group, and behind a whole group a blank, behind a whole line a break. Marks around bytes become
marks around chunks by one theorem, for lines and for the groups in them.

A dump is read in the same way, line by line and in each line group by group, and gives the bytes again.
-/

namespace FlowMeter

/-- Bytes in chunks of one size, of which the last may be shorter. -/
def chunks (size : Nat) : Bytes → List Bytes
  | [] => []
  | b :: rest => (b :: rest.take (size - 1)) :: chunks size (rest.drop (size - 1))
termination_by bs => bs.length
decreasing_by
  rw [List.length_drop, List.length_cons]
  omega

section Chunks

variable {size : Nat}

/-- Nothing makes no chunk. -/
theorem chunks_nil : chunks size [] = [] := by
  rw [chunks]

/-- Bytes that fill no chunk are one chunk. -/
theorem chunks_of_lt {chunk : Bytes} (hne : chunk ≠ []) (hlt : chunk.length < size) :
    chunks size chunk = [chunk] := by
  obtain ⟨b, rest, rfl⟩ := List.exists_cons_of_ne_nil hne
  have hrest : rest.length ≤ size - 1 := Nat.le_sub_one_of_lt (Nat.lt_of_succ_lt hlt)
  rw [chunks, List.take_of_length_le hrest, List.drop_of_length_le hrest, chunks_nil]

/-- Whole chunks are split off the front. -/
theorem chunks_append {chunk rest : Bytes} (hsize : 0 < size) (hchunk : chunk.length = size) :
    chunks size (chunk ++ rest) = chunk :: chunks size rest := by
  obtain ⟨b, tail, rfl⟩ := List.exists_cons_of_length_pos (hchunk ▸ hsize)
  have htail : tail.length = size - 1 := Nat.eq_sub_of_add_eq hchunk
  rw [List.cons_append, chunks, List.take_left' htail, List.drop_left' htail]

/-- Bytes are none, or fill no chunk, or start with a whole chunk. -/
theorem chunks_induction {motive : Bytes → Prop} (hsize : 0 < size) (nil : motive [])
    (short : ∀ chunk, chunk ≠ [] → chunk.length < size → motive chunk)
    (whole : ∀ chunk rest, chunk.length = size → motive rest → motive (chunk ++ rest)) (bs : Bytes) :
    motive bs := by
  induction hlength : bs.length using Nat.strong_induction_on generalizing bs with
  | _ length ih =>
    by_cases hlt : bs.length < size
    · by_cases hne : bs = []
      · exact hne ▸ nil
      · exact short bs hne hlt
    · have hchunk : (bs.take size).length = size := List.length_take_of_le (Nat.le_of_not_lt hlt)
      rw [← List.take_append_drop size bs]
      apply whole _ _ hchunk
      apply ih (bs.drop size).length _ _ rfl
      rw [List.length_drop]
      omega

end Chunks

namespace Dump

/-- What a cell writes for each byte, from an offset on. -/
def written (cell : Nat → UInt8 → List Char) (offset : Nat) (bs : Bytes) : List Char :=
  (bs.zipIdx offset).flatMap fun entry => cell entry.2 entry.1

/-- A cell with a mark in front of each byte at a multiple of a size, and one behind each byte that has the next
multiple behind it. -/
def marked (size : Nat) (opening : Nat → List Char) (closing : List Char) (cell : Nat → UInt8 → List Char)
    (offset : Nat) (b : UInt8) : List Char :=
  (if offset % size = 0 then opening offset else []) ++ cell offset b ++
    (if offset % size = size - 1 then closing else [])

/-- A text for each chunk, told its offset, with a mark behind each whole chunk. -/
def chunked (size : Nat) (text : Nat → Bytes → List Char) (closing : List Char) (start : Nat)
    (bs : Bytes) : List Char :=
  ((chunks size bs).zipIdx start).flatMap fun entry =>
    text (size * entry.2) entry.1 ++ if entry.1.length = size then closing else []

section Marks

variable {size : Nat} {opening : Nat → List Char} {closing : List Char} {cell : Nat → UInt8 → List Char}

/-- Nothing is written for no bytes. -/
theorem written_nil (offset : Nat) : written cell offset [] = [] := rfl

/-- A cell is written for the first byte, and then the cells of the rest from the next offset on. -/
theorem written_cons (offset : Nat) (b : UInt8) (rest : Bytes) :
    written cell offset (b :: rest) = cell offset b ++ written cell (offset + 1) rest := by
  rw [written, List.zipIdx_cons, List.flatMap_cons]
  rfl

/-- The cells of two parts stand one after the other, those of the second from its own offset on. -/
theorem written_append (offset : Nat) (bs rest : Bytes) :
    written cell offset (bs ++ rest) =
      written cell offset bs ++ written cell (offset + bs.length) rest := by
  rw [written, List.zipIdx_append, List.flatMap_append]
  rfl

/-- The place of a byte in its chunk decides on the marks around it. -/
theorem marked_eq {k place : Nat} (hplace : place < size) (b : UInt8) :
    marked size opening closing cell (size * k + place) b =
      (if place = 0 then opening (size * k + place) else []) ++ cell (size * k + place) b ++
        (if place + 1 = size then closing else []) := by
  have hmod : (size * k + place) % size = place := by
    rw [Nat.mul_add_mod_self_left, Nat.mod_eq_of_lt hplace]
  have hlast : place = size - 1 ↔ place + 1 = size := by omega
  simp only [marked, hmod, hlast]

/-- Of the bytes of one chunk, from a place in it on, only the first of the chunk has the mark in front and only
the last the mark behind it. -/
theorem written_marked {k place : Nat} {b : UInt8} {rest : Bytes} (hfits : place + rest.length < size) :
    written (marked size opening closing cell) (size * k + place) (b :: rest) =
      (if place = 0 then opening (size * k + place) else []) ++
        written cell (size * k + place) (b :: rest) ++
        (if place + (b :: rest).length = size then closing else []) := by
  induction rest generalizing b place with
  | nil =>
    have hplace : place < size := hfits
    simp only [written_cons, written_nil, marked_eq hplace, List.append_nil, List.length_singleton]
  | cons c rest ih =>
    rw [List.length_cons] at hfits
    have hplace : place < size := by omega
    have hnotLast : ¬place + 1 = size := by omega
    have hend : place + 1 + (c :: rest).length = place + (b :: c :: rest).length := by
      simp only [List.length_cons]
      omega
    rw [written_cons, written_cons _ b, Nat.add_assoc, ih (by omega), marked_eq hplace, if_neg hnotLast,
      if_neg (Nat.succ_ne_zero place), hend]
    simp only [List.append_assoc, List.nil_append]

/-- A chunk has the mark in front, and the mark behind it if it is whole. -/
theorem written_chunk {k : Nat} {chunk : Bytes} (hne : chunk ≠ []) (hle : chunk.length ≤ size) :
    written (marked size opening closing cell) (size * k) chunk =
      opening (size * k) ++ written cell (size * k) chunk ++
        (if chunk.length = size then closing else []) := by
  obtain ⟨b, rest, rfl⟩ := List.exists_cons_of_ne_nil hne
  have hfits : 0 + rest.length < size := by
    rwa [Nat.zero_add]
  calc written (marked size opening closing cell) (size * k + 0) (b :: rest)
    _ = _ := written_marked hfits
    _ = _ := by rw [if_pos rfl, Nat.add_zero, Nat.zero_add]

/-- Marks around bytes are marks around chunks. -/
theorem written_marked_eq_chunked (hsize : 0 < size) (start : Nat) (bs : Bytes) :
    written (marked size opening closing cell) (size * start) bs =
      chunked size (fun offset chunk => opening offset ++ written cell offset chunk) closing start bs := by
  -- A whole chunk leaves the offset at a multiple of the size, from where the rest is chunked.
  induction bs using chunks_induction hsize generalizing start with
  | nil =>
    rw [chunked, chunks_nil]
    rfl
  | short chunk hne hlt =>
    rw [written_chunk hne hlt.le, chunked, chunks_of_lt hne hlt, List.zipIdx_singleton, List.flatMap_singleton]
  | whole chunk rest hlength ih =>
    have hne : chunk ≠ [] := List.ne_nil_of_length_pos (hlength ▸ hsize)
    rw [written_append, written_chunk hne hlength.le, hlength, ← Nat.mul_succ, ih (start + 1), chunked,
      chunked, chunks_append hsize hlength, List.zipIdx_cons, List.flatMap_cons]
    simp only [hlength]

/-- Where the offset of a chunk does not count, neither does that of the first one. -/
theorem chunked_eq_flatMap (text : Bytes → List Char) (start : Nat) (bs : Bytes) :
    chunked size (fun _ => text) closing start bs =
      (chunks size bs).flatMap fun chunk => text chunk ++ if chunk.length = size then closing else [] := by
  let piece := fun chunk => text chunk ++ if chunk.length = size then closing else []
  calc ((chunks size bs).zipIdx start).flatMap (fun entry => piece entry.1)
    _ = (((chunks size bs).zipIdx start).map Prod.fst).flatMap piece := (List.flatMap_map ..).symm
    _ = (chunks size bs).flatMap piece := by rw [List.zipIdx_map_fst]

end Marks

/-- A byte as two upper-case hexadecimal digits. -/
def byteText (b : UInt8) : List Char :=
  ((Nat.toDigits 16 b.toNat).map Char.toUpper).leftpad 2 '0'

/-- The bytes of a group. -/
def groupText (group : Bytes) : List Char :=
  "0x".toList ++ group.flatMap byteText

/-- The groups of a line, with a blank behind each whole one. -/
def groupsText (line : Bytes) : List Char :=
  (chunks 4 line).flatMap fun group => groupText group ++ if group.length = 4 then [' '] else []

/-- An offset with at least six digits. -/
def offsetText (offset : Nat) : List Char :=
  (Nat.toDigits 10 offset).leftpad 6 '0'

/-- The offset of a line and that of the next one, then the groups of the line, as in
`000032 - 000064 : 0xE3EAF1F8 0x01`. -/
def lineText (offset : Nat) (line : Bytes) : List Char :=
  offsetText offset ++ " - ".toList ++ offsetText (offset + 32) ++ " : ".toList ++ groupsText line

/-- A dump laid out in lines, with a break behind each whole one. -/
def layout (bs : Bytes) : List Char :=
  separator ++ ['\n'] ++
    ((chunks 32 bs).zipIdx.flatMap fun entry =>
      lineText (32 * entry.2) entry.1 ++ if entry.1.length = 32 then ['\n'] else []) ++
    ['\n'] ++ separator ++ ['\n']

/-- A digit below sixteen is written by its upper case. -/
theorem toUpper_digitChar {n : Nat} (h : n < 16) : n.digitChar.toUpper = hexDigit n := by
  interval_cases n <;> rfl

/-- The two digits of a byte are its hexadecimal digits, with a zero in front of a single one. -/
theorem byteText_eq (b : UInt8) : byteText b = hexByte b := by
  have hb := b.toNat_lt
  rw [byteText, hexByte]
  by_cases hsmall : b.toNat < 16
  · rw [Nat.toDigits_of_lt_base hsmall, Nat.div_eq_of_lt hsmall, Nat.mod_eq_of_lt hsmall, List.map_singleton,
      toUpper_digitChar hsmall]
    rfl
  · rw [Nat.toDigits_of_base_le (by decide) (Nat.le_of_not_lt hsmall), Nat.toDigits_of_lt_base (by omega),
      List.map_append, List.map_singleton, List.map_singleton, toUpper_digitChar (by omega),
      toUpper_digitChar (by omega)]
    rfl

/-- The digits of a byte, with the marks of its group. -/
def groupCell : Nat → UInt8 → List Char :=
  marked 4 (fun _ => "0x".toList) [' '] fun _ => hexByte

/-- A cell of a dump has marks for lines around marks for groups. -/
theorem cell_eq : cell = marked 32 lineHead ['\n'] groupCell := by
  funext offset b
  simp only [cell, cellOf, groupCell, marked, List.append_assoc]
  rfl

/-- The cells of a dump are written byte by byte. -/
theorem cells_eq_written (offset : Nat) (bs : Bytes) : cells offset bs = written cell offset bs := by
  induction bs generalizing offset with
  | nil => rfl
  | cons b rest ih => rw [cells, written_cons, ih]

/-- Cells that do not tell their offset are the texts of the bytes. -/
theorem written_const (text : UInt8 → List Char) (offset : Nat) (bs : Bytes) :
    written (fun _ => text) offset bs = bs.flatMap text := by
  induction bs generalizing offset with
  | nil => rfl
  | cons b rest ih => rw [written_cons, ih, List.flatMap_cons]

/-- The groups of a line are counted from its start, as the offset of a line is a multiple of four. -/
theorem written_groupCell (k : Nat) (line : Bytes) : written groupCell (32 * k) line = groupsText line := by
  have hoffset : 32 * k = 4 * (8 * k) := by omega
  have hbyte : hexByte = byteText := (funext byteText_eq).symm
  rw [groupCell, hoffset, written_marked_eq_chunked (by decide)]
  simp only [written_const, hbyte]
  exact chunked_eq_flatMap ..

/-- The cells of a dump make up lines of 32 bytes. -/
theorem cells_eq_chunked (bs : Bytes) : cells 0 bs = chunked 32 lineText ['\n'] 0 bs := by
  rw [cells_eq_written, cell_eq]
  change written _ (32 * 0) bs = _
  rw [written_marked_eq_chunked (by decide)]
  simp only [chunked, written_groupCell]
  rfl

/-- The marks of a dump lay it out in lines and groups. -/
theorem hex_eq_layout (bs : Bytes) : hex bs = layout bs := by
  rw [hex, enclose, cells_eq_chunked]
  rfl

/-- The bytes of digits, two for each. -/
def bytesOf : List Nat → Bytes
  | high :: low :: rest => UInt8.ofNat (16 * high + low) :: bytesOf rest
  | _ => []

/-- Reads a text field by field, with a mark between fields. -/
def readFields (mark : Char) (read : List Char → Bytes) (text : List Char) : Bytes :=
  (text.splitOn mark).flatMap read

/-- Reads the digits of a group, behind `0x`. -/
def readGroup (text : List Char) : Bytes :=
  bytesOf ((text.drop 2).filterMap (Decimal.digitValue? 16))

/-- Reads the groups of a line, behind a colon. -/
def readLine (text : List Char) : Bytes :=
  readFields ' ' readGroup (text.dropWhile (· ≠ ':'))

/-- The bytes that a dump shows. -/
def payload (text : List Char) : Bytes :=
  readFields '\n' readLine text

/-- The rest of a text takes nothing from the field in front of it. -/
def EndsField (mark : Char) (read : List Char → Bytes) (rest : List Char) : Prop :=
  ∀ field, mark ∉ field → readFields mark read (field ++ rest) = read field ++ readFields mark read rest

section Fields

variable {mark : Char} {read : List Char → Bytes} {field rest : List Char}

/-- A field that holds no mark is read up to the mark, and then the rest. -/
theorem readFields_append (hfield : mark ∉ field) :
    readFields mark read (field ++ mark :: rest) = read field ++ readFields mark read rest := by
  rw [readFields, List.splitOn_append_cons_self_of_not_mem hfield, List.flatMap_cons]
  rfl

/-- An empty text is one empty field. -/
theorem readFields_nil : readFields mark read [] = read [] := by
  rw [readFields, List.splitOn_nil, List.flatMap_singleton]

/-- A field ends where the text does. -/
theorem endsField_nil (hnone : read [] = []) : EndsField mark read [] := by
  intro field hfield
  rw [readFields_nil, hnone, List.append_nil, List.append_nil, readFields, List.splitOn_eq_singleton hfield,
    List.flatMap_singleton]

/-- A mark in front of a text is passed over. -/
theorem readFields_cons (hnone : read [] = []) :
    readFields mark read (mark :: rest) = readFields mark read rest := by
  rw [← List.nil_append (mark :: rest), readFields_append List.not_mem_nil, hnone, List.nil_append]

/-- A field ends at a mark. -/
theorem endsField_cons (hnone : read [] = []) : EndsField mark read (mark :: rest) := by
  intro field hfield
  rw [readFields_append hfield, readFields_cons hnone]

/-- Chunks are read back where each of them is, whatever ends the last one. -/
theorem readFields_chunked {size : Nat} {text : Nat → Bytes → List Char} (hsize : 0 < size)
    (hfield : ∀ offset chunk, mark ∉ text offset chunk)
    (hread : ∀ offset chunk, read (text offset chunk) = chunk) (hrest : EndsField mark read rest)
    (start : Nat) (bs : Bytes) :
    readFields mark read (chunked size text [mark] start bs ++ rest) = bs ++ readFields mark read rest := by
  induction bs using chunks_induction hsize generalizing start with
  | nil =>
    rw [chunked, chunks_nil]
    rfl
  | short chunk hne hlt =>
    rw [chunked, chunks_of_lt hne hlt, List.zipIdx_singleton, List.flatMap_singleton, if_neg hlt.ne,
      List.append_nil, hrest _ (hfield _ _), hread]
  | whole chunk tail hlength ih =>
    have htext : chunked size text [mark] start (chunk ++ tail) =
        text (size * start) chunk ++ mark :: chunked size text [mark] (start + 1) tail := by
      rw [chunked, chunks_append hsize hlength, List.zipIdx_cons, List.flatMap_cons, if_pos hlength,
        List.append_assoc]
      rfl
    rw [htext, List.append_assoc, List.cons_append, readFields_append (hfield _ _), hread, ih,
      List.append_assoc]

end Fields

/-- What is no hexadecimal digit stands in no byte. -/
theorem not_mem_byteText {c : Char} (hc : Decimal.digitValue? 16 c = none) (b : UInt8) : c ∉ byteText b := by
  have hb := b.toNat_lt
  have hdigit {n : Nat} (hn : n < 16) : c ≠ hexDigit n := by
    rintro rfl
    rw [digitValue?_hexDigit hn] at hc
    contradiction
  rw [byteText_eq, hexByte, List.mem_cons, List.mem_singleton, not_or]
  exact ⟨hdigit (by omega), hdigit (by omega)⟩

/-- What is no digit stands in no offset. -/
theorem not_mem_offsetText {c : Char} (hc : c.isDigit = false) (offset : Nat) : c ∉ offsetText offset := by
  rw [offsetText, List.leftpad, List.mem_append]
  rintro (hzero | hdigit)
  · rw [List.eq_of_mem_replicate hzero] at hc
    contradiction
  · rw [Nat.isDigit_of_mem_toDigits (by decide) (by decide) hdigit] at hc
    contradiction

/-- A byte is read back from its two digits, whatever text follows. -/
theorem bytesOf_byteText_append (b : UInt8) (text : List Char) :
    bytesOf ((byteText b ++ text).filterMap (Decimal.digitValue? 16)) =
      b :: bytesOf (text.filterMap (Decimal.digitValue? 16)) := by
  have hb := b.toNat_lt
  rw [byteText_eq, hexByte, List.cons_append, List.cons_append, List.nil_append,
    List.filterMap_cons_some (digitValue?_hexDigit (by omega)),
    List.filterMap_cons_some (digitValue?_hexDigit (by omega)), bytesOf, Nat.div_add_mod, UInt8.ofNat_toNat]

/-- A group is read back. -/
theorem readGroup_groupText (group : Bytes) : readGroup (groupText group) = group := by
  change bytesOf ((group.flatMap byteText).filterMap (Decimal.digitValue? 16)) = group
  induction group with
  | nil => rfl
  | cons b rest ih => rw [List.flatMap_cons, bytesOf_byteText_append, ih]

/-- The groups of a line are read back. -/
theorem readFields_groupsText (line : Bytes) : readFields ' ' readGroup (groupsText line) = line := by
  have hfield (group : Bytes) : ' ' ∉ groupText group := by
    have hbyte : ∀ b, ' ' ∉ byteText b := not_mem_byteText rfl
    simp [groupText, hbyte]
  calc readFields ' ' readGroup (groupsText line)
    _ = readFields ' ' readGroup (chunked 4 (fun _ => groupText) [' '] 0 line ++ []) := by
      rw [chunked_eq_flatMap, List.append_nil, groupsText]
    _ = line ++ readFields ' ' readGroup [] :=
      readFields_chunked (by decide) (fun _ => hfield) (fun _ => readGroup_groupText) (endsField_nil rfl) 0 line
    _ = line := List.append_nil line

/-- A line is read back: its groups stand behind the first colon. -/
theorem readLine_lineText (offset : Nat) (line : Bytes) : readLine (lineText offset line) = line := by
  let front := offsetText offset ++ " - ".toList ++ offsetText (offset + 32) ++ [' ']
  have hline : lineText offset line = front ++ ([':'] ++ ' ' :: groupsText line) := by
    simp [lineText, front]
  have hfront : ∀ c ∈ front, decide (c ≠ ':') = true := by
    intro c hc
    rw [decide_eq_true_eq]
    rintro rfl
    simp [front, not_mem_offsetText] at hc
  have hcolon : ' ' ∉ [':'] := by decide
  rw [readLine, hline, List.dropWhile_append_of_pos hfront]
  change readFields ' ' readGroup ([':'] ++ ' ' :: groupsText line) = line
  rw [readFields_append hcolon, readFields_groupsText]
  rfl

/-- A line has no break in it. -/
theorem not_mem_lineText (offset : Nat) (line : Bytes) : '\n' ∉ lineText offset line := by
  have hbyte : ∀ b, '\n' ∉ byteText b := not_mem_byteText rfl
  have hoffset : ∀ offset, '\n' ∉ offsetText offset := not_mem_offsetText rfl
  have hgroup (group : Bytes) : '\n' ∉ groupText group ++ if group.length = 4 then [' '] else [] := by
    split <;> simp [groupText, hbyte]
  have hgroups : '\n' ∉ groupsText line := by
    rw [groupsText, List.mem_flatMap]
    rintro ⟨group, -, hmem⟩
    exact hgroup group hmem
  simp [lineText, hoffset, hgroups]

/-- The bytes are read back from their dump. -/
theorem payload_hex (bs : Bytes) : payload (hex bs) = bs := by
  have hseparator : '\n' ∉ separator := by
    simp [separator]
  have hseparated (rest : List Char) : payload (separator ++ '\n' :: rest) = payload rest := by
    rw [payload, readFields_append hseparator]
    rfl
  have hend : payload ('\n' :: (separator ++ ['\n'])) = [] := by
    rw [payload, readFields_cons rfl]
    exact hseparated []
  calc payload (hex bs)
    _ = payload (separator ++ '\n' ::
          (chunked 32 lineText ['\n'] 0 bs ++ '\n' :: (separator ++ ['\n']))) := by
      simp only [hex, enclose, cells_eq_chunked, List.append_assoc, List.cons_append, List.nil_append]
    _ = payload (chunked 32 lineText ['\n'] 0 bs ++ '\n' :: (separator ++ ['\n'])) := hseparated _
    _ = bs ++ payload ('\n' :: (separator ++ ['\n'])) :=
      readFields_chunked (by decide) not_mem_lineText readLine_lineText (endsField_cons rfl) 0 bs
    _ = bs := by rw [hend, List.append_nil]

/-- A dump is the text of its lines and groups: it is printed as they are laid out, without a fault, and the
bytes are read back from this text. -/
theorem dump_in_lines (bs : Bytes) :
    print bs = .ok (layout bs) ∧ hex bs = layout bs ∧ payload (layout bs) = bs := by
  refine ⟨?_, hex_eq_layout bs, ?_⟩
  · rw [print_eq, hex_eq_layout]
  · rw [← hex_eq_layout, payload_hex]

end Dump

end FlowMeter
