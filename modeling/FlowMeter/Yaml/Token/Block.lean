import FlowMeter.Yaml.Char

/-!
# Block scalars

A literal scalar keeps its lines, a folded one joins lines that do not start with a blank. A header
line tells what becomes of the line breaks at the end and, if wanted, how far the text is indented;
otherwise its first line tells.
-/

namespace FlowMeter.Yaml.Block

/-- What becomes of the line breaks at the end. -/
inductive Chomp where
  | strip
  | clip
  | keep
deriving DecidableEq, Repr

/-- The chomping that an indicator asks for. -/
def chomp? : Char → Option Chomp
  | '-' => some .strip
  | '+' => some .keep
  | _ => none

/-- The header of a block scalar: chomping, and the indentation where it is given. -/
structure Header where
  chomp : Chomp
  increment : Option Nat

/-- Reads the digit that gives the indentation, if there is one; zero is refused. -/
def increment? (cursor : Cursor) : Option (Option Nat × Cursor) :=
  match cursor.rest with
  | c :: _ =>
    if c == '0' then none
    else if c.isDigit then some (hexValue? c, cursor.skip 1)
    else some (none, cursor)
  | [] => some (none, cursor)

/-- Reads the indicator of the chomping, if there is one. -/
def chomping (cursor : Cursor) : Option Chomp × Cursor :=
  match cursor.rest.head?.bind chomp? with
  | some chomp => (some chomp, cursor.skip 1)
  | none => (none, cursor)

/-- Reads the header, whose two parts may come in either order, with the end of its line. -/
def header? (cursor : Cursor) : Option (Header × Cursor) := do
  let (first, cursor) := chomping cursor
  let (increment, cursor) ← increment? cursor
  let (second, cursor) :=
    if first.isNone && increment.isSome then chomping cursor else (none, cursor)
  let cursor ← cursor.endLine?
  return (⟨(first <|> second).getD .clip, increment⟩, cursor)

/-- Reads empty lines and the indentation after them. Gives the line breaks, the widest indentation
met, and what is left; a tab within the indentation is refused. The indentation is not limited
where it is still unknown. -/
def breaks? (indent : Option Nat) :
    List Char → Place → List Char → Nat → Option (List Char × Nat × Cursor)
  | '\r' :: '\n' :: rest, place, text, widest =>
    breaks? indent rest (place.nextLine ['\r', '\n']) (text ++ ['\n']) (max widest place.column)
  | c :: rest, place, text, widest =>
    let within := indent.all (place.column < ·)
    if within && c == ' ' then breaks? indent rest (place.pass [c]) text widest
    else if within && c == '\t' then none
    else
      match lineBreak? c with
      | some b => breaks? indent rest (place.nextLine [c]) (text ++ [b]) (max widest place.column)
      | none => some (text, max widest place.column, ⟨c :: rest, place⟩)
  | [], place, text, widest => some (text, max widest place.column, ⟨[], place⟩)

/-- The line breaks that are left at the end of the text. -/
def Chomp.tail : Chomp → (last more : List Char) → List Char
  | .strip, _, _ => []
  | .clip, last, _ => last
  | .keep, last, more => last ++ more

/-- Reads lines for as long as they are indented to the column. `last` is the break of the line before,
`more` the empty lines after it, and `blank` tells whether the line before started with a blank.
There are no more lines than characters in `bound`. -/
def lines? (folded : Bool) (chomp : Chomp) (indent : Nat) :
    (bound : List Char) → (last more : List Char) → (blank : Bool) → Cursor →
      Option (List Char × Cursor)
  | [], last, more, _, cursor => some (chomp.tail last more, cursor)
  | _ :: bound, last, more, blank, cursor =>
    match cursor.rest with
    | [] => some (chomp.tail last more, cursor)
    | c :: _ =>
      if cursor.place.column = indent then
        let joins := folded && last.head? = some '\n' && !blank && !isBlank c
        let last := if joins then if more = [] then [' '] else [] else last
        let line := cursor.rest.takeWhile (!isBreak ·)
        let (next, after) := (cursor.skipWhile (!isBreak ·)).takeBreak
        match breaks? (some indent) after.rest after.place [] 0 with
        | none => none
        | some (later, _, after) =>
          (lines? folded chomp indent bound next later (isBlank c) after).map fun (text, after) =>
            (last ++ more ++ line ++ text, after)
      else some (chomp.tail last more, cursor)

/-- Reads a block scalar from its indicator. `floor` is one more than the column of the collection
around it, which the text has to reach. -/
def read? (folded : Bool) (floor : Nat) (cursor : Cursor) : Option (List Char × Cursor) := do
  let (header, cursor) ← header? (cursor.skip 1)
  let given := header.increment.map (floor - 1 + ·)
  let (more, widest, cursor) ← breaks? given cursor.rest cursor.place [] 0
  let indent := given.getD (max widest (max floor 1))
  lines? folded header.chomp indent cursor.rest [] more false cursor

end FlowMeter.Yaml.Block
