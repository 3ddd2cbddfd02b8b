import FlowMeter.Yaml.Char
import FlowMeter.Yaml.Basic

/-!
# Anchors, tags and directives

The tokens that name things. A tag is a handle with a suffix; the suffix is part of a resource
name, in which a percent sign spells an octet. A directive stands on a line of its own.
-/

namespace FlowMeter.Yaml.Name

/-- Takes a name off the front. -/
def take (cursor : Cursor) : List Char × Cursor :=
  (cursor.rest.takeWhile isNameChar, cursor.skipWhile isNameChar)

/-- Whether the name of an anchor may end here. -/
def endsAnchor (rest : List Char) : Bool :=
  atGap rest || rest.head?.any fun c =>
    c == '?' || c == ':' || c == ',' || c == ']' || c == '\x7d' || c == '%' || c == '@' ||
      c == '\x60'

/-- Reads the name of an anchor or alias from its indicator. -/
def anchor? (cursor : Cursor) : Option (String × Cursor) :=
  let (name, cursor) := take (cursor.skip 1)
  if name.isEmpty || !endsAnchor cursor.rest then none else some (String.ofList name, cursor)

/-- Whether a character may stand in a resource name; some may only in a verbatim one. -/
def isResourceChar (verbatim : Bool) (c : Char) : Bool :=
  isNameChar c || ";/?:@&=+$.%!~*'()".toList.contains c ||
    (verbatim && (c == ',' || c == '[' || c == ']'))

/-- The number of octets of a character in UTF-8, by its first octet. -/
def octetCount? (octet : Nat) : Option Nat :=
  if octet < 0x80 then some 1
  else if 0xC0 ≤ octet ∧ octet < 0xE0 then some 2
  else if 0xE0 ≤ octet ∧ octet < 0xF0 then some 3
  else if 0xF0 ≤ octet ∧ octet < 0xF8 then some 4
  else none

/-- Reads a resource name as octets. While `lacking` octets of an escaped character are missing,
only escapes of further octets may come. -/
def resource? (verbatim : Bool) : (lacking : Nat) → List Char → Place → Option (List UInt8 × Cursor)
  | lacking, '%' :: a :: b :: rest, place =>
    match hexValue? a, hexValue? b with
    | some high, some low =>
      let octet := high * 16 + low
      let remaining? :=
        if lacking = 0 then (octetCount? octet).map (· - 1)
        else if 0x80 ≤ octet ∧ octet < 0xC0 then some (lacking - 1) else none
      match remaining? with
      | none => none
      | some remaining =>
        (resource? verbatim remaining rest (place.pass ['%', a, b])).map fun (octets, after) =>
          (octet.toUInt8 :: octets, after)
    | _, _ => none
  | 0, c :: rest, place =>
    if c == '%' then none
    else if isResourceChar verbatim c then
      (resource? verbatim 0 rest (place.pass [c])).map fun (octets, after) =>
        (c.toNat.toUInt8 :: octets, after)
    else some ([], ⟨c :: rest, place⟩)
  | 0, [], place => some ([], ⟨[], place⟩)
  | _ + 1, _, _ => none

/-- Reads a resource name. A zero octet ends what is kept of it. -/
def resourceAt? (verbatim : Bool) (cursor : Cursor) : Option (List UInt8 × Cursor) :=
  (resource? verbatim 0 cursor.rest cursor.place).map fun (octets, after) =>
    (octets.takeWhile (· ≠ 0), after)

/-- Reads a resource name that has at least one character. -/
def nonemptyResourceAt? (verbatim : Bool) (cursor : Cursor) : Option (List UInt8 × Cursor) := do
  let (octets, after) ← resourceAt? verbatim cursor
  guard (cursor.place.octets < after.place.octets)
  return (octets, after)

/-- Takes a tag handle off the front: an exclamation mark, a name, and a closing mark if there is
one. Tells whether it is there. -/
def handle? (cursor : Cursor) : Option (List Char × Bool × Cursor) :=
  match cursor.rest with
  | '!' :: _ =>
    let (name, after) := take (cursor.skip 1)
    match after.rest with
    | '!' :: _ => some ('!' :: name ++ ['!'], true, after.skip 1)
    | _ => some ('!' :: name, false, after)
  | _ => none

/-- Reads the handle and suffix of a tag: verbatim in angle brackets, behind a handle, or local. A
lone exclamation mark is a suffix without handle. -/
def tagParts? (cursor : Cursor) : Option (String × List UInt8 × Cursor) :=
  match cursor.rest with
  | '!' :: '<' :: _ => do
    let (suffix, after) ← nonemptyResourceAt? true (cursor.skip 2)
    guard (after.rest.head? = some '>')
    return ("", suffix, after.skip 1)
  | _ => do
    let (handle, closed, after) ← handle? cursor
    if closed then
      let (suffix, after) ← nonemptyResourceAt? false after
      return (String.ofList handle, suffix, after)
    let (more, after) ← resourceAt? false after
    match handle.drop 1 with
    | [] =>
      if more.isEmpty then return ("", [0x21], after)
      return ("!", more, after)
    | name => return ("!", name.map (·.toNat.toUInt8) ++ more, after)

/-- Reads a tag. A blank or the end of the line has to follow, in a flow collection also a comma. -/
def tag? (flow : Bool) (cursor : Cursor) : Option (Token × Cursor) := do
  let (handle, suffix, after) ← tagParts? cursor
  guard (atGap after.rest || (flow && after.rest.head? = some ','))
  return (.tag handle suffix, after)

/-- Reads a number of at most nine digits. -/
def versionNumber? (cursor : Cursor) : Option (Nat × Cursor) :=
  let digits := cursor.rest.takeWhile Char.isDigit
  if digits.isEmpty || 9 < digits.length then none
  else
    some (digits.foldl (fun n c => n * 10 + (c.toNat - '0'.toNat)) 0, cursor.skip digits.length)

/-- Reads the version of a version directive. -/
def version? (cursor : Cursor) : Option (Token × Cursor) := do
  let (major, cursor) ← versionNumber? (cursor.skipWhile isBlank)
  guard (cursor.rest.head? = some '.')
  let (minor, cursor) ← versionNumber? (cursor.skip 1)
  return (.versionDirective major minor, cursor)

/-- Reads the handle and lead of a tag directive. -/
def tagDirective? (cursor : Cursor) : Option (Token × Cursor) := do
  let (handle, closed, cursor) ← handle? (cursor.skipWhile isBlank)
  guard (closed || handle = ['!'])
  guard (cursor.rest.head?.any isBlank)
  let (lead, cursor) ← nonemptyResourceAt? true (cursor.skipWhile isBlank)
  guard (atGap cursor.rest)
  return (.tagDirective (String.ofList handle) lead, cursor)

/-- Reads a directive with the end of its line. Only versions and tags are known. -/
def directive? (cursor : Cursor) : Option (Token × Cursor) := do
  let (name, cursor) := take (cursor.skip 1)
  guard (atGap cursor.rest)
  let (token, cursor) ←
    if name = "YAML".toList then version? cursor
    else if name = "TAG".toList then tagDirective? cursor
    else none
  return (token, ← cursor.endLine?)

end FlowMeter.Yaml.Name
