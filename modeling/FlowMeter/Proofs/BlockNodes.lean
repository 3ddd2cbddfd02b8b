import FlowMeter.Yaml.Node.Reader
import FlowMeter.Proofs.BlockTokens

/-!
# Block mappings are read back

The tokens of a mapping of two levels make up one document, whose root has an entry for each part: a scalar for a
field, and a mapping of scalars for a section. The fuel of the reader suffices, since it is more than the number
of tokens and every entry takes some of them.
-/

namespace FlowMeter.Yaml

/-- The node of a word. -/
def Node.word (text : List Char) : Node :=
  .scalar none none .plain (String.ofList text)

/-- The node of a scalar of one line. -/
def LineScalar.node (scalar : LineScalar) : Node :=
  .scalar none none scalar.style (String.ofList scalar.text)

/-- The entry of a field. -/
def Field.entry (field : Field) : Node × Node :=
  (.word field.name, field.value.node)

/-- The entry of a part. -/
def Part.entry : Part → Node × Node
  | single field => field.entry
  | nested group => (.word group.name, .mapping none none (group.fields.map Field.entry))

/-- A field has four tokens. -/
theorem length_flatMap_tokens (fields : List Field) :
    (fields.flatMap Field.tokens).length = 4 * fields.length := by
  induction fields with
  | nil => rfl
  | cons field rest ih =>
    rw [List.flatMap_cons, List.length_append, ih, List.length_cons, Nat.mul_succ, Nat.add_comm]
    rfl

namespace Node

variable {handles : Handles} {fuel : Nat} {style : Style} {text : String}
  {rest : List Token} {anchors : List (String × Nat)}

/-- A scalar without properties is read as it stands. -/
theorem read_scalar {setting : Setting} :
    read handles (fuel + 1) setting ⟨.scalar style text :: rest, anchors⟩ =
      (.scalar none none style text, some ⟨rest, anchors⟩) := by
  simp [read, Reader.properties, tagOf?, Reader.number, Reader.resume]

/-- Where a node may be left out, a scalar that stands there is read. -/
theorem readOrEmpty_scalar {setting : Setting} :
    readOrEmpty handles (fuel + 2) setting endsBlockField ⟨.scalar style text :: rest, anchors⟩ =
      (.scalar none none style text, some ⟨rest, anchors⟩) := by
  rw [readOrEmpty]
  exact read_scalar

/-- A block mapping without properties is read up to its end. -/
theorem read_mapping (indentless : Bool) {entries : List (Node × Node)} {after : Reader}
    (h : readEntries handles fuel ⟨rest, anchors⟩ = (entries, some after)) :
    read handles (fuel + 1) ⟨true, indentless⟩ ⟨.blockMappingStart :: rest, anchors⟩ =
      (.mapping none none entries, some after) := by
  simp [read, Reader.properties, tagOf?, Reader.number, Reader.resume, h]

/-- An entry of a block mapping is read, and then the entries behind it. -/
theorem readEntries_cons (name : String) {value : Node} {tokens : List Token}
    {entries : List (Node × Node)} {after : Reader}
    (hvalue : readOrEmpty handles (fuel + 1) ⟨true, true⟩ endsBlockField ⟨tokens, anchors⟩ =
      (value, some ⟨rest, anchors⟩))
    (hrest : readEntries handles (fuel + 2) ⟨rest, anchors⟩ = (entries, some after)) :
    readEntries handles (fuel + 3) ⟨.key :: .scalar .plain name :: .value :: tokens, anchors⟩ =
      ((.scalar none none .plain name, value) :: entries, some after) := by
  rw [readEntries]
  simp only [Reader.resume, readOrEmpty_scalar, readValue, hvalue, hrest]

/-- A block that ends has no more entries. -/
theorem readEntries_nil :
    readEntries handles (fuel + 1) ⟨.blockEnd :: rest, anchors⟩ = ([], some ⟨rest, anchors⟩) := by
  rw [readEntries]
  rfl

/-- The entries of fields are read up to the end of their mapping. -/
theorem readEntries_fields {fields : List Field} (h : fields.length + 3 ≤ fuel) :
    readEntries handles fuel ⟨fields.flatMap Field.tokens ++ .blockEnd :: rest, anchors⟩ =
      (fields.map Field.entry, some ⟨rest, anchors⟩) := by
  induction fields generalizing fuel with
  | nil =>
    obtain ⟨fuel, rfl⟩ := Nat.exists_eq_add_of_le' (Nat.one_le_of_lt h)
    exact readEntries_nil
  | cons field later ih =>
    rw [List.length_cons] at h
    obtain ⟨fuel, rfl⟩ := Nat.exists_eq_add_of_le' (show 4 ≤ fuel by omega)
    exact readEntries_cons (String.ofList field.name) readOrEmpty_scalar (ih (by omega))

/-- The mapping of a section is read as the value of its name. -/
theorem readOrEmpty_fields {fields : List Field} (h : fields.length + 3 ≤ fuel) :
    readOrEmpty handles (fuel + 2) ⟨true, true⟩ endsBlockField
        ⟨.blockMappingStart :: (fields.flatMap Field.tokens ++ .blockEnd :: rest), anchors⟩ =
      (.mapping none none (fields.map Field.entry), some ⟨rest, anchors⟩) := by
  rw [readOrEmpty]
  exact read_mapping true (readEntries_fields h)

/-- The entries of parts are read up to the end of their mapping. -/
theorem readEntries_parts {parts : List Part} (h : (parts.flatMap Part.tokens).length + 4 ≤ fuel) :
    readEntries handles fuel ⟨parts.flatMap Part.tokens ++ .blockEnd :: rest, anchors⟩ =
      (parts.map Part.entry, some ⟨rest, anchors⟩) := by
  -- The reader takes no more steps over a part than the part has tokens.
  induction parts generalizing fuel with
  | nil =>
    obtain ⟨fuel, rfl⟩ := Nat.exists_eq_add_of_le' (Nat.one_le_of_lt h)
    exact readEntries_nil
  | cons part later ih =>
    rw [List.flatMap_cons, List.length_append] at h
    rw [List.flatMap_cons, List.append_assoc, List.map_cons]
    cases part with
    | single field =>
      have hlength : (Part.single field).tokens.length = 4 := rfl
      obtain ⟨fuel, rfl⟩ := Nat.exists_eq_add_of_le' (show 4 ≤ fuel by omega)
      exact readEntries_cons (String.ofList field.name) readOrEmpty_scalar (ih (by omega))
    | nested group =>
      have hfields : (group.fields.flatMap Field.tokens).length = 4 * group.fields.length :=
        length_flatMap_tokens group.fields
      have hlength : (Part.nested group).tokens.length =
          (group.fields.flatMap Field.tokens).length + 5 := by
        simp only [Part.tokens, List.length_append, List.length_cons, List.length_nil]
        omega
      obtain ⟨fuel, rfl⟩ := Nat.exists_eq_add_of_le' (show 4 ≤ fuel by omega)
      simp only [Part.tokens, List.append_assoc, List.cons_append, List.nil_append]
      exact readEntries_cons (String.ofList group.name) (readOrEmpty_fields (by omega)) (ih (by omega))

end Node

/-- The text of a mapping of two levels is one document, with an entry for each part. -/
theorem Document.ofText_flatMap_parts {parts : List Part} (h : parts ≠ []) :
    Document.ofText (parts.flatMap Part.chars) =
      ⟨some (.mapping none none (parts.map Part.entry)), true⟩ := by
  have hentries : Node.readEntries standardHandles (5 * (parts.flatMap Part.tokens).length + 19)
      ⟨parts.flatMap Part.tokens ++ .blockEnd :: [.streamEnd], []⟩ =
      (parts.map Part.entry, some ⟨[.streamEnd], []⟩) := Node.readEntries_parts (by omega)
  have hread := Node.read_mapping false hentries
  have hlength : (Token.blockMappingStart ::
      (parts.flatMap Part.tokens ++ [.blockEnd, .streamEnd])).length =
      (parts.flatMap Part.tokens).length + 3 := by
    simp
  rw [ofText, tokens_flatMap_parts h, ofTokens]
  · simp only [hlength, Nat.mul_add]
    simp only [endsContent, Bool.and_false]
    exact congrArg closing hread
  · nofun

end FlowMeter.Yaml
