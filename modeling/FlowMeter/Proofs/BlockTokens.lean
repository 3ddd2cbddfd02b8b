import FlowMeter.Proofs.LexerSteps

/-!
# Tokens of block mappings

A mapping of two levels has fields, which are lines of a name and a scalar, and sections, which are names in
front of the fields of a mapping of their own. Its text gives the tokens of its parts in order, whatever the
parts are: nothing that a line leaves in the lexer changes what the next one gives.
-/

namespace FlowMeter.Yaml

/-- A scalar of one line: a word, or a text in double quotes that stands for itself. -/
inductive LineScalar where
  | word (text : List Char) (isWord : IsWord text)
  | quoted (text : List Char)
      (isVerbatim : ∀ c ∈ text, Quoted.isVerbatim c = true ∧ isAllowed c = true)

namespace LineScalar

/-- How a scalar is written. -/
def style : LineScalar → Style
  | word _ _ => .plain
  | quoted _ _ => .quoted

/-- The text of a scalar. -/
def text : LineScalar → List Char
  | word text _ => text
  | quoted text _ => text

/-- A scalar as it is written. -/
def chars : LineScalar → List Char
  | word text _ => text
  | quoted text _ => '"' :: (text ++ ['"'])

end LineScalar

/-- A line of a mapping: a name and a scalar. -/
structure Field where
  name : List Char
  isName : IsName name
  value : LineScalar

namespace Field

/-- The characters of a field, indented to a column. -/
def chars (column : Nat) (field : Field) : List Char :=
  List.replicate column ' ' ++ (field.name ++ ':' :: ' ' :: (field.value.chars ++ ['\n']))

/-- The tokens of a field. -/
def tokens (field : Field) : List Token :=
  [.key, .scalar .plain (String.ofList field.name), .value,
    .scalar field.value.style (String.ofList field.value.text)]

end Field

/-- A name in front of the lines of a mapping of its own. -/
structure Section where
  name : List Char
  isName : IsName name
  fields : List Field
  fields_ne_nil : fields ≠ []

/-- A part of a mapping of two levels. -/
inductive Part where
  | single (field : Field)
  | nested (group : Section)

namespace Part

/-- The characters of a part; the lines of a section are indented by two. -/
def chars : Part → List Char
  | single field => field.chars 0
  | nested group => group.name ++ ':' :: '\n' :: group.fields.flatMap (·.chars 2)

/-- The tokens of a part. -/
def tokens : Part → List Token
  | single field => field.tokens
  | nested group =>
    [.key, .scalar .plain (String.ofList group.name), .value, .blockMappingStart] ++
      group.fields.flatMap Field.tokens ++ [.blockEnd]

end Part

/-- A text that may follow a line of a mapping at a column. -/
structure Follows (column : Nat) (text : List Char) : Prop where
  startsLine : StartsLine text
  indentation_le : (indentation text).length ≤ column

/-- The end of a text follows a block at any column. -/
theorem follows_nil (column : Nat) : Follows column [] :=
  ⟨startsLine_nil, Nat.zero_le _⟩

/-- A name may follow a line of its mapping. -/
theorem follows_name (column : Nat) {name rest : List Char} (h : IsWord name) :
    Follows column (List.replicate column ' ' ++ (name ++ rest)) := by
  obtain ⟨hindentation, hunindented⟩ := indentation_replicate_append column rest h
  constructor
  · obtain ⟨c, tail, rfl, hc⟩ := h.starts
    intro other hother
    rw [hunindented] at hother
    obtain rfl := Option.some.inj hother
    exact hc
  · apply Nat.le_of_eq
    rw [hindentation, List.length_replicate]

/-- Fields may follow a line of their mapping, if what comes behind them may. -/
theorem Follows.fields {column : Nat} {text : List Char} (h : Follows column text) (fields : List Field) :
    Follows column (fields.flatMap (·.chars column) ++ text) := by
  cases fields with
  | nil => exact h
  | cons field rest =>
    rw [List.flatMap_cons, Field.chars, List.append_assoc, List.append_assoc, List.append_assoc]
    exact follows_name column field.isName.toIsWord

/-- Parts may follow a line at the first column. -/
theorem follows_parts (parts : List Part) : Follows 0 (parts.flatMap Part.chars) := by
  cases parts with
  | nil => exact follows_nil 0
  | cons part rest =>
    rw [List.flatMap_cons]
    cases part with
    | single field =>
      rw [Part.chars, Field.chars, List.append_assoc, List.append_assoc]
      exact follows_name 0 field.isName.toIsWord
    | nested group =>
      rw [Part.chars, List.append_assoc]
      exact follows_name 0 group.isName.toIsWord

namespace Lexer

/-- The lexer reads the tokens of a field. -/
theorem Enters.field {lexer : Lexer} {column : Nat} {outer : List Nat} {tokens : List Token}
    {text : List Char} {field : Field} (htext : Follows column text)
    (h : lexer.Enters column outer tokens (field.chars column ++ text)) :
    ∃ next, Relation.ReflTransGen Advances lexer next ∧
      next.Before (column :: outer) (tokens ++ field.tokens) text := by
  obtain ⟨name, hname, value⟩ := field
  rw [Field.chars, List.append_assoc, List.append_assoc, List.cons_append, List.cons_append] at h
  obtain ⟨behind, hbehind, hvalue⟩ := h.behind hname rfl
  have hscalar : ∃ next, behind.Advances next ∧ next.Before (column :: outer)
      (tokens ++ [.key, .scalar .plain (String.ofList name), .value] ++
        [.scalar value.style (String.ofList value.text)]) text := by
    cases value with
    | word word hword =>
      rw [LineScalar.chars, List.append_assoc] at hvalue
      exact hvalue.word hword htext.startsLine htext.indentation_le
    | quoted quoted hquoted =>
      simp only [LineScalar.chars, List.cons_append, List.append_assoc, List.nil_append] at hvalue
      exact hvalue.quoted (fun c hc => (hquoted c hc).1) htext.startsLine
  obtain ⟨next, hnext, hbefore⟩ := hscalar
  refine ⟨next, hbehind.tail hnext, ?_⟩
  rw [List.append_assoc] at hbefore
  exact hbefore

/-- The lexer reads the tokens of the fields of an open mapping. -/
theorem Before.fields {lexer : Lexer} {column : Nat} {outer : List Nat} {tokens : List Token}
    {text : List Char} {fields : List Field} (htext : Follows column text)
    (h : lexer.Before (column :: outer) tokens (fields.flatMap (·.chars column) ++ text)) :
    ∃ next, Relation.ReflTransGen Advances lexer next ∧
      next.Before (column :: outer) (tokens ++ fields.flatMap Field.tokens) text := by
  induction fields generalizing lexer tokens with
  | nil =>
    refine ⟨lexer, .refl, ?_⟩
    rwa [List.flatMap_nil, List.append_nil]
  | cons field rest ih =>
    rw [List.flatMap_cons, List.append_assoc] at h
    have henters : lexer.Enters column outer tokens
        (field.chars column ++ (rest.flatMap (·.chars column) ++ text)) :=
      .within ⟨[], tokens, h, List.forall_mem_nil _, (List.append_nil _).symm⟩
    obtain ⟨between, hfirst, hbetween⟩ := henters.field (htext.fields rest)
    obtain ⟨next, hrest, hnext⟩ := ih hbetween
    refine ⟨next, hfirst.trans hrest, ?_⟩
    rwa [List.flatMap_cons, ← List.append_assoc]

/-- The lexer reads the tokens of a section, and is within its mapping then: what comes next closes it. -/
theorem Enters.nested {lexer : Lexer} {tokens : List Token} {text : List Char} {group : Section}
    (htext : Follows 0 text) (h : lexer.Enters 0 [] tokens ((Part.nested group).chars ++ text)) :
    ∃ next, Relation.ReflTransGen Advances lexer next ∧
      next.Within 0 [] (tokens ++ (Part.nested group).tokens) text := by
  obtain ⟨name, hname, fields, hfields⟩ := group
  obtain ⟨first, rest, rfl⟩ := List.exists_cons_of_ne_nil hfields
  have hdeeper : Follows 2 text := ⟨htext.startsLine, Nat.le_trans htext.indentation_le (Nat.zero_le 2)⟩
  have hchars : (Part.nested ⟨name, hname, first :: rest, hfields⟩).chars ++ text =
      List.replicate 0 ' ' ++ (name ++ ':' :: '\n' ::
        (first.chars 2 ++ (rest.flatMap (·.chars 2) ++ text))) := by simp [Part.chars]
  rw [hchars] at h
  obtain ⟨behind, hbehind, hlines⟩ := h.behind hname rfl
  obtain ⟨output, place, rfl, htokens, _⟩ := hlines.state
  have hsection := (hdeeper.fields (first :: rest)).startsLine
  rw [List.flatMap_cons, List.append_assoc] at hsection
  have hopening := before_newline false [0] output place hsection
  rw [htokens] at hopening
  have henters := hopening.opens 2 (by simp)
  obtain ⟨between, hfirst, hbetween⟩ := henters.field (hdeeper.fields rest)
  obtain ⟨next, hrest, hnext⟩ := hbetween.fields hdeeper
  refine ⟨next, hbehind.trans (hfirst.trans hrest), ⟨[2], _, hnext, by simp, ?_⟩⟩
  simp [Part.tokens]

/-- The lexer reads the tokens of a part, and is within the mapping of the part then. -/
theorem Enters.part {lexer : Lexer} {tokens : List Token} {text : List Char} {part : Part}
    (htext : Follows 0 text) (h : lexer.Enters 0 [] tokens (part.chars ++ text)) :
    ∃ next, Relation.ReflTransGen Advances lexer next ∧ next.Within 0 [] (tokens ++ part.tokens) text := by
  cases part with
  | single field =>
    obtain ⟨next, hnext, hbefore⟩ := Enters.field htext h
    exact ⟨next, hnext, ⟨[], _, hbefore, List.forall_mem_nil _, (List.append_nil _).symm⟩⟩
  | nested group => exact h.nested htext

/-- The lexer reads the tokens of the parts of an open mapping. -/
theorem Within.parts {lexer : Lexer} {tokens : List Token} {parts : List Part}
    (h : lexer.Within 0 [] tokens (parts.flatMap Part.chars)) :
    ∃ next, Relation.ReflTransGen Advances lexer next ∧
      next.Within 0 [] (tokens ++ parts.flatMap Part.tokens) [] := by
  induction parts generalizing lexer tokens with
  | nil =>
    refine ⟨lexer, .refl, ?_⟩
    rwa [List.flatMap_nil, List.append_nil]
  | cons part rest ih =>
    rw [List.flatMap_cons] at h
    obtain ⟨between, hfirst, hbetween⟩ := (Enters.within h).part (follows_parts rest)
    obtain ⟨next, hrest, hnext⟩ := ih hbetween
    refine ⟨next, hfirst.trans hrest, ?_⟩
    rwa [List.flatMap_cons, ← List.append_assoc]

end Lexer

/-- All characters of a scalar may stand in a text. -/
theorem LineScalar.isAllowed_of_mem_chars {scalar : LineScalar} {c : Char} (h : c ∈ scalar.chars) :
    isAllowed c = true := by
  cases scalar with
  | word word hword => exact isAllowed_of_isNameChar (hword.chars c h)
  | quoted quoted hquoted =>
    simp only [chars, List.mem_cons, List.mem_append, List.not_mem_nil, or_false] at h
    rcases h with rfl | hmem | rfl
    · rfl
    · exact (hquoted c hmem).2
    · rfl

/-- All characters of a field may stand in a text. -/
theorem Field.isAllowed_of_mem_chars {column : Nat} {field : Field} {c : Char} (h : c ∈ field.chars column) :
    isAllowed c = true := by
  simp only [chars, List.mem_append, List.mem_cons, List.not_mem_nil, or_false] at h
  rcases h with hspace | hname | rfl | rfl | hvalue | rfl
  · obtain rfl := List.eq_of_mem_replicate hspace
    rfl
  · exact isAllowed_of_isNameChar (field.isName.chars c hname)
  · rfl
  · rfl
  · exact LineScalar.isAllowed_of_mem_chars hvalue
  · rfl

/-- All characters of a part may stand in a text. -/
theorem Part.isAllowed_of_mem_chars {part : Part} {c : Char} (h : c ∈ part.chars) : isAllowed c = true := by
  cases part with
  | single field => exact Field.isAllowed_of_mem_chars h
  | nested group =>
    simp only [chars, List.mem_append, List.mem_cons, List.mem_flatMap] at h
    rcases h with hname | rfl | rfl | ⟨field, _, hfield⟩
    · exact isAllowed_of_isNameChar (group.isName.chars c hname)
    · rfl
    · rfl
    · exact Field.isAllowed_of_mem_chars hfield

/-- The tokens of a mapping of two levels are those of its parts, between its start and its end. -/
theorem tokens_flatMap_parts {parts : List Part} (h : parts ≠ []) :
    tokens (parts.flatMap Part.chars) =
      .blockMappingStart :: (parts.flatMap Part.tokens ++ [.blockEnd, .streamEnd]) := by
  obtain ⟨first, rest, rfl⟩ := List.exists_cons_of_ne_nil h
  have hreadable : readable ((first :: rest).flatMap Part.chars) = (first :: rest).flatMap Part.chars := by
    apply readable_of_all_isAllowed
    rw [List.all_eq_true]
    intro c hc
    obtain ⟨part, _, hpart⟩ := List.mem_flatMap.mp hc
    exact Part.isAllowed_of_mem_chars hpart
  have hstart := Lexer.before_start (follows_parts (first :: rest)).startsLine
  rw [List.flatMap_cons] at hstart
  have henters := hstart.opens 0 (by simp)
  obtain ⟨between, hfirst, hbetween⟩ := henters.part (follows_parts rest)
  obtain ⟨next, hrest, hnext⟩ := hbetween.parts
  have hgives := Lexer.gives_of_reflTransGen (hfirst.trans hrest) hnext.gives
  have htokens := hgives _ (Nat.lt_succ_self _)
  rw [← List.flatMap_cons] at htokens
  have hpart : decide (((first :: rest).flatMap Part.chars).length <
      ((first :: rest).flatMap Part.chars).length) = false := decide_eq_false (Nat.lt_irrefl _)
  rw [tokens]
  simp only [hreadable, hpart]
  refine htokens.trans ?_
  simp

end FlowMeter.Yaml
