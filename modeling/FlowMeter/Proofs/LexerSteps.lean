import Mathlib.Logic.Relation
import Mathlib.Tactic.NthRewrite
import FlowMeter.Proofs.LineScalars

/-!
# The lexer in a block mapping

The lexer takes three steps through a line of a block mapping: its name, the colon, and the scalar behind it. A
name opens a mapping at its column or goes on with the one that is open there, after the mappings further right
are closed. Every step passes some of the text, so the fuel of the lexer suffices.
-/

namespace FlowMeter.Yaml

namespace Output

/-- The number of the tokens that were read is kept. -/
theorem length_toList (output : Output) : output.toList.length = output.count := by
  rw [toList, List.length_reverse, output.count_eq]

/-- A token that is put in front of the last one. -/
theorem toList_insert_push (output : Output) (last token : Token) :
    ((output.push last).insert output.count token).toList = output.toList ++ [token, last] := by
  rw [toList_insert _ _ _ (Nat.le_succ _), toList_push, ← output.length_toList, List.take_left,
    List.drop_left]

/-- Two tokens that are put in front of the last one. -/
theorem toList_insert_insert_push (output : Output) (last token first : Token) :
    (((output.push last).insert output.count token).insert output.count first).toList =
      output.toList ++ [first, token, last] := by
  have hcount : output.count ≤ ((output.push last).insert output.count token).count :=
    Nat.le_succ_of_le (Nat.le_succ _)
  rw [toList_insert _ _ _ hcount, toList_insert_push, ← output.length_toList, List.take_left,
    List.drop_left]

end Output

namespace Lexer

/-- A lexer between tokens of the block context: no flow collection is open, and no token waits to become a key. -/
def between (keyAllowed : Bool) (columns : List Nat) (output : Output) (cursor : Cursor) : Lexer where
  cursor := cursor
  output := output
  columns := columns
  keyAllowed := keyAllowed
  candidate := none
  outer := []
  ended := false

/-- A lexer takes a step within its text. -/
structure Advances (lexer next : Lexer) : Prop where
  step : lexer.step? = some next
  unended : next.ended = false
  shorter : next.cursor.rest.length < lexer.cursor.rest.length

/-- The tokens that a lexer gives in the end, whatever fuel it has that suffices for its text. -/
def Gives (lexer : Lexer) (tokens : List Token) : Prop :=
  ∀ fuel, lexer.cursor.rest.length < fuel → lexer.run false fuel = tokens

/-- What a lexer gives from a later state it gives from an earlier one. -/
theorem Advances.gives {lexer next : Lexer} {tokens : List Token} (h : lexer.Advances next)
    (hnext : next.Gives tokens) : lexer.Gives tokens := by
  intro fuel hfuel
  cases fuel with
  | zero => contradiction
  | succ fuel =>
    have hshort := h.shorter
    rw [run, h.step]
    simpa [h.unended] using hnext fuel (by omega)

/-- Steps within the text do not change what is given in the end. -/
theorem gives_of_reflTransGen {lexer next : Lexer} {tokens : List Token}
    (h : Relation.ReflTransGen Advances lexer next) (hnext : next.Gives tokens) :
    lexer.Gives tokens := by
  induction h using Relation.ReflTransGen.head_induction_on with
  | refl => exact hnext
  | head hstep _ ih => exact hstep.gives ih

/-- A step that ends the text gives its tokens. -/
theorem gives_of_ended {lexer next : Lexer} (h : lexer.step? = some next) (hended : next.ended = true) :
    lexer.Gives next.output.toList := by
  intro fuel hfuel
  cases fuel with
  | zero => contradiction
  | succ fuel =>
    rw [run, h]
    simp [hended]

/-- The gap in front of a line is its indentation. -/
theorem skipGaps_line {text : List Char} (keyAllowed : Bool) (place : Place) (h : StartsLine text) :
    skipGaps false false keyAllowed text place =
      (keyAllowed, ⟨unindented text, place.pass (indentation text)⟩) := by
  -- Every space moves the place, so the place is general.
  induction text generalizing place with
  | nil => rfl
  | cons c rest ih =>
    by_cases hc : c = ' '
    · subst hc
      have hstep : skipGaps false false keyAllowed (' ' :: rest) place =
          skipGaps false false keyAllowed rest (place.pass [' ']) := by
        rw [skipGaps]
        · simp [isBreak, lineBreak?]
        · simp
      rw [hstep, ih (place.pass [' ']) h, indentation_space, ← Place.pass_append]
      rfl
    · have hunindented : unindented (c :: rest) = c :: rest := by simp [unindented, hc]
      have hindentation : indentation (c :: rest) = [] := by simp [indentation, hc]
      rw [StartsLine, hunindented] at h
      have hname := isNameChar_of_isAlphanum (h c rfl)
      have hne {other : Char} (hother : isNameChar other = false) := beq_eq_false_of_class hname hother
      rw [hunindented, hindentation, Place.pass_nil, skipGaps]
      · rw [isBreak_of_isNameChar hname, hne rfl, hne rfl, hne rfl, hne (by decide)]
        simp
      · rintro _ rfl
        contradiction

/-- The gap at the end of a line reaches to the text of the next one, which may start with a key. -/
theorem skipGaps_newline {text : List Char} (keyAllowed : Bool) (place : Place) (h : StartsLine text) :
    skipGaps false false keyAllowed ('\n' :: text) place =
      (true, ⟨unindented text, place.nextText text⟩) := by
  rw [skipGaps]
  · simp only [isBreak, lineBreak?]
    simp [skipGaps_line true _ h, Place.nextText]
  · simp

/-- Nothing is closed where the innermost column stays. -/
theorem closeWhile_of_head {p : Nat → Bool} {columns : List Nat} (output : Output)
    (h : ∀ column ∈ columns.head?, p column = false) :
    closeWhile p columns output = (columns, output) := by
  cases columns with
  | nil => rfl
  | cons column columns =>
    rw [closeWhile, h column rfl]
    rfl

/-- The collections in front of a column that stays are closed. -/
theorem closeWhile_append {p : Nat → Bool} {inner : List Nat} (columns : List Nat) (output : Output)
    (hinner : ∀ column ∈ inner, p column = true) (h : ∀ column ∈ columns.head?, p column = false) :
    ∃ closed, closeWhile p (inner ++ columns) output = (columns, closed) ∧
      closed.toList = output.toList ++ List.replicate inner.length .blockEnd := by
  induction inner generalizing output with
  | nil => exact ⟨output, closeWhile_of_head output h, (List.append_nil _).symm⟩
  | cons column inner ih =>
    obtain ⟨hcolumn, hrest⟩ := List.forall_mem_cons.mp hinner
    obtain ⟨closed, hclosed, htokens⟩ := ih (output.push .blockEnd) hrest
    refine ⟨closed, ?_, ?_⟩
    · rw [List.cons_append, closeWhile, hcolumn]
      exact hclosed
    · rw [htokens, Output.toList_push, List.append_assoc]
      rfl

section ReadToken

variable {lexer : Lexer} {c : Char} {rest : List Char}

/-- A letter or a digit starts a plain scalar. -/
theorem readToken?_word (hrest : lexer.cursor.rest = c :: rest) (hc : c.isAlphanum = true) :
    lexer.readToken? = lexer.plainScalar? := by
  have hne {other : Char} (hother : other.isAlphanum = false) := beq_eq_false_of_class hc hother
  have hname := isNameChar_of_isAlphanum hc
  have hindicator : isIndicator c = false := by
    rw [isIndicator, List.contains_eq_mem, decide_eq_false_iff_not]
    intro hmem
    have hall : "-?:,[]\x7b\x7d#&*!|>'\"%@\x60".toList.all (!·.isAlphanum) = true := by decide
    have hother := List.all_eq_true.mp hall c hmem
    rw [hc] at hother
    contradiction
  have hmark : atDocumentMark (c :: rest) = false := by
    unfold atDocumentMark
    split <;> simp_all
  have hplain : startsPlain lexer.inFlow (c :: rest) = true := by
    rw [startsPlain, isBlank_of_isNameChar hname, isBreak_of_isNameChar hname, hindicator]
    rfl
  rw [readToken?, hrest]
  simp [hne, hmark, hplain]

/-- A colon in front of a gap is that of a value. -/
theorem readToken?_colon (hrest : lexer.cursor.rest = ':' :: rest) (hgap : atGap rest = true) :
    lexer.readToken? = lexer.value? := by
  rw [readToken?, hrest]
  simp [atDocumentMark, hgap]

/-- A quote starts a quoted scalar. -/
theorem readToken?_quote (hrest : lexer.cursor.rest = '"' :: rest) :
    lexer.readToken? = lexer.quotedScalar? .double := by
  rw [readToken?, hrest]
  simp [atDocumentMark]

end ReadToken

/-- A lexer in front of a line: nothing but line breaks and the indentation is passed on the way to its text. -/
structure Before (lexer : Lexer) (columns : List Nat) (tokens : List Token) (text : List Char) : Prop where
  reached : ∃ output place, lexer.toNextToken = between true columns output ⟨unindented text, place⟩ ∧
    output.toList = tokens ∧ place.column = (indentation text).length
  length_le : (unindented text).length ≤ lexer.cursor.rest.length

/-- A lexer behind a name and its colon, in a mapping at a column. -/
structure Behind (lexer : Lexer) (column : Nat) (outer : List Nat) (tokens : List Token)
    (text : List Char) : Prop where
  state : ∃ output place, lexer = between false (column :: outer) output ⟨text, place⟩ ∧
    output.toList = tokens ∧ column ≤ place.column

/-- A key of a short name may still become one behind the name. -/
theorem not_isStale_pass {name : List Char} (before : Nat) (place : Place) (required : Bool)
    (h : octetCount name ≤ 1024) :
    (Candidate.mk before place required).isStale (place.pass name) = false := by
  simp [Candidate.isStale, Place.pass, h]

/-- The state behind a name that may become a key. -/
def named (columns : List Nat) (output : Output) (place : Place) (name rest : List Char)
    (required : Bool) : Lexer :=
  { between false columns (output.push (.scalar .plain (String.ofList name)))
      ⟨':' :: rest, place.pass name⟩ with
    candidate := some ⟨output.count, place, required⟩ }

/-- Between tokens no key waits that could be too old. -/
theorem dropStale?_between (keyAllowed : Bool) (columns : List Nat) (output : Output) (cursor : Cursor) :
    (between keyAllowed columns output cursor).dropStale? = some (between keyAllowed columns output cursor) :=
  rfl

/-- A step goes on to the next token, closes the collections right of it and reads it. -/
theorem step?_eq {lexer : Lexer} {keyAllowed : Bool} {columns closed : List Nat}
    {output closedOutput : Output} {cursor : Cursor}
    (hnext : lexer.toNextToken = between keyAllowed columns output cursor)
    (hclose : closeWhile (cursor.place.column < ·) columns output = (closed, closedOutput)) :
    lexer.step? = (between keyAllowed closed closedOutput cursor).readToken?.bind dropStale? := by
  have hclosed : (between keyAllowed columns output cursor).closeBlocks (cursor.place.column < ·) =
      between keyAllowed closed closedOutput cursor := by
    simp [closeBlocks, between, inFlow, hclose]
  rw [step?, hnext, dropStale?_between, ← hclosed]
  rfl

/-- A name is fresh behind itself: it stands on one line and is short. -/
theorem dropStale?_named {columns : List Nat} {output : Output} {place : Place} {name rest : List Char}
    {required : Bool} (h : octetCount name ≤ 1024) :
    (named columns output place name rest required).dropStale? =
      some (named columns output place name rest required) := by
  simp [dropStale?, named, between, keepFresh?, Lexer.place, not_isStale_pass, h]

/-- A name is read as a scalar that may become a key. -/
theorem readToken?_name (columns : List Nat) (output : Output) (place : Place) {name rest : List Char}
    (hname : IsWord name) (hrest : atGap rest = true) :
    ∃ required, (between true columns output ⟨name ++ ':' :: rest, place⟩).readToken? =
      some (named columns output place name rest required) := by
  obtain ⟨c, tail, hcons, hc⟩ := hname.starts
  have hcursor : (between true columns output ⟨name ++ ':' :: rest, place⟩).cursor.rest =
      c :: (tail ++ ':' :: rest) := by rw [hcons]; rfl
  refine ⟨decide ((between true columns output ⟨name ++ ':' :: rest, place⟩).floor = place.column + 1), ?_⟩
  rw [readToken?_word hcursor hc, plainScalar?]
  simp only [noteCandidate?, between, inFlow, dropCandidate?]
  simp [Plain.read?_key _ hname hrest, emit, Lexer.place, named, between]
  rfl

/-- The first step through a line reads its name, after the collections right of it are closed. -/
theorem step?_name {lexer : Lexer} {columns closed : List Nat} {output closedOutput : Output}
    {place : Place} {name rest : List Char} (hname : IsName name) (hrest : atGap rest = true)
    (hnext : lexer.toNextToken = between true columns output ⟨name ++ ':' :: rest, place⟩)
    (hclose : closeWhile (place.column < ·) columns output = (closed, closedOutput)) :
    ∃ required, lexer.step? = some (named closed closedOutput place name rest required) := by
  obtain ⟨required, hread⟩ := readToken?_name closed closedOutput place hname.toIsWord hrest
  refine ⟨required, ?_⟩
  rw [step?_eq hnext hclose, hread]
  exact dropStale?_named hname.short

/-- The second step through a line reads the colon, which makes the name a key. -/
theorem step?_colon {columns : List Nat} (output : Output) {place : Place} {name rest : List Char}
    (required : Bool) (hname : octetCount name ≤ 1024) (hrest : atGap rest = true)
    (hcolumns : ∀ column ∈ columns.head?, column ≤ place.column) :
    (named columns output place name rest required).step? =
      (named columns output place name rest required).value?.bind dropStale? := by
  have hnext : (named columns output place name rest required).toNextToken =
      named columns output place name rest required := by
    simp only [toNextToken, named, between, inFlow]
    rw [List.isEmpty_nil, Bool.not_true, skipGaps]
    · rfl
    · nofun
  have hclosed : (named columns output place name rest required).closeBlocks
      ((place.pass name).column < ·) = named columns output place name rest required := by
    have hhead : ∀ column ∈ columns.head?, decide ((place.pass name).column < column) = false := by
      intro column hcolumn
      have hle : column ≤ place.column + name.length := Nat.le_add_right_of_le (hcolumns column hcolumn)
      exact decide_eq_false (Nat.not_lt.mpr hle)
    simp [closeBlocks, named, between, inFlow, closeWhile_of_head _ hhead]
  have hread : (named columns output place name rest required).readToken? =
      (named columns output place name rest required).value? := readToken?_colon rfl hrest
  rw [step?, hnext, dropStale?_named hname, ← hread]
  nth_rewrite 2 [← hclosed]
  rfl

/-- A name goes on with the mapping that is open at its column. -/
theorem value?_within {outer : List Nat} {output : Output} {place : Place} {name rest : List Char}
    {required : Bool} :
    (named (place.column :: outer) output place name rest required).value? =
      some (between false (place.column :: outer)
        (((output.push (.scalar .plain (String.ofList name))).insert output.count .key).push .value)
        ⟨rest, (place.pass name).pass [':']⟩) := by
  simp [value?, named, between, emitAt, emit, emitMark, openBlock, inFlow, floor, Cursor.skip]

/-- A name right of the mapping that is open opens one at its column. -/
theorem value?_opening {outer : List Nat} {output : Output} {place : Place} {name rest : List Char}
    {required : Bool} (houter : ∀ column ∈ outer.head?, column < place.column) :
    (named outer output place name rest required).value? =
      some (between false (place.column :: outer)
        ((((output.push (.scalar .plain (String.ofList name))).insert output.count .key).insert
          output.count .blockMappingStart).push .value)
        ⟨rest, (place.pass name).pass [':']⟩) := by
  have hfloor (lexer : Lexer) (h : lexer.columns = outer) : ¬place.column < lexer.floor := by
    rw [floor, h]
    cases outer with
    | nil => exact Nat.not_lt_zero _
    | cons column outer =>
      have hlt := houter column rfl
      simp only
      omega
  simp [value?, named, between, emitAt, emit, emitMark, openBlock, inFlow, hfloor, Cursor.skip]

/-- A lexer in front of a line of an open mapping; the tokens are those that there are after the collections
further right are closed. -/
structure Within (lexer : Lexer) (column : Nat) (outer : List Nat) (tokens : List Token)
    (text : List Char) : Prop where
  before : ∃ inner emitted, lexer.Before (inner ++ column :: outer) emitted text ∧
    (∀ other ∈ inner, column < other) ∧ tokens = emitted ++ List.replicate inner.length .blockEnd

/-- A lexer in front of a line that opens a mapping or is one of an open mapping; the tokens are those that
there are in front of its name. -/
inductive Enters (lexer : Lexer) (column : Nat) (outer : List Nat) (tokens : List Token)
    (text : List Char) : Prop where
  | opening (emitted : List Token) : lexer.Before outer emitted text →
      (∀ other ∈ outer.head?, other < column) → tokens = emitted ++ [.blockMappingStart] →
      Enters lexer column outer tokens text
  | within : lexer.Within column outer tokens text → Enters lexer column outer tokens text

/-- A line right of the mapping that is open opens one. -/
theorem Before.opens {lexer : Lexer} {outer : List Nat} {tokens : List Token} {text : List Char}
    (column : Nat) (h : lexer.Before outer tokens text) (houter : ∀ other ∈ outer.head?, other < column) :
    lexer.Enters column outer (tokens ++ [.blockMappingStart]) text :=
  .opening tokens h houter rfl

/-- Two steps lead from the front of a name through its colon. -/
theorem advances_name {lexer : Lexer} {columns closed outer : List Nat} {output closedOutput after : Output}
    {place : Place} {name rest : List Char} (hname : IsName name) (hrest : atGap rest = true)
    (hlength : (name ++ ':' :: rest).length ≤ lexer.cursor.rest.length)
    (hnext : lexer.toNextToken = between true columns output ⟨name ++ ':' :: rest, place⟩)
    (hclose : closeWhile (place.column < ·) columns output = (closed, closedOutput))
    (hclosed : ∀ column ∈ closed.head?, column ≤ place.column)
    (hvalue : ∀ required, (named closed closedOutput place name rest required).value? =
      some (between false outer after ⟨rest, (place.pass name).pass [':']⟩)) :
    Relation.ReflTransGen Advances lexer
      (between false outer after ⟨rest, (place.pass name).pass [':']⟩) := by
  obtain ⟨c, tail, rfl, _⟩ := hname.starts
  obtain ⟨required, hfirst⟩ := step?_name hname hrest hnext hclose
  have hsecond := step?_colon closedOutput required hname.short hrest hclosed
  rw [hvalue required] at hsecond
  have hname : lexer.Advances (named closed closedOutput place (c :: tail) rest required) := by
    refine ⟨hfirst, rfl, ?_⟩
    rw [List.length_append, List.length_cons] at hlength
    exact Nat.lt_of_lt_of_le (Nat.lt_add_of_pos_left (Nat.succ_pos _)) hlength
  exact .head hname (.single ⟨hsecond, rfl, Nat.lt_succ_self _⟩)

/-- In front of the line of a name, the lexer goes on to the name. -/
theorem Before.reaches_name {lexer : Lexer} {columns : List Nat} {tokens : List Token} {column : Nat}
    {name rest : List Char} (hname : IsName name)
    (h : lexer.Before columns tokens (List.replicate column ' ' ++ (name ++ rest))) :
    ∃ output place, lexer.toNextToken = between true columns output ⟨name ++ rest, place⟩ ∧
      output.toList = tokens ∧ place.column = column ∧
      (name ++ rest).length ≤ lexer.cursor.rest.length := by
  obtain ⟨⟨output, place, hnext, htokens, hcolumn⟩, hlength⟩ := h
  obtain ⟨hindentation, hunindented⟩ := indentation_replicate_append column rest hname.toIsWord
  rw [hindentation, List.length_replicate] at hcolumn
  rw [hunindented] at hnext hlength
  exact ⟨output, place, hnext, htokens, hcolumn, hlength⟩

/-- Behind a colon the lexer is right of the column of its name. -/
theorem behind_colon {outer : List Nat} {output : Output} {tokens : List Token} {place : Place}
    {name rest : List Char} (h : output.toList = tokens) :
    (between false (place.column :: outer) output ⟨rest, (place.pass name).pass [':']⟩).Behind
      place.column outer tokens rest :=
  ⟨output, _, rfl, h, Nat.le_succ_of_le (Nat.le_add_right ..)⟩

/-- A name and its colon lead into their mapping. -/
theorem Enters.behind {lexer : Lexer} {column : Nat} {outer : List Nat} {tokens : List Token}
    {name rest : List Char} (hname : IsName name) (hrest : atGap rest = true)
    (h : lexer.Enters column outer tokens (List.replicate column ' ' ++ (name ++ ':' :: rest))) :
    ∃ next, Relation.ReflTransGen Advances lexer next ∧
      next.Behind column outer (tokens ++ [.key, .scalar .plain (String.ofList name), .value]) rest := by
  cases h with
  | opening emitted hbefore houter htokens =>
    obtain ⟨output, place, hnext, rfl, rfl, hlength⟩ := hbefore.reaches_name hname
    have hhead : ∀ other ∈ outer.head?, decide (place.column < other) = false := fun other hother =>
      decide_eq_false (Nat.not_lt.mpr (Nat.le_of_lt (houter other hother)))
    have hadvances := advances_name hname hrest hlength hnext (closeWhile_of_head output hhead)
      (fun other hother => Nat.le_of_lt (houter other hother)) (fun _ => value?_opening houter)
    refine ⟨_, hadvances, behind_colon ?_⟩
    rw [Output.toList_push, Output.toList_insert_insert_push, htokens]
    simp
  | within hwithin =>
    obtain ⟨inner, _, hbefore, hinner, htokens⟩ := hwithin
    obtain ⟨output, place, hnext, rfl, rfl, hlength⟩ := hbefore.reaches_name hname
    have hdeeper : ∀ other ∈ inner, decide (place.column < other) = true := fun other hother =>
      decide_eq_true (hinner other hother)
    obtain ⟨closed, hclose, hclosed⟩ := closeWhile_append (place.column :: outer) output hdeeper (by simp)
    have hadvances := advances_name hname hrest hlength hnext hclose (by simp) (fun _ => value?_within)
    refine ⟨_, hadvances, behind_colon ?_⟩
    rw [Output.toList_push, Output.toList_insert_push, hclosed, htokens]
    simp

/-- Where a line ends, the lexer is in front of the next one. -/
theorem before_newline (keyAllowed : Bool) (columns : List Nat) (output : Output) (place : Place)
    {text : List Char} (h : StartsLine text) :
    (between keyAllowed columns output ⟨'\n' :: text, place⟩).Before columns output.toList text := by
  refine ⟨⟨output, place.nextText text, ?_, rfl, Nat.zero_add _⟩, ?_⟩
  · simp only [toNextToken, between, inFlow, List.isEmpty_nil, Bool.not_true, skipGaps_newline _ _ h]
  · exact Nat.le_succ_of_le (List.dropWhile_suffix _).length_le

/-- Where the indentation of a line is passed already, the lexer is in front of it as well. -/
theorem before_unindented {columns : List Nat} {output : Output} {place : Place} {text : List Char}
    (h : StartsLine text) (hcolumn : place.column = (indentation text).length) :
    (between true columns output ⟨unindented text, place⟩).Before columns output.toList text := by
  obtain ⟨hindentation, hunindented⟩ := indentation_unindented text
  have hline : StartsLine (unindented text) := by rwa [StartsLine, hunindented]
  refine ⟨⟨output, place, ?_, rfl, hcolumn⟩, Nat.le_refl _⟩
  simp only [toNextToken, between, inFlow, List.isEmpty_nil, Bool.not_true, skipGaps_line _ _ hline,
    hindentation, hunindented, Place.pass_nil]

/-- The third step through a line passes a space and reads what starts behind it. -/
theorem Behind.step?_eq {lexer : Lexer} {column : Nat} {outer : List Nat} {tokens : List Token} {c : Char}
    {rest : List Char} (hc : (isBlank c || isBreak c || c == '#' || c == '\uFEFF') = false)
    (h : lexer.Behind column outer tokens (' ' :: c :: rest)) :
    ∃ output place, output.toList = tokens ∧ lexer.cursor.rest = ' ' :: c :: rest ∧
      lexer.step? = (between false (column :: outer) output ⟨c :: rest, place⟩).readToken?.bind dropStale? := by
  obtain ⟨output, place, rfl, rfl, hcolumn⟩ := h.state
  have hgap : skipGaps false false false (c :: rest) (place.pass [' ']) =
      (false, ⟨c :: rest, place.pass [' ']⟩) := by
    rw [skipGaps]
    · simp_all [isBlank]
    · rintro _ rfl
      contradiction
  have hnext : (between false (column :: outer) output ⟨' ' :: c :: rest, place⟩).toNextToken =
      between false (column :: outer) output ⟨c :: rest, place.pass [' ']⟩ := by
    have hspace : skipGaps false false false (' ' :: c :: rest) place =
        skipGaps false false false (c :: rest) (place.pass [' ']) := by
      rw [skipGaps]
      · simp [isBreak, lineBreak?]
      · simp
    simp only [toNextToken, between, inFlow, List.isEmpty_nil, Bool.not_true, hspace, hgap]
  have hhead : ∀ other ∈ (column :: outer).head?, decide ((place.pass [' ']).column < other) = false := by
    intro other hother
    obtain rfl := Option.some.inj hother
    exact decide_eq_false (Nat.not_lt.mpr (Nat.le_succ_of_le hcolumn))
  exact ⟨output, _, rfl, rfl, Lexer.step?_eq hnext (closeWhile_of_head output hhead)⟩

/-- A word behind a name is a plain scalar. -/
theorem Behind.word {lexer : Lexer} {column : Nat} {outer : List Nat} {tokens : List Token}
    {word text : List Char} (hword : IsWord word) (htext : StartsLine text)
    (hindentation : (indentation text).length ≤ column)
    (h : lexer.Behind column outer tokens (' ' :: (word ++ '\n' :: text))) :
    ∃ next, lexer.Advances next ∧
      next.Before (column :: outer) (tokens ++ [.scalar .plain (String.ofList word)]) text := by
  obtain ⟨c, tail, hcons, hc⟩ := hword.starts
  have hname := isNameChar_of_isAlphanum hc
  have hgap : (isBlank c || isBreak c || c == '#' || c == '\uFEFF') = false := by
    rw [isBlank_of_isNameChar hname, isBreak_of_isNameChar hname, beq_eq_false_of_class hc rfl,
      beq_eq_false_of_class hname (by decide)]
    rfl
  rw [hcons, List.cons_append] at h
  -- The blank behind the name is a gap; the word then runs up to the line break.
  obtain ⟨output, place, rfl, hrest, hstep⟩ := h.step?_eq hgap
  have hread : (between false (column :: outer) output ⟨c :: (tail ++ '\n' :: text), place⟩).readToken? =
      some (between true (column :: outer) (output.push (.scalar .plain (String.ofList word)))
        ⟨unindented text, (place.pass word).nextText text⟩) := by
    have hline := Plain.read?_line place hword htext (Nat.lt_succ_of_le hindentation)
    rw [hcons, List.cons_append] at hline
    rw [readToken?_word rfl hc, plainScalar?]
    simp [noteCandidate?, between, inFlow, floor, emit, hline, ← hcons]
  rw [hread] at hstep
  refine ⟨_, ⟨hstep, rfl, ?_⟩, ?_⟩
  · have hlength : (unindented text).length ≤ text.length := (List.dropWhile_suffix _).length_le
    simp only [hrest, between, List.length_cons, List.length_append]
    omega
  · rw [← Output.toList_push]
    exact before_unindented htext (Nat.zero_add _)

/-- A text in double quotes behind a name is a quoted scalar. -/
theorem Behind.quoted {lexer : Lexer} {column : Nat} {outer : List Nat} {tokens : List Token}
    {quoted text : List Char} (hquoted : ∀ c ∈ quoted, Quoted.isVerbatim c = true) (htext : StartsLine text)
    (h : lexer.Behind column outer tokens (' ' :: '"' :: (quoted ++ '"' :: '\n' :: text))) :
    ∃ next, lexer.Advances next ∧
      next.Before (column :: outer) (tokens ++ [.scalar .quoted (String.ofList quoted)]) text := by
  obtain ⟨output, place, rfl, hrest, hstep⟩ := h.step?_eq rfl
  have hread : (between false (column :: outer) output
      ⟨'"' :: (quoted ++ '"' :: '\n' :: text), place⟩).readToken? =
        some (between false (column :: outer) (output.push (.scalar .quoted (String.ofList quoted)))
          ⟨'\n' :: text, place.pass ('"' :: (quoted ++ ['"']))⟩) := by
    rw [readToken?_quote rfl, quotedScalar?]
    simp [noteCandidate?, between, emit, Quoted.read?_verbatim _ hquoted]
  rw [hread] at hstep
  refine ⟨_, ⟨hstep, rfl, ?_⟩, ?_⟩
  · simp only [hrest, between, List.length_cons, List.length_append]
    omega
  · rw [← Output.toList_push]
    exact before_newline false _ _ _ htext

/-- Behind the last line everything is closed. -/
theorem Within.gives {lexer : Lexer} {tokens : List Token} (h : lexer.Within 0 [] tokens []) :
    lexer.Gives (tokens ++ [.blockEnd, .streamEnd]) := by
  obtain ⟨inner, emitted, ⟨⟨output, place, hnext, rfl, hcolumn⟩, _⟩, hinner, rfl⟩ := h.before
  have hcolumn : place.column = 0 := hcolumn
  have hdeeper : ∀ other ∈ inner, decide (place.column < other) = true := fun other hother =>
    decide_eq_true (hcolumn ▸ hinner other hother)
  obtain ⟨closed, hclose, hclosed⟩ := closeWhile_append [0] output hdeeper (by simp)
  have hstep := step?_eq hnext hclose
  have hend : (between true [0] closed ⟨unindented [], place⟩).readToken?.bind dropStale? =
      some { between true [] ((closed.push .blockEnd).push .streamEnd) ⟨[], place⟩ with ended := true } := by
    rfl
  rw [hend] at hstep
  have htokens := gives_of_ended hstep rfl
  simpa [between, Output.toList_push, hclosed] using htokens

/-- At the start of a text that starts a line nothing has been read. -/
theorem before_start {text : List Char} (h : StartsLine text) : (start text).Before [] [] text := by
  refine ⟨⟨.empty, Place.origin.pass (indentation text), ?_, rfl, Nat.zero_add _⟩, ?_⟩
  · have hgap := skipGaps_line true Place.origin h
    simp only [toNextToken, start, between, inFlow, List.isEmpty_nil, Bool.not_true, hgap]
  · exact (List.dropWhile_suffix _).length_le

end Lexer

end FlowMeter.Yaml
