import FlowMeter.Text
import FlowMeter.Yaml.Token.Lexer

/-!
# Scalars of one line

A word of letters, digits, dashes and underscores needs no quotes. It ends at the colon that makes it a key, or at
the end of its line, where the indentation of the next line is passed too. A text in double quotes that needs no
escape is read as it stands.
-/

namespace FlowMeter.Yaml

/-- A character of a class differs from one that is not of the class. -/
theorem beq_eq_false_of_class {p : Char → Bool} {c other : Char} (hc : p c = true)
    (hother : p other = false) : (c == other) = false := by
  rw [beq_eq_false_iff_ne]
  rintro rfl
  rw [hc] at hother
  contradiction

/-- The characters of names are no blanks. -/
theorem isBlank_of_isNameChar {c : Char} (h : isNameChar c = true) : isBlank c = false := by
  rw [isBlank, beq_eq_false_of_class h rfl, beq_eq_false_of_class h rfl]
  rfl

/-- The characters of names leave no line break. -/
theorem lineBreak?_of_isNameChar {c : Char} (h : isNameChar c = true) : lineBreak? c = none := by
  have hne {other : Char} (hother : isNameChar other = false) := beq_eq_false_of_class h hother
  rw [lineBreak?, hne rfl, hne rfl, hne (by decide), hne (by decide), hne (by decide)]
  rfl

/-- The characters of names do not break a line. -/
theorem isBreak_of_isNameChar {c : Char} (h : isNameChar c = true) : isBreak c = false := by
  rw [isBreak, lineBreak?_of_isNameChar h]
  rfl

/-- Letters and digits are characters of names. -/
theorem isNameChar_of_isAlphanum {c : Char} (h : c.isAlphanum = true) : isNameChar c = true := by
  rw [isNameChar, h]
  rfl

/-- Characters of names are printable characters of ASCII. -/
theorem toNat_of_isNameChar {c : Char} (h : isNameChar c = true) : 0x2D ≤ c.toNat ∧ c.toNat ≤ 0x7A := by
  change (decide ('A'.val ≤ c.val ∧ c.val ≤ 'Z'.val) || (decide ('a'.val ≤ c.val) && decide (c.val ≤ 'z'.val)) ||
    (decide ('0'.val ≤ c.val) && decide (c.val ≤ '9'.val)) || c == '_' || c == '-') = true at h
  simp only [Bool.or_eq_true, Bool.and_eq_true, decide_eq_true_eq, beq_iff_eq, UInt32.le_iff_toNat_le] at h
  rcases h with (hletter | rfl) | rfl
  · simp only [Char.reduceVal, UInt32.reduceToNat, Char.toNat_val] at hletter
    omega
  · decide
  · decide

/-- The characters of names may stand in a text. -/
theorem isAllowed_of_isNameChar {c : Char} (h : isNameChar c = true) : isAllowed c = true := by
  have hprintable : 0x20 ≤ c.toNat ∧ c.toNat ≤ 0x7E := by
    have hbounds := toNat_of_isNameChar h
    omega
  simp [isAllowed, hprintable]

/-- The characters of names are no white space. -/
theorem isWhite_of_isNameChar {c : Char} (h : isNameChar c = true) : Text.isWhite c = false := by
  have hbounds := toNat_of_isNameChar h
  simp only [Text.isWhite, Bool.or_eq_false_iff, Bool.and_eq_false_iff, decide_eq_false_iff_not,
    beq_eq_false_iff_ne]
  omega

/-- A word: characters of names, of which the first is a letter or a digit. -/
structure IsWord (word : List Char) : Prop where
  starts : ∃ c rest, word = c :: rest ∧ c.isAlphanum = true
  chars : ∀ c ∈ word, isNameChar c = true

/-- A name: a word that is short enough for a key. -/
structure IsName (name : List Char) : Prop extends IsWord name where
  short : octetCount name ≤ 1024

/-- The spaces at the front of a text. -/
def indentation (text : List Char) : List Char :=
  text.takeWhile (· == ' ')

/-- A text behind the spaces at its front. -/
def unindented (text : List Char) : List Char :=
  text.dropWhile (· == ' ')

/-- A text of which nothing is left behind its indentation, or a letter or a digit comes next. -/
def StartsLine (text : List Char) : Prop :=
  ∀ c ∈ (unindented text).head?, c.isAlphanum = true

/-- The empty text may start a line. -/
theorem startsLine_nil : StartsLine [] := nofun

/-- A space in front is part of the indentation. -/
theorem indentation_space (text : List Char) : indentation (' ' :: text) = ' ' :: indentation text := rfl

/-- A space in front is not part of what is indented. -/
theorem unindented_space (text : List Char) : unindented (' ' :: text) = unindented text := rfl

/-- Behind its indentation a text has none. -/
theorem indentation_unindented (text : List Char) :
    indentation (unindented text) = [] ∧ unindented (unindented text) = unindented text := by
  induction text with
  | nil => exact ⟨rfl, rfl⟩
  | cons c rest ih =>
    by_cases hc : c = ' '
    · rw [hc, unindented_space]
      exact ih
    · simp [indentation, unindented, hc]

/-- Spaces in front of a word are its indentation. -/
theorem indentation_replicate_append (count : Nat) {word : List Char} (rest : List Char) (h : IsWord word) :
    indentation (List.replicate count ' ' ++ (word ++ rest)) = List.replicate count ' ' ∧
      unindented (List.replicate count ' ' ++ (word ++ rest)) = word ++ rest := by
  obtain ⟨c, tail, rfl, hc⟩ := h.starts
  have hspace : (c == ' ') = false := beq_eq_false_of_class hc rfl
  simp [indentation, unindented, hspace]

/-- The place behind the line break and the indentation in front of a text. -/
def Place.nextText (place : Place) (text : List Char) : Place :=
  (place.nextLine ['\n']).pass (indentation text)

namespace Gap

/-- A gap across lines is read through the indentation of the last one. -/
theorem read?_indentation {floor : Nat} {text : List Char} (first more : List Char) (place : Place)
    (h : StartsLine text) :
    (breaks first more).read? floor text place =
      some (breaks first more, ⟨unindented text, place.pass (indentation text)⟩) := by
  induction text generalizing place with
  | nil => rfl
  | cons c rest ih =>
    by_cases hc : c = ' '
    · subst hc
      have hstep : (breaks first more).read? floor (' ' :: rest) place =
          (breaks first more).read? floor rest (place.pass [' ']) := by
        rw [read?]
        · simp [lineBreak?, isBlank, addBlank]
        · nofun
      rw [hstep, ih (place.pass [' ']) h, indentation_space, ← Place.pass_append]
      rfl
    · have hunindented : unindented (c :: rest) = c :: rest := by simp [unindented, hc]
      have hindentation : indentation (c :: rest) = [] := by simp [indentation, hc]
      rw [StartsLine, hunindented] at h
      have hname := isNameChar_of_isAlphanum (h c rfl)
      rw [hunindented, hindentation, Place.pass_nil, read?]
      · rw [lineBreak?_of_isNameChar hname, isBlank_of_isNameChar hname]
        rfl
      · rintro _ rfl
        contradiction

/-- The gap at the end of a line reaches to the text of the next one. -/
theorem read?_newline {floor : Nat} {text : List Char} (place : Place) (h : StartsLine text) :
    Gap.none.read? floor ('\n' :: text) place =
      some (breaks ['\n'] [], ⟨unindented text, place.nextText text⟩) := by
  rw [read?]
  · exact read?_indentation ['\n'] [] (place.nextLine ['\n']) h
  · nofun

/-- There is no gap where a colon comes next. -/
theorem read?_colon (floor : Nat) (gap : Gap) (rest : List Char) (place : Place) :
    gap.read? floor (':' :: rest) place = some (gap, ⟨':' :: rest, place⟩) := by
  rw [read?]
  · rfl
  · nofun

end Gap

namespace Plain

/-- A word is split off what ends it. -/
theorem word?_word {word rest : List Char} (hword : ∀ c ∈ word, isNameChar c = true)
    (hrest : word? false rest = some ([], rest)) : word? false (word ++ rest) = some (word, rest) := by
  induction word with
  | nil => exact hrest
  | cons c tail ih =>
    obtain ⟨hc, htail⟩ := List.forall_mem_cons.mp hword
    have hcolon : (c == ':') = false := beq_eq_false_of_class hc rfl
    rw [List.cons_append, word?, isBlank_of_isNameChar hc, isBreak_of_isNameChar hc, hcolon, ih htail]
    rfl

/-- A colon in front of a gap ends a word, and so does a line break. -/
theorem word?_colon {rest : List Char} (h : atGap rest = true) :
    word? false (':' :: rest) = some ([], ':' :: rest) := by
  simp [word?, h]

/-- A word ends at a line break. -/
theorem word?_newline (rest : List Char) : word? false ('\n' :: rest) = some ([], '\n' :: rest) := rfl

/-- No word follows where a colon in front of a gap comes next. -/
theorem words?_colon {floor : Nat} {rest : List Char} (bound : List Char) (gap : Gap) (place : Place)
    (h : atGap rest = true) :
    words? false floor bound gap ⟨':' :: rest, place⟩ =
      some ([], gap.crossesLine, ⟨':' :: rest, place⟩) := by
  cases bound with
  | nil => rfl
  | cons b bound =>
    rw [words?, word?_colon h]
    simp [atDocumentMark]

/-- A text that starts with a word holds no document marker there, and no comment. -/
theorem words?_word {floor : Nat} {word rest bound : List Char} {place : Place} {next : Gap} {after : Cursor}
    (hbound : bound ≠ []) (hword : IsWord word) (hrest : word? false rest = some ([], rest))
    (hgap : Gap.none.read? floor rest (place.pass word) = some (next, after)) :
    words? false floor bound .none ⟨word ++ rest, place⟩ =
      if after.place.column < floor then some (word, next.crossesLine, after)
      else (words? false floor bound.tail next after).map fun last => (word ++ last.1, last.2) := by
  obtain ⟨b, bound, rfl⟩ := List.exists_cons_of_ne_nil hbound
  obtain ⟨c, tail, rfl, hc⟩ := hword.starts
  have hne {other : Char} (hother : other.isAlphanum = false) := beq_eq_false_of_class hc hother
  have hmark : atDocumentMark (c :: (tail ++ rest)) = false := by
    unfold atDocumentMark
    split <;> simp_all
  have hcomment : c ≠ '#' := beq_eq_false_iff_ne.mp (hne rfl)
  have htext : Gap.none.text = [] := rfl
  rw [words?, word?_word hword.chars hrest]
  simp [hmark, hcomment, hgap, htext]

/-- A word in front of a colon is a scalar that ends there. -/
theorem read?_key {floor : Nat} {word rest : List Char} (place : Place) (hword : IsWord word)
    (hrest : atGap rest = true) :
    read? false floor ⟨word ++ ':' :: rest, place⟩ =
      some (word, false, ⟨':' :: rest, place.pass word⟩) := by
  rw [read?, words?_word (by simp) hword (word?_colon hrest) (Gap.read?_colon ..)]
  simp only [words?_colon _ _ _ hrest, Option.map_some, List.append_nil, ite_self]
  rfl

/-- A word at the end of a line is a scalar, and the next line starts where it is indented less than the
scalar has to be. -/
theorem read?_line {floor : Nat} {word text : List Char} (place : Place) (hword : IsWord word)
    (htext : StartsLine text) (hindentation : (indentation text).length < floor) :
    read? false floor ⟨word ++ '\n' :: text, place⟩ =
      some (word, true, ⟨unindented text, (place.pass word).nextText text⟩) := by
  have hcolumn : ((place.pass word).nextText text).column < floor := by
    rw [Place.nextText, Place.pass, Place.nextLine, Nat.zero_add]
    exact hindentation
  rw [read?, words?_word (by simp) hword (word?_newline text) (Gap.read?_newline _ htext), if_pos hcolumn]
  rfl

end Plain

namespace Quoted

/-- Characters that stand for themselves in double quotes, and do not end a word there. -/
def isVerbatim (c : Char) : Bool :=
  !(isBlank c || isBreak c || c == '"' || c == '\\')

/-- Characters that stand for themselves are split off what ends the quotes. -/
theorem doubleWord?_verbatim {text rest : List Char} (place : Place)
    (h : ∀ c ∈ text, isVerbatim c = true) :
    doubleWord? 0 0 (text ++ '"' :: rest) place = some ⟨text, false, ⟨'"' :: rest, place.pass text⟩⟩ := by
  induction text generalizing place with
  | nil =>
    rw [List.nil_append, doubleWord?]
    · rfl
    · nofun
  | cons c tail ih =>
    obtain ⟨hc, htail⟩ := List.forall_mem_cons.mp h
    have hends : (isBlank c || isBreak c || c == '"') = false ∧ (c == '\\') = false := by
      simpa [isVerbatim, and_assoc] using hc
    rw [List.cons_append, doubleWord?, if_neg (ne_true_of_eq_false hends.1),
      if_neg (ne_true_of_eq_false hends.2), ih _ htail]
    · simp only [Option.map_some, Piece.cons, ← Place.pass_append]
      rfl
    · rintro _ _ rfl _
      exact absurd hends.2 (by decide)

/-- A text in double quotes that stands for itself is read up to the closing quote. -/
theorem read?_verbatim {text rest : List Char} (place : Place)
    (h : ∀ c ∈ text, isVerbatim c = true) :
    read? .double ⟨'"' :: (text ++ '"' :: rest), place⟩ =
      some (text, ⟨rest, place.pass ('"' :: (text ++ ['"']))⟩) := by
  have hcolumn : (place.pass ['"']).column ≠ 0 := by simp [Place.pass]
  have hplace : ((place.pass ['"']).pass text).pass ['"'] = place.pass ('"' :: (text ++ ['"'])) := by
    rw [← Place.pass_append, ← Place.pass_append]
    rfl
  rw [read?, words?]
  simp only [Cursor.skip, List.drop_succ_cons, List.drop_zero, List.take_succ_cons, List.take_zero,
    word?, doubleWord?_verbatim _ h, hcolumn, hplace, Quote.char]
  simp

end Quoted

end FlowMeter.Yaml
