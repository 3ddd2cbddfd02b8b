import FlowMeter.Proofs.SettingsValues

/-!
# Lines of settings

A line of a settings text is about one setting; the lines of logging stand in a section of their own. A line sets
its setting and no other one, so lines of distinct settings, read one by one, have no part in what the others tell.
-/

namespace FlowMeter

open Yaml

/-- Lines that set fields: the name of a field, the field and the value of a line, what a line tells of settings,
and whether a field is the same in two settings. -/
structure LineKind (S K L : Type) where
  name : K → String
  key : L → K
  value : L → Node
  Holds : L → S → Prop
  Same : K → S → S → Prop

namespace LineKind

variable {S K L : Type} {kind : LineKind S K L}

/-- The entry of a line. -/
def entry (kind : LineKind S K L) (line : L) : Node × Node :=
  (.scalar none none .plain (kind.name (kind.key line)), kind.value line)

/-- What lines tell holds of settings, and all other fields are as in the settings before them. -/
structure Tells (kind : LineKind S K L) (lines : List L) (start settings : S) : Prop where
  given : ∀ line ∈ lines, kind.Holds line settings
  other : ∀ key ∉ lines.map kind.key, kind.Same key settings start

/-- A field is told by a line, or it is as it was. -/
theorem Tells.told_or_same {lines : List L} {start settings : S} (h : kind.Tells lines start settings) (key : K) :
    (∃ line, kind.key line = key ∧ kind.Holds line settings) ∨ kind.Same key settings start := by
  by_cases hkey : key ∈ lines.map kind.key
  · obtain ⟨line, hline, rfl⟩ := List.mem_map.mp hkey
    exact .inl ⟨line, rfl, h.given line hline⟩
  · exact .inr (h.other key hkey)

/-- The order of lines makes no difference to what they tell. -/
theorem Tells.of_perm {lines other : List L} {start settings : S} (h : kind.Tells other start settings)
    (hperm : other.Perm lines) : kind.Tells lines start settings where
  given line hline := h.given line (hperm.mem_iff.mpr hline)
  other key hkey := h.other key fun hmem => hkey ((hperm.map kind.key).mem_iff.mp hmem)

/-- Lines are set one by one: a line sets its field as it tells, and no other one. -/
structure Lawful (kind : LineKind S K L) (known : List String)
    (set : String → String → S → Node → Except Settings.Error S) : Prop where
  name_injective : Function.Injective kind.name
  mem_known : ∀ key, kind.name key ∈ known
  same_refl : ∀ key settings, kind.Same key settings settings
  same_trans : ∀ key a b c, kind.Same key a b → kind.Same key b c → kind.Same key a c
  holds_of_same : ∀ line a b, kind.Holds line b → kind.Same (kind.key line) a b → kind.Holds line a
  set_ok : ∀ line settings, ∃ next,
    set (kind.name (kind.key line)) (kind.name (kind.key line)) settings (kind.value line) = .ok next ∧
      kind.Holds line next ∧ ∀ key ≠ kind.key line, kind.Same key next settings

/-- Lines of distinct fields are read, and the settings are what they tell then. -/
theorem Lawful.readFields {known : List String} {set : String → String → S → Node → Except Settings.Error S}
    (h : kind.Lawful known set) (root : Node) (path : Settings.Path) (seen : List String)
    (start : S) {lines : List L} (hdistinct : (lines.map kind.key).Nodup)
    (hseen : ∀ line ∈ lines, kind.name (kind.key line) ∉ seen) :
    ∃ settings, Settings.readFields root path known set seen start (lines.map kind.entry) = .ok settings ∧
      kind.Tells lines start settings := by
  -- Every line adds a name to those seen and moves the settings, so both are general.
  induction lines generalizing seen start with
  | nil => exact ⟨start, rfl, ⟨List.forall_mem_nil _, fun key _ => h.same_refl key start⟩⟩
  | cons line rest ih =>
    rw [List.map_cons, List.nodup_cons] at hdistinct
    obtain ⟨hnew, hrest⟩ := hdistinct
    obtain ⟨between, hset, hline, hframe⟩ := h.set_ok line start
    have hlater : ∀ other ∈ rest,
        kind.name (kind.key other) ∉ kind.name (kind.key line) :: seen := by
      intro other hother hmem
      rcases List.mem_cons.mp hmem with hname | hold
      · exact hnew (h.name_injective hname ▸ List.mem_map_of_mem hother)
      · exact hseen other (List.mem_cons_of_mem _ hother) hold
    obtain ⟨settings, hread, htells⟩ := ih _ between hrest hlater
    refine ⟨settings, ?_, ?_⟩
    · have hknown := h.mem_known (kind.key line)
      have hseen := hseen line List.mem_cons_self
      rw [List.map_cons, entry, Settings.readFields]
      simp [Settings.readName, Settings.follow, Settings.readText, hknown, hseen, hset, hread, bind,
        Except.bind, pure, Except.pure]
    · constructor
      · rw [List.forall_mem_cons]
        refine ⟨?_, htells.given⟩
        exact h.holds_of_same line settings between hline (htells.other _ hnew)
      · intro key hkey
        obtain ⟨hne, hother⟩ := not_or.mp (fun hmem => hkey (List.mem_cons.mpr hmem))
        exact h.same_trans key settings between start (htells.other key hother) (hframe key hne)

/-- Lines that determine settings: a line leaves no choice of its field, and the fields are all that there is. -/
structure Determines (kind : LineKind S K L) : Prop where
  same_of_holds : ∀ line a b, kind.Holds line a → kind.Holds line b → kind.Same (kind.key line) a b
  same_of_same : ∀ key a b c, kind.Same key a c → kind.Same key b c → kind.Same key a b
  ext : ∀ a b, (∀ key, kind.Same key a b) → a = b

/-- No two settings are told by the same lines. -/
theorem Determines.eq (h : kind.Determines) {lines : List L} {start a b : S}
    (ha : kind.Tells lines start a) (hb : kind.Tells lines start b) : a = b := by
  apply h.ext
  intro key
  by_cases hkey : key ∈ lines.map kind.key
  · obtain ⟨line, hline, rfl⟩ := List.mem_map.mp hkey
    exact h.same_of_holds line a b (ha.given line hline) (hb.given line hline)
  · exact h.same_of_same key a b start (ha.other key hkey) (hb.other key hkey)

end LineKind

/-- A short word of letters, digits, dashes and underscores is a name. -/
theorem Yaml.isName_of_chars {c : Char} {rest : List Char} (hc : c.isAlphanum = true)
    (hchars : (c :: rest).all isNameChar = true) (hshort : octetCount (c :: rest) ≤ 1024) :
    IsName (c :: rest) where
  starts := ⟨c, rest, rfl, hc⟩
  chars := List.all_eq_true.mp hchars
  short := hshort

/-- A level as a user may write it: in any mix of letter case. -/
structure LevelWord where
  text : String
  isLevel : text.toList.map Char.toLower ∈
    ["off", "error", "warn", "info", "debug", "trace"].map String.toList

/-- A path as a user may write it in quotes. -/
structure LogPath where
  text : String
  ne_nil : text.toList ≠ []
  chars : ∀ c ∈ text.toList, c.isAlphanum = true ∨ c ∈ ['/', '.', '-', '_']

/-- The settings of logging. -/
inductive LogKey where
  | level
  | file
  | retention
deriving DecidableEq, Repr

/-- A line of the section of logging. -/
inductive LogLine where
  | level (word : LevelWord)
  | file (path : LogPath)
  | retention (days : UInt32)

/-- A letter in upper case has a letter in lower case; other characters are their own. -/
theorem isAlphanum_of_toLower {c : Char} (h : c.toLower.isAlphanum = true) : c.isAlphanum = true := by
  by_cases hupper : c.isUpper = true
  · change (c.isUpper || c.isLower || c.isDigit) = true
    rw [hupper]
    rfl
  · have hsame : c.toLower = c := dif_neg (fun hrange => hupper (decide_eq_true hrange))
    rwa [hsame] at h

/-- A level is a word, whatever the case of its letters. -/
theorem LevelWord.isWord (word : LevelWord) : IsWord word.text.toList := by
  obtain ⟨text, hlevel⟩ := word
  have hletters : (["off", "error", "warn", "info", "debug", "trace"].map String.toList).all
      (fun lower => lower ≠ [] && lower.all Char.isAlphanum) = true := by decide
  have hlower := List.all_eq_true.mp hletters _ hlevel
  rw [Bool.and_eq_true, decide_eq_true_eq, List.all_eq_true] at hlower
  obtain ⟨hne, hlower⟩ := hlower
  have halphanum : ∀ c ∈ text.toList, c.isAlphanum = true := by
    intro c hc
    exact isAlphanum_of_toLower (hlower _ (List.mem_map_of_mem hc))
  have hne : text.toList ≠ [] := fun hnil => hne (by rw [hnil, List.map_nil])
  obtain ⟨c, rest, hcons⟩ := List.exists_cons_of_ne_nil hne
  refine ⟨⟨c, rest, hcons, halphanum c (hcons ▸ List.mem_cons_self)⟩, ?_⟩
  intro other hother
  exact isNameChar_of_isAlphanum (halphanum other hother)

/-- A level is known, whatever the case of its letters. -/
theorem LevelWord.levelKnown (word : LevelWord) {log : LogSettings} (h : log.level = word.text) :
    log.levelKnown = true := by
  obtain ⟨level, hlevel, hlower⟩ := List.mem_map.mp word.isLevel
  rw [LogSettings.levelKnown, h, ← hlower, String.ofList_toList]
  exact List.contains_iff_mem.mpr hlevel

/-- A path stands for itself in quotes. -/
theorem LogPath.isVerbatim (path : LogPath) :
    ∀ c ∈ path.text.toList, Quoted.isVerbatim c = true ∧ isAllowed c = true := by
  intro c hc
  rcases path.chars c hc with hc | hc
  · have hname := isNameChar_of_isAlphanum hc
    refine ⟨?_, isAllowed_of_isNameChar hname⟩
    rw [Quoted.isVerbatim, isBlank_of_isNameChar hname, isBreak_of_isNameChar hname,
      beq_eq_false_of_class hc rfl, beq_eq_false_of_class hc rfl]
    rfl
  · have hmarks : ['/', '.', '-', '_'].all (fun mark => Quoted.isVerbatim mark && isAllowed mark) = true := by
      decide
    exact Bool.and_eq_true_iff.mp (List.all_eq_true.mp hmarks c hc)

namespace LogKey

/-- The name of a setting of logging. -/
def name : LogKey → String
  | level => "level"
  | file => "file"
  | retention => "retention"

/-- Whether a setting of logging is the same in two of them. -/
def Same : LogKey → LogSettings → LogSettings → Prop
  | level, a, b => a.level = b.level
  | file, a, b => a.file = b.file
  | retention, a, b => a.retention = b.retention

/-- The key of a setting of the log is a name. -/
theorem isName (key : LogKey) : IsName key.name.toList := by
  cases key <;> exact isName_of_chars (by decide) (by decide) (by decide)

end LogKey

namespace LogLine

/-- The setting that a line is about. -/
def key : LogLine → LogKey
  | level _ => .level
  | file _ => .file
  | retention _ => .retention

/-- The value of a line: a level or a number of days without quotes, a path in quotes. -/
def scalar : LogLine → LineScalar
  | level word => .word word.text.toList word.isWord
  | file path => .quoted path.text.toList path.isVerbatim
  | retention days => .word (Nat.toDigits 10 days.toNat) (isWord_toDigits days.toNat)

/-- What a line tells of the settings of logging. -/
def Holds : LogLine → LogSettings → Prop
  | level word, log => log.level = word.text
  | file path, log => log.file = some path.text
  | retention days, log => log.retention = days

/-- A line as it is written, indented by two. -/
def text : LogLine → String
  | level word => "  level: " ++ word.text ++ "\n"
  | file path => "  file: \"" ++ path.text ++ "\"\n"
  | retention days => "  retention: " ++ toString days.toNat ++ "\n"

/-- A line as a field of its section. -/
def field (line : LogLine) : Field :=
  ⟨line.key.name.toList, line.key.isName, line.scalar⟩

/-- A line of the log section is its field, indented by two. -/
theorem toList_text (line : LogLine) : line.text.toList = line.field.chars 2 := by
  cases line with
  | level word =>
    change ("  level: " ++ word.text ++ "\n").toList = _
    simp [field, Field.chars, key, LogKey.name, scalar, LineScalar.chars, List.replicate_succ]
  | file path =>
    change ("  file: \"" ++ path.text ++ "\"\n").toList = _
    simp [field, Field.chars, key, LogKey.name, scalar, LineScalar.chars, List.replicate_succ]
  | retention days =>
    change ("  retention: " ++ toString days.toNat ++ "\n").toList = _
    simp [field, Field.chars, key, LogKey.name, scalar, LineScalar.chars, List.replicate_succ]

/-- Lines of logging set the settings of logging. -/
def kind : LineKind LogSettings LogKey LogLine where
  name := LogKey.name
  key := key
  value line := line.scalar.node
  Holds := Holds
  Same := LogKey.Same

/-- The field of a line is read as the entry of the line. -/
theorem entry_field (line : LogLine) : line.field.entry = kind.entry line := by
  simp [Field.entry, field, Node.word, LineKind.entry, kind]

/-- The settings of logging are set line by line. -/
theorem lawful (root : Node) (path : Settings.Path) :
    kind.Lawful ["level", "file", "retention"] (Settings.setLog root path) where
  name_injective := by
    intro a b
    cases a <;> cases b <;> simp [kind, LogKey.name]
  mem_known := by
    intro key
    cases key <;> simp [kind, LogKey.name]
  same_refl := by
    intro key settings
    cases key <;> rfl
  same_trans := by
    intro key a b c hab hbc
    cases key <;> exact Eq.trans hab hbc
  holds_of_same := by
    intro line a b hline hsame
    cases line <;> exact Eq.trans hsame hline
  set_ok := by
    intro line log
    cases line with
    | level word =>
      refine ⟨_, Settings.setLog_level root path log word.text, rfl, ?_⟩
      intro key hkey
      cases key <;> first | contradiction | rfl
    | file file =>
      refine ⟨_, Settings.setLog_file root path log file.text, rfl, ?_⟩
      intro key hkey
      cases key <;> first | contradiction | rfl
    | retention days =>
      refine ⟨_, Settings.setLog_retention root path log days, rfl, ?_⟩
      intro key hkey
      cases key <;> first | contradiction | rfl

/-- Lines of logging determine the settings of logging. -/
theorem determines : kind.Determines where
  same_of_holds := by
    intro line a b ha hb
    cases line <;> exact Eq.trans ha (Eq.symm hb)
  same_of_same := by
    intro key a b c hac hbc
    cases key <;> exact Eq.trans hac (Eq.symm hbc)
  ext := by
    rintro ⟨⟩ ⟨⟩ hsame
    obtain rfl := hsame .level
    obtain rfl := hsame .file
    obtain rfl := hsame .retention
    rfl

end LogLine

/-- Lengths of time of the same seconds and nanoseconds are the same. -/
theorem Duration.eq_of_parts {a b : Duration} (hseconds : a.seconds = b.seconds) (hnanos : a.nanos = b.nanos) :
    a = b := by
  cases a
  cases b
  simp_all

/-- The section of logging: some lines, at most one for each setting. -/
structure LogSection where
  lines : List LogLine
  lines_ne_nil : lines ≠ []
  distinct : (lines.map LogLine.key).Nodup

/-- The settings. -/
inductive SettingsKey where
  | aggregation
  | withLocalPort
  | flushInterval
  | log
deriving DecidableEq, Repr

/-- A line of a settings text, or its section of logging. The flush interval is told in seconds, at least one. -/
inductive SettingsLine where
  | aggregation (way : Aggregation)
  | withLocalPort (wanted : Bool)
  | flushInterval (seconds : UInt64) (pos : 1 ≤ seconds.toNat)
  | log (group : LogSection)

namespace SettingsKey

/-- The name of a setting. -/
def name : SettingsKey → String
  | aggregation => "aggregation"
  | withLocalPort => "with-local-port"
  | flushInterval => "flush-interval"
  | log => "log"

/-- Whether a setting is the same in two of them. -/
def Same : SettingsKey → Settings → Settings → Prop
  | aggregation, a, b => a.aggregation = b.aggregation
  | withLocalPort, a, b => a.withLocalPort = b.withLocalPort
  | flushInterval, a, b => a.flushInterval = b.flushInterval
  | log, a, b => a.log = b.log

/-- The key of a setting is a name. -/
theorem isName (key : SettingsKey) : IsName key.name.toList := by
  cases key <;> exact isName_of_chars (by decide) (by decide) (by decide)

end SettingsKey

namespace SettingsLine

/-- The setting that a line is about. -/
def key : SettingsLine → SettingsKey
  | aggregation _ => .aggregation
  | withLocalPort _ => .withLocalPort
  | flushInterval _ _ => .flushInterval
  | log _ => .log

/-- What a line tells of settings: its value, or of the settings of logging what the lines of the section tell,
and the defaults of the others. -/
def Holds : SettingsLine → Settings → Prop
  | aggregation way, settings => settings.aggregation = way
  | withLocalPort wanted, settings => settings.withLocalPort = wanted
  | flushInterval seconds _, settings =>
    settings.flushInterval.seconds = seconds.toNat ∧ settings.flushInterval.nanos = 0
  | log group, settings => LogLine.kind.Tells group.lines {} settings.log

/-- A line as it is written; a section has its lines below its name. -/
def text : SettingsLine → String
  | aggregation way => "aggregation: " ++ way.word ++ "\n"
  | withLocalPort true => "with-local-port: true\n"
  | withLocalPort false => "with-local-port: false\n"
  | flushInterval seconds _ => "flush-interval: " ++ toString seconds.toNat ++ "s\n"
  | log group => "log:\n" ++ String.join (group.lines.map LogLine.text)

/-- A way of aggregation is written as a word. -/
theorem isWord_word (aggregation : Aggregation) : IsWord aggregation.word.toList := by
  cases aggregation <;> exact (isName_of_chars (by decide) (by decide) (by decide)).toIsWord

/-- A truth value is written as a word. -/
theorem isWord_toString (value : Bool) : IsWord (toString value).toList := by
  cases value <;> exact (isName_of_chars (by decide) (by decide) (by decide)).toIsWord

/-- A number of seconds is written as a word. -/
theorem isWord_seconds (seconds : UInt64) : IsWord (Nat.toDigits 10 seconds.toNat ++ ['s']) :=
  isWord_toDigits_append seconds.toNat (List.forall_mem_singleton.mpr rfl)

/-- A line as a part of the mapping of a settings text. -/
def part : SettingsLine → Part
  | aggregation way =>
    .single ⟨SettingsKey.aggregation.name.toList, SettingsKey.aggregation.isName,
      .word way.word.toList (isWord_word way)⟩
  | withLocalPort wanted =>
    .single ⟨SettingsKey.withLocalPort.name.toList, SettingsKey.withLocalPort.isName,
      .word (toString wanted).toList (isWord_toString wanted)⟩
  | flushInterval seconds _ =>
    .single ⟨SettingsKey.flushInterval.name.toList, SettingsKey.flushInterval.isName,
      .word (Nat.toDigits 10 seconds.toNat ++ ['s']) (isWord_seconds seconds)⟩
  | log group =>
    .nested ⟨SettingsKey.log.name.toList, SettingsKey.log.isName, group.lines.map LogLine.field,
      fun hnil => group.lines_ne_nil (List.map_eq_nil_iff.mp hnil)⟩

/-- A line of a settings text is its part of the document. -/
theorem toList_text (line : SettingsLine) : line.text.toList = line.part.chars := by
  cases line with
  | aggregation way =>
    change ("aggregation: " ++ way.word ++ "\n").toList = _
    simp [part, Part.chars, Field.chars, SettingsKey.name, LineScalar.chars]
  | withLocalPort wanted => cases wanted <;> rfl
  | flushInterval seconds hpos =>
    change ("flush-interval: " ++ toString seconds.toNat ++ "s\n").toList = _
    simp [part, Part.chars, Field.chars, SettingsKey.name, LineScalar.chars]
  | log group =>
    change ("log:\n" ++ String.join (group.lines.map LogLine.text)).toList = _
    simp [part, Part.chars, SettingsKey.name, List.flatMap_map, LogLine.toList_text]

/-- Lines of a settings text set the settings. -/
def kind : LineKind Settings SettingsKey SettingsLine where
  name := SettingsKey.name
  key := key
  value line := line.part.entry.2
  Holds := Holds
  Same := SettingsKey.Same

/-- The part of a line is read as the entry of the line. -/
theorem entry_part (line : SettingsLine) : line.part.entry = kind.entry line := by
  cases line <;> simp [part, Part.entry, Field.entry, Node.word, LineKind.entry, kind, key]

/-- The settings are set line by line. -/
theorem lawful (root : Node) :
    kind.Lawful ["aggregation", "with-local-port", "flush-interval", "log"] (Settings.setField root) where
  name_injective := by
    intro a b
    cases a <;> cases b <;> simp [kind, SettingsKey.name]
  mem_known := by
    intro key
    cases key <;> simp [kind, SettingsKey.name]
  same_refl := by
    intro key settings
    cases key <;> rfl
  same_trans := by
    intro key a b c hab hbc
    cases key <;> exact Eq.trans hab hbc
  holds_of_same := by
    intro line a b hline hsame
    cases line with
    | aggregation way => exact Eq.trans hsame hline
    | withLocalPort wanted => exact Eq.trans hsame hline
    | flushInterval seconds hpos =>
      have hsame : a.flushInterval = b.flushInterval := hsame
      change a.flushInterval.seconds = seconds.toNat ∧ a.flushInterval.nanos = 0
      rw [hsame]
      exact hline
    | log group =>
      have hsame : a.log = b.log := hsame
      change LogLine.kind.Tells group.lines {} a.log
      rw [hsame]
      exact hline
  set_ok := by
    intro line settings
    cases line with
    | aggregation way =>
      refine ⟨_, Settings.setField_aggregation root settings way, rfl, ?_⟩
      intro key hkey
      cases key <;> first | contradiction | rfl
    | withLocalPort wanted =>
      refine ⟨_, Settings.setField_withLocalPort root settings wanted, rfl, ?_⟩
      intro key hkey
      cases key <;> first | contradiction | rfl
    | flushInterval seconds hpos =>
      obtain ⟨duration, hset, hduration⟩ := Settings.setField_flushInterval root settings seconds
      refine ⟨_, hset, hduration, ?_⟩
      intro key hkey
      cases key <;> first | contradiction | rfl
    | log group =>
      -- The log section is read from its defaults, whatever the settings held.
      obtain ⟨log, hread, htells⟩ :=
        (LogLine.lawful root ["log"]).readFields root ["log"] [] {} group.distinct (by simp)
      refine ⟨_, Settings.setField_log root settings ?_, htells, ?_⟩
      · rw [← hread, List.map_map]
        congr 1
        exact List.map_congr_left fun line _ => line.entry_field
      · intro key hkey
        cases key <;> first | contradiction | rfl

/-- Lines of a settings text determine the settings. -/
theorem determines : kind.Determines where
  same_of_holds := by
    intro line a b ha hb
    cases line with
    | aggregation way => exact Eq.trans ha (Eq.symm hb)
    | withLocalPort wanted => exact Eq.trans ha (Eq.symm hb)
    | flushInterval seconds hpos =>
      exact Duration.eq_of_parts (ha.1.trans hb.1.symm) (ha.2.trans hb.2.symm)
    | log group => exact LogLine.determines.eq ha hb
  same_of_same := by
    intro key a b c hac hbc
    cases key <;> exact Eq.trans hac (Eq.symm hbc)
  ext := by
    rintro ⟨⟩ ⟨⟩ hsame
    obtain rfl := hsame .aggregation
    obtain rfl := hsame .withLocalPort
    obtain rfl := hsame .flushInterval
    obtain rfl := hsame .log
    rfl

end SettingsLine

end FlowMeter
