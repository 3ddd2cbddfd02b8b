import FlowMeter.Proofs.SettingsLines

/-!
# Settings are what their lines tell

A settings text is made of lines, at most one for each setting, in any order. Loading it gives every setting that
a line tells its value, and leaves every other one at its default: the checks behind the reading refuse none of
these texts, and the order of the lines makes no difference.
-/

namespace FlowMeter

open Yaml

/-- The text of lines. -/
def settingsText (lines : List SettingsLine) : String :=
  String.join (lines.map SettingsLine.text)

/-- A settings text is the parts of its lines, one after the other. -/
theorem toList_settingsText (lines : List SettingsLine) :
    (settingsText lines).toList = (lines.map SettingsLine.part).flatMap Part.chars := by
  rw [settingsText, String.toList_join, List.flatMap_map, List.flatMap_map]
  simp only [SettingsLine.toList_text]

/-- A text of lines is not blank. -/
theorem all_isWhite_settingsText {lines : List SettingsLine} (h : lines ≠ []) :
    (settingsText lines).toList.all Text.isWhite = false := by
  obtain ⟨first, rest, rfl⟩ := List.exists_cons_of_ne_nil h
  have hname : ∃ tail, (settingsText (first :: rest)).toList = first.key.name.toList ++ tail := by
    rw [toList_settingsText, List.map_cons, List.flatMap_cons]
    cases first <;> simp [SettingsLine.part, SettingsLine.key, Part.chars, Field.chars]
  obtain ⟨tail, htext⟩ := hname
  obtain ⟨c, later, hcons, hc⟩ := first.key.isName.starts
  rw [htext, hcons, List.cons_append, List.all_cons, isWhite_of_isNameChar (isNameChar_of_isAlphanum hc),
    Bool.false_and]

/-- The level that lines of logging tell is known, as is the default one. -/
theorem LogLine.levelKnown_of_tells {lines : List LogLine} {log : LogSettings}
    (h : LogLine.kind.Tells lines {} log) : log.levelKnown = true := by
  rcases h.told_or_same LogKey.level with ⟨line, hkey, hline⟩ | hdefault
  · cases line with
    | level word => exact word.levelKnown hline
    | file path => contradiction
    | retention days => contradiction
  · have hdefault : log.level = "info" := hdefault
    rw [LogSettings.levelKnown, hdefault]
    decide

section Checks

variable {lines : List SettingsLine} {settings : Settings}

/-- The level is known whether or not there is a section of logging. -/
theorem SettingsLine.levelKnown_of_tells (h : SettingsLine.kind.Tells lines {} settings) :
    settings.log.levelKnown = true := by
  rcases h.told_or_same SettingsKey.log with ⟨line, hkey, hline⟩ | hdefault
  · cases line with
    | log group => exact LogLine.levelKnown_of_tells hline
    | _ => contradiction
  · have hdefault : settings.log = {} := hdefault
    rw [hdefault]
    decide

/-- The flush interval that a line tells is not zero, and neither is the default one. -/
theorem SettingsLine.not_isZero_of_tells (h : SettingsLine.kind.Tells lines {} settings) :
    settings.flushInterval.isZero = false := by
  rcases h.told_or_same SettingsKey.flushInterval with ⟨line, hkey, hline⟩ | hdefault
  · cases line with
    | flushInterval seconds hpos =>
      have hseconds : settings.flushInterval.seconds = seconds.toNat := hline.1
      simp [Duration.isZero, hseconds, Nat.ne_of_gt hpos]
    | _ => contradiction
  · have hdefault : settings.flushInterval = .ofSeconds 15 := hdefault
    rw [hdefault]
    decide

/-- Settings that lines tell pass the checks. -/
theorem SettingsLine.check_of_tells (h : SettingsLine.kind.Tells lines {} settings) :
    Settings.check settings = .ok settings := by
  simp [Settings.check, levelKnown_of_tells h, not_isZero_of_tells h]

end Checks

/-- A text of lines is loaded, and the settings are what the lines tell. -/
theorem exists_load_settingsText {lines : List SettingsLine} (h : (lines.map SettingsLine.key).Nodup) :
    ∃ settings, Settings.load (settingsText lines) = .ok settings ∧
      SettingsLine.kind.Tells lines {} settings := by
  by_cases hlines : lines = []
  · subst hlines
    exact ⟨{}, rfl, List.forall_mem_nil _, fun key _ => (SettingsLine.lawful .torn).same_refl key {}⟩
  · have hparts : lines.map SettingsLine.part ≠ [] := mt List.map_eq_nil_iff.mp hlines
    have hdocument := Document.ofText_flatMap_parts hparts
    have hentries : (lines.map SettingsLine.part).map Part.entry = lines.map SettingsLine.kind.entry := by
      rw [List.map_map]
      exact List.map_congr_left fun line _ => line.entry_part
    rw [← toList_settingsText, hentries] at hdocument
    obtain ⟨settings, hread, htells⟩ :=
      (SettingsLine.lawful (.mapping none none (lines.map SettingsLine.kind.entry))).readFields
        (.mapping none none (lines.map SettingsLine.kind.entry)) [] [] {} h (by simp)
    refine ⟨settings, ?_, htells⟩
    have hnode : Settings.ofNode (.mapping none none (lines.map SettingsLine.kind.entry)) =
        .ok settings := hread
    rw [Settings.load, all_isWhite_settingsText hlines, hdocument, Settings.ofDocument]
    simp [hnode, bind, Except.bind, SettingsLine.check_of_tells htells]

/-- A text of lines, at most one for each setting, is loaded, and its lines give the same settings in every order:
each setting that a line tells is as told, and every other one is the default. -/
theorem load_settingsText (lines : List SettingsLine) (h : (lines.map SettingsLine.key).Nodup) :
    ∃ settings, (∀ other, other.Perm lines → Settings.load (settingsText other) = .ok settings) ∧
      (∀ line ∈ lines, line.Holds settings) ∧ ∀ key ∉ lines.map SettingsLine.key, key.Same settings {} := by
  obtain ⟨settings, hload, htells⟩ := exists_load_settingsText h
  refine ⟨settings, ?_, htells.given, htells.other⟩
  intro other hperm
  have hother := (hperm.map SettingsLine.key).nodup_iff.mpr h
  obtain ⟨reordered, hreordered, htold⟩ := exists_load_settingsText hother
  rw [hreordered, SettingsLine.determines.eq (htold.of_perm hperm) htells]

/-- Lines that keep no old logs and flush as rarely as can be. -/
def rareFlushes : List SettingsLine :=
  [.log ⟨[.retention 0, .level ⟨"DeBuG", by decide⟩], by simp, by decide⟩,
    .flushInterval 18446744073709551615 (by decide)]

/-- Three settings are told here, two of them in the section, and the other three are the defaults. -/
theorem load_settingsText_rareFlushes :
    (rareFlushes.map SettingsLine.key).Nodup ∧ ∃ settings,
      Settings.load "log:\n  retention: 0\n  level: DeBuG\nflush-interval: 18446744073709551615s\n" =
        .ok settings ∧
      (settings.flushInterval.seconds = 18446744073709551615 ∧ settings.flushInterval.nanos = 0) ∧
      (settings.log.retention = 0 ∧ settings.log.level = "DeBuG" ∧ settings.log.file = none) ∧
      settings.aggregation = .mergedByEndpoint ∧ settings.withLocalPort = false := by
  have hdistinct : (rareFlushes.map SettingsLine.key).Nodup := by decide
  obtain ⟨settings, hload, hgiven, hother⟩ := load_settingsText rareFlushes hdistinct
  obtain ⟨hlog, hlater⟩ := List.forall_mem_cons.mp hgiven
  obtain ⟨hretention, hbelow⟩ := List.forall_mem_cons.mp hlog.given
  have hinterval := hlater _ List.mem_cons_self
  have hlevel := hbelow _ List.mem_cons_self
  have htext := hload rareFlushes (List.Perm.refl _)
  refine ⟨hdistinct, settings, htext, hinterval, ⟨hretention, hlevel, ?_⟩, ?_, ?_⟩
  · exact hlog.other .file (by decide)
  · exact hother .aggregation (by decide)
  · exact hother .withLocalPort (by decide)

end FlowMeter
