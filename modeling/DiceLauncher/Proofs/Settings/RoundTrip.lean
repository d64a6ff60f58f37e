import DiceLauncher.Proofs.Settings.Fields
import DiceLauncher.Settings.Load
import Mathlib

/-!
# Written settings are read back

Settings are written as a record that lists every field once, one to a line. Texts are escaped,
so they may be any texts: `string_quoted` undoes the escapes, and nothing in a text can end its
field. On the command line a line break follows the record.

Results:
* `read_record`: a record of distinct fields, each with a comma behind it.
* `parse_render_append`: reading written settings gives the settings.
* `fst_load`, `snd_load_eq_nil_iff`: what a file loads, and when that is logged.
* `render_reads_back`: the same for the settings that any file loads.
-/

namespace DiceLauncher.Settings

/-- Behind an opening bracket neither attributes nor the name of the record are left. -/
theorem read_opening (text : List Char) :
    read ('(' :: text) = (do
      let (fields, next) ← readFields false {} ⟨text, 0⟩
      let next ← next.skip skipBlank
      match next.text with
      | [] => .ok fields.settings
      | _ => next.stop .trailing) := by
  have hskip : skipBlank ('(' :: text) = .ok ('(' :: text) :=
    skipBlank_of_part (by decide) (by decide) text
  have hattributes : allAttributes ('(' :: text) = .ok (false, '(' :: text) := by
    rw [allAttributes, if_neg (by simp)]
  rw [read, hskip, ok_bind, hattributes]
  rfl

/-- A record of distinct fields, with a comma behind each of them. -/
theorem read_record {fields : List (List Char × Field)} (hgap : ∀ field ∈ fields, Gap field.1)
    (hdistinct : (fields.map fun field => field.2.name).Nodup) {last ending : List Char}
    (hlast : Gap last) (hending : Gap ending) :
    read ('(' :: (writtenAll fields ++ (last ++ ')' :: ending))) =
      .ok ((fields.map Prod.snd).foldl Fields.give {}).settings := by
  have hlacks : ∀ field ∈ fields, Fields.Lacks {} field.2 :=
    fun field _ => Fields.lacks_empty field.2
  have hskip : skipBlank ending = .ok [] := by
    rw [← List.append_nil ending, skipBlank_append hending]
    rfl
  rw [read_opening, readFields_writtenAll false hgap hlacks hdistinct,
    readFields_close false _ hlast, ok_bind]
  dsimp only
  rw [Cursor.skip_of_eq_ok hskip]
  rfl

/-! ## Settings -/

/-- What stands in front of a field in written settings. -/
def indentation : List Char := ['\n', ' ', ' ', ' ', ' ']

/-- The fields of settings, in the order in which they are written. -/
def fields (settings : Settings) : List (List Char × Field) :=
  [(indentation, .historyFile settings.historyFile), (indentation, .prompt settings.prompt),
    (indentation, .autoTrigger settings.autoTrigger)]

theorem toList_render (settings : Settings) :
    settings.render.toList = '(' :: (writtenAll settings.fields ++ ['\n', ')']) := by
  unfold render
  simp [fields, writtenAll, Field.written, Field.name, Field.value, indentation]

/-- Reading written settings gives the settings; blank space may follow them. -/
theorem parse_render_append (settings : Settings) {ending : String} (h : Gap ending.toList) :
    parse (settings.render ++ ending) = .ok settings := by
  have hgap : ∀ field ∈ settings.fields, Gap field.1 := by
    simp [fields, Gap, indentation, isSpace]
  have hdistinct : (settings.fields.map fun field => field.2.name).Nodup := by
    simp [fields, Field.name]
  have hlast : Gap ['\n'] := by
    simp [Gap, isSpace]
  rw [parse, String.toList_append, toList_render, List.cons_append, List.append_assoc]
  exact read_record hgap hdistinct hlast h

theorem parse_render (settings : Settings) : parse settings.render = .ok settings := by
  have hending : Gap "".toList := by simp [Gap]
  simpa using parse_render_append settings hending

theorem parse_render_line (settings : Settings) :
    parse (settings.render ++ "\n") = .ok settings := by
  have hending : Gap "\n".toList := by simp [Gap, isSpace]
  exact parse_render_append settings hending

theorem load_of_parse_eq_ok {content : String} {settings : Settings}
    (h : parse content = .ok settings) (path : String) :
    load path (.ok content) = (settings, []) := by
  simp only [load, h]

/-- A file gives the settings that are read in it, and the defaults if there are none. -/
theorem fst_load (path : String) (content : Except FileFault String) :
    (load path content).1 =
      (content.toOption.bind fun text => (parse text).toOption).getD {} := by
  obtain fault | text := content
  · rfl
  · rw [load]
    cases hparse : parse text <;> simp [Except.toOption, hparse]

/-- Nothing is logged if and only if the settings are read in the file. -/
theorem snd_load_eq_nil_iff (path : String) (content : Except FileFault String) :
    (load path content).2 = [] ↔
      ∃ text, content = .ok text ∧ parse text = .ok (load path content).1 := by
  obtain fault | text := content
  · simp [load]
  · rw [load]
    cases hparse : parse text <;> simp [hparse]

/-- **Settings survive being written to a file**: reading what is written for them gives them back,
whatever their texts are, with or without the line break that the command line adds. A file loads
the settings that are read in it, and the defaults if there are none, which is logged. These
settings are loaded again from what is written for them, and nothing is logged then. -/
theorem render_reads_back :
    (∀ settings : Settings,
      parse settings.render = .ok settings ∧ parse (settings.render ++ "\n") = .ok settings) ∧
    ∀ (path other : String) (content : Except FileFault String),
      let loaded := (load path content).1
      loaded = (content.toOption.bind fun text => (parse text).toOption).getD {} ∧
        ((load path content).2 = [] ↔ ∃ text, content = .ok text ∧ parse text = .ok loaded) ∧
        load other (.ok loaded.render) = (loaded, []) ∧
        load other (.ok (loaded.render ++ "\n")) = (loaded, []) := by
  refine ⟨fun settings => ⟨parse_render settings, parse_render_line settings⟩, ?_⟩
  intro path other content loaded
  exact ⟨fst_load path content, snd_load_eq_nil_iff path content,
    load_of_parse_eq_ok (parse_render loaded) other,
    load_of_parse_eq_ok (parse_render_line loaded) other⟩

end DiceLauncher.Settings
