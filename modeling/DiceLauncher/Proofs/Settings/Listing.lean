import DiceLauncher.Proofs.Settings.RoundTrip

/-!
# Records that list some of the fields

A settings file need not give every field. Whatever fields of some settings it lists, in whatever
order, it is read as the settings that have these values and the defaults elsewhere. Commas stand
between the fields; another one may stand behind the last.

Results:
* `readFields_separated`: fields with commas between them.
* `field_settings_foldl_give`: the settings that fields make, one by one.
* `parse_listing`: a record that lists some of the fields is read.
-/

namespace DiceLauncher.Settings

/-! ## Specification -/

/-- A field of settings, whatever its value. -/
inductive Key
  /-- The field `history_file`. -/
  | historyFile
  /-- The field `prompt`. -/
  | prompt
  /-- The field `auto_trigger`. -/
  | autoTrigger
  deriving DecidableEq

/-- A field with the value that it has in settings. -/
def field (settings : Settings) : Key → Field
  | .historyFile => .historyFile settings.historyFile
  | .prompt => .prompt settings.prompt
  | .autoTrigger => .autoTrigger settings.autoTrigger

/-- Fields as they are written behind gaps, with a comma between each two of them. -/
def separated (fields : List (List Char × Field)) : List Char :=
  [','].intercalate (fields.map fun (gap, field) => gap ++ field.written)

/-- Some fields of settings, each with the gap that it stands behind. -/
def listed (settings : Settings) (keys : List (List Char × Key)) : List (List Char × Field) :=
  keys.map fun (gap, key) => (gap, settings.field key)

/-- A record that lists some fields of settings, with an ending behind the last of them. -/
def listing (settings : Settings) (keys : List (List Char × Key)) (ending : List Char) : String :=
  String.ofList ('(' :: (separated (settings.listed keys) ++ ending ++ [')']))

/-- What may stand behind the last field of a list: a gap, and a comma in front of it if there is
a last field. -/
def Ending (keys : List (List Char × Key)) (ending : List Char) : Prop :=
  Gap ending ∨ keys ≠ [] ∧ ∃ gap, Gap gap ∧ ending = ',' :: gap

/-! ## Commas between fields -/

theorem separated_singleton (field : List Char × Field) :
    separated [field] = field.1 ++ field.2.written := by
  simp [separated]

theorem separated_cons_cons (first second : List Char × Field)
    (fields : List (List Char × Field)) :
    separated (first :: second :: fields) =
      first.1 ++ (first.2.written ++ ',' :: separated (second :: fields)) := by
  simp [separated, List.intercalate_cons_cons]

/-- With a comma behind the last field too, every field has one. -/
theorem separated_append_comma {fields : List (List Char × Field)} (h : fields ≠ []) :
    separated fields ++ [','] = writtenAll fields := by
  induction fields with
  | nil => exact absurd rfl h
  | cons first fields ih =>
    cases fields with
    | nil => simp [separated_singleton, writtenAll]
    | cons second fields =>
      have hrest := ih (List.cons_ne_nil second fields)
      rw [separated_cons_cons, List.append_assoc, List.append_assoc, List.cons_append, hrest]
      simp [writtenAll]

/-- Fields with commas between them are read, if none of them is given yet and none is given
twice. -/
theorem readFields_separated (bare : Bool) {given : Fields} {fields : List (List Char × Field)}
    (hgap : ∀ field ∈ fields, Gap field.1) (hlacks : ∀ field ∈ fields, given.Lacks field.2)
    (hdistinct : (fields.map fun field => field.2.name).Nodup) {last : List Char}
    (hlast : Gap last) (rest : List Char) :
    readFields bare given ⟨separated fields ++ (last ++ ')' :: rest), 0⟩ =
      .ok ((fields.map Prod.snd).foldl Fields.give given, ⟨rest, 0⟩) := by
  induction fields generalizing given with
  | nil => exact readFields_close bare given hlast rest
  | cons first fields ih =>
    rw [List.forall_mem_cons] at hgap hlacks
    cases fields with
    | nil =>
      rw [separated_singleton, List.append_assoc]
      exact readFields_last bare hlacks.1 hgap.1 hlast rest
    | cons second fields =>
      have hothers := Fields.lacks_give_of_nodup hlacks.2 hdistinct
      rw [separated_cons_cons, List.append_assoc, List.append_assoc, List.cons_append,
        readFields_written bare hlacks.1 hgap.1,
        ih hgap.2 hothers (List.nodup_cons.mp hdistinct).2]
      rfl

/-! ## Records -/

/-- A record of distinct fields with commas between them. -/
theorem read_separated {fields : List (List Char × Field)} (hgap : ∀ field ∈ fields, Gap field.1)
    (hdistinct : (fields.map fun field => field.2.name).Nodup) {last : List Char}
    (hlast : Gap last) :
    read ('(' :: (separated fields ++ last ++ [')'])) =
      .ok ((fields.map Prod.snd).foldl Fields.give {}).settings := by
  have hlacks : ∀ field ∈ fields, Fields.Lacks {} field.2 :=
    fun field _ => Fields.lacks_empty field.2
  rw [read_opening, List.append_assoc, readFields_separated false hgap hlacks hdistinct hlast,
    ok_bind]
  rfl

/-- Giving a field of settings sets this field and no other. -/
theorem field_settings_give (settings : Settings) (given : Fields) (key other : Key) :
    (given.give (settings.field key)).settings.field other =
      if other = key then settings.field other else given.settings.field other := by
  cases key <;> cases other <;> rfl

/-- The settings that listed fields make: their values where they are listed, and what was given
before elsewhere. -/
theorem field_settings_foldl_give (settings : Settings) (given : Fields) (keys : List Key)
    (key : Key) :
    ((keys.map settings.field).foldl Fields.give given).settings.field key =
      if key ∈ keys then settings.field key else given.settings.field key := by
  induction keys generalizing given with
  | nil => simp
  | cons first keys ih =>
    rw [List.map_cons, List.foldl_cons, ih, field_settings_give]
    by_cases hkeys : key ∈ keys
    · simp [hkeys]
    · simp [hkeys]

theorem map_snd_listed (settings : Settings) (keys : List (List Char × Key)) :
    (settings.listed keys).map Prod.snd = (keys.map Prod.snd).map settings.field := by
  simp [listed]

theorem gap_of_mem_listed {settings : Settings} {keys : List (List Char × Key)}
    (h : ∀ item ∈ keys, Gap item.1) : ∀ field ∈ settings.listed keys, Gap field.1 := by
  intro field hfield
  obtain ⟨item, hitem, rfl⟩ := List.mem_map.mp hfield
  exact h item hitem

/-- Different fields have different names. -/
theorem nodup_names_listed (settings : Settings) {keys : List (List Char × Key)}
    (h : (keys.map Prod.snd).Nodup) :
    ((settings.listed keys).map fun field => field.2.name).Nodup := by
  have hname : Function.Injective fun key => (settings.field key).name := by
    intro key other heq
    revert heq
    cases key <;> cases other <;> simp [field, Field.name]
  have hnames := h.map hname
  rw [List.map_map] at hnames
  rw [listed, List.map_map]
  exact hnames

/-- A record of some fields of settings is read as these fields. -/
theorem parse_listing_eq (settings : Settings) {keys : List (List Char × Key)}
    {ending : List Char} (hdistinct : (keys.map Prod.snd).Nodup)
    (hgap : ∀ item ∈ keys, Gap item.1) (hending : Ending keys ending) :
    parse (settings.listing keys ending) =
      .ok (((keys.map Prod.snd).map settings.field).foldl Fields.give {}).settings := by
  have hgaps : ∀ field ∈ settings.listed keys, Gap field.1 := gap_of_mem_listed hgap
  have hnames := nodup_names_listed settings hdistinct
  rw [parse, listing, String.toList_ofList, ← map_snd_listed]
  obtain hlast | ⟨hne, gap, hlast, rfl⟩ := hending
  · exact read_separated hgaps hnames hlast
  · have hne : settings.listed keys ≠ [] := by simpa [listed] using hne
    have hclosed : Gap [] := by simp [Gap]
    have hform : separated (settings.listed keys) ++ ',' :: gap ++ [')'] =
        writtenAll (settings.listed keys) ++ (gap ++ ')' :: []) := by
      rw [← separated_append_comma hne]
      simp
    rw [hform]
    exact read_record hgaps hnames hlast hclosed

/-- **A file that lists some of the fields keeps the defaults of the others**: any fields of any
settings, in any order, are read as the settings with these values and the defaults elsewhere. -/
theorem parse_listing (settings : Settings) {keys : List (List Char × Key)} {ending : List Char}
    (hdistinct : (keys.map Prod.snd).Nodup) (hgap : ∀ item ∈ keys, Gap item.1)
    (hending : Ending keys ending) :
    ∃ result, parse (settings.listing keys ending) = .ok result ∧
      ∀ key, result.field key =
        if key ∈ keys.map Prod.snd then settings.field key else field {} key := by
  refine ⟨_, parse_listing_eq settings hdistinct hgap hending, fun key => ?_⟩
  rw [field_settings_foldl_give]
  rfl

/-- The fields are in another order, the text has a quote, a backslash and a combining mark, and
a comma follows the last field. -/
theorem parse_listing_unordered :
    let settings : Settings := ⟨"a\"\\e\u0301", "roll", false⟩
    let keys : List (List Char × Key) := [([], .autoTrigger), ([' '], .historyFile)]
    (keys.map Prod.snd).Nodup ∧ (∀ item ∈ keys, Gap item.1) ∧ Ending keys [',', '\n'] ∧
    settings.listing keys [',', '\n'] =
      "(auto_trigger: false, history_file: \"a\\\"\\\\e\\u\x7b301\x7d\",\n)" ∧
    parse (settings.listing keys [',', '\n']) =
      .ok ⟨"a\"\\e\u0301", "dicer", false⟩ := by
  intro settings keys
  have hdistinct : (keys.map Prod.snd).Nodup := by decide
  have hgap : ∀ item ∈ keys, Gap item.1 := by simp [keys, Gap, isSpace]
  have hending : Ending keys [',', '\n'] :=
    .inr ⟨by decide, ['\n'], by simp [Gap, isSpace], rfl⟩
  obtain ⟨result, hparse, hfields⟩ := parse_listing settings hdistinct hgap hending
  have hresult : result = ⟨"a\"\\e\u0301", "dicer", false⟩ := by
    obtain ⟨historyFile, prompt, autoTrigger⟩ := result
    have hfile := hfields .historyFile
    have hprompt := hfields .prompt
    have htrigger := hfields .autoTrigger
    simp_all [field, keys, settings]
  refine ⟨hdistinct, hgap, hending, by decide +kernel, ?_⟩
  rw [hparse, hresult]

end DiceLauncher.Settings
