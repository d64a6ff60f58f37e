import DiceLauncher.Proofs.Settings.Quoted
import DiceLauncher.Settings.Reader
import Mathlib

/-!
# Written fields are read back

A file gives its fields in any order. `Field` is one of them with its value, `Field.written` is
how it is written, and `Fields.give` sets it among the fields that a file gives. Spaces in front of
a field mean nothing (`Gap`).

Results:
* `readField_written`: a field that is not given yet is read.
* `readFields_field`: one field of a record.
* `readFields_written`, `readFields_last`: with a comma behind it, and the last one without.
* `readFields_writtenAll`: all fields of a list that names no field twice.
-/

namespace DiceLauncher.Settings

/-! ## Specification -/

/-- A field with its value. -/
inductive Field
  /-- A value for `history_file`. -/
  | historyFile (value : String)
  /-- A value for `prompt`. -/
  | prompt (value : String)
  /-- A value for `auto_trigger`. -/
  | autoTrigger (value : Bool)

namespace Field

/-- The name of a field. -/
def name : Field → String
  | historyFile _ => "history_file"
  | prompt _ => "prompt"
  | autoTrigger _ => "auto_trigger"

/-- The value of a field as it is written. -/
def value : Field → String
  | historyFile value => Text.quoted value
  | prompt value => Text.quoted value
  | autoTrigger value => renderBool value

/-- A field as it is written. -/
def written (field : Field) : List Char :=
  field.name.toList ++ ':' :: ' ' :: field.value.toList

end Field

namespace Fields

/-- The fields with one more. -/
def give (fields : Fields) : Field → Fields
  | .historyFile value => { fields with historyFile := some value }
  | .prompt value => { fields with prompt := some value }
  | .autoTrigger value => { fields with autoTrigger := some value }

/-- No value is given for a field. -/
def Lacks (fields : Fields) : Field → Prop
  | .historyFile _ => fields.historyFile = none
  | .prompt _ => fields.prompt = none
  | .autoTrigger _ => fields.autoTrigger = none

theorem lacks_empty (field : Field) : Lacks {} field := by
  cases field <;> rfl

/-- Giving a field leaves those with other names as they are. -/
theorem Lacks.give {fields : Fields} {field other : Field} (h : fields.Lacks other)
    (hname : field.name ≠ other.name) : (fields.give field).Lacks other := by
  cases field <;> cases other <;> first | exact h | exact absurd rfl hname

end Fields

/-- Spaces and line breaks between two parts. -/
def Gap (gap : List Char) : Prop := ∀ c ∈ gap, isSpace c

/-- Fields as they are written behind gaps, each with a comma behind it. -/
def writtenAll (fields : List (List Char × Field)) : List Char :=
  fields.flatMap fun (gap, field) => gap ++ (field.written ++ [','])

/-! ## Blanks -/

theorem isSpace_ne_slash {c : Char} (h : isSpace c) : c ≠ '/' := by
  rintro rfl
  exact absurd h (by decide)

theorem skipBlank_cons {c : Char} (hslash : c ≠ '/') (text : List Char) :
    skipBlank (c :: text) = if isSpace c then skipBlank text else .ok (c :: text) := by
  rw [skipBlank, skipFrom, skipBlank]
  all_goals simp [hslash]

/-- Spaces in front of a text are passed. -/
theorem skipBlank_append {gap : List Char} (h : Gap gap) (text : List Char) :
    skipBlank (gap ++ text) = skipBlank text := by
  induction gap with
  | nil => rfl
  | cons c gap ih =>
    have hc : isSpace c := h c List.mem_cons_self
    rw [List.cons_append, skipBlank_cons (isSpace_ne_slash hc), if_pos hc,
      ih fun d hd => h d (List.mem_cons_of_mem c hd)]

theorem skipBlank_of_part {c : Char} (hslash : c ≠ '/') (hspace : isSpace c = false)
    (text : List Char) : skipBlank (c :: text) = .ok (c :: text) := by
  rw [skipBlank_cons hslash, hspace, if_neg Bool.false_ne_true]

/-! ## Cursors

Fields are read with a count of columns that is right. -/

theorem ok_bind {α β : Type} (value : α) (next : α → Except Stop β) :
    (Except.ok value >>= next) = next value := rfl

theorem Cursor.skip_of_eq_ok {reader : List Char → Except Stop (List Char)} {text rest : List Char}
    (h : reader text = .ok rest) : Cursor.skip ⟨text, 0⟩ reader = .ok ⟨rest, 0⟩ := by
  rw [skip_of_ahead_eq_zero, h]

theorem Cursor.read_of_eq_ok {α : Type} {reader : List Char → Reading α} {text rest : List Char}
    {value : α} (h : reader text = .ok (value, rest)) :
    Cursor.read ⟨text, 0⟩ reader = .ok (value, ⟨rest, 0⟩) := by
  rw [Cursor.read, h]
  rfl

/-! ## Names and values -/

theorem plainIdentifier_append {name : List Char} (h : ∀ c ∈ name, isNameChar c)
    (rest : List Char) : plainIdentifier (name ++ ':' :: rest) = .ok (name, ':' :: rest) := by
  have hraw : ∀ c ∈ name, isRawNameChar c := by
    intro c hc
    simp [isRawNameChar, h c hc]
  have hcolon : isNameChar ':' = false ∧ isRawNameChar ':' = false := by decide
  rw [plainIdentifier, List.takeWhile_append_of_pos h, List.takeWhile_append_of_pos hraw,
    List.dropWhile_append_of_pos h]
  simp [hcolon]

theorem identifier_of_isNameStart {c : Char} (hr : c ≠ 'r') (h : isNameStart c)
    (text : List Char) : identifier (c :: text) = plainIdentifier (c :: text) := by
  rw [identifier, if_pos h]
  all_goals simp [hr]

theorem Field.isNameChar_of_mem_name (field : Field) : ∀ c ∈ field.name.toList, isNameChar c := by
  cases field <;> simp [name, isNameChar, isNameStart]

theorem Field.exists_name_eq_cons (field : Field) :
    ∃ c tail, field.name.toList = c :: tail ∧ c ≠ 'r' ∧ isNameStart c := by
  cases field <;> simp [name, isNameStart]

theorem identifier_name (field : Field) (rest : List Char) :
    identifier (field.name.toList ++ ':' :: rest) = .ok (field.name.toList, ':' :: rest) := by
  obtain ⟨c, tail, hname, hr, hstart⟩ := field.exists_name_eq_cons
  rw [← plainIdentifier_append field.isNameChar_of_mem_name, hname, List.cons_append]
  exact identifier_of_isNameStart hr hstart _

theorem boolean_renderBool (value : Bool) (rest : List Char) :
    boolean ((renderBool value).toList ++ rest) = .ok (value, rest) := by
  cases value <;> rfl

/-- What is written for a value neither is a space nor begins a comment. -/
theorem Field.exists_value_eq_cons (field : Field) :
    ∃ c tail, field.value.toList = c :: tail ∧ c ≠ '/' ∧ isSpace c = false := by
  cases field with
  | historyFile value => exact ⟨'"', _, String.toList_ofList, by decide, by decide⟩
  | prompt value => exact ⟨'"', _, String.toList_ofList, by decide, by decide⟩
  | autoTrigger value =>
    cases value with
    | false => exact ⟨'f', _, rfl, by decide, by decide⟩
    | true => exact ⟨'t', _, rfl, by decide, by decide⟩

theorem skipColon_value (field : Field) (rest : List Char) :
    skipColon (':' :: ' ' :: (field.value.toList ++ rest)) = .ok (field.value.toList ++ rest) := by
  obtain ⟨c, tail, hvalue, hslash, hspace⟩ := field.exists_value_eq_cons
  have hcolon (text : List Char) : skipBlank (':' :: text) = .ok (':' :: text) :=
    skipBlank_of_part (by decide) (by decide) text
  have hgap : Gap [' '] := by
    intro c hc
    rw [List.mem_singleton.mp hc]
    rfl
  rw [hvalue, List.cons_append, skipColon, hcolon]
  exact (skipBlank_append hgap _).trans (skipBlank_of_part hslash hspace _)

/-! ## Fields -/

/-- A field that is not given yet is read when its name is read. -/
theorem readField_written (bare : Bool) {fields : Fields} {field : Field} (h : fields.Lacks field)
    (rest : List Char) :
    readField bare fields field.name.toList ⟨':' :: ' ' :: (field.value.toList ++ rest), 0⟩ =
      .ok (fields.give field, ⟨rest, 0⟩) := by
  have hcolon := Cursor.skip_of_eq_ok (skipColon_value field rest)
  cases field with
  | historyFile value =>
    have hlacks : fields.historyFile = none := h
    have hvalue := Cursor.read_of_eq_ok (string_quoted value rest)
    rw [Field.value] at hcolon
    simp [readField, Field.name, Field.value, hlacks, hcolon, hvalue, ok_bind, Fields.give]
  | prompt value =>
    have hlacks : fields.prompt = none := h
    have hvalue := Cursor.read_of_eq_ok (string_quoted value rest)
    rw [Field.value] at hcolon
    simp [readField, Field.name, Field.value, hlacks, hcolon, hvalue, ok_bind, Fields.give]
  | autoTrigger value =>
    have hlacks : fields.autoTrigger = none := h
    have hvalue := Cursor.read_of_eq_ok (boolean_renderBool value rest)
    rw [Field.value] at hcolon
    simp [readField, Field.name, Field.value, hlacks, hcolon, hvalue, ok_bind, Fields.give]

/-! ## Lists of fields -/

theorem readFields_close (bare : Bool) (fields : Fields) {gap : List Char} (hgap : Gap gap)
    (rest : List Char) :
    readFields bare fields ⟨gap ++ ')' :: rest, 0⟩ = .ok (fields, ⟨rest, 0⟩) := by
  have hskip : skipBlank (gap ++ ')' :: rest) = .ok (')' :: rest) := by
    rw [skipBlank_append hgap, skipBlank_of_part (by decide) (by decide)]
  rw [readFields, Cursor.skip_of_eq_ok hskip]
  rfl

theorem Field.exists_written_eq_cons (field : Field) :
    ∃ c tail, field.written = c :: tail ∧ c ≠ ')' ∧ c ≠ '/' ∧ isSpace c = false := by
  cases field <;> simp [written, name, isSpace]

/-- One field is read, whatever follows it: a comma and more fields, or the closing bracket. -/
theorem readFields_field (bare : Bool) {fields : Fields} {field : Field} (h : fields.Lacks field)
    {gap : List Char} (hgap : Gap gap) (rest : List Char) :
    readFields bare fields ⟨gap ++ (field.written ++ rest), 0⟩ = (do
      let next ← Cursor.skip ⟨rest, 0⟩ skipBlank
      match next.text with
      | [] => next.stop .unexpectedEnd
      | ')' :: rest => .ok (fields.give field, next.moveTo rest)
      | ',' :: more =>
        if more.length < (gap ++ (field.written ++ rest)).length then
          readFields bare (fields.give field) (next.moveTo more)
        else next.stop .expectedComma
      | _ => next.stop .expectedComma) := by
  obtain ⟨c, tail, hwritten, hclose, hslash, hspace⟩ := field.exists_written_eq_cons
  have hskip : skipBlank (gap ++ (field.written ++ rest)) = .ok (field.written ++ rest) := by
    rw [skipBlank_append hgap, hwritten]
    exact skipBlank_of_part hslash hspace _
  have hname : identifier (field.written ++ rest) =
      .ok (field.name.toList, ':' :: ' ' :: (field.value.toList ++ rest)) := by
    rw [Field.written, List.append_assoc]
    exact identifier_name field _
  rw [readFields, Cursor.skip_of_eq_ok hskip, ok_bind]
  -- Behind the gap stands the field, so neither the file nor the record ends there.
  split
  · next hnil => simp [hwritten] at hnil
  · next hcons => simp [hwritten, hclose] at hcons
  · rw [Cursor.read_of_eq_ok hname, ok_bind]
    dsimp only
    rewrite [readField_written bare h, ok_bind]
    rfl

/-- One field and the comma behind it. -/
theorem readFields_written (bare : Bool) {fields : Fields} {field : Field}
    (h : fields.Lacks field) {gap : List Char} (hgap : Gap gap) (rest : List Char) :
    readFields bare fields ⟨gap ++ (field.written ++ ',' :: rest), 0⟩ =
      readFields bare (fields.give field) ⟨rest, 0⟩ := by
  have hcomma : skipBlank (',' :: rest) = .ok (',' :: rest) :=
    skipBlank_of_part (by decide) (by decide) rest
  have hlength : rest.length < (gap ++ (field.written ++ ',' :: rest)).length := by
    simp only [List.length_append, List.length_cons]
    omega
  rw [readFields_field bare h hgap, Cursor.skip_of_eq_ok hcomma, ok_bind]
  exact if_pos hlength

/-- The last field, with no comma behind it. -/
theorem readFields_last (bare : Bool) {fields : Fields} {field : Field} (h : fields.Lacks field)
    {gap last : List Char} (hgap : Gap gap) (hlast : Gap last) (rest : List Char) :
    readFields bare fields ⟨gap ++ (field.written ++ (last ++ ')' :: rest)), 0⟩ =
      .ok (fields.give field, ⟨rest, 0⟩) := by
  have hclose : skipBlank (last ++ ')' :: rest) = .ok (')' :: rest) := by
    rw [skipBlank_append hlast, skipBlank_of_part (by decide) (by decide)]
  rw [readFields_field bare h hgap, Cursor.skip_of_eq_ok hclose]
  rfl

/-- Of fields with different names, those behind the first are still lacking when that is given. -/
theorem Fields.lacks_give_of_nodup {given : Fields} {first : List Char × Field}
    {fields : List (List Char × Field)} (hlacks : ∀ field ∈ fields, given.Lacks field.2)
    (hdistinct : ((first :: fields).map fun field => field.2.name).Nodup) :
    ∀ field ∈ fields, (given.give first.2).Lacks field.2 := by
  rw [List.map_cons, List.nodup_cons] at hdistinct
  intro other hother
  refine (hlacks other hother).give fun hname => hdistinct.1 ?_
  exact List.mem_map.mpr ⟨other, hother, hname.symm⟩

/-- A list of fields is read, if none of them is given yet and none is given twice. -/
theorem readFields_writtenAll (bare : Bool) {given : Fields} {fields : List (List Char × Field)}
    (hgap : ∀ field ∈ fields, Gap field.1) (hlacks : ∀ field ∈ fields, given.Lacks field.2)
    (hdistinct : (fields.map fun field => field.2.name).Nodup) (rest : List Char) :
    readFields bare given ⟨writtenAll fields ++ rest, 0⟩ =
      readFields bare ((fields.map Prod.snd).foldl Fields.give given) ⟨rest, 0⟩ := by
  induction fields generalizing given with
  | nil => rfl
  | cons first fields ih =>
    obtain ⟨gap, field⟩ := first
    rw [List.forall_mem_cons] at hgap hlacks
    have hothers := Fields.lacks_give_of_nodup hlacks.2 hdistinct
    have hform : writtenAll ((gap, field) :: fields) ++ rest =
        gap ++ (field.written ++ ',' :: (writtenAll fields ++ rest)) := by
      simp [writtenAll]
    rw [hform, readFields_written bare hlacks.1 hgap.1,
      ih hgap.2 hothers (List.nodup_cons.mp hdistinct).2]
    rfl

end DiceLauncher.Settings
