import DiceLauncher.Settings.Basic
import DiceLauncher.Settings.Value

/-!
# Reading settings

A settings file holds one record, possibly with the name `Settings`. Its fields may come
in any order; those that are missing keep their defaults, and unknown ones are skipped.
Attributes in front of the record may enable extensions of the format, none of which
changes what settings mean: one of them is for the values of unknown fields.
-/

namespace DiceLauncher.Settings

/-! ## Attributes -/

/-- The extension with which the value of `Some` needs no brackets. -/
def bareSome : String := "implicit_some"

/-- The extensions that an attribute may enable. -/
def extensions : List String := ["unwrap_newtypes", bareSome, "unwrap_variant_newtypes"]

/-- A stop within tokens, each of which is still read if it is there; blanks behind them are
read as far as they can be. -/
def Stop.past (stop : Stop) : List String → Stop
  | [] => stop
  | token :: tokens =>
    match literal? token.toList stop.left with
    | some rest =>
      match skipBlank rest with
      | .ok rest => Stop.past { stop with rest := rest, partway := false } tokens
      | .error other => Stop.past { other with cause := stop.cause } tokens
    | none => stop.past tokens

/-- Takes literal texts with the blanks behind them, each only if it is there; says whether all
of them were. -/
def skipTokens (text : List Char) : List String → Except Stop (Bool × List Char)
  | [] => .ok (true, text)
  | token :: tokens =>
    match literal? token.toList text with
    | some rest =>
      match skipBlank rest with
      | .ok rest => skipTokens rest tokens
      | .error stop => .error (stop.past tokens)
    | none => do
      let (_, rest) ← skipTokens text tokens
      .ok (false, rest)

/-- Reads the names of extensions, which are separated by commas; says whether `Some` may stand
without brackets. -/
def extensionNames (text : List Char) : Except Stop (Bool × List Char) := do
  let (name, rest) ← identifier text
  if extensions.contains (String.ofList name) then do
    let bare := name == bareSome.toList
    let (comma, rest) ← skipComma rest
    if (rest.head?.map isNameChar).getD false then
      if comma ∧ rest.length < text.length then do
        let (more, rest) ← extensionNames rest
        .ok (bare || more, rest)
      else stopAt .expectedComma rest
    else .ok (bare, rest)
  else stopAt (.noSuchExtension name) rest
termination_by text.length

/-- Reads one attribute; says whether `Some` may stand without brackets. -/
def oneAttribute (text : List Char) : Except Stop (Bool × List Char) := do
  let (complete, rest) ← skipTokens text ["#", "!", "[", "enable", "("]
  if complete then do
    let rest ← skipBlank rest
    let (bare, rest) ← extensionNames rest
    let rest ← skipBlank rest
    let (complete, rest) ← skipTokens rest [")", "]"]
    if complete then do
      let rest ← skipBlank rest
      .ok (bare, rest)
    else stopAt .expectedAttributeEnd rest
  else stopAt .expectedAttribute rest

/-- Reads all attributes in front of the record. -/
def allAttributes (text : List Char) : Except Stop (Bool × List Char) :=
  if text.head? = some '#' then do
    let (bare, rest) ← oneAttribute text
    if rest.length < text.length then do
      let (more, rest) ← allAttributes rest
      .ok (bare || more, rest)
    else .ok (bare, rest)
  else .ok (false, text)
termination_by text.length

/-! ## Fields -/

/-- The fields that a file gives. -/
structure Fields where
  /-- The value given for `history_file`. -/
  historyFile : Option String := none
  /-- The value given for `prompt`. -/
  prompt : Option String := none
  /-- The value given for `auto_trigger`. -/
  autoTrigger : Option Bool := none
  deriving DecidableEq, Repr

/-- The settings with the given fields, and the defaults for the others. -/
def Fields.settings (fields : Fields) : Settings :=
  { historyFile := fields.historyFile.getD ({} : Settings).historyFile
    prompt := fields.prompt.getD ({} : Settings).prompt
    autoTrigger := fields.autoTrigger.getD ({} : Settings).autoTrigger }

/-- How deep the value of an unknown field may be nested. -/
def valueLevels : Nat := 126

/-- Reads the value of a field when its name is read. -/
def readField (bare : Bool) (fields : Fields) (name : List Char) (cursor : Cursor) :
    Except Stop (Fields × Cursor) :=
  if name = "history_file".toList then
    if fields.historyFile.isSome then cursor.stop (.duplicateField name)
    else do
      let next ← cursor.skip skipColon
      let (value, next) ← next.read string
      .ok ({ fields with historyFile := some (String.ofList value) }, next)
  else if name = "prompt".toList then
    if fields.prompt.isSome then cursor.stop (.duplicateField name)
    else do
      let next ← cursor.skip skipColon
      let (value, next) ← next.read string
      .ok ({ fields with prompt := some (String.ofList value) }, next)
  else if name = "auto_trigger".toList then
    if fields.autoTrigger.isSome then cursor.stop (.duplicateField name)
    else do
      let next ← cursor.skip skipColon
      let (value, next) ← next.read boolean
      .ok ({ fields with autoTrigger := some value }, next)
  else do
    let next ← cursor.skip skipColon
    let next ← skipValue bare valueLevels next
    .ok (fields, next)

/-- Reads fields up to the bracket that closes the record. -/
def readFields (bare : Bool) (fields : Fields) (cursor : Cursor) :
    Except Stop (Fields × Cursor) := do
  let start ← cursor.skip skipBlank
  match start.text with
  | [] => start.stop .unexpectedEnd
  | ')' :: rest => .ok (fields, start.moveTo rest)
  | _ => do
    let (name, next) ← start.read identifier
    let (fields, next) ← readField bare fields name next
    let next ← next.skip skipBlank
    match next.text with
    | [] => next.stop .unexpectedEnd
    | ')' :: rest => .ok (fields, next.moveTo rest)
    | ',' :: more =>
      if more.length < cursor.text.length then readFields bare fields (next.moveTo more)
      else next.stop .expectedComma
    | _ => next.stop .expectedComma
termination_by cursor.text.length

/-! ## Files -/

/-- The text behind the name of the record, which may be left out. -/
def skipName (text : List Char) : Except Stop (List Char) :=
  if (text.head?.map isNameChar).getD false then
    match identifier text with
    | .error _ => stopAt .expectedOpening text
    | .ok (name, rest) =>
      if name = "Settings".toList then skipBlank rest else stopAt (.otherStruct name) rest
  else .ok text

/-- Reads a whole file. -/
def read (content : List Char) : Except Stop Settings := do
  let text ← skipBlank content
  let (bare, text) ← allAttributes text
  let text ← skipName text
  match text with
  | '(' :: text => do
    let (fields, next) ← readFields bare {} ⟨text, 0⟩
    let next ← next.skip skipBlank
    match next.text with
    | [] => .ok fields.settings
    | _ => next.stop .trailing
  | _ => stopAt .expectedOpening text

/-- Reads the settings that a file holds. -/
def parse (content : String) : Except Stop Settings := read content.toList

end DiceLauncher.Settings
