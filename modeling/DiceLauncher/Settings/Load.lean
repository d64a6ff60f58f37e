import DiceLauncher.Disk.Fault
import DiceLauncher.Log
import DiceLauncher.Settings.Reader

/-!
# Loading settings

Settings are never missing: where the file cannot be read, or does not hold settings,
the defaults take their place, and a record says so.
-/

namespace DiceLauncher

namespace Settings

/-- The record that a settings file is not there. -/
def absentRecord (path : String) (fault : FileFault) : Log.Record :=
  Log.info ("No settings at `" ++ Text.quotedPath path ++ "` (" ++ fault.message ++
    "), using defaults")

/-- The record that a settings file is malformed. -/
def ignoredRecord (path content : String) (stop : Stop) : Log.Record :=
  Log.warn ("Ignoring settings `" ++ Text.quotedPath path ++ "`: " ++ stop.message content)

/-- The settings of a file whose content, or what keeps it from being read, is given. -/
def load (path : String) (content : Except FileFault String) : Settings × List Log.Record :=
  match content with
  | .error fault => ({}, [absentRecord path fault])
  | .ok text =>
    match parse text with
    | .error stop => ({}, [ignoredRecord path text stop])
    | .ok settings => (settings, [])

end Settings

end DiceLauncher
