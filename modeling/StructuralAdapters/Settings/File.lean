import StructuralAdapters.Settings
import StructuralAdapters.Text.Blank
import StructuralAdapters.Toml.Reader

/-!
# Settings files

Settings may be written in a TOML document, in its table `synthesis`.

* `Settings.ofNode?`: the settings that the value of `synthesis` stands for;
* `Settings.parse`: the settings of a document;
* `Settings.load`, `Settings.loadOrDefault`: the settings of a file.

A setting that is not mentioned has its default, and names that are not known are passed over.
Instead of a table there may be an array, whose items are the settings in their order.
-/

namespace StructuralAdapters

/-- Why a document holds no settings. -/
inductive SettingsError where
  /-- It is malformed, or a setting has a value of the wrong kind. -/
  | malformed
  /-- The suffix of adapter types is blank. -/
  | blankSuffix
  deriving DecidableEq

/-- The message of the error. -/
def SettingsError.message : SettingsError → String
  | malformed => "failed to parse synthesis config"
  | blankSuffix => "`synthesis.adapter_suffix` must not be empty"

/-- Why the settings of a file cannot be loaded. -/
inductive SettingsFileError where
  /-- There is no such file, or its bytes are no text. -/
  | unreadable (path : String)
  /-- Its text holds no settings. -/
  | rejected (path : String) (cause : SettingsError)
  deriving DecidableEq

/-- The message of the error. -/
def SettingsFileError.message : SettingsFileError → String
  | unreadable path => "failed to read config file: " ++ path
  | rejected path _ => "failed to load config file: " ++ path

namespace Settings

open Toml (Node Table)

/-- A truth value, or the default where there is none. -/
def boolean? (default : Bool) : Option Node → Option Bool
  | none => some default
  | some (.boolean b) => some b
  | some _ => none

/-- A text, or the default where there is none. -/
def text? (default : String) : Option Node → Option String
  | none => some default
  | some (.text s) => some s
  | some _ => none

/-- The settings with these values, each of which may be left out. -/
def ofValues? (strictReturns adapterSuffix reportAllMissing : Option Node) : Option Settings := do
  let default : Settings := {}
  let strictReturns ← boolean? default.strictReturns strictReturns
  let adapterSuffix ← text? default.adapterSuffix adapterSuffix
  let reportAllMissing ← boolean? default.reportAllMissing reportAllMissing
  return { strictReturns, adapterSuffix, reportAllMissing }

/-- The settings that a node stands for.  A date stands for a table without any setting. -/
def ofNode? : Node → Option Settings
  | .table _ t =>
      ofValues? (Entries.get? "strict_returns" t) (Entries.get? "adapter_suffix" t)
        (Entries.get? "report_all_missing" t)
  | .array items => ofValues? items[0]? items[1]? items[2]?
  | .dateTime => some {}
  | _ => none

/-- The settings of a document. -/
def ofDocument? (document : Table) : Option Settings :=
  match Entries.get? "synthesis" document with
  | some node => ofNode? node
  | none => some {}

/-- The settings that a text stands for. -/
def parse (text : String) : Except SettingsError Settings :=
  match (Toml.read text).bind ofDocument? with
  | some settings =>
      if Text.isBlank settings.adapterSuffix then .error .blankSuffix else .ok settings
  | none => .error .malformed

/-- The settings of the file at `path`; `contents` are its bytes, if there is such a file. -/
def load (path : String) (contents : Option ByteArray) : Except SettingsFileError Settings :=
  match contents.bind String.fromUTF8? with
  | some text => (parse text).mapError (.rejected path)
  | none => .error (.unreadable path)

/-- The settings of the file, or the default ones if they cannot be loaded. -/
def loadOrDefault (path : String) (contents : Option ByteArray) : Settings :=
  match load path contents with
  | .ok settings => settings
  | .error _ => {}

end Settings

end StructuralAdapters
