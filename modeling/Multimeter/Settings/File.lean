import Multimeter.Files.Basic
import Multimeter.Notice
import Multimeter.Settings.Basic

/-!
# The settings file

A settings file that is missing means the default settings. Loading writes the settings straight
back, so that there is a file to edit afterwards; if that fails it is only noted.
-/

namespace Multimeter

inductive SettingsError
  | cannotRead (path : Path) (cause : FileError)
  | malformed (path : Path)
  | noDirectory (path : Path) (cause : FileError)
  | cannotCreate (path : Path) (cause : FileError)
  | cannotWrite (path : Path)
deriving DecidableEq, Repr

namespace SettingsError

def message : SettingsError → String
  | .cannotRead p _ => s!"Could not open daemon settings file for reading at {p.text}"
  | .malformed p => s!"Could not parse daemon settings file at {p.text}"
  | .noDirectory p _ => s!"Could not create settings directory at {p.text}"
  | .cannotCreate p _ => s!"Could not open daemon settings file for writing at {p.text}"
  | .cannotWrite p => s!"Could not write to daemon settings file at {p.text}"

/-- The error of the file system behind it, if there is one. -/
def cause? : SettingsError → Option FileError
  | .cannotRead _ e | .noDirectory _ e | .cannotCreate _ e => some e
  | .malformed _ | .cannotWrite _ => none

end SettingsError

namespace Settings

def read (fs : Files) (p : Path) : Except SettingsError Settings :=
  match fs.openForReading p with
  | .error .notFound => .ok {}
  | .error e => .error (.cannotRead p e)
  | .ok (.file contents) =>
    match ofFile? contents with
    | none => .error (.malformed p)
    | some s => .ok s
  | .ok _ => .error (.malformed p)

/-- Make the directories that the file is to be in. Something else in their place shows up when
the file is opened. -/
def prepare (fs : Files) (p : Path) : Except SettingsError Unit × Files :=
  match p.parent? with
  | none => (.ok (), fs)
  | some parent =>
    match fs.ensureDirectories parent with
    | (.ok _, fs) | (.error .alreadyExists, fs) => (.ok (), fs)
    | (.error e, fs) => (.error (.noDirectory parent e), fs)

def write (s : Settings) (fs : Files) (p : Path) : Except SettingsError Unit × Files :=
  match prepare fs p with
  | (.error e, fs) => (.error e, fs)
  | (.ok _, fs) =>
    match fs.openForWriting p with
    | .error e => (.error (.cannotCreate p e), fs)
    | .ok (place, fs) =>
      match fs.write? place (Text.Symbol.ofString s.fileText) with
      | none => (.error (.cannotWrite p), fs)
      | some fs => (.ok (), fs)

/-- Write the settings, and note a failure. -/
def save (s : Settings) (fs : Files) (p : Path) : List Notice × Files :=
  match s.write fs p with
  | (.error e, fs) => ([.saveFailed p.text e.message], fs)
  | (.ok _, fs) => ([], fs)

/-- Read the settings and write them back. -/
def load (fs : Files) (p : Path) : Except SettingsError Settings × List Notice × Files :=
  match read fs p with
  | .error e => (.error e, [], fs)
  | .ok s => (.ok s, s.save fs p)

end Settings

end Multimeter
