import Federation.Failure
import Federation.Settings.Conversion
import Federation.Settings.KeyPath
import Federation.Settings.Sections
import Federation.Toml.Document

/-!
# Loading settings

Settings come from a file, and variables of the environment go over what the file says. The file is
the one that was named, or the one with the extension `toml` in place of its own.

A variable sets the value at a path: its name after a mark in front of it, with periods for double
low lines, in lower case. Its value is a text.

* `Settings.load_valid`: settings that were loaded are valid.
-/

namespace Federation

/-- Files with their contents, in one directory. -/
abbrev Files :=
  List (String × String)

namespace Files

/-- The parts of a path; the current directory is no part. -/
def parts (path : String) : List String :=
  ((path.toList.splitOn '/').map String.ofList).filter fun p => p ≠ "" && p ≠ "."

/-- Whether a path leads to a file and not to a directory or out of the directory. -/
def isPlain (path : String) : Bool :=
  match path.toList.splitOn '/' with
  | [] => false
  | segments =>
    segments.getLast? ≠ some [] && segments.getLast? ≠ some ['.'] &&
      (segments.head? ≠ some [] || segments.length = 1)

/-- Splits a name at its last period, which may not be its first character. -/
def splitName (name : String) : String × Option String :=
  let reversed := name.toList.reverse
  let extension := reversed.takeWhile (· ≠ '.')
  match reversed.drop extension.length with
  | [] => (name, none)
  | _ :: stem =>
    if stem.isEmpty then (name, none)
    else (String.ofList stem.reverse, some (String.ofList extension.reverse))

/-- The contents of the file with the given parts of its path. -/
def at? (files : Files) (path : List String) : Option String :=
  (files.find? fun f => parts f.1 = path).map Prod.snd

/-- The parts of a path with another extension. -/
def withExtension (extension : String) (path : List String) : Option (List String) :=
  match path.reverse with
  | [] => none
  | name :: rest =>
    if name = ".." then none
    else some ((((splitName name).1 ++ "." ++ extension) :: rest).reverse)

/-- The contents of the settings file that a path names. A file under this very path counts before
one with another extension, even if its own extension is of no use. -/
def settings? (files : Files) (path : String) : Option String :=
  let ps := parts path
  let exact := if isPlain path then files.at? ps else none
  match exact with
  | some contents =>
    match ps.getLast? with
    | some name => if (splitName name).2 = some "toml" then some contents else none
    | none => none
  | none =>
    if path.toList.head? = some '/' then none
    else (withExtension "toml" ps).bind files.at?

end Files

/-- Why settings cannot be loaded. -/
inductive LoadingError
  /-- There is no file to read, or it has another extension. -/
  | noFile
  /-- The file is no TOML document. -/
  | malformed
  /-- The settings cannot be read. -/
  | unreadable (e : SettingError)
  deriving DecidableEq

/-- Why there are no settings. -/
inductive SettingsError
  | loading (e : LoadingError)
  /-- The settings were read but are invalid. -/
  | invalid (violations : List Violation)
  deriving DecidableEq

namespace Settings

/-- The mark in front of the name of a variable, in lower case. -/
def mark : List Char :=
  "fedplan_".toList

/-- Replaces double low lines by periods. -/
def periods : List Char → List Char
  | '_' :: '_' :: rest => '.' :: periods rest
  | c :: rest => c :: periods rest
  | [] => []

/-- The path that a variable sets, if it sets one. -/
def variablePath? (name : String) : Option KeyPath :=
  let cs := name.toList
  if (cs.take mark.length).map Char.toLower = mark then
    some (.ofText (Lowercase.text (String.ofList (periods (cs.drop mark.length)))))
  else none

/-- Puts the entries of a file and then the variables over one another. -/
def overlay (entries : List (String × Setting)) (environment : List (String × String)) :
    Except Crash Setting := do
  let file ← entries.foldlM (fun root e => (KeyPath.ofText e.1).assign e.2 root) (.table [])
  let changes := environment.filterMap fun e => (variablePath? e.1).map (·, Setting.text e.2)
  changes.foldlM (fun root c => c.1.assign c.2 root) file

/-- How settings are read. -/
def readers : Readers Setting SettingError where
  word32 := Setting.toWord32
  word64 := Setting.toWord64
  flag := Setting.toFlag
  text := Setting.toText
  option := Setting.toOption
  list := Setting.toList
  record := Setting.readTable
  mismatch := .mismatch

/-- Loads the settings that a path names, without looking whether they are valid. -/
def read (files : Files) (path : String) (environment : List (String × String)) :
    Except (Failure LoadingError) Settings :=
  match files.settings? path with
  | none => .error (.error .noFile)
  | some text =>
    match Toml.Document.ofText? text with
    | none => .error (.error .malformed)
    | some entries =>
      match overlay entries environment with
      | .error c => .error (.crash c)
      | .ok root =>
        match Setting.readTable readers.settings root with
        | .error e => .error (.error (.unreadable e))
        | .ok s => .ok s

/-- Loads the settings that a path names. -/
def load (files : Files) (path : String) (environment : List (String × String)) :
    Except (Failure SettingsError) Settings :=
  match read files path environment with
  | .error (.error e) => .error (.error (.loading e))
  | .error (.crash c) => .error (.crash c)
  | .ok s => if s.violations = [] then .ok s else .error (.error (.invalid s.violations))

theorem load_valid {files : Files} {path : String} {environment : List (String × String)}
    {s : Settings} (h : load files path environment = .ok s) : s.violations = [] := by
  unfold load at h
  split at h
  · cases h
  · cases h
  · split at h
    · next hv =>
      cases h
      exact hv
    · cases h

end Settings

end Federation
