import HttpQuery.Config.Decode
import HttpQuery.Config.FileTree
/-! # Where settings are looked up

Settings are read from one file: the one that is named explicitly, or else the first that exists of
the local file and the file in the user's configuration directory. A file that cannot be read, or is
no valid configuration, is an error, and no other file is tried. Without any file the defaults
apply.

* `searchPaths`: the files that are looked for.
* `Settings.load`: the settings by the state of the files. -/

namespace HttpQuery

open Text

/-- **The state of the files**: what stands under each path. A tree of files has the state
`FileTree.entryAt`. -/
abbrev FileState := String → PathEntry

/-- Why a file cannot be read. -/
inductive FileError where
  | absent (why : PathObstacle)
  | isDirectory
  | notText
deriving DecidableEq, Repr

/-- The wording of each cause. -/
def FileError.message : FileError → String
  | .absent .missing => "No such file or directory (os error 2)"
  | .absent .notDirectory => "Not a directory (os error 20)"
  | .absent .tooLong => "File name too long (os error 36)"
  | .absent .zero => "file name contained an unexpected NUL byte"
  | .isDirectory => "Is a directory (os error 21)"
  | .notText => "stream did not contain valid UTF-8"

/-- **Why there are no settings.** -/
inductive SettingsError where
  | unreadable (cause : FileError)
  | malformed
deriving DecidableEq, Repr

/-- The wording of each cause. -/
def SettingsError.message : SettingsError → String
  | .unreadable cause => "IO error: " ++ cause.message
  | .malformed => "Configuration error: the file is no valid configuration"

/-- The environment that the user's configuration directory depends on. -/
structure UserDirectories where
  /-- The configuration directory that is set explicitly, if any. -/
  config : Option String
  /-- The home directory, if there is one. -/
  home : Option String
deriving DecidableEq, Repr

/-- A path within a directory. -/
def joinPath (directory name : String) : String :=
  if directory.endsWith "/" then directory ++ name else directory ++ "/" ++ name

/-- The user's configuration directory: the one that is set, if its path is absolute, or else the
usual place in the home directory. -/
def UserDirectories.configDirectory (dirs : UserDirectories) : Option String :=
  let usual := dirs.home.map fun home => joinPath home ".config"
  match dirs.config with
  | some path => if path.startsWith "/" then some path else usual
  | none => usual

/-- The name of the local file. -/
def localFile : String := "sqlreq.toml"

/-- The user's file in a configuration directory. -/
def userFile (directory : String) : String := joinPath (joinPath directory "sqlreq") "config.toml"

/-- **The files that are looked for**, in order. -/
def searchPaths (dirs : UserDirectories) : List String :=
  localFile :: (dirs.configDirectory.map userFile).toList

/-- The text of a file. -/
def readFile (files : FileState) (path : String) : Except SettingsError String :=
  match files path with
  | .absent why => .error (.unreadable (.absent why))
  | .directory => .error (.unreadable .isDirectory)
  | .file content =>
    match decodeUtf8? content with
    | none => .error (.unreadable .notText)
    | some text => .ok text

namespace Settings

/-- The settings of a text. -/
def ofText (text : String) : Except SettingsError Settings :=
  match ofToml? text with
  | none => .error .malformed
  | some settings => .ok settings

/-- The settings of one file. -/
def ofFile (files : FileState) (path : String) : Except SettingsError Settings := do
  let text ← readFile files path
  ofText text

/-- **The settings by the state of the files.** -/
def load (files : FileState) (dirs : UserDirectories) (explicit : Option String) :
    Except SettingsError Settings :=
  match explicit with
  | some path => ofFile files path
  | none =>
    match (searchPaths dirs).find? fun path => (files path).isPresent with
    | some path => ofFile files path
    | none => .ok {}

end Settings

end HttpQuery
