import HttpQuery.Config.Lookup

/-! # The file that settings are read from

Settings come from one file: the one that is named explicitly, or else the first that exists of the
files that are looked for. What stands under its path decides alone. If nothing can be read there,
or no settings are written there, this is an error, whatever stands under the paths after it;
nothing is taken from two files.

* `Gives`: what an entry gives when settings are read from it, and `Gives.unique`.
* `gives_ofFile`, `ofFile_eq_iff`: the settings of a file are what its entry gives.
* `load_of_first`, `load_of_absent`: the first file that exists is read, or none.
* `load_first_hit`: the settings by the state of the files. -/

namespace HttpQuery.Settings

open Text

/-- **What an entry gives** when settings are read from it. -/
inductive Gives : PathEntry → Except SettingsError Settings → Prop
  | absent (why : PathObstacle) : Gives (.absent why) (.error (.unreadable (.absent why)))
  | directory : Gives .directory (.error (.unreadable .isDirectory))
  | notText {content : Bytes} (hcontent : decodeUtf8? content = none) :
      Gives (.file content) (.error (.unreadable .notText))
  | malformed {content : Bytes} {text : String} (hcontent : decodeUtf8? content = some text)
      (htext : ofToml? text = none) : Gives (.file content) (.error .malformed)
  | settings {content : Bytes} {text : String} {settings : Settings}
      (hcontent : decodeUtf8? content = some text) (htext : ofToml? text = some settings) :
      Gives (.file content) (.ok settings)

variable {files others : FileState} {dirs : UserDirectories} {path : String}
  {before after : List String} {entry : PathEntry} {result other : Except SettingsError Settings}

/-- An entry gives one result. -/
theorem Gives.unique (h : Gives entry result) (hother : Gives entry other) : result = other := by
  cases h <;> cases hother <;> simp_all

/-- **The settings of a file are what its entry gives.** -/
theorem gives_ofFile (files : FileState) (path : String) :
    Gives (files path) (ofFile files path) := by
  rw [ofFile, readFile]
  cases files path with
  | absent why => exact .absent why
  | directory => exact .directory
  | file content =>
    cases hcontent : decodeUtf8? content with
    | none =>
      simp only [hcontent]
      exact .notText hcontent
    | some text =>
      simp only [hcontent, bind, Except.bind, ofText]
      cases htext : ofToml? text with
      | none => exact .malformed hcontent htext
      | some settings => exact .settings hcontent htext

theorem ofFile_eq_iff : ofFile files path = result ↔ Gives (files path) result :=
  ⟨fun h => h ▸ gives_ofFile files path, fun h => (gives_ofFile files path).unique h⟩

/-- The settings of a file are decided by what stands under its path. -/
theorem ofFile_congr (h : others path = files path) : ofFile others path = ofFile files path :=
  ofFile_eq_iff.2 (h ▸ gives_ofFile files path)

/-! ### The file that is chosen -/

/-- **The first file that exists is read.** -/
theorem load_of_first (hpaths : searchPaths dirs = before ++ path :: after)
    (hbefore : ∀ p ∈ before, (files p).isPresent = false) (hpath : (files path).isPresent = true) :
    load files dirs none = ofFile files path := by
  have hfind : (searchPaths dirs).find? (fun p => (files p).isPresent) = some path :=
    List.find?_eq_some_iff_append.2
      ⟨hpath, before, after, hpaths, fun p hp => by rw [hbefore p hp]; rfl⟩
  rw [load, hfind]

/-- **The defaults apply** if no file exists. -/
theorem load_of_absent (h : ∀ p ∈ searchPaths dirs, (files p).isPresent = false) :
    load files dirs none = .ok {} := by
  have hfind : (searchPaths dirs).find? (fun p => (files p).isPresent) = none :=
    List.find?_eq_none.2 fun p hp => by rw [h p hp]; exact Bool.false_ne_true
  rw [load, hfind]

/-- **The settings are read from one file.** A file that is named explicitly is the one, whatever
the other files and the environment are. Otherwise it is the first that exists of the local file and
the file in the user's configuration directory, if there is such a directory: what stands there is
the result, also if it is an error, and nothing that stands under the paths after it counts. If none
of these files exists, the defaults apply. -/
theorem load_first_hit (files : FileState) (dirs : UserDirectories) :
    (∀ path, (∀ result, load files dirs (some path) = result ↔ Gives (files path) result) ∧
        ∀ others more, others path = files path →
          load others more (some path) = load files dirs (some path)) ∧
      searchPaths dirs = localFile :: (dirs.configDirectory.map userFile).toList ∧
      (∀ before path after, searchPaths dirs = before ++ path :: after →
        (∀ p ∈ before, (files p).isPresent = false) → (files path).isPresent = true →
          (∀ result, load files dirs none = result ↔ Gives (files path) result) ∧
            ∀ others, (∀ p ∈ before, others p = files p) → others path = files path →
              load others dirs none = load files dirs none) ∧
      ((∀ p ∈ searchPaths dirs, (files p).isPresent = false) → load files dirs none = .ok {}) := by
  refine ⟨fun path => ⟨fun result => ofFile_eq_iff, fun others more => ofFile_congr⟩, rfl,
    fun before path after hpaths hbefore hpath => ?_, load_of_absent⟩
  rw [load_of_first hpaths hbefore hpath]
  refine ⟨fun result => ofFile_eq_iff, fun others hsameBefore hsame => ?_⟩
  have hload : load others dirs none = ofFile others path :=
    load_of_first hpaths (fun p hp => by rw [hsameBefore p hp, hbefore p hp]) (by rw [hsame, hpath])
  rw [hload, ofFile_congr hsame]

/-- Directories of a user without a home. -/
def homeless : UserDirectories := ⟨some "/c", none⟩

/-- Files with an entry for the local file and settings in the file of this user. -/
def besideUser (entry : PathEntry) : FileState := fun path =>
  if path = localFile then entry
  else if path = userFile "/c" then .file (utf8Bytes "[http]\nuser_agent = \"me\"")
  else .absent .missing

/-- A local file that is broken or a directory is an error beside the user's settings, which are
read if there is no local file, and not if another file is named. -/
theorem load_first_hit_besideUser :
    load (besideUser (.file (utf8Bytes "user_agent"))) homeless none = .error .malformed ∧
      load (besideUser .directory) homeless none = .error (.unreadable .isDirectory) ∧
      load (besideUser (.absent .missing)) homeless none = .ok { userAgent := some "me" } ∧
      load (besideUser .directory) homeless (some "/x") =
        .error (.unreadable (.absent .missing)) := by
  have hpaths : searchPaths homeless = [] ++ localFile :: [userFile "/c"] := by decide +kernel
  refine ⟨?_, ?_, ?_, ?_⟩
  · obtain ⟨-, -, hfirst, -⟩ :=
      load_first_hit (besideUser (.file (utf8Bytes "user_agent"))) homeless
    have htext : decodeUtf8? (utf8Bytes "user_agent") = some "user_agent" := by decide +kernel
    exact ((hfirst _ _ _ hpaths nofun rfl).1 _).2 (.malformed htext (by decide +kernel))
  · obtain ⟨-, -, hfirst, -⟩ := load_first_hit (besideUser .directory) homeless
    exact ((hfirst _ _ _ hpaths nofun rfl).1 _).2 .directory
  · obtain ⟨-, -, hfirst, -⟩ := load_first_hit (besideUser (.absent .missing)) homeless
    have huser : besideUser (.absent .missing) (userFile "/c") =
        .file (utf8Bytes "[http]\nuser_agent = \"me\"") := by decide +kernel
    refine ((hfirst [localFile] (userFile "/c") [] (by decide +kernel) (by decide)
      (by rw [huser]; rfl)).1 _).2 ?_
    have htext : decodeUtf8? (utf8Bytes "[http]\nuser_agent = \"me\"") =
        some "[http]\nuser_agent = \"me\"" := by decide +kernel
    rw [huser]
    exact .settings htext (by decide +kernel)
  · obtain ⟨hexplicit, -⟩ := load_first_hit (besideUser .directory) homeless
    have hnone : besideUser .directory "/x" = .absent .missing := by decide +kernel
    refine ((hexplicit "/x").1 _).2 ?_
    rw [hnone]
    exact .absent .missing

end HttpQuery.Settings
