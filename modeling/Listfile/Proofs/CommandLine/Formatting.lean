import Listfile.CommandLine.Run
import Listfile.Proofs.CommandLine.Storing
import Listfile.Proofs.Layout.Idempotence
import Listfile.Proofs.Outcome
import Listfile.Proofs.Text.Decoding

/-!
# Formatting a file from the command line

* `formatArguments`, `ofArguments_formatArguments`: the arguments with which a file is formatted.
* `run_format_of_ok`, `run_format_of_error`: what is shown and what is written, in each mode.
* `settingsFor_congr`: settings only depend on the files that they are read from.
* `Modes`: what formatting a file in each mode comes to.
* **`formatFile_modes`**: the modes agree on the formatted text, and a text that is refused stays as it is.
-/

namespace Listfile.CommandLine

open Config

/-! ### Arguments -/

/-- The options that ask for a mode. -/
def Mode.options : Mode → List String
  | print => []
  | check => ["--check"]
  | write => ["--write"]

/-- The arguments that ask to format a file. -/
def formatArguments (config : Option String) (mode : Mode) (path : String) : List String :=
  (config.map ("--config=" ++ ·)).toList ++ "format" :: (mode.options ++ ["--", path])

theorem commandRequest_format (config : Option String) (mode : Mode) (path : String) :
    commandRequest config "format" (mode.options ++ ["--", path])
      = .perform ⟨config, .format path mode⟩ := by
  cases mode with
  | print => rfl
  | check => rfl
  | write => rfl

theorem shapeOf_config (value : String) :
    shapeOf ("--config=" ++ value) = .long ("config=".toList ++ value.toList) := by
  rw [shapeOf, String.toList_append]
  rfl

theorem addLong_config (value : String) :
    addLong [configFlag, helpFlag, versionFlag] ⟨[], []⟩ ("config=".toList ++ value.toList)
      = .ok (⟨[("config", value)], []⟩, none) := by
  have hread : addLong [configFlag, helpFlag, versionFlag] ⟨[], []⟩ ("config=".toList ++ value.toList)
      = .ok (⟨[("config", String.ofList value.toList)], []⟩, none) := rfl
  rw [hread, String.ofList_toList]

/-- The arguments ask for what they are meant to. -/
theorem ofArguments_formatArguments (config : Option String) (mode : Mode) (path : String) :
    Request.ofArguments (formatArguments config mode path) = .perform ⟨config, .format path mode⟩ := by
  cases config with
  | none => exact commandRequest_format none mode path
  | some value =>
    have hread : readArguments [configFlag, helpFlag, versionFlag] .stop none ⟨[], []⟩
        (formatArguments (some value) mode path)
        = .ok (⟨[("config", value)], []⟩, "format" :: (mode.options ++ ["--", path])) := by
      show readArguments _ _ _ _ (("--config=" ++ value) :: "format" :: (mode.options ++ ["--", path])) = _
      unfold readArguments
      rw [shapeOf_config]
      dsimp only
      rw [addLong_config]
      rfl
    unfold Request.ofArguments
    rw [hread]
    exact commandRequest_format (some value) mode path

/-! ### Runs -/

section
variable {read : ReadFile} {config : Option String} {path : String} {source text : List Char}
variable {settings : Settings}

/-- What is shown and written of a formatted text. -/
def Mode.outcome (path : String) (source text : List Char) : Mode → Outcome
  | print => .shown text
  | check => if text = source then .shown [] else ⟨1, [], path.toList ++ " is not formatted\n".toList, none⟩
  | write => if text = source then .shown [] else ⟨0, [], [], some (path, encodeUtf8 text)⟩

theorem format_eq (hsource : readSource read path = .ok source) (mode : Mode) :
    format read settings path mode
      = ((Layout.format settings.style source).mapError (faultMessage path source)).map
          (mode.outcome path source) := by
  rw [format, hsource]
  show (((Layout.format settings.style source).mapError (faultMessage path source)).bind _ :
    Except (List Char) Outcome) = _
  cases Layout.format settings.style source with
  | error fault => rfl
  | ok text =>
    cases mode with
    | print => rfl
    | check =>
      show (if text = source then Except.ok _ else Except.ok _) = Except.ok (Mode.check.outcome path source text)
      unfold Mode.outcome
      split <;> rfl
    | write =>
      show (if text = source then Except.ok _ else Except.ok _) = Except.ok (Mode.write.outcome path source text)
      unfold Mode.outcome
      split <;> rfl

/-- A request to format a file shows or writes the text that is returned for it. -/
theorem run_format_of_ok (hsource : readSource read path = .ok source)
    (hsettings : settingsFor read config = .ok settings)
    (hformat : Layout.format settings.style source = .ok text) (mode : Mode) :
    (Request.ofArguments (formatArguments config mode path)).run read = mode.outcome path source text := by
  have hrun : (settingsFor read config >>= fun settings => (Action.format path mode).run read settings)
      = .ok (mode.outcome path source text) := by
    rw [hsettings]
    show format read settings path mode = _
    rw [format_eq hsource, hformat]
    rfl
  rw [ofArguments_formatArguments, Request.run, Invocation.run, hrun]

/-- A request to format a file tells why there is no text for it. -/
theorem run_format_of_error {fault : Tree.Fault} (hsource : readSource read path = .ok source)
    (hsettings : settingsFor read config = .ok settings)
    (hformat : Layout.format settings.style source = .error fault) (mode : Mode) :
    (Request.ofArguments (formatArguments config mode path)).run read
      = .failed (faultMessage path source fault) := by
  have hrun : (settingsFor read config >>= fun settings => (Action.format path mode).run read settings)
      = .error (faultMessage path source fault) := by
    rw [hsettings]
    show format read settings path mode = _
    rw [format_eq hsource, hformat]
    rfl
  rw [ofArguments_formatArguments, Request.run, Invocation.run, hrun]

end

/-! ### Files -/

/-- The files after a run of the program. -/
def Files.after (fs : Files) (outcome : Outcome) : Files :=
  match outcome.written with
  | none => fs
  | some (path, bytes) => fs.write path bytes

/-- The files that settings may be read from. -/
def configPaths : Option String → List String
  | none => []
  | some path => path :: ((addExtension? ".toml".toList path.toList).map String.ofList).toList

/-- Format a file: what is shown, and the files afterwards. -/
def formatFile (fs : Files) (config : Option String) (mode : Mode) (path : String) : Outcome × Files :=
  let outcome := (Request.ofArguments (formatArguments config mode path)).run fs.read
  (outcome, fs.after outcome)

section
variable {fs : Files} {config : Option String} {path : String} {bytes : List UInt8}
variable {source text : List Char} {settings : Settings}

/-- Settings only depend on the files that they are read from. -/
theorem settingsFor_congr {read read' : ReadFile} (h : ∀ p ∈ configPaths config, read' p = read p) :
    settingsFor read' config = settingsFor read config := by
  cases config with
  | none => rfl
  | some path =>
    have hconfig : readConfig read' path = readConfig read path := by
      unfold readConfig
      rw [h path (.head _)]
      split
      · rfl
      · cases hextended : addExtension? ".toml".toList path.toList with
        | none => rfl
        | some extended =>
          have hmem : String.ofList extended ∈ configPaths (some path) := by
            rw [configPaths, hextended]
            exact .tail _ (.head _)
          show (decodeUtf8? =<< (read' (String.ofList extended)).toOption) = _
          rw [h _ hmem]
          rfl
    show (Settings.load [.file true (readConfig read' path)]).mapError _ = _
    rw [hconfig]
    rfl

theorem readSource_of_read (hread : fs.read path = .ok bytes) (htext : decodeUtf8? bytes = some source) :
    readSource fs.read path = .ok source := by
  unfold readSource readText
  simp only [hread, bind, Except.bind, htext]
  rfl

/-- What formatting a file in each mode comes to if `text` is returned for what it holds, `source`. -/
structure Modes (fs : Files) (config : Option String) (path : String) (settings : Settings)
    (source text : List Char) : Prop where
  /-- Without options the formatted text is shown, and the files stay as they are. -/
  print : (formatFile fs config .print path).1.exit = 0 ∧ (formatFile fs config .print path).1.stdout = text ∧
    (formatFile fs config .print path).2 = fs
  /-- A check succeeds exactly if the text is formatted already, and the files stay as they are. -/
  check : (formatFile fs config .check path).1.exit = (if text = source then 0 else 1) ∧
    (formatFile fs config .check path).1.stdout = [] ∧ (formatFile fs config .check path).2 = fs
  /-- To write the file succeeds and shows nothing; then the file holds the formatted text. -/
  write : (formatFile fs config .write path).1.exit = 0 ∧ (formatFile fs config .write path).1.stdout = [] ∧
    (formatFile fs config .write path).2.read path = .ok (encodeUtf8 text)
  /-- Other files stay as they are when it is written. -/
  others : ∀ p, fs.locate p ≠ fs.locate path → (formatFile fs config .write path).2.read p = fs.read p
  /-- Then a check succeeds, and to write the file again changes nothing.  The settings have to be those that were
  in force: either they are read from other files, or what was written does not change them. -/
  again : (∀ p ∈ configPaths config, fs.locate p ≠ fs.locate path) ∨
      settingsFor (formatFile fs config .write path).2.read config = .ok settings →
    (formatFile (formatFile fs config .write path).2 config .check path).1.exit = 0 ∧
      (formatFile (formatFile fs config .write path).2 config .write path).1.exit = 0 ∧
      (formatFile (formatFile fs config .write path).2 config .write path).2
        = (formatFile fs config .write path).2

theorem formatFile_eq (hread : fs.read path = .ok bytes) (htext : decodeUtf8? bytes = some source)
    (hsettings : settingsFor fs.read config = .ok settings)
    (hformat : Layout.format settings.style source = .ok text) (mode : Mode) :
    formatFile fs config mode path = (mode.outcome path source text, fs.after (mode.outcome path source text)) := by
  rw [formatFile, run_format_of_ok (readSource_of_read hread htext) hsettings hformat]

theorem modes_of_format (hread : fs.read path = .ok bytes) (htext : decodeUtf8? bytes = some source)
    (hsettings : settingsFor fs.read config = .ok settings)
    (hformat : Layout.format settings.style source = .ok text) : Modes fs config path settings source text := by
  have hmode := formatFile_eq hread htext hsettings hformat
  have hwrite : (formatFile fs config .write path).1.exit = 0 ∧ (formatFile fs config .write path).1.stdout = [] ∧
      (formatFile fs config .write path).2.read path = .ok (encodeUtf8 text) := by
    rw [hmode, Mode.outcome]
    split
    · rename_i hsame
      refine ⟨rfl, rfl, ?_⟩
      rw [hsame, ← decodeUtf8?_eq_some_iff.1 htext]
      exact hread
    · exact ⟨rfl, rfl, Files.read_write hread _⟩
  have hothers : ∀ p, fs.locate p ≠ fs.locate path →
      (formatFile fs config .write path).2.read p = fs.read p := by
    intro p hp
    rw [hmode, Mode.outcome]
    split
    · rfl
    · exact Files.read_write_of_ne hp _
  refine ⟨?_, ?_, hwrite, hothers, ?_⟩
  · rw [hmode]
    exact ⟨rfl, rfl, rfl⟩
  · rw [hmode, Mode.outcome]
    split <;> exact ⟨rfl, rfl, rfl⟩
  · intro hforce
    have hsettings' : settingsFor (formatFile fs config .write path).2.read config = .ok settings := by
      rcases hforce with helse | hsame
      · rw [settingsFor_congr fun p hp => hothers p (helse p hp)]
        exact hsettings
      · exact hsame
    -- the text that was written is formatted already, so nothing is left to do
    have hagain := formatFile_eq hwrite.2.2 (decodeUtf8?_eq_some_iff.2 rfl) hsettings'
      (Layout.format_of_format hformat)
    rw [hagain, hagain, Mode.outcome, Mode.outcome, if_pos rfl, if_pos rfl]
    exact ⟨rfl, rfl, rfl⟩

/-- **The modes agree, and failing leaves files as they are.**  Let a file hold the bytes of a text, and let there
be valid settings.  If a text is returned for it, that one is what is shown, compared and written; if it cannot be
parsed, then in any mode the program fails, shows nothing and changes no file. -/
theorem formatFile_modes (hread : fs.read path = .ok bytes) (htext : decodeUtf8? bytes = some source)
    (hsettings : settingsFor fs.read config = .ok settings) :
    (∀ text, Layout.format settings.style source = .ok text → Modes fs config path settings source text) ∧
      ∀ fault, Tree.File.parse source = .error fault → ∀ mode,
        (formatFile fs config mode path).1.exit = 1 ∧ (formatFile fs config mode path).1.stdout = [] ∧
          (formatFile fs config mode path).2 = fs := by
  refine ⟨fun text hformat => modes_of_format hread htext hsettings hformat, ?_⟩
  intro fault hparse mode
  have hformat : Layout.format settings.style source = .error fault := by
    rw [Layout.format, hparse]
    rfl
  rw [formatFile, run_format_of_error (readSource_of_read hread htext) hsettings hformat]
  exact ⟨rfl, rfl, rfl⟩

end

/-- A file to format, one that cannot be parsed, and one with settings. -/
def project : Files :=
  ⟨[(["CMakeLists.txt".toList], encodeUtf8 "a( é )\n\n\nb()".toList),
    (["open.cmake".toList], encodeUtf8 "a(".toList),
    (["conf".toList, "format.toml".toList], encodeUtf8 "[formatting]\nmax_blank_lines = 0\n".toList)]⟩

/-- A file that is formatted without blank lines, by settings in another file, and one that is refused. -/
theorem formatFile_modes_project :
    ∃ settings, settingsFor project.read (some "conf/format.toml") = .ok settings ∧
      (∃ text, Layout.format settings.style "a( é )\n\n\nb()".toList = .ok text ∧
        Modes project (some "conf/format.toml") "CMakeLists.txt" settings "a( é )\n\n\nb()".toList text ∧
        text = "a(é)\nb()\n".toList) ∧
      (∀ p ∈ configPaths (some "conf/format.toml"), project.locate p ≠ project.locate "CMakeLists.txt") ∧
      (formatFile project (some "conf/format.toml") .write "open.cmake").1.exit = 1 ∧
      (formatFile project (some "conf/format.toml") .write "open.cmake").2 = project := by
  have hread : project.read "CMakeLists.txt" = .ok (encodeUtf8 "a( é )\n\n\nb()".toList) := rfl
  have hopen : project.read "open.cmake" = .ok (encodeUtf8 "a(".toList) := rfl
  have hconfig : project.read "conf/format.toml"
      = .ok (encodeUtf8 "[formatting]\nmax_blank_lines = 0\n".toList) := rfl
  have hload : Settings.load [.file true (some "[formatting]\nmax_blank_lines = 0\n".toList)]
      = .ok ⟨{ maxBlankLines := 0 }, "tag"⟩ := by
    decide +kernel
  have hsettings : settingsFor project.read (some "conf/format.toml") = .ok ⟨{ maxBlankLines := 0 }, "tag"⟩ := by
    show (Settings.load [.file true (readConfig project.read "conf/format.toml")]).mapError _ = _
    rw [readConfig, hconfig]
    show (Settings.load [.file true (decodeUtf8? _)]).mapError _ = _
    rw [decodeUtf8?_eq_some_iff.2 rfl, hload]
    rfl
  have hformat : Layout.format { maxBlankLines := 0 } "a( é )\n\n\nb()".toList = .ok "a(é)\nb()\n".toList := by
    decide +kernel
  have hmodes := (formatFile_modes hread (decodeUtf8?_eq_some_iff.2 rfl) hsettings).1 _ hformat
  have hrefused := (formatFile_modes hopen (decodeUtf8?_eq_some_iff.2 rfl) hsettings).2
  cases hparse : Tree.File.parse "a(".toList with
  | ok f =>
    have hok : (Tree.File.parse "a(".toList).isOk = false := by decide +kernel
    rw [hparse] at hok
    cases hok
  | error fault =>
    obtain ⟨hexit, -, hsame⟩ := hrefused fault hparse .write
    exact ⟨_, hsettings, ⟨_, hformat, hmodes, rfl⟩, by decide +kernel, hexit, hsame⟩

end Listfile.CommandLine
