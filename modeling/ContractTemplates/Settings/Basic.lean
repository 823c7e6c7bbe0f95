import ContractTemplates.Compile.Compiler
import ContractTemplates.Datum
import ContractTemplates.Json.Reader
import ContractTemplates.Settings.EnvironmentFile
import ContractTemplates.Text.Lowercase
import ContractTemplates.Validation.Scalar

namespace ContractTemplates

/-!
# Settings

Settings come from environment variables whose names begin with `CONTRACTS_`, in
any capitals, and where a variable is not set from an environment file. What is
set nowhere keeps its default. Names without a meaning are ignored.
-/

/-- The settings of the service. -/
structure Settings where
  environment : Text
  databaseUrl : Text
  logLevel : Text
  templatesDirectory : Path
  compilerCommand : Text
  fontPaths : List Path
  compileTimeout : Number
  /-- The directory for compile jobs, if one is set. -/
  compileDirectory : Option Path
  enforceRequired : Bool
  allowUnpublished : Bool
  deriving DecidableEq, Repr

/-- Why there are no settings. -/
inductive SettingsError where
  /-- A list is not written as JSON. -/
  | badList
  | invalid (issues : List Issue)
  deriving DecidableEq, Repr

namespace Settings

/-- The settings if nothing is set. -/
def standard : Settings where
  environment := "development".toList
  databaseUrl := "sqlite+aiosqlite:///./contracts.db".toList
  logLevel := "INFO".toList
  templatesDirectory := Path.ofText "templates".toList
  compilerCommand := "typst".toList
  fontPaths := []
  compileTimeout := .double (Binary64.ofInt 30)
  compileDirectory := none
  enforceRequired := true
  allowUnpublished := true

/-- What the names of all variables begin with, in lower case. -/
def variablePrefix : Text :=
  "contracts_".toList

/-- The variables by their names in lower case; the last of a name counts. -/
def byLoweredName (bindings : List (Text × Option Text)) :
    List (Text × Option Text) :=
  Entries.collect (bindings.map fun (name, value) => (name.lowercase, value))

/-- The value of a variable in one source. -/
def value? (source : List (Text × Option Text)) (name : Text) : Option Text :=
  (Entries.find? source (variablePrefix ++ name)).join

/-- The value of a variable in the first source that has one. -/
def sourced (sources : List (List (Text × Option Text))) (name : Text) :
    Option Text :=
  sources.findSome? fun source => value? source name

/-- A list that is written as JSON; null counts as not set. -/
def listValue (source : List (Text × Option Text)) (name : Text) :
    Except SettingsError (Option Json) :=
  match value? source name with
  | none => .ok none
  | some text =>
      match Json.read text with
      | .ok .null => .ok none
      | .ok found => .ok (some found)
      | .error _ => .error .badList

/-- A path from a JSON value. -/
def checkPath : Json → Checked Path
  | .string text => .ok (Path.ofText text.shown)
  | _ => Checked.fail .notPath

/-- A list of paths from a JSON value. -/
def checkPaths : Json → Checked (List Path)
  | .array items => Checked.items checkPath items
  | _ => Checked.fail .notList

/-- The list of directories with fonts, from the first source that has one. -/
def checkFontPaths (name : Text) : Option Json → Checked (List Path)
  | none => .ok standard.fontPaths
  | some found => Checked.within (.field name) (checkPaths found)

/-- A setting of a checked kind, or its default if it is not set. -/
def checkSetting
    (sources : List (List (Text × Option Text)))
    (name : Text)
    (absent : α)
    (check : Datum → Checked α) :
    Checked α :=
  match sourced sources name with
  | none => .ok absent
  | some text => Checked.within (.field name) (check (.string text))

/-- A number of seconds. -/
def checkSeconds (datum : Datum) : Checked Number :=
  (Validation.double datum).map .double

/-- The settings that two sources give; the first comes before the second. -/
def ofSources (first second : List (Text × Option Text)) :
    Except SettingsError Settings := do
  let sources := [first, second]
  let fontName := "typst_font_paths".toList
  let firstFonts ← listValue first fontName
  let secondFonts ← listValue second fontName
  let text := fun (name : String) => sourced sources name.toList
  let path := fun (name : String) => (text name).map Path.ofText
  let flag := fun (name : String) (absent : Bool) =>
    checkSetting sources name.toList absent Validation.boolean
  let checked :=
    (checkFontPaths fontName (firstFonts.or secondFonts)).both
      ((checkSetting sources "compile_timeout".toList standard.compileTimeout
          checkSeconds).both
        ((flag "enforce_required_variables" standard.enforceRequired).both
          (flag "allow_unpublished_compile" standard.allowUnpublished)))
  match checked with
  | .error issues => .error (.invalid issues)
  | .ok (fontPaths, compileTimeout, enforceRequired, allowUnpublished) =>
      .ok {
        environment := (text "env").getD standard.environment
        databaseUrl := (text "database_url").getD standard.databaseUrl
        logLevel := (text "log_level").getD standard.logLevel
        templatesDirectory :=
          (path "templates_dir").getD standard.templatesDirectory
        compilerCommand :=
          (text "typst_binary").getD standard.compilerCommand
        compileDirectory := path "compile_workdir"
        fontPaths
        compileTimeout
        enforceRequired
        allowUnpublished }

/-- The settings from the environment and from the text of an environment file. -/
def read (environment : List (Text × Text)) (file : Option Text) :
    Except SettingsError Settings :=
  let values := environment.map fun (name, value) => (name, some value)
  let lines := (file.map (EnvironmentFile.read environment)).getD []
  ofSources (byLoweredName values) (byLoweredName lines)

/-- The directory for compile jobs if none is set. -/
def temporaryDirectory : Path :=
  Path.ofText "/tmp".toList

/-- The compiler that the settings describe. -/
def compiler (settings : Settings) : Compiler where
  command := [settings.compilerCommand]
  timeout := settings.compileTimeout
  workdir := settings.compileDirectory.getD temporaryDirectory
  fontPaths := settings.fontPaths

end Settings

end ContractTemplates
