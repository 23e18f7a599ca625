import CrudScaffold.Command.Options
import CrudScaffold.Config.File
import CrudScaffold.Model.Host
import CrudScaffold.Generator
import CrudScaffold.Text.Blank

/-!
# Running the command line

A run reads its options, loads the settings file if one is named, loads the model and the
parent, and generates: one method under a new name when `-n` is given, else every listed
method (all of the controller kind when none is listed). The generated code goes to
standard output. Whether a request class exists is asked of the modules, by importing
them.

The exit code tells how it went: 0 when every method was generated, 2 when one failed or
the arguments cannot be read, and 4 when the input is wrong (a name for more or fewer than
one method, a settings file that cannot be used, a model that cannot be loaded, or, with
`-n`, a method that does not exist). A model whose metadata cannot be read gives 2 with
`-n`. A model given as an empty list of values (`-m--`) is no path, and fails once the
settings are loaded. A failure that is not the generator's own, such as a module that cannot be imported
while looking for a request class, ends the run without an exit code.
-/

namespace CrudScaffold.Command

open CrudScaffold.Config

/-- What a run ends with: its exit code and what it wrote to standard output. -/
structure Outcome where
  exitCode : Nat
  stdout : String
  deriving Repr

/-- Every method was generated. -/
def exitSuccess : Nat := 0

/-- A method failed, or the arguments cannot be read. -/
def exitGenerationError : Nat := 2

/-- The input cannot be used. -/
def exitInputError : Nat := 4

/-- The version line. -/
def versionText : String := "ctrlgen v0.1.0\n"

/-- The help text. -/
def helpText : String :=
  "usage: ctrlgen [-h] [--version] -m PATH [-p PATH] [--api] [--methods LIST]\n" ++
  "               [-n NAME] [-c PATH] [--summary] [-v]\n\n" ++
  "ctrlgen — Controller Method Generator.\n\n" ++
  "Generates view, redirect and API controller methods (plus the imports they need) from a model's metadata.\n\n" ++
  "options:\n" ++
  "  -h, --help            show this help message and exit\n" ++
  "  --version             show program's version number and exit\n" ++
  "  -m PATH, --model PATH\n" ++
  "                        Model to generate for, as 'package.module:ClassName'.\n\n" ++
  "generation:\n" ++
  "  -p PATH, --parent PATH\n" ++
  "                        Parent model, as 'package.module:ClassName'.\n" ++
  "  --api                 Generate API methods instead of web (view/redirect)\n" ++
  "                        methods.\n" ++
  "  --methods LIST        Comma-separated method names (default: all for the\n" ++
  "                        controller kind).\n" ++
  "  -n NAME, --method-name NAME\n" ++
  "                        Override the generated method's name (requires a\n" ++
  "                        single --methods entry).\n" ++
  "  -c PATH, --config PATH\n" ++
  "                        Generator configuration file (YAML or JSON).\n\n" ++
  "output:\n" ++
  "  --summary             Print the generation report to stderr.\n" ++
  "  -v, --verbose         Increase verbosity (-v = INFO, -vv = DEBUG).\n\n" ++
  "Examples:\n" ++
  "  ctrlgen -m app.models:BlogPost\n" ++
  "  ctrlgen -m app.models:Comment -p app.models:Post --api\n" ++
  "  ctrlgen -m app.models:BlogPost --methods store -n save\n"

/-- An option's text when it is given, is a text and is not empty. -/
def given (x : Option OptionValue) : Option String :=
  (x.bind OptionValue.text?).filter (!·.isEmpty)

/-- The method names of a `--methods` list: split at commas, trimmed, empty ones dropped. -/
def methodNames (x : Option OptionValue) : List String :=
  match given x with
  | none => []
  | some raw => ((raw.splitOn ",").map Text.trim).filter (!·.isEmpty)

/-- The content of the file at `path` among the files of the working directory, matched by
normal form of the path. -/
def fileContent (files : List (String × String)) (path : String) : Option String :=
  (files.find? fun (name, _) => normalPath name == normalPath path).map Prod.snd

/-- Ends a run with a code and no output. -/
def quit (code : Nat) : Outcome := ⟨code, ""⟩

/-- Generates for options whose inputs are loaded: the settings, the model, the parent, and
the modules as loading them left them. -/
def generateFor (o : Options) (settings : Settings) (host : Host) (model : Model)
    (parent : Option Model) : Except Failure Outcome := do
  let methods := methodNames o.methods
  let oracle : Method.Oracle := host.classExists
  let finish (r : Report) : Outcome :=
    ⟨if r.success then exitSuccess else exitGenerationError, r.render⟩
  match given o.methodName, methods with
  | some name, [method] =>
    match buildMethod settings method model parent o.api (some name) with
    | .error (.reflection _) => pure (quit exitGenerationError)
    | .error (.unknownMethod _ _) => pure (quit exitInputError)
    | .error e => throw e
    | .ok d => do
      let (m, _) ← generateMethod oracle d
      let model := (o.model.bind OptionValue.text?).getD ""
      pure (finish { model, parent := given o.parent, isApi := o.api, methods := [m] })
  | _, _ => do
    let (r, _) ← generate settings oracle model methods parent o.api
    pure (finish r)

/-- The settings a run uses: those of the named file, or the defaults. -/
def settingsFor (files : List (String × String)) (o : Options) : Except Failure Settings :=
  match given o.config with
  | some path => Settings.ofFile path (fileContent files path)
  | none => .ok {}

/-- The parent a run loads, if one is named, and the modules afterwards. -/
def parentFor (host : Host) (o : Options) : Except Failure (Option Model × Host) :=
  match given o.parent with
  | some path => do
    let (p, h) ← host.loadObject path
    pure (some p, h)
  | none => .ok (none, host)

/-- The settings, the model and the parent a run loads, in that order, and the modules
afterwards. -/
def loadInputs (files : List (String × String)) (host : Host) (o : Options) :
    Except Failure (Settings × Model × Option Model × Host) := do
  let settings ← settingsFor files o
  let (model, host) ← match o.model with
    | some .emptyList =>
      throw (.attributeError "\x27list\x27 object has no attribute \x27rpartition\x27")
    | m => host.loadObject ((m.bind OptionValue.text?).getD "")
  let (parent, host) ← parentFor host o
  pure (settings, model, parent, host)

/-- Runs the command with its options, in a working directory holding `files`, with the
modules of `host` importable. Settings and models that cannot be loaded end the run with
the input error code. -/
def runOptions (files : List (String × String)) (host : Host) (o : Options) :
    Except Failure Outcome :=
  if (given o.methodName).isSome && (methodNames o.methods).length != 1 then
    .ok (quit exitInputError)
  else
    match loadInputs files host o with
    | .error (.config _) | .error (.reflection _) => .ok (quit exitInputError)
    | .error e => .error e
    | .ok (settings, model, parent, host) => generateFor o settings host model parent

/-- Runs the command line `args`. -/
def run (files : List (String × String)) (host : Host) (args : List String) :
    Except Failure Outcome :=
  match Request.ofArgs args with
  | .usageError => .ok (quit exitGenerationError)
  | .help => .ok ⟨exitSuccess, helpText⟩
  | .version => .ok ⟨exitSuccess, versionText⟩
  | .run o => runOptions files host o

end CrudScaffold.Command
