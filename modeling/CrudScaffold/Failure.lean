import CrudScaffold.Config.Validate

/-!
# Failures

Why an operation of the generator stops. Three kinds are the generator's own and are reported
per method by a generation run: a model whose metadata cannot be read, a method name that no
controller has, and settings that cannot be used. The others come from the models, modules and files
the generator is given: a table getter that raises, a data file that names a value that
does not exist, and modules that cannot be imported.
-/

namespace CrudScaffold

/-- The two formats a settings file may have. -/
inductive FileFormat where
  | json
  | yaml
  deriving DecidableEq, Repr

/-- Why settings could not be used: the mapping was checked and refused, no file has the path,
the file is not text of its format, or it holds something other than a mapping (`kind`). -/
inductive ConfigProblem where
  | invalid (issues : List Config.Issue)
  | notFound (path : String)
  | unparsable (path : String) (format : FileFormat)
  | notMapping (path : String) (kind : String)
  deriving Repr

/-- Why an operation stopped: the generator's own three failures (`reflection`, `unknownMethod`,
`config`), identifiers asked for before a method prepared them (`notPrepared`), and the errors
that models, files and modules raise, each with the text it carries. -/
inductive Failure where
  | reflection (message : String)
  | unknownMethod (name : String) (api : Bool)
  | config (problem : ConfigProblem)
  | notPrepared
  | valueError (message : String)
  | encodeError (message : String)
  | overflowError (message : String)
  | osError (message : String)
  | recursionError (message : String)
  | keyError (message : String)
  | indexError (message : String)
  | attributeError (message : String)
  | moduleNotFound (missing : Option String)
  | importFailed (message : String)
  | relativeImport (name : String)
  deriving Repr

namespace Failure

/-- Whether the failure is one of the generator's own, which a generation run records for
the method and goes on. -/
def isOwn : Failure → Bool
  | reflection _ | unknownMethod _ _ | config _ => true
  | _ => false

/-- The message of a failure. -/
def message : Failure → String
  | reflection m => m
  | unknownMethod n api =>
    "Unknown " ++ (if api then "API" else "web") ++ " controller method: '" ++ n ++ "'."
  | config (.invalid _) => "Invalid generator configuration"
  | config (.notFound p) => "Config file not found: " ++ p
  | config (.unparsable p _) => "Cannot parse config file " ++ p
  | config (.notMapping p k) => "Expected a mapping at top level of " ++ p ++ ", got " ++ k ++ "."
  | notPrepared => "before_generate() has not run yet."
  | valueError m => m
  | encodeError m => m
  | overflowError m => m
  | osError m => m
  | recursionError m => m
  | keyError m => m
  | indexError m => m
  | attributeError m => m
  | moduleNotFound n => "No module named '" ++ n.getD "None" ++ "'"
  | importFailed m => m
  | relativeImport n =>
    "the 'package' argument is required to perform a relative import for '" ++ n ++ "'"

/-- The name of the kind of a failure, as generation reports print it. -/
def kindName : Failure → String
  | reflection _ => "ReflectionError"
  | unknownMethod _ _ => "UnknownMethodError"
  | config _ => "ConfigError"
  | notPrepared => "RuntimeError"
  | valueError _ => "ValueError"
  | encodeError _ => "UnicodeEncodeError"
  | overflowError _ => "OverflowError"
  | osError _ => "OSError"
  | recursionError _ => "RecursionError"
  | keyError _ => "KeyError"
  | indexError _ => "IndexError"
  | attributeError _ => "AttributeError"
  | moduleNotFound _ => "ModuleNotFoundError"
  | importFailed _ => "ImportError"
  | relativeImport _ => "TypeError"

end Failure

end CrudScaffold
