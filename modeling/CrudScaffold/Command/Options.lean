import CrudScaffold.Text.Split
import CrudScaffold.Text.Digit

/-!
# Command-line options

The command line takes a model (`-m`, required), an optional parent model (`-p`), the kind
of controller (`--api`), a comma-separated list of methods (`--methods`), a name for a
single generated method (`-n`), a settings file (`-c`), and the output switches
`--summary` and `-v`; `-h` and `--version` answer at once.

The arguments are read in two passes. The first decides what each argument is: a known
option, possibly with its value written into the same argument (`--model=x`, `-mx`), an
abbreviation of exactly one long option (`--mod`), an unknown option, or a plain value. A
text that starts with `-` but looks like a negative number, or holds a space, is a plain
value; an abbreviation of two long options is a usage error at once. The second pass takes
the options from left to right. Single-letter switches may be combined (`-vv`, `-vm x`). An
option that needs a value takes the value written into it, or else the next argument if
that is a plain value. A value written into an option is dropped when it is `--`, the mark
that ends the options, and leaves the option an empty list of values. `-h` and `--version`
answer as soon as they are taken; after the last argument, a missing model or any argument
that no option took is a usage error.
-/

namespace CrudScaffold.Command

/-- What an option does. -/
inductive Switch where
  | help
  | version
  | model
  | parent
  | api
  | methods
  | methodName
  | config
  | summary
  | verbose
  deriving DecidableEq, Repr

/-- Whether an option takes a value. -/
def Switch.takesValue : Switch → Bool
  | .model | .parent | .methods | .methodName | .config => true
  | _ => false

/-- The spellings of the options, in the order in which abbreviations are matched. -/
def spellings : List (String × Switch) :=
  [("-h", .help), ("--help", .help), ("--version", .version), ("-m", .model),
    ("--model", .model), ("-p", .parent), ("--parent", .parent), ("--api", .api),
    ("--methods", .methods), ("-n", .methodName), ("--method-name", .methodName),
    ("-c", .config), ("--config", .config), ("--summary", .summary), ("-v", .verbose),
    ("--verbose", .verbose)]

/-- The value an option was given: a text, or an empty list of values when the value written
into it was the `--` that ends the options. -/
inductive OptionValue where
  | text (s : String)
  | emptyList
  deriving DecidableEq, Repr

/-- The text of an option's value, when it is a text. -/
def OptionValue.text? : OptionValue → Option String
  | .text s => some s
  | .emptyList => none

/-- The value of an option given the text `v`: `--` is dropped. -/
def OptionValue.ofText (v : String) : OptionValue := if v == "--" then .emptyList else .text v

/-- The options of a run. Options not given keep these defaults; a repeated option keeps its
last value, and `-v` counts. -/
structure Options where
  model : Option OptionValue := none
  parent : Option OptionValue := none
  api : Bool := false
  methods : Option OptionValue := none
  methodName : Option OptionValue := none
  config : Option OptionValue := none
  summary : Bool := false
  verbosity : Nat := 0
  deriving Repr

/-- What a command line asks for: a run, the help text, the version, or nothing it can
read. -/
inductive Request where
  | run (o : Options)
  | help
  | version
  | usageError
  deriving Repr

/-- What one argument is. -/
inductive Word where
  | value
  | separator
  | option (s : Switch) (spelling : String) (attached : Option String)
  | unknown
  deriving Repr

/-- Whether a character is a decimal digit of any script. -/
def isDecimalDigit (c : Char) : Bool := (Text.decimalValue? c).isSome

/-- Whether a text reads as a negative number: `-` and digits, or `-`, optional digits, a
point and digits, the digits of any script; one final line feed is allowed. -/
def isNegativeNumber (arg : String) : Bool :=
  let number (cs : List Char) : Bool :=
    match cs with
    | '-' :: rest =>
      (!rest.isEmpty && rest.all isDecimalDigit) ||
        (match (rest.dropWhile isDecimalDigit) with
          | '.' :: frac => !frac.isEmpty && frac.all isDecimalDigit
          | _ => false)
    | _ => false
  let cs := arg.toList
  number cs || (cs.getLast? == some '\n' && number cs.dropLast)

/-- The options an argument may abbreviate. A long argument (`--x`) is cut at its first
`=` and matches every long option that starts with it; a short argument matches the
option of its first two characters, with the rest as the attached value. -/
def abbreviations (arg : String) : List Word :=
  if arg.startsWith "--" then
    let (pre, attached) :=
      if arg.contains '=' then
        let (p, v) := Text.splitFirst '=' arg
        (p, some v)
      else (arg, none)
    spellings.filterMap fun (sp, s) =>
      if sp.startsWith pre then some (.option s sp attached) else none
  else
    let short := String.ofList (arg.toList.take 2)
    let rest := String.ofList (arg.toList.drop 2)
    spellings.filterMap fun (sp, s) =>
      if sp == short then some (.option s sp (some rest))
      else if sp.startsWith arg then some (.option s sp none) else none

/-- What an argument is, or none when it abbreviates more than one option. -/
def classify (arg : String) : Option Word :=
  if arg.isEmpty || !arg.startsWith "-" then some .value
  else match spellings.lookup arg with
  | some s => some (.option s arg none)
  | none =>
    if arg.length == 1 then some .value
    else
      let split :=
        if arg.contains '=' then
          let (p, v) := Text.splitFirst '=' arg
          (spellings.lookup p).map fun s => Word.option s p (some v)
        else none
      match split with
      | some w => some w
      | none =>
        match abbreviations arg with
        | [w] => some w
        | [] => if isNegativeNumber arg || arg.contains ' ' then some .value else some .unknown
        | _ => none

/-- What every argument is; after `--` all are plain values. -/
def classifyAll : List String → Option (List Word)
  | [] => some []
  | "--" :: rest => some (.separator :: rest.map fun _ => .value)
  | arg :: rest => do
    let w ← classify arg
    let ws ← classifyAll rest
    pure (w :: ws)

/-- Unfolds an option with an attached value into the options it stands for: a switch
that takes no value passes the rest of a short argument on as further single-letter
options. Each option comes with its attached value, and the last may still need the next
argument. -/
def unfold : Nat → Switch → String → Option String → List (Switch × Option String) →
    Option (List (Switch × Option String))
  | 0, _, _, _, _ => none
  | fuel + 1, s, spelling, attached, acc =>
    match attached with
    | none => some (acc ++ [(s, none)])
    | some v =>
      if s.takesValue then some (acc ++ [(s, some v)])
      else if spelling.toList[1]? != some '-' && !v.isEmpty then
        let next := "-" ++ String.ofList (v.toList.take 1)
        let rest := String.ofList (v.toList.drop 1)
        match spellings.lookup next with
        | some s' => unfold fuel s' next (if rest.isEmpty then none else some rest) (acc ++ [(s, none)])
        | none => none
      else none

/-- Applies one option with its value. -/
def Options.set (o : Options) : Switch → OptionValue → Options
  | .model, v => { o with model := some v }
  | .parent, v => { o with parent := some v }
  | .methods, v => { o with methods := some v }
  | .methodName, v => { o with methodName := some v }
  | .config, v => { o with config := some v }
  | .api, _ => { o with api := true }
  | .summary, _ => { o with summary := true }
  | .verbose, _ => { o with verbosity := o.verbosity + 1 }
  | .help, _ => o
  | .version, _ => o

/-- Takes unfolded options in order; `-h` and `--version` answer at once. -/
def takeAll (o : Options) : List (Switch × OptionValue) → Request
  | [] => .run o
  | (.help, _) :: _ => .help
  | (.version, _) :: _ => .version
  | (s, v) :: rest => takeAll (o.set s v) rest

/-- Reads the arguments from the `i`-th on, given what each is; `stray` tells whether an
argument was left that no option took. -/
def consume (args : Array String) (words : Array Word) : Nat → Nat → Options → Bool → Request
  | 0, _, _, _ => .usageError
  | fuel + 1, i, o, stray =>
    if i ≥ args.size then
      if o.model.isNone || stray then .usageError else .run o
    else match words.getD i .value with
    | .value | .separator | .unknown => consume args words fuel (i + 1) o true
    | .option s spelling attached =>
      match unfold (spelling.length + (attached.map String.length).getD 0 + 1) s spelling attached [] with
      | none => .usageError
      | some steps =>
        let needsNext := match steps.getLast? with
          | some (last, none) => last.takesValue
          | _ => false
        let next := words.getD (i + 1) .separator
        if needsNext && !(i + 1 < args.size && (match next with | .value => true | _ => false)) then
          .usageError
        else
          let nextValue := args.getD (i + 1) ""
          let values := steps.map fun (s, v) =>
            (s, v.elim (.text (if s.takesValue then nextValue else "")) OptionValue.ofText)
          match takeAll o values with
          | .run o' => consume args words fuel (if needsNext then i + 2 else i + 1) o' stray
          | answer => answer

/-- What a command line asks for. -/
def Request.ofArgs (args : List String) : Request :=
  match classifyAll args with
  | none => .usageError
  | some words => consume args.toArray words.toArray (args.length + 1) 0 {} false

end CrudScaffold.Command
